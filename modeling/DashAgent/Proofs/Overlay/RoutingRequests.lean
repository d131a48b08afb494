import DashAgent.Overlay.Route
import DashAgent.Overlay.RouteRule
import DashAgent.Proofs.Overlay.SoleTables

/-!
# What routing requests carry

A create request of a routing entry is made of the fields of one SET. A route into a VNET carries
the identifier of the VNET that is named, and the overlay address where its action needs one, since
routes are checked by their action. Rules are checked by the field `pa_validation` alone: a rule
whose action is given as one that validates, without the field and without a VNET, is staged with
nothing to validate against. Main theorem: `routing_requests_carry`.
-/
namespace DashAgent

/-! ## Fields -/

namespace Entry

theorem required_eq_ok_iff {e : Entry} {name value : String} :
    e.required name = .ok value ↔ e.nonempty? name = some value := by
  unfold required
  split <;> simp [*]

/-- An optional field is absent or empty, or it is read. -/
theorem optional_cases {α : Type} {e : Entry} {name : String} {read? : String → Option α}
    {a? : Option α} (h : e.optional name read? = .ok a?) :
    (e.nonempty? name = none ∧ a? = none) ∨
      ∃ value a, e.nonempty? name = some value ∧ read? value = some a ∧ a? = some a := by
  unfold optional at h
  split at h
  · next hnone =>
    cases h
    exact .inl ⟨hnone, rfl⟩
  · next value hvalue =>
    split at h
    · next a ha =>
      cases h
      exact .inr ⟨value, a, hvalue, ha, rfl⟩
    · cases h

/-- An optional field that every text suits is the text itself. -/
theorem optional_some (e : Entry) (name : String) :
    e.optional name some = .ok (e.nonempty? name) := by
  unfold optional
  split <;> simp [*]

end Entry

/-- The values that a request gives for an attribute, in order. -/
def CreateRequest.values (request : CreateRequest) (name : String) : List AttributeValue :=
  (request.attributes.filter (·.name = name)).map (·.value)

/-- The attribute is absent if the change names no VNET; else it is given once and is the identifier
that the context has for the VNET named. -/
def TellsVnet (c : Context) (e : Entry) (request : CreateRequest) (name : String) : Prop :=
  (e.nonempty? "vnet" = none ∧ request.values name = []) ∨
    ∃ vnet id, e.nonempty? "vnet" = some vnet ∧ c.vnetId? vnet = some id ∧
      request.values name = [.oid id.raw]

theorem namedVnet_cases {c : Context} {vnet : Option String} {vnetId : Option (Oid .vnet)}
    (h : namedVnet c vnet = .ok vnetId) : (vnet = none ∧ vnetId = none) ∨
      ∃ name id, vnet = some name ∧ c.vnetId? name = some id ∧ vnetId = some id := by
  unfold namedVnet at h
  split at h
  · cases h
    exact .inl ⟨rfl, rfl⟩
  · next name =>
    split at h
    · next id hid =>
      cases h
      exact .inr ⟨name, id, rfl, hid, rfl⟩
    · cases h

/-- An attribute that is the identifier of a resolved VNET tells the VNET named. -/
theorem tellsVnet_of_namedVnet {c : Context} {e : Entry} {request : CreateRequest}
    {name : String} {vnetId : Option (Oid .vnet)}
    (h : namedVnet c (e.nonempty? "vnet") = .ok vnetId)
    (hvalues : request.values name = vnetId.toList.map fun id => .oid id.raw) :
    TellsVnet c e request name := by
  rcases namedVnet_cases h with ⟨hnone, rfl⟩ | ⟨vnet, id, hvnet, hid, rfl⟩
  · exact .inl ⟨hnone, hvalues⟩
  · exact .inr ⟨vnet, id, hvnet, hid, hvalues⟩

theorem TellsVnet.values_eq_nil_iff {c : Context} {e : Entry} {request : CreateRequest}
    {name : String} (h : TellsVnet c e request name) :
    request.values name = [] ↔ e.nonempty? "vnet" = none := by
  rcases h with ⟨hnone, hvalues⟩ | ⟨vnet, id, hvnet, -, hvalues⟩ <;> simp [*]

/-! ## Staging a batch -/

namespace RoutingTable

variable {α ρ : Type} {K : RoutingKind α ρ}

/-- Behind the slots of `t`, the slots of `t'` are new, and every create request among them carries
what one of the SETs asks for. -/
def Adds (carries : Entry → CreateRequest → Prop) (es : List Entry) (t t' : RoutingTable ρ) :
    Prop :=
  ∃ slots, t'.stager.slots = t.stager.slots ++ slots ∧
    ∀ request answer, .create request answer ∈ slots →
      ∃ e ∈ es, e.op = .set ∧ carries e request

variable {carries : Entry → CreateRequest → Prop} {c : Context}

theorem Adds.refl (es : List Entry) (t : RoutingTable ρ) : Adds carries es t t :=
  ⟨[], (List.append_nil _).symm, by simp⟩

/-- One change adds at most one create request, made of what it asks for. -/
theorem Adds.stage
    (hcarries : ∀ e asked r, K.read e = .ok asked → K.resolve asked c = .ok r →
      carries e ⟨some (K.entryKey r), K.attributes r⟩)
    {es : List Entry} {e : Entry} {t t' : RoutingTable ρ} (he : e ∈ es)
    (h : Adds carries es t t') : Adds carries es t (stage K t' e c).2 := by
  obtain ⟨slots, hslots, hcreates⟩ := h
  have hstage := stage_spec K t' e c
  generalize RoutingTable.stage K t' e c = result at hstage ⊢
  cases hstage with
  | done | invalid | notReady => exact ⟨slots, hslots, hcreates⟩
  | create asked r hset _ hread hresolve =>
    refine ⟨slots ++ [.create ⟨some (K.entryKey r), K.attributes r⟩ none], ?_, ?_⟩
    · simp [pushed, BulkStager.push, hslots]
    · intro request answer hmem
      rcases List.mem_append.1 hmem with hmem | hmem
      · exact hcreates request answer hmem
      · cases List.mem_singleton.1 hmem
        exact ⟨e, he, hset, hcarries e asked r hread hresolve⟩
  | remove r =>
    refine ⟨slots ++ [.remove (.entry (K.entryKey r)) none], ?_, ?_⟩
    · simp [pushed, BulkStager.push, hslots]
    · intro request answer hmem
      refine hcreates request answer ?_
      simpa using hmem

theorem Adds.stageAll {δ : Type} [Driver δ]
    (hcarries : ∀ e asked r, K.read e = .ok asked → K.resolve asked c = .ok r →
      carries e ⟨some (K.entryKey r), K.attributes r⟩)
    {es rest : List Entry} {t t' : RoutingTable ρ} (hrest : ∀ e ∈ rest, e ∈ es)
    (h : Adds carries es t t') : Adds carries es t ((bulk (δ := δ) K).stageAll c rest t').2 := by
  induction rest generalizing t' with
  | nil => exact h
  | cons e rest ih =>
    obtain ⟨he, hrest⟩ := List.forall_mem_cons.1 hrest
    exact ih hrest (h.stage hcarries he)

end RoutingTable

/-! ## Routes -/

namespace RouteConfig

/-- The attributes that the action needs are given, and nothing is changed. -/
theorem check_eq_ok {config config' : RouteConfig} (h : config.check = .ok config') :
    config' = config ∧ (config.action = .vnet → config.vnet ≠ none) ∧
      (config.action = .vnetDirect → config.vnet ≠ none ∧ config.overlayIp ≠ none) := by
  unfold check at h
  split at h
  · next haction =>
    split at h
    · cases h
    · next hvnet =>
      cases h
      exact ⟨rfl, fun _ hnone => hvnet (by simp [hnone]), by simp [haction]⟩
  · next haction =>
    split at h
    · cases h
    · next hboth =>
      cases h
      refine ⟨rfl, by simp [haction], fun _ => ⟨fun hnone => hboth ?_, fun hnone => hboth ?_⟩⟩ <;>
        simp [hnone]
  · next haction =>
    cases h
    exact ⟨rfl, by simp [haction], by simp [haction]⟩
  · next haction =>
    cases h
    exact ⟨rfl, by simp [haction], by simp [haction]⟩

/-- Every attribute of a route is that of its field. -/
theorem ofEntry_eq_ok {e : Entry} {config : RouteConfig} (h : ofEntry e = .ok config) :
    (∃ text, e.nonempty? "action_type" = some text ∧
        RouteAction.parse? text = some config.action) ∧
      config.vnet = e.nonempty? "vnet" ∧
      e.optional "overlay_ip" IpAddress.parse? = .ok config.overlayIp ∧
      (config.action = .vnet → config.vnet ≠ none) ∧
      (config.action = .vnetDirect → config.vnet ≠ none ∧ config.overlayIp ≠ none) := by
  obtain ⟨text, htext, h⟩ := exists_of_bind_ok h
  obtain ⟨action, haction, h⟩ := exists_of_bind_ok h
  obtain ⟨vnet, hvnet, h⟩ := exists_of_bind_ok h
  obtain ⟨overlayIp, hip, h⟩ := exists_of_bind_ok h
  rw [Entry.optional_some] at hvnet
  cases hvnet
  obtain ⟨rfl, hneeds⟩ := check_eq_ok h
  exact ⟨⟨text, Entry.required_eq_ok_iff.1 htext, orError_eq_ok_iff.1 haction⟩, rfl, hip, hneeds⟩

end RouteConfig

namespace RouteTable

/-- What a create request of a route carries, told by the fields of its SET. -/
structure Carries (c : Context) (e : Entry) (request : CreateRequest) : Prop where
  action : ∃ text action, e.nonempty? "action_type" = some text ∧
    RouteAction.parse? text = some action ∧
    request.values "SAI_OUTBOUND_ROUTING_ENTRY_ATTR_ACTION" = [.str action.attributeText]
  vnet : TellsVnet c e request "SAI_OUTBOUND_ROUTING_ENTRY_ATTR_DST_VNET_ID"
  overlayIp : (e.nonempty? "overlay_ip" = none ∧
      request.values "SAI_OUTBOUND_ROUTING_ENTRY_ATTR_OVERLAY_IP" = []) ∨
    ∃ text ip, e.nonempty? "overlay_ip" = some text ∧ IpAddress.parse? text = some ip ∧
      request.values "SAI_OUTBOUND_ROUTING_ENTRY_ATTR_OVERLAY_IP" = [.ip ip]
  /-- A route into a VNET has one. -/
  routesToVnet :
    .str "SAI_OUTBOUND_ROUTING_ENTRY_ACTION_ROUTE_VNET" ∈
      request.values "SAI_OUTBOUND_ROUTING_ENTRY_ATTR_ACTION" →
    request.values "SAI_OUTBOUND_ROUTING_ENTRY_ATTR_DST_VNET_ID" ≠ []
  /-- A route to an address of a VNET has both. -/
  routesDirect :
    .str "SAI_OUTBOUND_ROUTING_ENTRY_ACTION_ROUTE_VNET_DIRECT" ∈
      request.values "SAI_OUTBOUND_ROUTING_ENTRY_ATTR_ACTION" →
    request.values "SAI_OUTBOUND_ROUTING_ENTRY_ATTR_DST_VNET_ID" ≠ [] ∧
      request.values "SAI_OUTBOUND_ROUTING_ENTRY_ATTR_OVERLAY_IP" ≠ []

theorem values_action (r : RouteRecord) (entry : Option String) :
    CreateRequest.values ⟨entry, attributes r⟩ "SAI_OUTBOUND_ROUTING_ENTRY_ATTR_ACTION" =
      [.str r.config.action.attributeText] := by
  cases hvnet : r.vnetId <;> cases hip : r.config.overlayIp <;>
    simp [CreateRequest.values, attributes, hvnet, hip]

/-- The text of an action tells it. -/
theorem action_of_mem_values {r : RouteRecord} {entry : Option String} {action : RouteAction}
    (h : .str action.attributeText ∈
      CreateRequest.values ⟨entry, attributes r⟩ "SAI_OUTBOUND_ROUTING_ENTRY_ATTR_ACTION") :
    r.config.action = action := by
  rw [values_action, List.mem_singleton] at h
  revert h
  cases r.config.action <;> cases action <;> simp [RouteAction.attributeText]

theorem values_dstVnet (r : RouteRecord) (entry : Option String) :
    CreateRequest.values ⟨entry, attributes r⟩ "SAI_OUTBOUND_ROUTING_ENTRY_ATTR_DST_VNET_ID" =
      r.vnetId.toList.map fun id => .oid id.raw := by
  cases hvnet : r.vnetId <;> cases hip : r.config.overlayIp <;>
    simp [CreateRequest.values, attributes, hvnet, hip]

theorem values_overlayIp (r : RouteRecord) (entry : Option String) :
    CreateRequest.values ⟨entry, attributes r⟩ "SAI_OUTBOUND_ROUTING_ENTRY_ATTR_OVERLAY_IP" =
      r.config.overlayIp.toList.map .ip := by
  cases hvnet : r.vnetId <;> cases hip : r.config.overlayIp <;>
    simp [CreateRequest.values, attributes, hvnet, hip]

/-- A record has the attributes that its change asks for and the VNET that they name. -/
theorem fields_of_resolve {c : Context} {e : Entry} {asked : RouteKey × RouteConfig}
    {r : RouteRecord} (hread : read e = .ok asked)
    (hresolve : resolve asked.1 asked.2 c = .ok r) :
    RouteConfig.ofEntry e = .ok r.config ∧ namedVnet c r.config.vnet = .ok r.vnetId := by
  obtain ⟨key, -, hread⟩ := exists_of_bind_ok hread
  obtain ⟨config, hconfig, hread⟩ := exists_of_bind_ok hread
  cases hread
  obtain ⟨eniId, -, hresolve⟩ := exists_of_bind_ok hresolve
  obtain ⟨vnetId, hvnetId, hresolve⟩ := exists_of_bind_ok hresolve
  cases hresolve
  exact ⟨hconfig, hvnetId⟩

theorem carries {c : Context} {e : Entry} {asked : RouteKey × RouteConfig} {r : RouteRecord}
    (hread : read e = .ok asked) (hresolve : resolve asked.1 asked.2 c = .ok r) :
    Carries c e ⟨some r.entryKey, attributes r⟩ := by
  obtain ⟨hconfig, hvnetId⟩ := fields_of_resolve hread hresolve
  obtain ⟨⟨text, htext, hparse⟩, hvnet, hip, hneedsVnet, hneedsBoth⟩ :=
    RouteConfig.ofEntry_eq_ok hconfig
  rw [hvnet] at hvnetId hneedsVnet hneedsBoth
  have htells := tellsVnet_of_namedVnet hvnetId (values_dstVnet r (some r.entryKey))
  refine ⟨⟨text, _, htext, hparse, values_action r _⟩, htells, ?_, ?_, ?_⟩
  · rw [values_overlayIp]
    rcases Entry.optional_cases hip with ⟨hnone, heq⟩ | ⟨text, ip, hsome, hparse, heq⟩
    · exact .inl ⟨hnone, by rw [heq]; rfl⟩
    · exact .inr ⟨text, ip, hsome, hparse, by rw [heq]; rfl⟩
  · intro hmem
    rw [ne_eq, htells.values_eq_nil_iff]
    exact hneedsVnet (action_of_mem_values hmem)
  · intro hmem
    have hboth := hneedsBoth (action_of_mem_values hmem)
    rw [ne_eq, htells.values_eq_nil_iff, values_overlayIp]
    exact ⟨hboth.1, fun hnil => hboth.2 (by simpa using hnil)⟩

end RouteTable

/-! ## Rules -/

/-- Only one text asks for validation. -/
theorem RuleAction.eq_of_parse?_decapPaValidate {text : String}
    (h : parse? text = some decapPaValidate) : text = "decap_pa_validate" := by
  unfold parse? at h
  split at h
  · cases h
  · split at h
    · assumption
    · cases h

/-- Every attribute of a rule is that of its field, except that the flag stands in for an action
that is not given. -/
theorem RuleConfig.ofEntry_eq_ok {e : Entry} {config : RuleConfig} (h : ofEntry e = .ok config) :
    ∃ flag action?, e.withDefault "pa_validation" false readBoolean = .ok flag ∧
      e.optional "action_type" RuleAction.parse? = .ok action? ∧
      config.action = action?.getD (if flag then .decapPaValidate else .decap) ∧
      config.vnet = e.nonempty? "vnet" ∧ (flag = true → e.nonempty? "vnet" ≠ none) := by
  obtain ⟨flag, hflag, h⟩ := exists_of_bind_ok h
  obtain ⟨action?, haction, h⟩ := exists_of_bind_ok h
  obtain ⟨priorityText, -, h⟩ := exists_of_bind_ok h
  obtain ⟨priority, -, h⟩ := exists_of_bind_ok h
  obtain ⟨vnet, hvnet, h⟩ := exists_of_bind_ok h
  rw [Entry.optional_some] at hvnet
  cases hvnet
  split at h
  · cases h
  · next hsourced =>
    cases h
    refine ⟨flag, action?, hflag, haction, rfl, rfl, ?_⟩
    rintro rfl hnone
    exact hsourced (by simp [hnone])

namespace RuleTable

/-- The change asks for validation by its action only, and names no VNET. -/
def AsksUnsourced (e : Entry) : Prop :=
  e.nonempty? "action_type" = some "decap_pa_validate" ∧ e.nonempty? "vnet" = none ∧
    e.withDefault "pa_validation" false readBoolean = .ok false

/-- What a create request of a rule carries, told by the fields of its SET. -/
structure Carries (c : Context) (e : Entry) (request : CreateRequest) : Prop where
  /-- The action is the one given, else the one that the flag means. -/
  action : ∃ flag action?, e.withDefault "pa_validation" false readBoolean = .ok flag ∧
    e.optional "action_type" RuleAction.parse? = .ok action? ∧
    request.values "SAI_INBOUND_ROUTING_ENTRY_ATTR_ACTION" =
      [.str (action?.getD (if flag then .decapPaValidate else .decap)).attributeText]
  vnet : TellsVnet c e request "SAI_INBOUND_ROUTING_ENTRY_ATTR_SRC_VNET_ID"
  /-- A rule with the flag has a VNET. -/
  flagged : e.withDefault "pa_validation" false readBoolean = .ok true →
    request.values "SAI_INBOUND_ROUTING_ENTRY_ATTR_SRC_VNET_ID" ≠ []
  /-- A rule that validates has a VNET, unless it asks for validation by its action only. -/
  validates :
    .str "SAI_INBOUND_ROUTING_ENTRY_ACTION_VXLAN_DECAP_PA_VALIDATE" ∈
      request.values "SAI_INBOUND_ROUTING_ENTRY_ATTR_ACTION" →
    (request.values "SAI_INBOUND_ROUTING_ENTRY_ATTR_SRC_VNET_ID" = [] ↔ AsksUnsourced e)

theorem values_action (r : RuleRecord) (entry : Option String) :
    CreateRequest.values ⟨entry, attributes r⟩ "SAI_INBOUND_ROUTING_ENTRY_ATTR_ACTION" =
      [.str r.config.action.attributeText] := by
  cases hvnet : r.vnetId <;> simp [CreateRequest.values, attributes, hvnet]

theorem values_srcVnet (r : RuleRecord) (entry : Option String) :
    CreateRequest.values ⟨entry, attributes r⟩ "SAI_INBOUND_ROUTING_ENTRY_ATTR_SRC_VNET_ID" =
      r.vnetId.toList.map fun id => .oid id.raw := by
  cases hvnet : r.vnetId <;> simp [CreateRequest.values, attributes, hvnet]

/-- A record has the attributes that its change asks for and the VNET that they name. -/
theorem fields_of_resolve {c : Context} {e : Entry} {asked : RuleKey × RuleConfig}
    {r : RuleRecord} (hread : read e = .ok asked)
    (hresolve : resolve asked.1 asked.2 c = .ok r) :
    RuleConfig.ofEntry e = .ok r.config ∧ namedVnet c r.config.vnet = .ok r.vnetId := by
  obtain ⟨key, -, hread⟩ := exists_of_bind_ok hread
  obtain ⟨config, hconfig, hread⟩ := exists_of_bind_ok hread
  cases hread
  obtain ⟨eniId, -, hresolve⟩ := exists_of_bind_ok hresolve
  obtain ⟨vnetId, hvnetId, hresolve⟩ := exists_of_bind_ok hresolve
  cases hresolve
  exact ⟨hconfig, hvnetId⟩

theorem carries {c : Context} {e : Entry} {asked : RuleKey × RuleConfig} {r : RuleRecord}
    (hread : read e = .ok asked) (hresolve : resolve asked.1 asked.2 c = .ok r) :
    Carries c e ⟨some r.entryKey, attributes r⟩ := by
  obtain ⟨hconfig, hvnetId⟩ := fields_of_resolve hread hresolve
  obtain ⟨flag, action?, hflag, hoptional, haction, hvnet, hneeds⟩ :=
    RuleConfig.ofEntry_eq_ok hconfig
  rw [hvnet] at hvnetId
  have htells := tellsVnet_of_namedVnet hvnetId (values_srcVnet r (some r.entryKey))
  refine ⟨⟨flag, action?, hflag, hoptional, by rw [values_action, haction]⟩, htells, ?_, ?_⟩
  · intro hasked
    rw [ne_eq, htells.values_eq_nil_iff]
    exact hneeds (Except.ok.inj (hflag.symm.trans hasked))
  · intro hmem
    rw [htells.values_eq_nil_iff]
    refine ⟨fun hnone => ?_, fun h => h.2.1⟩
    -- Without a VNET the flag is off, so that only a given action can ask for validation.
    have hoff : flag = false := by
      rw [← Bool.not_eq_true]
      exact fun hon => hneeds hon hnone
    subst hoff
    rw [values_action, List.mem_singleton, haction] at hmem
    refine ⟨?_, hnone, hflag⟩
    rcases Entry.optional_cases hoptional with ⟨-, rfl⟩ | ⟨text, action, hsome, hparse, rfl⟩
    · simp [RuleAction.attributeText] at hmem
    · cases action with
      | decap => simp [RuleAction.attributeText] at hmem
      | decapPaValidate => rw [hsome, RuleAction.eq_of_parse?_decapPaValidate hparse]

end RuleTable

/-- Whatever the tables, the context and the batch are, the create requests that staging adds carry
what the fields of one SET ask for and its action needs. Rules that ask for validation by their
action only are the exception. -/
theorem routing_requests_carry {δ : Type} [Driver δ] (c : Context) (es : List Entry) :
    (∀ t : RouteTable, RoutingTable.Adds (RouteTable.Carries c) es t
      ((RouteTable.bulk (δ := δ)).stageAll c es t).2) ∧
    ∀ t : RuleTable, RoutingTable.Adds (RuleTable.Carries c) es t
      ((RuleTable.bulk (δ := δ)).stageAll c es t).2 :=
  ⟨fun t => (RoutingTable.Adds.refl es t).stageAll (fun _ _ _ => RouteTable.carries)
      fun _ he => he,
    fun t => (RoutingTable.Adds.refl es t).stageAll (fun _ _ _ => RuleTable.carries)
      fun _ he => he⟩

/-- A rule that asks for validation by its action only. -/
def unsourcedRule : Entry :=
  ⟨"eni0:100:10.0.0.0/8", .set, [("action_type", "decap_pa_validate"), ("priority", "1")]⟩

/-- It is staged to validate packets, without a VNET that they must come from. -/
theorem unsourcedRule_staged : ∃ request,
    ((RuleTable.bulk (δ := Simulator)).stageAll
      ((Context.new (.new 1000 .empty)).addEni "eni0" ⟨7⟩) [unsourcedRule]
      (RuleTable.new 4)).2.stager.slots = [.create request none] ∧
    request.values "SAI_INBOUND_ROUTING_ENTRY_ATTR_ACTION" =
      [.str "SAI_INBOUND_ROUTING_ENTRY_ACTION_VXLAN_DECAP_PA_VALIDATE"] ∧
    request.values "SAI_INBOUND_ROUTING_ENTRY_ATTR_SRC_VNET_ID" = [] :=
  ⟨⟨some "0x0000000000000007:100:10.0.0.0/8",
    [⟨"SAI_INBOUND_ROUTING_ENTRY_ATTR_ACTION",
        .str "SAI_INBOUND_ROUTING_ENTRY_ACTION_VXLAN_DECAP_PA_VALIDATE"⟩,
      ⟨"SAI_INBOUND_ROUTING_ENTRY_ATTR_PRIORITY", .u32 1⟩]⟩,
    by decide +kernel, by decide +kernel, by decide +kernel⟩

end DashAgent
