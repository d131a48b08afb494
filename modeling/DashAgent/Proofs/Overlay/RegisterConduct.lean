import DashAgent.Proofs.Overlay.Configuration
import DashAgent.Proofs.Overlay.Register
import DashAgent.Proofs.Reconcile.Conduct
import DashAgent.Proofs.Switch.Flush

/-!
# Conduct of registers

On a switch that grants everything a register applies every valid change in the pass that takes it:
its objects do not depend on each other, so no change waits for another one. A `Provision` says how
the operations of a register ask the switch for their objects.
-/
namespace DashAgent

open BulkStager

variable {τ κ ν : Type} {ops : BulkTable τ κ Context Simulator}

/-- How a register programs its objects. -/
structure Provision (R : Register ops ν) where
  type : ObjectType
  stager : τ → BulkStager
  config : ν → OverlayConfig
  read? : Entry → Option OverlayConfig
  Valid : Context → Entry → Prop
  kind : κ → RequestKind
  allocates : κ → Bool
  position : κ → Nat
  leaves : κ → Option OverlayConfig
  stage : ∀ {c t e}, Valid c e →
    ops.stage e c t = (.done, t) ∧ (R.objects t).contains e.key = decide (e.op = .set) ∨
    ∃ op t' slot, ops.stage e c t = (.staged op, t') ∧
      (R.objects t).contains e.key = decide (e.op = .del) ∧ R.objects t' = R.objects t ∧
      stager t' = ((stager t).push slot).2 ∧ position op = (stager t).slots.length ∧
      slot.Asks (kind op) (allocates op) ∧ leaves op = if e.op = .set then read? e else none
  flush : ∀ t d, (ops.flush t d).1 = ((stager t).flush d).1 ∧
    stager (ops.flush t d).2.1 = ((stager t).flush d).2.1 ∧
    (ops.flush t d).2.2 = ((stager t).flush d).2.2
  commit : ∀ {c t e op}, (stager t).Grants (kind op) (allocates op) (position op) →
    (ops.commit e op c t).1 = .commit ∧ stager (ops.commit e op c t).2.2 = stager t ∧
      ((R.objects (ops.commit e op c t).2.2).get? e.key).map config = leaves op ∧
      (∀ {key}, e.key ≠ key →
        (R.objects (ops.commit e op c t).2.2).get? key = (R.objects t).get? key) ∧
      ∀ {e'}, Valid c e' → Valid (ops.commit e op c t).2.1 e'
  clear : ∀ t, stager (ops.endPass t) = (stager t).clear

def Provision.conduct {R : Register ops ν} (P : Provision R) : Conduct ops OverlayConfig where
  config? t key := ((R.objects t).get? key).map P.config
  read? := P.read?
  Valid := P.Valid
  types := [P.type]
  Tidy t := (P.stager t).type = P.type ∧ (P.stager t).slots = []
  Staging n t := (P.stager t).type = P.type ∧ (P.stager t).createCount ≤ n
  Committing t := (P.stager t).type = P.type
  Awaits t e op := (P.stager t).Awaits (P.kind op) (P.allocates op) (P.position op) ∧
    P.leaves op = if e.op = .set then P.read? e else none
  Granted t e op := (P.stager t).Grants (P.kind op) (P.allocates op) (P.position op) ∧
    P.leaves op = if e.op = .set then P.read? e else none
  Removing _ := False
  start := by
    intro t h
    refine ⟨⟨h.1, ?_⟩, id⟩
    simp [createCount, selected, h.2]
  stage := by
    intro n c t e h hvalid
    have hsome : (((R.objects t).get? e.key).map P.config).isSome =
        (R.objects t).contains e.key := by
      rw [Option.isSome_map, Table.contains_eq_isSome]
    rw [hsome]
    obtain ⟨hstage, hholds⟩ | ⟨op, t', slot, hstage, hholds, hobjects, hstager, hposition, hasks,
      hleaves⟩ := P.stage hvalid (t := t)
    · exact .inl ⟨hstage, hholds⟩
    · have hcount := createCount_push_le (P.stager t) slot
      refine .inr (.inr ⟨op, t', hstage, hholds, ?_, ⟨?_, ?_⟩, ⟨?_, hleaves⟩, ?_, False.elim⟩)
      · funext key
        rw [hobjects]
      · rw [hstager]
        exact h.1
      · rw [hstager]
        exact Nat.le_trans hcount (Nat.add_le_add_right h.2 1)
      · rw [hstager, hposition]
        exact awaits_push hasks
      · intro e' op' hawaits
        rw [hstager]
        exact ⟨hawaits.1.push slot, hawaits.2⟩
  idle h := h.1
  flush := by
    intro n m t d h hsupplied
    have hroom : d.Supplies (P.stager t).type (m + (P.stager t).createCount) := by
      rw [h.1]
      exact (hsupplied P.type (List.mem_singleton_self _)).mono (Nat.add_le_add_left h.2 m)
    obtain ⟨s', d', hflush, hshape, hrest, hslots, -⟩ := flush_granted hroom
    obtain ⟨hanswer, hstager, hswitch⟩ := P.flush t d
    rw [hflush] at hanswer hstager hswitch
    refine ⟨(ops.flush t d).2.1, d', ?_, ?_, ?_, ?_, ?_⟩
    · exact Prod.ext hanswer (Prod.ext rfl hswitch)
    · funext key
      rw [R.flush_objects]
    · rw [hstager]
      exact hshape.type.trans h.1
    · intro e op hawaits
      rw [hstager]
      exact ⟨grants_of_awaits hawaits.1 hslots, hawaits.2⟩
    · intro type htype
      rw [List.mem_singleton.1 htype, ← h.1]
      exact hrest
  commit := by
    intro c t e op h hgranted
    obtain ⟨hdecision, hstager, hown, hothers, hvalid⟩ := P.commit (c := c) (e := e) hgranted.1
    rw [hstager]
    refine ⟨hdecision, h, hown.trans hgranted.2, ?_, id, hvalid⟩
    intro key hne
    rw [hothers hne]
  finish := by
    intro t h
    refine ⟨⟨?_, ?_⟩, ?_⟩
    · rw [P.clear]
      exact h
    · rw [P.clear]
      rfl
    · funext key
      rw [R.endPass_objects]

/-! ## The registers -/

/-- Every named object takes a slot of its own and an allocated identifier. -/
def NamedTable.provision {kind : OidKind} {α β ρ : Type} {K : NamedKind kind α β ρ}
    (hoverlay : K.resource ∈ Resource.overlay) (config : ρ → OverlayConfig)
    (configOf : β → OverlayConfig)
    (hrecord : ∀ id asked, config (K.record id asked) = configOf asked)
    (read? : Entry → Option OverlayConfig) (Valid : Context → Entry → Prop)
    (hread : ∀ {c e}, Valid c e → e.op = .set → ∃ asked asked', K.read e = .ok asked ∧
      K.resolve asked c = .ok asked' ∧ read? e = some (configOf asked'))
    (henter : ∀ {c e name id r}, Valid c e → Valid ((K.enter name id c).count r) e)
    (hleave : ∀ {c e name r}, Valid c e → Valid ((K.leave name c).uncount r) e) :
    Provision (NamedTable.register (δ := Simulator) K hoverlay) where
  type := K.type
  stager t := t.stager
  config := config
  read? := read?
  Valid := Valid
  kind
    | .create .. => .create
    | .remove _ => .remove
  allocates
    | .create .. => true
    | .remove _ => false
  position
    | .create position _ | .remove position => position
  leaves
    | .create _ asked => some (configOf asked)
    | .remove _ => none
  stage := by
    intro c t e hvalid
    simp only [register, bulk, NamedTable.stage]
    cases hop : e.op with
    | set =>
      obtain ⟨asked, asked', hasked, hresolve, hconfig⟩ := hread hvalid hop
      by_cases hpresent : t.records.contains e.key = true
      · left
        simp [hpresent]
      · right
        simp only [hpresent, Bool.false_eq_true, if_false, hasked, hresolve]
        exact ⟨_, _, _, rfl, by simp, rfl, rfl, rfl, ⟨rfl, fun _ => rfl⟩, by simp [hconfig]⟩
    | del =>
      cases hget : t.records.get? e.key with
      | none =>
        left
        simp [Table.contains_eq_isSome, hget]
      | some r =>
        right
        refine ⟨_, _, _, rfl, ?_, rfl, rfl, rfl, ⟨rfl, rfl⟩, by simp⟩
        simp [Table.contains_eq_isSome, hget]
  flush _ _ := ⟨rfl, rfl, rfl⟩
  commit := by
    intro c t e op hgranted
    simp only [register, bulk]
    cases op with
    | create position asked =>
      obtain ⟨hstatus, hallocated⟩ := hgranted
      obtain ⟨id, hid, hne⟩ := hallocated rfl
      rw [commit_created K hstatus (bind_ofRaw hid hne)]
      exact ⟨rfl, rfl, by simp [hrecord], Table.get?_insert_of_ne _, henter⟩
    | remove position =>
      rw [commit_removed K hgranted.1]
      exact ⟨rfl, rfl, by simp, Table.get?_erase_of_ne, hleave⟩
  clear _ := rfl

/-- A VNET needs no parents. -/
def VnetTable.Valid (e : Entry) : Prop :=
  e.op = .set → ∃ config, VnetConfig.ofEntry e = .ok config

def VnetTable.read? (e : Entry) : Option OverlayConfig :=
  (VnetConfig.ofEntry e).toOption.map .vnet

theorem VnetTable.read_of_valid {c : Context} {e : Entry} (h : VnetTable.Valid e)
    (hop : e.op = .set) : ∃ config asked, VnetTable.kind.read e = .ok config ∧
      VnetTable.kind.resolve config c = .ok asked ∧ VnetTable.read? e = some (.vnet asked) := by
  obtain ⟨config, hconfig⟩ := h hop
  refine ⟨config, config, hconfig, rfl, ?_⟩
  simp [VnetTable.read?, hconfig, Except.toOption]

def VnetTable.provision : Provision VnetTable.register :=
  NamedTable.provision _ (fun vnet => .vnet vnet.config) .vnet (fun _ _ => rfl) VnetTable.read?
    (fun _ => VnetTable.Valid) VnetTable.read_of_valid (fun h => h) fun h => h

def EniTable.Valid (c : Context) (e : Entry) : Prop :=
  e.op = .set → ∃ config vnetId, EniConfig.ofEntry e = .ok config ∧
    c.vnetId? config.vnet = some vnetId

def EniTable.read? (e : Entry) : Option OverlayConfig :=
  (EniConfig.ofEntry e).toOption.map .eni

theorem EniTable.read_of_valid {c : Context} {e : Entry} (h : EniTable.Valid c e)
    (hop : e.op = .set) : ∃ config asked, EniTable.kind.read e = .ok config ∧
      EniTable.kind.resolve config c = .ok asked ∧ EniTable.read? e = some (.eni asked.2) := by
  obtain ⟨config, vnetId, hconfig, hvnet⟩ := h hop
  refine ⟨config, (vnetId, config), hconfig, ?_, ?_⟩
  · simp only [kind, resolve, hvnet]
  · simp [EniTable.read?, hconfig, Except.toOption]

def EniTable.provision : Provision EniTable.register :=
  NamedTable.provision _ (fun eni => .eni eni.config) (fun asked => .eni asked.2) (fun _ _ => rfl)
    EniTable.read? EniTable.Valid EniTable.read_of_valid (fun h => h) fun h => h

/-- Every routing entry takes a slot of its own; its key on the switch is not allocated. -/
def RoutingTable.provision {α ρ : Type} {K : RoutingKind α ρ}
    (hoverlay : ∀ r, K.resource r ∈ Resource.overlay) (config : ρ → OverlayConfig)
    (read? : Entry → Option OverlayConfig) (Valid : Context → Entry → Prop)
    (hread : ∀ {c e}, Valid c e → e.op = .set → ∃ asked r, K.read e = .ok asked ∧
      K.resolve asked c = .ok r ∧ read? e = some (config r))
    (hcount : ∀ {c e r}, Valid c e → Valid (c.count r) e)
    (huncount : ∀ {c e r}, Valid c e → Valid (c.uncount r) e) :
    Provision (RoutingTable.register (δ := Simulator) K hoverlay) where
  type := K.type
  stager t := t.stager
  config := config
  read? := read?
  Valid := Valid
  kind
    | .create .. => .create
    | .remove _ => .remove
  allocates _ := false
  position
    | .create position _ | .remove position => position
  leaves
    | .create _ r => some (config r)
    | .remove _ => none
  stage := by
    intro c t e hvalid
    simp only [register, bulk, RoutingTable.stage, stageSet]
    cases hop : e.op with
    | set =>
      obtain ⟨asked, r, hasked, hresolve, hconfig⟩ := hread hvalid hop
      by_cases hpresent : t.records.contains e.key = true
      · left
        simp [hpresent]
      · right
        simp only [hpresent, Bool.false_eq_true, if_false, hasked, hresolve]
        exact ⟨_, _, _, rfl, by simp, rfl, rfl, rfl, ⟨rfl, by simp⟩, by simp [hconfig]⟩
    | del =>
      cases hget : t.records.get? e.key with
      | none =>
        left
        simp [Table.contains_eq_isSome, hget]
      | some r =>
        right
        refine ⟨_, _, _, rfl, ?_, rfl, rfl, rfl, ⟨rfl, rfl⟩, by simp⟩
        simp [Table.contains_eq_isSome, hget]
  flush _ _ := ⟨rfl, rfl, rfl⟩
  commit := by
    intro c t e op hgranted
    simp only [register, bulk]
    cases op with
    | create position r =>
      rw [commit_created K hgranted.1]
      exact ⟨rfl, rfl, by simp, Table.get?_insert_of_ne _, hcount⟩
    | remove position =>
      cases hget : t.records.get? e.key with
      | none =>
        rw [commit_absent K hgranted.1 hget]
        exact ⟨rfl, rfl, by simp [hget], fun _ => rfl, fun h => h⟩
      | some r =>
        rw [commit_removed K hgranted.1 hget]
        exact ⟨rfl, rfl, by simp, Table.get?_erase_of_ne, huncount⟩
  clear _ := rfl

/-- The ENI of a route, and the VNET where one is named, are programmed. -/
def RouteTable.Valid (c : Context) (e : Entry) : Prop :=
  e.op = .set → ∃ key config r, RouteKey.parse e.key = .ok key ∧
    RouteConfig.ofEntry e = .ok config ∧ RouteTable.resolve key config c = .ok r

def RouteTable.read? (e : Entry) : Option OverlayConfig :=
  (RouteConfig.ofEntry e).toOption.map .route

theorem RouteTable.config_of_resolve {key : RouteKey} {config : RouteConfig} {c : Context}
    {r : RouteRecord} (h : RouteTable.resolve key config c = .ok r) : r.config = config := by
  unfold RouteTable.resolve at h
  obtain ⟨eniId, -, h⟩ := exists_of_bind_ok h
  obtain ⟨vnetId, -, h⟩ := exists_of_bind_ok h
  cases h
  rfl

/-- A valid SET of a route is read and resolved to its configuration. -/
theorem RouteTable.read_of_valid {c : Context} {e : Entry} (h : RouteTable.Valid c e)
    (hop : e.op = .set) : ∃ asked r, RouteTable.kind.read e = .ok asked ∧
      RouteTable.kind.resolve asked c = .ok r ∧ RouteTable.read? e = some (.route r.config) := by
  obtain ⟨key, config, r, hkey, hconfig, hresolve⟩ := h hop
  refine ⟨(key, config), r, ?_, hresolve, ?_⟩
  · simp only [kind, read, hkey, hconfig, bind, Except.bind]
  · simp [RouteTable.read?, hconfig, Except.toOption, config_of_resolve hresolve]

def RouteTable.provision : Provision RouteTable.register :=
  RoutingTable.provision _ (fun r => .route r.config) RouteTable.read? RouteTable.Valid
    RouteTable.read_of_valid (fun h => h) fun h => h

/-- The ENI of a rule, and the VNET where one is named, are programmed. -/
def RuleTable.Valid (c : Context) (e : Entry) : Prop :=
  e.op = .set → ∃ key config r, RuleKey.parse e.key = .ok key ∧
    RuleConfig.ofEntry e = .ok config ∧ RuleTable.resolve key config c = .ok r

def RuleTable.read? (e : Entry) : Option OverlayConfig :=
  (RuleConfig.ofEntry e).toOption.map .rule

theorem RuleTable.config_of_resolve {key : RuleKey} {config : RuleConfig} {c : Context}
    {r : RuleRecord} (h : RuleTable.resolve key config c = .ok r) : r.config = config := by
  unfold RuleTable.resolve at h
  obtain ⟨eniId, -, h⟩ := exists_of_bind_ok h
  obtain ⟨vnetId, -, h⟩ := exists_of_bind_ok h
  cases h
  rfl

/-- A valid SET of a rule is read and resolved to its configuration. -/
theorem RuleTable.read_of_valid {c : Context} {e : Entry} (h : RuleTable.Valid c e)
    (hop : e.op = .set) : ∃ asked r, RuleTable.kind.read e = .ok asked ∧
      RuleTable.kind.resolve asked c = .ok r ∧ RuleTable.read? e = some (.rule r.config) := by
  obtain ⟨key, config, r, hkey, hconfig, hresolve⟩ := h hop
  refine ⟨(key, config), r, ?_, hresolve, ?_⟩
  · simp only [kind, read, hkey, hconfig, bind, Except.bind]
  · simp [RuleTable.read?, hconfig, Except.toOption, config_of_resolve hresolve]

def RuleTable.provision : Provision RuleTable.register :=
  RoutingTable.provision _ (fun r => .rule r.config) RuleTable.read? RuleTable.Valid
    RuleTable.read_of_valid (fun h => h) fun h => h

end DashAgent
