import DashAgent.Proofs.EntryKeys
import DashAgent.Proofs.Overlay.GatePass

/-!
# Routing entries and the switch

The change key of a routing entry begins with the name of an ENI and its entry key with the
identifier of that ENI; what follows is the same in both once the change key is printed back. As
long as no identifier was ever looked up under two names, and no two change keys print back alike,
a pass keeps a routing table equal to what the switch holds.
-/
namespace DashAgent

namespace RoutingTable

open SoleRequests (Mirrors)

variable {α ρ : Type} {K : RoutingKind α ρ}

/-- How change keys and entry keys of a kind are made of an ENI and a rest. -/
structure EniKeys (K : RoutingKind α ρ) where
  /-- The ENI name and the rest of a change key, printed back. -/
  parts? : String → Option (String × String)
  eniId : ρ → Oid .eni
  resolves : ∀ {e asked c r}, K.read e = .ok asked → K.resolve asked c = .ok r →
    ∃ eni rest, parts? e.key = some (eni, rest) ∧ c.eniIds.get? eni = some (eniId r) ∧
      K.entryKey r = (eniId r).text ++ ":" ++ rest

/-- The identifier stands under the name in the context, or in a record whose key has the name. -/
def Names (P : EniKeys K) (c : Context) (t : RoutingTable ρ) (eni : String) (id : Oid .eni) :
    Prop :=
  c.eniIds.get? eni = some id ∨ ∃ key r rest, t.records.get? key = some r ∧
    P.parts? key = some (eni, rest) ∧ P.eniId r = id

/-- The records of a table are those of admitted keys, and their entries are what the switch
holds. -/
structure Tracks (P : EniKeys K) (admitted : String → Prop) (t : RoutingTable ρ) (s : Simulator) :
    Prop where
  keyed : ∀ {key r}, t.records.get? key = some r → admitted key ∧ ∃ eni rest,
    P.parts? key = some (eni, rest) ∧ K.entryKey r = (P.eniId r).text ++ ":" ++ rest
  mirrors : Mirrors t.records.get? (fun r => .entry (K.entryKey r)) (s.objects K.type)

theorem Tracks.congr {P : EniKeys K} {admitted : String → Prop} {t : RoutingTable ρ}
    {s s' : Simulator} (h : Tracks P admitted t s)
    (hobjects : s'.objects K.type = s.objects K.type) : Tracks P admitted t s' :=
  ⟨h.keyed, hobjects ▸ h.mirrors⟩

section Pass

variable {queued : Status → Prop} {hgone : ¬queued .itemNotFound}
  {hthere : ¬queued .itemAlreadyExists}

theorem look_eq (hgone : ¬queued .itemNotFound) (hthere : ¬queued .itemAlreadyExists)
    (t : RoutingTable ρ) :
    (gateRequests K hgone hthere).toSoleRequests.look t = t.records.get? := by
  funext key
  change (t.records.get? key).bind some = _
  exact Option.bind_fun_some _

section Report

variable {changes : List Entry} {c : Context} {t staged answered : RoutingTable ρ}
  {d₀ d : Simulator} {outcomes : List (Entry × StageOutcome (RouteOp ρ))} {key : String} {r : ρ}

/-- An entry that arrives was read from a change and resolved. -/
theorem read_of_arrives
    (h : (gateRequests K hgone hthere).Report changes c t d₀ outcomes staged answered d)
    (harrives : (gateRequests K hgone hthere).Arrives outcomes answered.stager key r) :
    ∃ e ∈ changes, ∃ asked, e.key = key ∧ K.read e = .ok asked ∧ K.resolve asked c = .ok r := by
  obtain ⟨e, op, i, slot, hmem, rfl, -, -, hmade, -⟩ := harrives
  obtain ⟨t', -, hstage⟩ := h.staging.origin hmem
  have hspec := stage_spec K t' e c
  change (stage K t' e c).1 = _ at hstage
  generalize stage K t' e c = result at hspec hstage
  cases hspec with
  | done | invalid | notReady => cases hstage
  | create asked r' _ _ hread hresolve =>
    cases hstage
    have hr : made r' slot = some r := hmade
    unfold made at hr
    split at hr
    · cases hr
      exact ⟨e, h.changes _ hmem, asked, rfl, hread, hresolve⟩
    · cases hr
  | remove =>
    cases hstage
    cases hmade

/-- A record without a DEL among the changes stays. -/
theorem ends_of_spared
    (h : (gateRequests K hgone hthere).Report changes c t d₀ outcomes staged answered d)
    (hget : t.records.get? key = some r) (hspared : ∀ e ∈ changes, e.key = key → e.op = .set) :
    (gateRequests K hgone hthere).ends outcomes answered key = some r := by
  have hnone : BulkTable.stagedFor? outcomes key = none := by
    by_contra hsome
    obtain ⟨op, hop⟩ := Option.ne_none_iff_exists'.1 hsome
    obtain ⟨e, hmem, rfl⟩ := BulkTable.exists_of_stagedFor? hop
    obtain ⟨t', hcells, hstage⟩ := h.staging.origin hmem
    have hrecords : t'.records = t.records := hcells.trans h.cells
    have hspec := stage_spec K t' e c
    change (stage K t' e c).1 = _ at hstage
    generalize stage K t' e c = result at hspec hstage
    cases hspec with
    | done | invalid | notReady => cases hstage
    | create _ _ _ habsent =>
      rw [hrecords, hget] at habsent
      cases habsent
    | remove _ hdel =>
      rw [hspared e (h.changes _ hmem) rfl] at hdel
      cases hdel
  rw [(gateRequests K hgone hthere).ends_unstaged h.told hnone]
  have hlook := congrFun h.look key
  rw [look_eq, look_eq] at hlook
  rw [look_eq, hlook, hget]

end Report

variable {p : Pass (RoutingTable ρ) Context FaultGate}

/-- A pass keeps a record that no change of its queue deletes. -/
theorem spared_reconcile (hgone : ¬queued .itemNotFound) (hthere : ¬queued .itemAlreadyExists)
    (hrests : (gateTable K queued).Rests p.table) (hopen : p.switch.Open)
    (hsound : p.switch.Sound queued)
    (hcreates : ((bulk K).reconcile p).2.switch.creates < 2 ^ 48) {key : String} {r : ρ}
    (hget : p.table.records.get? key = some r)
    (hspared : ∀ e ∈ p.queue.entries, e.key = key → e.op = .set) :
    ((bulk K).reconcile p).2.table.records.get? key = some r := by
  obtain ⟨outcomes, staged, answered, hreport, hend⟩ :=
    (gateRequests K hgone hthere).report_reconcile hrests hopen hsound hcreates
  rw [← look_eq hgone hthere, hend]
  exact ends_of_spared hreport hget hspared

/-- A pass keeps a routing table equal to what the switch holds. The identifiers in its records are
those of before or of the context. -/
theorem tracks_reconcile (P : EniKeys K) {admitted : String → Prop} (hgone : ¬queued .itemNotFound)
    (hthere : ¬queued .itemAlreadyExists) (hrests : (gateTable K queued).Rests p.table)
    (hopen : p.switch.Open) (hsound : p.switch.Sound queued)
    (hcreates : ((bulk K).reconcile p).2.switch.creates < 2 ^ 48)
    (htracks : Tracks P admitted p.table p.switch.switch)
    (hchanges : ∀ e ∈ p.queue.entries, admitted e.key)
    (hkeys : ∀ {key key' parts}, admitted key → admitted key' → P.parts? key = some parts →
      P.parts? key' = some parts → key = key')
    (hsole : ∀ {eni eni' id}, Names P p.env p.table eni id → Names P p.env p.table eni' id →
      eni = eni') :
    Tracks P admitted ((bulk K).reconcile p).2.table ((bulk K).reconcile p).2.switch.switch ∧
      ∀ {c eni id}, Names P c ((bulk K).reconcile p).2.table eni id →
        c.eniIds.get? eni = some id ∨ Names P p.env p.table eni id := by
  obtain ⟨outcomes, staged, answered, hreport, hend⟩ :=
    (gateRequests K hgone hthere).report_reconcile hrests hopen hsound hcreates
  rw [look_eq] at hend
  have hrecord : ∀ {key r}, ((bulk K).reconcile p).2.table.records.get? key = some r →
      admitted key ∧ ∃ eni rest, P.parts? key = some (eni, rest) ∧
        K.entryKey r = (P.eniId r).text ++ ":" ++ rest ∧ Names P p.env p.table eni (P.eniId r) := by
    intro key r hget
    rw [hend] at hget
    obtain hold | harrives := hreport.cases hget
    · rw [look_eq] at hold
      obtain ⟨hadmitted, eni, rest, hparts, hentry⟩ := htracks.keyed hold
      exact ⟨hadmitted, eni, rest, hparts, hentry, .inr ⟨key, r, rest, hold, hparts, rfl⟩⟩
    · obtain ⟨e, he, asked, rfl, hread, hresolve⟩ := read_of_arrives hreport harrives
      obtain ⟨eni, rest, hparts, hid, hentry⟩ := P.resolves hread hresolve
      exact ⟨hchanges e he, eni, rest, hparts, hentry, .inl hid⟩
  have hmirrors := hreport.mirrors (by rw [look_eq]; exact htracks.mirrors) (by
    intro key key' r r' hget hget' hkey
    rw [← hend] at hget hget'
    obtain ⟨hadmitted, eni, rest, hparts, hentry, hnames⟩ := hrecord hget
    obtain ⟨hadmitted', eni', rest', hparts', hentry', hnames'⟩ := hrecord hget'
    have hsame : K.entryKey r = K.entryKey r' := ObjectKey.entry.inj hkey
    rw [hentry, hentry'] at hsame
    obtain ⟨hid, rfl⟩ := Oid.text_append_inj hsame
    rw [← hid] at hnames'
    obtain rfl := hsole hnames hnames'
    exact hkeys hadmitted hadmitted' hparts hparts')
  rw [← hend] at hmirrors
  refine ⟨⟨fun hget => ?_, hmirrors⟩, ?_⟩
  · obtain ⟨hadmitted, eni, rest, hparts, hentry, -⟩ := hrecord hget
    exact ⟨hadmitted, eni, rest, hparts, hentry⟩
  · rintro c eni id (hget | ⟨key, r, rest, hget, hparts, rfl⟩)
    · exact .inl hget
    · obtain ⟨-, eni', rest', hparts', -, hnames⟩ := hrecord hget
      rw [hparts] at hparts'
      obtain ⟨rfl, -⟩ := Prod.mk.inj (Option.some.inj hparts')
      exact .inr hnames

end Pass

end RoutingTable

/-! ## The keys of both kinds -/

theorem eniIds_of_namedEni {c : Context} {name : String} {id : Oid .eni}
    (h : namedEni c name = .ok id) : c.eniIds.get? name = some id := by
  unfold namedEni Context.eniId? at h
  split at h
  · next heq =>
    cases h
    exact heq
  · cases h

namespace RouteTable

/-- The ENI and the prefix of a change key, printed back. -/
def parts? (key : String) : Option (String × String) :=
  (RouteKey.parse key).toOption.map fun k => (k.eni, k.net.text)

theorem parts?_eq_some_iff {key : String} {parts : String × String} :
    parts? key = some parts ↔ ∃ k, RouteKey.parse key = .ok k ∧ (k.eni, k.net.text) = parts := by
  unfold parts?
  cases RouteKey.parse key <;> simp [Except.toOption]

/-- A route that is resolved stands under the identifier of its ENI. -/
theorem resolves {e : Entry} {asked : RouteKey × RouteConfig} {c : Context} {r : RouteRecord}
    (hread : read e = .ok asked) (hresolve : resolve asked.1 asked.2 c = .ok r) :
    ∃ eni rest, parts? e.key = some (eni, rest) ∧ c.eniIds.get? eni = some r.eniId ∧
      r.entryKey = r.eniId.text ++ ":" ++ rest := by
  obtain ⟨key, hkey, hread⟩ := exists_of_bind_ok hread
  obtain ⟨config, -, hread⟩ := exists_of_bind_ok hread
  cases hread
  obtain ⟨eniId, heni, hresolve⟩ := exists_of_bind_ok hresolve
  obtain ⟨vnetId, -, hresolve⟩ := exists_of_bind_ok hresolve
  cases hresolve
  exact ⟨key.eni, key.net.text, parts?_eq_some_iff.2 ⟨key, hkey, rfl⟩, eniIds_of_namedEni heni, rfl⟩

/-- Routes are keyed by an ENI and a prefix. -/
def eniKeys : RoutingTable.EniKeys RouteTable.kind where
  parts? := parts?
  eniId := RouteRecord.eniId
  resolves := resolves

end RouteTable

namespace RuleTable

def parts? (key : String) : Option (String × String) :=
  (RuleKey.parse key).toOption.map fun k =>
    (k.eni, toString k.vni.toNat ++ ":" ++ k.net.text)

theorem parts?_eq_some_iff {key : String} {parts : String × String} :
    parts? key = some parts ↔ ∃ k, RuleKey.parse key = .ok k ∧
      (k.eni, toString k.vni.toNat ++ ":" ++ k.net.text) = parts := by
  unfold parts?
  cases RuleKey.parse key <;> simp [Except.toOption]

/-- A rule that is resolved stands under the identifier of its ENI. -/
theorem resolves {e : Entry} {asked : RuleKey × RuleConfig} {c : Context} {r : RuleRecord}
    (hread : read e = .ok asked) (hresolve : resolve asked.1 asked.2 c = .ok r) :
    ∃ eni rest, parts? e.key = some (eni, rest) ∧ c.eniIds.get? eni = some r.eniId ∧
      r.entryKey = r.eniId.text ++ ":" ++ rest := by
  obtain ⟨key, hkey, hread⟩ := exists_of_bind_ok hread
  obtain ⟨config, -, hread⟩ := exists_of_bind_ok hread
  cases hread
  obtain ⟨eniId, heni, hresolve⟩ := exists_of_bind_ok hresolve
  obtain ⟨vnetId, -, hresolve⟩ := exists_of_bind_ok hresolve
  cases hresolve
  refine ⟨key.eni, _, parts?_eq_some_iff.2 ⟨key, hkey, rfl⟩, eniIds_of_namedEni heni, ?_⟩
  simp only [inboundEntryKey, String.append_assoc]

/-- Rules are keyed by an ENI, a VNI and a prefix. -/
def eniKeys : RoutingTable.EniKeys RuleTable.kind where
  parts? := parts?
  eniId := RuleRecord.eniId
  resolves := resolves

end RuleTable

end DashAgent
