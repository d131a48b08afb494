import DashAgent.Proofs.Overlay.PaReferences
import DashAgent.Proofs.Overlay.Scratch

/-!
# What is not applied leaves no trace

A change that is not staged leaves its table as it found it, in the middle of a pass as well, and
the pass goes without it as it goes with it. A commit that does not commit changes nothing. A
mapping is committed by halves: each of its flags moves with the answer to its own request, and the
PA validation entries and the counts move with the flags. Main theorem: `unapplied_leave_no_trace`.
-/
namespace DashAgent

open BulkTable

section Table

variable {τ κ ε δ : Type}

/-- What is not staged leaves no trace: neither in the table nor, taken out of its batch, in what
the pass does with the other changes. -/
structure BulkTable.Traceless (ops : BulkTable τ κ ε δ) : Prop where
  unstaged : ∀ e c t, (ops.stage e c t).1.isStaged = false → (ops.stage e c t).2 = t
  /-- A pass that records its deeds is the pass itself. -/
  recorded : ∀ p : Pass τ ε δ, ops.traced.reconcile ⟨p.queue, (p.table, []), p.env, p.switch⟩ =
    ((ops.reconcile p).1, ⟨(ops.reconcile p).2.queue, ((ops.reconcile p).2.table, ops.deeds p),
      (ops.reconcile p).2.env, (ops.reconcile p).2.switch⟩)
  trimmed : ∀ (p : Pass τ ε δ) (q : ChangeQueue),
    q.entries.take q.batchSize =
      stagedEntries (ops.stageAll p.env (p.queue.entries.take p.queue.batchSize) p.table).1 →
    ops.Trimmed p q

/-- A change is applied as a whole or not at all. -/
def BulkTable.AllOrNothing (ops : BulkTable τ κ ε δ) : Prop :=
  ∀ e op c t, (ops.commit e op c t).1 ≠ .commit → (ops.commit e op c t).2 = (c, t)

theorem Scratch.traceless {ops : BulkTable τ κ ε δ} (h : Scratch ops) : ops.Traceless :=
  ⟨fun _ _ _ => h.unstaged, ops.reconcile_traced, fun _ _ => h.trimmed⟩

end Table

variable {δ : Type} [Driver δ]

theorem NamedTable.allOrNothing {kind : OidKind} {α β ρ : Type} (K : NamedKind kind α β ρ) :
    (bulk (δ := δ) K).AllOrNothing := by
  intro e op c t h
  have hcommit := commit_spec K t e op c
  simp only [bulk] at h ⊢
  generalize commit K t e op c = result at hcommit h ⊢
  cases hcommit with
  | kept | stays => rfl
  | created | removed => exact absurd rfl h

theorem RoutingTable.allOrNothing {α ρ : Type} (K : RoutingKind α ρ) :
    (bulk (δ := δ) K).AllOrNothing := by
  intro e op c t h
  have hcommit := commit_spec K t e op c
  simp only [bulk] at h ⊢
  generalize commit K t e op c = result at hcommit h ⊢
  cases hcommit with
  | kept | stays | absent => rfl
  | created | removed => exact absurd rfl h

namespace MappingTable

/-! ## Mappings -/

def hasCaToPa (t : MappingTable) (key : String) : Bool :=
  (t.mappings.get? key).any MappingRecord.caToPa

def hasPa (t : MappingTable) (key : String) : Bool :=
  (t.mappings.get? key).any MappingRecord.paValidation

/-- What one commit moves: each flag of the mapping by the answer to its own request, the PA
validation entry of the mapping and the counts with the flags, and nothing else. -/
structure MovesByHalves (key : String) (op : MappingOp) (c : Context) (t : MappingTable)
    (c' : Context) (t' : MappingTable) : Prop where
  caToPa : ∀ {position}, op.caToPa = some position →
    (t'.hasCaToPa key ≠ t.hasCaToPa key ↔
      Decision.ofStatus op.kind (t.caToPaStager.outcome position) = .commit)
  caToPa_unasked : op.caToPa = none → t'.hasCaToPa key = t.hasCaToPa key
  pa : ∀ {action position}, op.pa = some (action, position) →
    (t'.hasPa key ≠ t.hasPa key ↔
      Decision.ofStatus op.kind (t.paStager.outcome position) = .commit)
  pa_unasked : op.pa = none → t'.hasPa key = t.hasPa key
  mappings : ∀ {l}, l ≠ key → t'.mappings.get? l = t.mappings.get? l
  references : t'.hasPa key = t.hasPa key → t'.paEntries = t.paEntries
  otherReferences : ∀ {pa}, pa ≠ paOf key op → t'.paEntries.get? pa = t.paEntries.get? pa
  counts : ∃ c₁, (t'.hasCaToPa key = t.hasCaToPa key → c₁ = c) ∧
    (t'.hasCaToPa key ≠ t.hasCaToPa key → c₁ = caCount op.kind op.mapping c) ∧
    (t'.hasPa key = t.hasPa key → c' = c₁) ∧
    (t'.hasPa key ≠ t.hasPa key → c' = c₁ ∨
      c' = c₁.count (.paValidation op.mapping.config.underlayIp.family) ∨
      c' = c₁.uncount (.paValidation op.mapping.config.underlayIp.family))
  requests : t'.caToPaStager = t.caToPaStager ∧ t'.paStager = t.paStager ∧ t'.pass = t.pass

/-- A flag that empty mappings do not have is read off the mapping that is held for a key. -/
theorem Stored.any_get? {ms : Table String MappingRecord} {key : String} {m : MappingRecord}
    (h : Stored ms key m) {flag : MappingRecord → Bool}
    (hflag : m.isEmpty = true → flag m = false) : (ms.get? key).any flag = flag m := by
  obtain hsome | ⟨hnone, hempty⟩ := h
  · rw [hsome, Option.any_some]
  · rw [hnone, Option.any_none, hflag hempty]

/-- What a key is given is held for it. -/
theorem stored_self (ms : Table String MappingRecord) (key : String) (m : MappingRecord) :
    Stored (stored ms key m) key m := by
  unfold stored
  cases hempty : m.isEmpty with
  | true => exact .inr ⟨Table.get?_erase_self ms key, hempty⟩
  | false => exact .inl (Table.get?_insert_self ms key m)

theorem flags_of_isEmpty {m : MappingRecord} (h : m.isEmpty = true) :
    m.caToPa = false ∧ m.paValidation = false := by
  rw [MappingRecord.isEmpty, Bool.and_eq_true, Bool.not_eq_true', Bool.not_eq_true'] at h
  exact h

theorem Stored.flags {t : MappingTable} {key : String} {m : MappingRecord}
    (h : Stored t.mappings key m) :
    t.hasCaToPa key = m.caToPa ∧ t.hasPa key = m.paValidation :=
  ⟨h.any_get? fun hempty => (flags_of_isEmpty hempty).1,
    h.any_get? fun hempty => (flags_of_isEmpty hempty).2⟩

/-- The settled CA-to-PA flag has flipped just if the request was accepted. -/
theorem caToPa_settled {t : MappingTable} {ms : Table String MappingRecord} {key : String}
    {op : MappingOp} (h : Agrees ms key op) :
    (t.settled op).caToPa ≠ op.mapping.caToPa ↔ t.caAccepted op = true := by
  cases haccepted : t.caAccepted op with
  | false => simp [settled, haccepted]
  | true =>
    obtain ⟨position, hposition, -⟩ := (Option.any_eq_true _ _).1 haccepted
    have hflag := h.caToPa hposition
    cases hkind : op.kind <;> simp [settled, haccepted, hflag, hkind]

/-- The settled PA validation flag has flipped just if the request was accepted. -/
theorem paValidation_settled {t : MappingTable} {ms : Table String MappingRecord} {key : String}
    {op : MappingOp} (h : Agrees ms key op) :
    (t.settled op).paValidation ≠ op.mapping.paValidation ↔
      (t.paAccepted? op).isSome = true := by
  cases haccepted : t.paAccepted? op with
  | none => simp [settled, haccepted]
  | some action =>
    obtain ⟨staged, hstaged, rfl⟩ := Option.map_eq_some_iff.1 haccepted
    obtain ⟨hflag, hkind⟩ := h.pa (Option.filter_eq_some_iff.1 hstaged).1
    obtain ⟨action, position⟩ := staged
    rw [← hkind] at hflag
    cases action <;> simp [settled, haccepted, hflag, PaAction.kind]

/-- The request of the PA validation half was accepted just if its own answer commits. -/
theorem paAccepted?_isSome {t : MappingTable} {op : MappingOp} {action : PaAction} {position : Nat}
    (h : op.pa = some (action, position)) :
    (t.paAccepted? op).isSome = true ↔
      Decision.ofStatus action.kind (t.paStager.outcome position) = .commit := by
  by_cases hcommit : Decision.ofStatus action.kind (t.paStager.outcome position) = .commit <;>
    simp [paAccepted?, h, hcommit]

/-- An accepted action counts one shared entry at most. -/
theorem paCount_cases (es : Table String PaRecord) (pa : String) (m : MappingRecord) (c : Context)
    (action : PaAction) :
    paCount es pa m c action = c ∨
      paCount es pa m c action = c.count (.paValidation m.config.underlayIp.family) ∨
      paCount es pa m c action = c.uncount (.paValidation m.config.underlayIp.family) := by
  cases action with
  | acquire =>
    rw [paCount]
    split
    · exact .inl rfl
    · exact .inr (.inl rfl)
  | release => exact .inl rfl
  | remove =>
    rw [paCount]
    split
    · exact .inr (.inr rfl)
    · exact .inl rfl

/-- A staged change is committed by halves, whenever its mapping is as it was staged for. -/
theorem movesByHalves {t₀ t : MappingTable} {e : Entry} {op : MappingOp} {c₀ c : Context}
    (hop : (t₀.stage e c₀).1 = .staged op)
    (hsame : t.mappings.get? e.key = t₀.mappings.get? e.key) :
    MovesByHalves e.key op c t (t.commit e op c).2.1 (t.commit e op c).2.2 := by
  have hagrees := agrees_of_staged hop
  have hbefore : Stored t.mappings e.key op.mapping := by
    rw [Stored, hsame]
    exact hagrees.stored
  have hafter : Stored (t.commit e op c).2.2.mappings e.key (t.settled op) := by
    rw [commit_eq]
    exact stored_self ..
  have hca : (t.commit e op c).2.2.hasCaToPa e.key ≠ t.hasCaToPa e.key ↔
      t.caAccepted op = true := by
    rw [hafter.flags.1, hbefore.flags.1]
    exact caToPa_settled hagrees
  have hpa : (t.commit e op c).2.2.hasPa e.key ≠ t.hasPa e.key ↔
      (t.paAccepted? op).isSome = true := by
    rw [hafter.flags.2, hbefore.flags.2]
    exact paValidation_settled hagrees
  have hcaSame := not_ne_iff.symm.trans (not_congr hca)
  have hpaSame := not_ne_iff.symm.trans (not_congr hpa)
  constructor
  case caToPa =>
    intro position hposition
    rw [hca, caAccepted, hposition, Option.any_some, decide_eq_true_iff]
  case caToPa_unasked =>
    intro hnone
    rw [hcaSame, caAccepted, hnone]
    exact Bool.false_ne_true
  case pa =>
    intro action position hposition
    rw [hpa, paAccepted?_isSome hposition, (hagrees.pa hposition).2]
  case pa_unasked =>
    intro hnone
    rw [hpaSame, paAccepted?, hnone]
    exact Bool.false_ne_true
  case mappings =>
    intro l hl
    rw [commit_eq]
    exact get?_stored_of_ne hl.symm
  case references =>
    intro hsame
    rw [hpaSame, Bool.not_eq_true, Option.isSome_eq_false_iff, Option.isNone_iff_eq_none] at hsame
    simp only [commit_eq, hsame, Option.elim_none]
  case otherReferences =>
    intro pa hne
    rw [commit_eq]
    cases t.paAccepted? op with
    | none => rfl
    | some action => exact get?_paStep_of_ne hne.symm action
  case counts =>
    rw [hcaSame, hca, hpaSame, hpa, commit_eq]
    refine ⟨t.caCounted op c, fun hrefused => if_neg hrefused, fun haccepted => if_pos haccepted,
      ?_⟩
    cases t.paAccepted? op with
    | none => exact ⟨fun _ => rfl, fun hsome => absurd hsome Bool.false_ne_true⟩
    | some action => exact ⟨fun hnone => absurd rfl hnone, fun _ => paCount_cases ..⟩
  case requests =>
    rw [commit_eq]
    exact ⟨rfl, rfl, rfl⟩

end MappingTable

/-! ## The main theorem -/

/-- Changes that are not staged leave no trace in any of the tables or their passes. VNETs, ENIs,
routes and rules are committed as a whole or not at all, and mappings by halves. -/
theorem unapplied_leave_no_trace :
    ((VnetTable.bulk (δ := δ)).Traceless ∧ (VnetTable.bulk (δ := δ)).AllOrNothing) ∧
    ((EniTable.bulk (δ := δ)).Traceless ∧ (EniTable.bulk (δ := δ)).AllOrNothing) ∧
    ((RouteTable.bulk (δ := δ)).Traceless ∧ (RouteTable.bulk (δ := δ)).AllOrNothing) ∧
    ((RuleTable.bulk (δ := δ)).Traceless ∧ (RuleTable.bulk (δ := δ)).AllOrNothing) ∧
    (MappingTable.bulk (δ := δ)).Traceless ∧
      ∀ {t₀ t : MappingTable} {e : Entry} {op : MappingOp} {c₀ c : Context},
        (t₀.stage e c₀).1 = .staged op → t.mappings.get? e.key = t₀.mappings.get? e.key →
        MappingTable.MovesByHalves e.key op c t (t.commit e op c).2.1 (t.commit e op c).2.2 :=
  ⟨⟨(NamedTable.scratch _).traceless, NamedTable.allOrNothing _⟩,
    ⟨(NamedTable.scratch _).traceless, NamedTable.allOrNothing _⟩,
    ⟨(RoutingTable.scratch _).traceless, RoutingTable.allOrNothing _⟩,
    ⟨(RoutingTable.scratch _).traceless, RoutingTable.allOrNothing _⟩,
    MappingTable.scratch.traceless, MappingTable.movesByHalves⟩

/-- The one of the mixed VNET changes that is staged. -/
def stagedVnet : ChangeQueue :=
  (ChangeQueue.new "" 0 128).addAll [⟨"green", .set, [("vni", "1")]⟩]

def newMapping : Entry :=
  ⟨"red:10.0.0.1", .set, [("underlay_ip", "1.1.1.1"), ("mac_address", "00:00:00:00:00:01")]⟩

/-- A table in which the mapping is staged, and the switch had no room for its PA validation entry
only. -/
def halfAnswered : MappingTable :=
  let t := ((MappingTable.new 1).stage newMapping firstMapping.env).2
  { t with
    caToPaStager := t.caToPaStager.replace [(0, .create ⟨none, []⟩ (some ⟨.success, none⟩))]
    paStager := t.paStager.replace [(0, .create ⟨none, []⟩ (some ⟨.tableFull, none⟩))] }

/-- The pass over VNETs goes as well without the two changes that it does not stage, of which the
first leaves the table alone; a removal that was not executed leaves all alone; and the mapping is
committed by halves. -/
theorem mixedVnets_trimmed :
    (stagedVnet.entries.take stagedVnet.batchSize =
        stagedEntries (VnetTable.bulk.stageAll (δ := Simulator) mixedVnets.env
          (mixedVnets.queue.entries.take mixedVnets.queue.batchSize) mixedVnets.table).1 ∧
      VnetTable.bulk.Trimmed mixedVnets stagedVnet) ∧
    ((VnetTable.bulk (δ := Simulator)).stage ⟨"red", .del, []⟩ mixedVnets.env
      mixedVnets.table).2 = mixedVnets.table ∧
    ((VnetTable.bulk (δ := Simulator)).commit ⟨"red", .del, []⟩ (.remove 0) mixedVnets.env
      mixedVnets.table).2 = (mixedVnets.env, mixedVnets.table) ∧
    ∃ op, ((MappingTable.new 1).stage newMapping firstMapping.env).1 = .staged op ∧
      MappingTable.MovesByHalves newMapping.key op firstMapping.env halfAnswered
        (halfAnswered.commit newMapping op firstMapping.env).2.1
        (halfAnswered.commit newMapping op firstMapping.env).2.2 := by
  obtain ⟨⟨htraceless, hwhole⟩, -, -, -, -, hmappings⟩ := unapplied_leave_no_trace (δ := Simulator)
  have hq : stagedVnet.entries.take stagedVnet.batchSize =
      stagedEntries (VnetTable.bulk.stageAll (δ := Simulator) mixedVnets.env
        (mixedVnets.queue.entries.take mixedVnets.queue.batchSize) mixedVnets.table).1 := by
    decide +kernel
  have hstaged : ((MappingTable.new 1).stage newMapping firstMapping.env).1.isStaged = true := by
    decide +kernel
  have hsame : halfAnswered.mappings.get? newMapping.key =
      (MappingTable.new 1).mappings.get? newMapping.key := by
    decide +kernel
  refine ⟨⟨hq, htraceless.trimmed _ _ hq⟩, htraceless.unstaged _ _ _ (by decide +kernel),
    hwhole _ _ _ _ (by decide +kernel), ?_⟩
  cases hop : ((MappingTable.new 1).stage newMapping firstMapping.env).1 with
  | staged op => exact ⟨op, rfl, hmappings hop hsame⟩
  | notReady | done | invalid =>
    rw [hop] at hstaged
    cases hstaged

end DashAgent
