import DashAgent.Proofs.Overlay.Unapplied
import DashAgent.Proofs.Reconcile.Replays

/-!
# Batches of the tables can be replayed

A commit means that the record of a SET is there and that of a DEL is gone, and for a mapping that
both of its objects are in place or neither is, whatever status the switch answered with. So a batch
that was committed asks for nothing when it is replayed. Main theorem: `committed_batch_replays`.
-/
namespace DashAgent

open BulkTable

variable {δ : Type} [Driver δ]

/-- The records are as a change asks: the record of a SET is there, and that of a DEL is not. -/
def Entry.RecordedIn {ρ : Type} (e : Entry) (records : Table String ρ) : Prop :=
  e.op = .set ↔ records.contains e.key = true

namespace Entry

variable {ρ : Type} {e : Entry} {records : Table String ρ}

theorem recordedIn_congr {records' : Table String ρ}
    (h : records'.get? e.key = records.get? e.key) :
    e.RecordedIn records' ↔ e.RecordedIn records := by
  rw [RecordedIn, RecordedIn, Table.contains_eq_isSome, Table.contains_eq_isSome, h]

theorem recordedIn_insert (h : e.op = .set) (r : ρ) : e.RecordedIn (records.insert e.key r) := by
  simp [RecordedIn, h, Table.contains_eq_isSome]

theorem recordedIn_of_none (h : e.op = .del) (hnone : records.get? e.key = none) :
    e.RecordedIn records := by
  simp [RecordedIn, h, Table.contains_eq_isSome, hnone]

/-- A SET that is recorded finds its record. -/
theorem RecordedIn.ne_none (h : e.RecordedIn records) (hset : e.op = .set) :
    records.get? e.key ≠ none := by
  rw [← Option.isSome_iff_ne_none, ← Table.contains_eq_isSome]
  exact h.1 hset

/-- A DEL that is recorded finds no record. -/
theorem RecordedIn.eq_none (h : e.RecordedIn records) (hdel : e.op = .del) :
    records.get? e.key = none := by
  rw [RecordedIn, hdel, Table.contains_eq_isSome] at h
  simpa using h

end Entry

namespace NamedTable

variable {kind : OidKind} {α β ρ : Type} (K : NamedKind kind α β ρ)

def absorbing : Absorbing (bulk (δ := δ) K) where
  Holds e t := e.RecordedIn t.records
  Suits e op := e.op = (match op with | .create .. => .set | .remove _ => .del)
  stage_suits {e c t op} h := by
    have hstage := stage_spec K t e c
    simp only [bulk] at h
    generalize stage K t e c = result at hstage h
    cases hstage with
    | done | invalid | notReady => cases h
    | create _ _ hset => cases h; exact hset
    | remove _ hdel => cases h; exact hdel
  holds_of_done {e c t} h := by
    have hstage := stage_spec K t e c
    simp only [bulk] at h
    generalize stage K t e c = result at hstage h
    cases hstage with
    | done hholds => exact hholds
    | invalid | notReady | create | remove => cases h
  done_of_holds {e c t} h := by
    have hstage := stage_spec K t e c
    simp only [bulk]
    generalize stage K t e c = result at hstage
    cases hstage with
    | done => rfl
    | invalid _ hset hnone | notReady _ _ hset hnone | create _ _ hset hnone =>
      exact absurd hnone (h.ne_none hset)
    | remove r hdel hsome =>
      rw [h.eq_none hdel] at hsome
      cases hsome
  holds_of_commit {e op c t} hsuits h := by
    have hcommit := commit_spec K t e op c
    simp only [bulk] at h ⊢
    generalize commit K t e op c = result at hcommit h ⊢
    cases hcommit with
    | kept _ _ _ hne => exact absurd h hne
    | created position asked id => exact Entry.recordedIn_insert hsuits _
    | stays _ hstays => exact absurd h hstays
    | removed => exact Entry.recordedIn_of_none hsuits (Table.get?_erase_self ..)
  holds_stage {e e' c t} h := by
    have hstage := stage_spec K t e' c
    simp only [bulk]
    generalize stage K t e' c = result at hstage
    cases hstage <;> exact h
  holds_flush h := h
  holds_commit {e e' op c t} hne h := by
    have hcommit := commit_spec K t e' op c
    simp only [bulk]
    generalize commit K t e' op c = result at hcommit
    cases hcommit with
    | kept | stays => exact h
    | created => exact (Entry.recordedIn_congr (Table.get?_insert_of_ne _ hne)).2 h
    | removed => exact (Entry.recordedIn_congr (Table.get?_erase_of_ne hne)).2 h
  holds_endPass h := h
  endPass_endPass := (scratch (δ := δ) K).endPass_endPass

end NamedTable

namespace RoutingTable

variable {α ρ : Type} (K : RoutingKind α ρ)

def absorbing : Absorbing (bulk (δ := δ) K) where
  Holds e t := e.RecordedIn t.records
  Suits e op := e.op = (match op with | .create .. => .set | .remove _ => .del)
  stage_suits {e c t op} h := by
    have hstage := stage_spec K t e c
    simp only [bulk] at h
    generalize stage K t e c = result at hstage h
    cases hstage with
    | done | invalid | notReady => cases h
    | create _ _ hset => cases h; exact hset
    | remove _ hdel => cases h; exact hdel
  holds_of_done {e c t} h := by
    have hstage := stage_spec K t e c
    simp only [bulk] at h
    generalize stage K t e c = result at hstage h
    cases hstage with
    | done hholds => exact hholds
    | invalid | notReady | create | remove => cases h
  done_of_holds {e c t} h := by
    have hstage := stage_spec K t e c
    simp only [bulk]
    generalize stage K t e c = result at hstage
    cases hstage with
    | done => rfl
    | invalid _ hset hnone | notReady _ _ hset hnone | create _ _ hset hnone =>
      exact absurd hnone (h.ne_none hset)
    | remove r hdel hsome =>
      rw [h.eq_none hdel] at hsome
      cases hsome
  holds_of_commit {e op c t} hsuits h := by
    have hcommit := commit_spec K t e op c
    simp only [bulk] at h ⊢
    generalize commit K t e op c = result at hcommit h ⊢
    cases hcommit with
    | kept _ _ hne => exact absurd h hne
    | created position r => exact Entry.recordedIn_insert hsuits _
    | stays _ hstays => exact absurd h hstays
    | absent _ _ hnone => exact Entry.recordedIn_of_none hsuits hnone
    | removed => exact Entry.recordedIn_of_none hsuits (Table.get?_erase_self ..)
  holds_stage {e e' c t} h := by
    have hstage := stage_spec K t e' c
    simp only [bulk]
    generalize stage K t e' c = result at hstage
    cases hstage <;> exact h
  holds_flush h := h
  holds_commit {e e' op c t} hne h := by
    have hcommit := commit_spec K t e' op c
    simp only [bulk]
    generalize commit K t e' op c = result at hcommit
    cases hcommit with
    | kept | stays | absent => exact h
    | created => exact (Entry.recordedIn_congr (Table.get?_insert_of_ne _ hne)).2 h
    | removed => exact (Entry.recordedIn_congr (Table.get?_erase_of_ne hne)).2 h
  holds_endPass h := h
  endPass_endPass := (scratch (δ := δ) K).endPass_endPass

end RoutingTable

/-! ## Mappings -/

theorem Decision.worse_eq_commit_iff {a b : Decision} :
    a.worse b = commit ↔ a = commit ∧ b = commit := by
  cases a <;> cases b <;> simp [worse]

/-- Several answers commit if each of them does. -/
theorem Decision.ofStatuses_eq_commit_iff {kind : RequestKind} {statuses : List Status} :
    ofStatuses kind statuses = commit ↔ ∀ s ∈ statuses, ofStatus kind s = commit := by
  have hfold : ∀ d : Decision,
      statuses.foldl (fun decision status => decision.worse (ofStatus kind status)) d = commit ↔
        d = commit ∧ ∀ s ∈ statuses, ofStatus kind s = commit := by
    induction statuses with
    | nil => simp
    | cons s rest ih =>
      intro d
      rw [List.foldl_cons, ih, worse_eq_commit_iff, List.forall_mem_cons, and_assoc]
  exact (hfold commit).trans (and_iff_right rfl)

namespace MappingTable

/-- The mapping of a change is as the change asks: whole for a SET that can be read, and not there
for a DEL. -/
def Applied (e : Entry) (ms : Table String MappingRecord) : Prop :=
  match e.op with
  | .set => (∃ key, MappingKey.parse e.key = .ok key) ∧
      ∃ m, ms.get? e.key = some m ∧ m.isComplete = true
  | .del => ms.get? e.key = none

theorem applied_congr {e : Entry} {ms ms' : Table String MappingRecord}
    (h : ms'.get? e.key = ms.get? e.key) : Applied e ms' ↔ Applied e ms := by
  rw [Applied, Applied, h]

/-- An operation asks for whatever object of its mapping is not as its change wants it. -/
structure Completes (e : Entry) (op : MappingOp) : Prop where
  set : e.op = .set → op.kind = .create ∧ ∃ key, MappingKey.parse e.key = .ok key
  del : e.op = .del → op.kind = .remove
  caToPa : op.caToPa = none → op.mapping.caToPa = decide (op.kind = .create)
  pa : op.pa = none → op.mapping.paValidation = decide (op.kind = .create)
  action : ∀ {action position}, op.pa = some (action, position) → action.kind = op.kind

theorem CaStaged.flag {s s' : BulkStager} {op : MappingOp} (h : CaStaged s op s')
    (hnone : op.caToPa = none) : op.mapping.caToPa = decide (op.kind = .create) := by
  cases h with
  | nothing _ hflag => exact hflag
  | create _ _ hposition | remove _ _ hposition =>
    rw [hnone] at hposition
    cases hposition

theorem completes_of_staged {t : MappingTable} {e : Entry} {c : Context} {op : MappingOp}
    (h : (t.stage e c).1 = .staged op) : Completes e op := by
  have hagrees := agrees_of_staged h
  have hstages := t.stage_spec e c
  generalize t.stage e c = result at h hstages
  cases hstages with
  | unmapped _ outcome _ _ hm =>
    have hunstaged := mappingOf_error hm
    dsimp only at h
    rw [h] at hunstaged
    cases hunstaged
  | missing key m hset hparse =>
    obtain ⟨hkind, hpa⟩ := t.stageMissing_pa (m.paKey key.vnet) m
    have hca := t.stageMissing_caToPa (m.paKey key.vnet) m
    cases StageOutcome.staged.inj h
    refine ⟨fun _ => ⟨hkind, key, hparse⟩, fun hdel => ?_, hca.flag, fun hnone => ?_,
      fun hop => (hagrees.pa hop).2⟩
    · rw [hset] at hdel
      cases hdel
    · rw [hkind]
      exact hpa hnone
  | present m vnet hdel =>
    obtain ⟨hkind, hpa⟩ := t.stagePresent_pa vnet m
    have hca := t.stagePresent_caToPa vnet m
    cases StageOutcome.staged.inj h
    refine ⟨fun hset => ?_, fun _ => hkind, hca.flag, fun hnone => ?_,
      fun hop => (hagrees.pa hop).2⟩
    · rw [hdel] at hset
      cases hset
    · rw [hkind]
      exact hpa hnone
  | unreadable | conflict | gone | unnamed => cases h

/-- A change commits if each of its requests was accepted. -/
theorem settled_of_commit {t : MappingTable} {e : Entry} {op : MappingOp} {c : Context}
    (h : Completes e op) (hcommit : (t.commit e op c).1 = .commit) :
    (t.settled op).caToPa = decide (op.kind = .create) ∧
      (t.settled op).paValidation = decide (op.kind = .create) := by
  have hall : ∀ s ∈ t.statuses op, Decision.ofStatus op.kind s = .commit :=
    Decision.ofStatuses_eq_commit_iff.1 hcommit
  constructor
  · cases hposition : op.caToPa with
    | none =>
      have hidle : t.caAccepted op = false := by rw [caAccepted, hposition, Option.any_none]
      simp only [settled, hidle, Bool.false_eq_true, if_false, h.caToPa hposition]
    | some position =>
      have haccepted : t.caAccepted op = true := by
        rw [caAccepted, hposition, Option.any_some, decide_eq_true_iff]
        exact hall _ (by simp [statuses, hposition])
      simp only [settled, haccepted, if_true]
  · cases haction : op.pa with
    | none =>
      have hidle : t.paAccepted? op = none := by rw [paAccepted?, haction]; rfl
      simp only [settled, hidle, Option.elim_none, h.pa haction]
    | some staged =>
      obtain ⟨action, position⟩ := staged
      have hkind := h.action haction
      have haccepted : t.paAccepted? op = some action := by
        have hanswer := hall (t.paStager.outcome position) (by simp [statuses, haction])
        simp [paAccepted?, haction, hkind, hanswer]
      simp only [settled, haccepted, Option.elim_some, ← hkind]
      cases action <;> rfl

theorem applied_commit {t : MappingTable} {e : Entry} {op : MappingOp} {c : Context}
    (h : Completes e op) (hcommit : (t.commit e op c).1 = .commit) :
    Applied e (t.commit e op c).2.2.mappings := by
  obtain ⟨hca, hpa⟩ := settled_of_commit h hcommit
  rw [commit_eq]
  cases hop : e.op with
  | set =>
    obtain ⟨hkind, hparsed⟩ := h.set hop
    rw [hkind] at hca hpa
    simp only [Applied, hop]
    refine ⟨hparsed, t.settled op, ?_, by simp [MappingRecord.isComplete, hca, hpa]⟩
    rw [stored, if_neg (by simp [MappingRecord.isEmpty, hca]), Table.get?_insert_self]
  | del =>
    rw [h.del hop] at hca hpa
    simp only [Applied, hop]
    rw [stored, if_pos (by simp [MappingRecord.isEmpty, hca, hpa]), Table.get?_erase_self]

theorem mappingOf_eq_done_iff {t : MappingTable} {e : Entry} {key : MappingKey} {c : Context} :
    t.mappingOf e key c = .error .done ↔
      ∃ m, t.mappings.get? e.key = some m ∧ m.isComplete = true := by
  have hfound := mappingOf_spec t e key c
  generalize t.mappingOf e key c = result at hfound ⊢
  cases hfound with
  | complete m hget hcomplete | incomplete m hget hcomplete => simp [hget, hcomplete]
  | invalid _ hget | orphan _ hget | fresh _ _ hget => simp [hget]

/-- A change has nothing to do just if its mapping is as it asks. -/
theorem stage_eq_done_iff {t : MappingTable} {e : Entry} {c : Context} :
    (t.stage e c).1 = .done ↔ Applied e t.mappings := by
  have hstages := t.stage_spec e c
  generalize t.stage e c = result at hstages
  cases hstages with
  | unreadable error hset hparse => simp [Applied, hset, hparse]
  | unmapped key outcome hset hparse hm =>
    have hdone : t.mappingOf e key c = .error .done ↔ _ := mappingOf_eq_done_iff
    rw [hm, Except.error.injEq] at hdone
    simp only [Applied, hset, hparse, Except.ok.injEq, exists_eq', true_and]
    exact hdone
  | conflict key m hset hparse hm | missing key m hset hparse hm =>
    have hdone : t.mappingOf e key c = .error .done ↔ _ := mappingOf_eq_done_iff
    rw [hm] at hdone
    simp only [Applied, hset, ← hdone, reduceCtorEq, and_false]
  | gone hdel hnone => simp [Applied, hdel, hnone]
  | unnamed m hdel hm | present m _ hdel hm => simp [Applied, hdel, hm]

def absorbing : Absorbing (bulk (δ := δ)) where
  Holds e t := Applied e t.mappings
  Suits := Completes
  stage_suits := completes_of_staged
  holds_of_done := stage_eq_done_iff.1
  done_of_holds {e c t} h := by
    have hdone : ((bulk (δ := δ)).stage e c t).1 = .done := stage_eq_done_iff.2 h
    exact Prod.ext hdone (scratch.unstaged (by rw [hdone]; rfl))
  holds_of_commit := applied_commit
  holds_stage {e e' c t} h := by
    have hframe := (stage_result t e' c).frame
    simp only [bulk, hframe.1]
    exact h
  holds_flush {e t d} h := by
    have hframe := t.flush_frame d
    simp only [bulk, hframe.1]
    exact h
  holds_commit {e e' op c t} hne h := by
    simp only [bulk, commit_eq]
    exact (applied_congr (get?_stored_of_ne hne)).2 h
  holds_endPass h := h
  endPass_endPass := (scratch (δ := δ)).endPass_endPass

end MappingTable

/-! ## The main theorem -/

/-- Whatever a pass over the whole of its queue leaves, if it gave up nothing and put back nothing,
finds all of the batch done when it comes again: at any later time, with any driver. -/
def BulkTable.Replays {τ κ ε δ : Type} (ops : BulkTable τ κ ε δ) : Prop :=
  ∀ {p : Pass τ ε δ} {summary : Summary}, p.queue.entries.length ≤ p.queue.batchSize →
    (ops.reconcile p).1 = .ok summary → summary.dropped = 0 → summary.retried = 0 →
    summary.notReady = 0 → ∀ (c : ε) (d : δ),
      ops.Replayed { (ops.reconcile p).2 with env := c, switch := d } p.queue.entries

/-- A batch that was committed asks for nothing when it is replayed, in any of the tables: every
change is done, no request is made, and the table, the identifiers of the parents and all counts
stay as they are. -/
theorem committed_batch_replays :
    (VnetTable.bulk (δ := δ)).Replays ∧ (EniTable.bulk (δ := δ)).Replays ∧
      (RouteTable.bulk (δ := δ)).Replays ∧ (RuleTable.bulk (δ := δ)).Replays ∧
      (MappingTable.bulk (δ := δ)).Replays :=
  ⟨(NamedTable.absorbing _).replayed, (NamedTable.absorbing _).replayed,
    (RoutingTable.absorbing _).replayed, (RoutingTable.absorbing _).replayed,
    MappingTable.absorbing.replayed⟩

/-- A pass over a new VNET and the removal of one that is not there. -/
def firstVnets : Pass VnetTable Context Simulator :=
  firstPass (.new 1) [⟨"blue", .set, [("vni", "100")]⟩, ⟨"green", .del, []⟩]

theorem first_passes_replay :
    ((VnetTable.bulk.reconcile firstVnets).1 = .ok ⟨1, 1, 0, 0, 0, 1⟩ ∧
      VnetTable.bulk.Replayed (VnetTable.bulk.reconcile firstVnets).2
        firstVnets.queue.entries) ∧
    ((EniTable.bulk.reconcile firstEni).1 = .ok ⟨1, 1, 0, 0, 0, 0⟩ ∧
      EniTable.bulk.Replayed (EniTable.bulk.reconcile firstEni).2
        firstEni.queue.entries) ∧
    ((RouteTable.bulk.reconcile firstRoute).1 = .ok ⟨1, 1, 0, 0, 0, 0⟩ ∧
      RouteTable.bulk.Replayed (RouteTable.bulk.reconcile firstRoute).2
        firstRoute.queue.entries) ∧
    ((RuleTable.bulk.reconcile firstRule).1 = .ok ⟨1, 1, 0, 0, 0, 0⟩ ∧
      RuleTable.bulk.Replayed (RuleTable.bulk.reconcile firstRule).2
        firstRule.queue.entries) ∧
    (MappingTable.bulk.reconcile firstMapping).1 = .ok ⟨1, 1, 0, 0, 0, 0⟩ ∧
      MappingTable.bulk.Replayed (MappingTable.bulk.reconcile firstMapping).2
        firstMapping.queue.entries := by
  obtain ⟨hvnets, henis, hroutes, hrules, hmappings⟩ := committed_batch_replays (δ := Simulator)
  have hvnet : (VnetTable.bulk.reconcile firstVnets).1 = .ok ⟨1, 1, 0, 0, 0, 1⟩ := by
    decide +kernel
  have heni : (EniTable.bulk.reconcile firstEni).1 = .ok ⟨1, 1, 0, 0, 0, 0⟩ := by
    decide +kernel
  have hroute : (RouteTable.bulk.reconcile firstRoute).1 = .ok ⟨1, 1, 0, 0, 0, 0⟩ := by
    decide +kernel
  have hrule : (RuleTable.bulk.reconcile firstRule).1 = .ok ⟨1, 1, 0, 0, 0, 0⟩ := by
    decide +kernel
  have hmapping : (MappingTable.bulk.reconcile firstMapping).1 = .ok ⟨1, 1, 0, 0, 0, 0⟩ := by
    decide +kernel
  exact ⟨⟨hvnet, hvnets (by decide +kernel) hvnet rfl rfl rfl _ _⟩,
    ⟨heni, henis (by decide +kernel) heni rfl rfl rfl _ _⟩,
    ⟨hroute, hroutes (by decide +kernel) hroute rfl rfl rfl _ _⟩,
    ⟨hrule, hrules (by decide +kernel) hrule rfl rfl rfl _ _⟩,
    hmapping, hmappings (by decide +kernel) hmapping rfl rfl rfl _ _⟩

end DashAgent
