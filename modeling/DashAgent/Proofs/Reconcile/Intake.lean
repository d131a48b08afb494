import DashAgent.Proofs.Overlay.Sites
import DashAgent.Proofs.Reconcile.Uptake
import DashAgent.Proofs.Resource.Counting

/-!
# Passes over new SETs

A SET of a key that is not programmed is read first alone and then against the programmed parents:
it is invalid, it waits, or it is ready. On an ample switch without faults a pass programs what is
ready, puts back what waits and drops the rest. An `Intake` says what this takes of a table; the
state of the table is told by the list of the changes that are programmed.
-/
namespace DashAgent

open BulkTable

/-- How the SETs of a table are read: alone, and then against the programmed parents. -/
structure Reading (α β : Type) where
  ask : Entry → Except EntryError α
  resolve : α → Context → Except Dependency β

namespace Reading

variable {α β : Type} (R : Reading α β) {c : Context} {e : Entry}

def invalid (e : Entry) : Bool :=
  match R.ask e with
  | .error _ => true
  | .ok _ => false

def ready (c : Context) (e : Entry) : Bool :=
  match R.ask e with
  | .error _ => false
  | .ok asked => (R.resolve asked c).toBool

/-- The change waits for a parent. -/
def waits (c : Context) (e : Entry) : Bool := !R.invalid e && !R.ready c e

variable {R}

theorem of_ask_error {error : EntryError} (h : R.ask e = .error error) :
    R.invalid e = true ∧ R.ready c e = false ∧ R.waits c e = false := by
  simp [waits, invalid, ready, h]

theorem of_resolve_error {asked : α} {dependency : Dependency} (h : R.ask e = .ok asked)
    (hresolve : R.resolve asked c = .error dependency) :
    R.invalid e = false ∧ R.ready c e = false ∧ R.waits c e = true := by
  simp [waits, invalid, ready, h, hresolve, Except.toBool]

theorem of_resolve_ok {asked : α} {found : β} (h : R.ask e = .ok asked)
    (hresolve : R.resolve asked c = .ok found) :
    R.invalid e = false ∧ R.ready c e = true ∧ R.waits c e = false := by
  simp [waits, invalid, ready, h, hresolve, Except.toBool]

theorem ready_iff :
    R.ready c e = true ↔ ∃ asked found, R.ask e = .ok asked ∧ R.resolve asked c = .ok found := by
  cases hask : R.ask e with
  | error error => simp [ready, hask]
  | ok asked => cases hresolve : R.resolve asked c <;> simp [ready, hask, hresolve, Except.toBool]

theorem not_ready_of_invalid (h : R.invalid e = true) : R.ready c e = false := by
  cases hask : R.ask e with
  | error error => simp [ready, hask]
  | ok asked => simp [invalid, hask] at h

/-- What is ready in a context is ready in a larger one. -/
def Grows (R : Reading α β) (le : Context → Context → Prop) : Prop :=
  ∀ {c c' e}, le c c' → R.ready c e = true → R.ready c' e = true

section Grows

variable {le le' : Context → Context → Prop} {c' : Context}

theorem grows_of_resolve (h : ∀ {asked found c c'}, le c c' → R.resolve asked c = .ok found →
    ∃ found', R.resolve asked c' = .ok found') : R.Grows le := by
  intro c c' e hle hready
  obtain ⟨asked, found, hask, hresolve⟩ := ready_iff.1 hready
  obtain ⟨found', hresolve'⟩ := h hle hresolve
  exact ready_iff.2 ⟨asked, found', hask, hresolve'⟩

theorem Grows.mono (h : R.Grows le) (hle : ∀ {c c'}, le' c c' → le c c') : R.Grows le' :=
  fun hle' hready => h (hle hle') hready

/-- What waits in a context waits in a smaller one. -/
theorem Grows.waits (h : R.Grows le) (hle : le c' c) (hwaits : R.waits c e = true) :
    R.waits c' e = true := by
  simp only [Reading.waits, Bool.and_eq_true, Bool.not_eq_true'] at hwaits ⊢
  refine ⟨hwaits.1, Bool.eq_false_iff.2 fun hready => ?_⟩
  exact Bool.eq_false_iff.1 hwaits.2 (h hle hready)

/-- Contexts in which the same is programmed agree on what is ready. -/
theorem Grows.ready_congr (h : R.Grows le) (hle : le c c') (hle' : le c' c) :
    R.ready c = R.ready c' := by
  funext e
  rw [Bool.eq_iff_iff]
  exact ⟨h hle, h hle'⟩

end Grows

end Reading

variable {τ κ α β : Type}

/-- What a table does with SETs of keys that are not programmed. The lists are the changes that are
programmed, in order, and those that are staged and not yet committed, with their operations. -/
structure Intake (ops : BulkTable τ κ Context Simulator) (R : Reading α β) where
  /-- The types of the objects of the table. -/
  touched : ObjectType → Prop
  /-- What the programmed changes are counted as. -/
  bill : List Entry → List Resource
  bill_perm : ∀ {P P'}, P.Perm P' → (bill P).Perm (bill P')
  grows : R.Grows Context.NamesLe
  /-- The table between passes. -/
  Kept : List Entry → Context → τ → Simulator → Prop
  /-- The table while changes are staged. -/
  Staged : List Entry → List (Entry × κ) → Context → τ → Simulator → Prop
  /-- The table while changes are committed. -/
  Paid : List Entry → List (Entry × κ) → Context → τ → Simulator → Prop
  start : ∀ {P c t s}, Kept P c t s → Staged P [] c t s
  stage_invalid : ∀ {P todo c t s e error}, Staged P todo c t s → e.op = .set →
    e.key ∉ (P ++ todo.map Prod.fst).map Entry.key → R.ask e = .error error →
    ops.stage e c t = (.invalid error, t)
  stage_waits : ∀ {P todo c t s e asked dependency}, Staged P todo c t s → e.op = .set →
    e.key ∉ (P ++ todo.map Prod.fst).map Entry.key → R.ask e = .ok asked →
    R.resolve asked c = .error dependency → ops.stage e c t = (.notReady dependency, t)
  stage_ready : ∀ {P todo c t s e asked found}, Staged P todo c t s → e.op = .set →
    e.key ∉ (P ++ todo.map Prod.fst).map Entry.key → R.ask e = .ok asked →
    R.resolve asked c = .ok found →
    ∃ op t', ops.stage e c t = (.staged op, t') ∧ Staged P (todo ++ [(e, op)]) c t' s
  idle : ∀ {P c t s}, Staged P [] c t s → Paid P [] c t s
  flush : ∀ {P todo c t s n}, Staged P todo c t s → s.Faultless → s.Ample (n + todo.length) →
    ∃ t' s', ops.flush t s = (.ok (), t', s') ∧ Paid P todo c t' s' ∧
      Simulator.Gains touched s s' ∧ s'.Ample n
  commit : ∀ {P todo c t s e op}, Paid P ((e, op) :: todo) c t s → e.key ∉ P.map Entry.key →
    ∃ c' t', ops.commit e op c t = (.commit, c', t') ∧ Paid (P ++ [e]) todo c' t' s ∧
      c.Extends c' ∧
      ∀ m : Monitor, c.monitor = m.countAll (bill P) → c'.monitor = m.countAll (bill (P ++ [e]))
  finish : ∀ {P c t s}, Paid P [] c t s → Kept P c (ops.endPass t) s

namespace BulkTable

def stagedOps (outcomes : List (Entry × StageOutcome κ)) : List (Entry × κ) :=
  outcomes.filterMap fun o =>
    match o.2 with
    | .staged op => some (o.1, op)
    | _ => none

theorem any_isStaged (outcomes : List (Entry × StageOutcome κ)) :
    (outcomes.any fun o => o.2.isStaged) = !(stagedOps outcomes).isEmpty := by
  induction outcomes with
  | nil => rfl
  | cons o rest ih =>
    obtain ⟨e, outcome⟩ := o
    cases outcome with
    | staged op => rfl
    | notReady dependency | done | invalid error => exact ih

end BulkTable

namespace Intake

variable {ops : BulkTable τ κ Context Simulator} {R : Reading α β} (I : Intake ops R)
  {P : List Entry}

/-! ## Staging and committing -/

theorem stageAll {c : Context} {s : Simulator} {es : List Entry} {todo : List (Entry × κ)} {t : τ}
    (h : I.Staged P todo c t s) (hsets : ∀ e ∈ es, e.op = .set)
    (hkeys : ((P ++ todo.map Prod.fst ++ es).map Entry.key).Nodup) :
    I.Staged P (todo ++ stagedOps (ops.stageAll c es t).1) c (ops.stageAll c es t).2 s ∧
      (stagedOps (ops.stageAll c es t).1).map Prod.fst = es.filter (R.ready c) ∧
      waiting (ops.stageAll c es t).1 = es.filter (R.waits c) := by
  induction es generalizing todo t with
  | nil =>
    refine ⟨?_, rfl, rfl⟩
    rw [BulkTable.stageAll, stagedOps, List.filterMap_nil, List.append_nil]
    exact h
  | cons e rest ih =>
    obtain ⟨hset, hsets⟩ := List.forall_mem_cons.1 hsets
    have hmiddle := hkeys
    rw [List.map_append, List.map_cons, List.nodup_middle] at hmiddle
    have hnew : e.key ∉ (P ++ todo.map Prod.fst).map Entry.key :=
      fun hmem => (List.nodup_cons.1 hmiddle).1 (List.mem_append_left _ hmem)
    have hrest : ((P ++ todo.map Prod.fst ++ rest).map Entry.key).Nodup := by
      rw [List.map_append]
      exact (List.nodup_cons.1 hmiddle).2
    cases hask : R.ask e with
    | error error =>
      obtain ⟨-, hready, hwaits⟩ := Reading.of_ask_error (c := c) hask
      obtain ⟨hend, hstaged, hwaiting⟩ := ih h hsets hrest
      simp only [BulkTable.stageAll, I.stage_invalid h hset hnew hask, List.filter_cons, hready,
        hwaits, Bool.false_eq_true, if_false]
      exact ⟨hend, hstaged, hwaiting⟩
    | ok asked =>
      cases hresolve : R.resolve asked c with
      | error dependency =>
        obtain ⟨-, hready, hwaits⟩ := Reading.of_resolve_error hask hresolve
        obtain ⟨hend, hstaged, hwaiting⟩ := ih h hsets hrest
        simp only [BulkTable.stageAll, I.stage_waits h hset hnew hask hresolve, List.filter_cons,
          hready, hwaits, Bool.false_eq_true, if_false, if_true]
        exact ⟨hend, hstaged, congrArg (e :: ·) hwaiting⟩
      | ok found =>
        obtain ⟨-, hready, hwaits⟩ := Reading.of_resolve_ok hask hresolve
        obtain ⟨op, t', hstage, hnext⟩ := I.stage_ready h hset hnew hask hresolve
        obtain ⟨hend, hstaged, hwaiting⟩ := ih hnext hsets (by simpa using hkeys)
        simp only [BulkTable.stageAll, hstage, List.filter_cons, hready, hwaits,
          Bool.false_eq_true, if_false, if_true]
        rw [List.append_assoc] at hend
        exact ⟨hend, congrArg (e :: ·) hstaged, hwaiting⟩

theorem commitAll {outcomes : List (Entry × StageOutcome κ)} {c : Context} {t : τ} {s : Simulator}
    (h : I.Paid P (stagedOps outcomes) c t s)
    (hkeys : ((P ++ (stagedOps outcomes).map Prod.fst).map Entry.key).Nodup) :
    I.Paid (P ++ (stagedOps outcomes).map Prod.fst) [] (ops.commitAll outcomes c t).2.1
        (ops.commitAll outcomes c t).2.2 s ∧
      (∀ course ∈ ops.settle outcomes c t, ∀ decision, course.fate = .decided decision →
        decision = .commit) ∧
      c.Extends (ops.commitAll outcomes c t).2.1 ∧
      ∀ m : Monitor, c.monitor = m.countAll (I.bill P) → (ops.commitAll outcomes c t).2.1.monitor =
        m.countAll (I.bill (P ++ (stagedOps outcomes).map Prod.fst)) := by
  induction outcomes generalizing P c t with
  | nil =>
    simp only [stagedOps, List.filterMap_nil, List.map_nil, List.append_nil] at h ⊢
    exact ⟨h, List.forall_mem_nil _, .refl c, fun m hm => hm⟩
  | cons o rest ih =>
    obtain ⟨e, outcome⟩ := o
    cases outcome with
    | staged op =>
      have hops : stagedOps ((e, .staged op) :: rest) = (e, op) :: stagedOps rest := rfl
      rw [hops] at h hkeys ⊢
      have hmiddle := hkeys
      rw [List.map_append, List.map_cons, List.map_cons, List.nodup_middle] at hmiddle
      have hnew : e.key ∉ P.map Entry.key :=
        fun hmem => (List.nodup_cons.1 hmiddle).1 (List.mem_append_left _ hmem)
      obtain ⟨c', t', hcommit, hnext, hextends, hbill⟩ := I.commit h hnew
      obtain ⟨hend, hcommits, hextends', hbill'⟩ := ih hnext (by simpa using hkeys)
      simp only [List.append_assoc, List.singleton_append] at hend hbill'
      simp only [BulkTable.commitAll, settle, hcommit, List.map_cons]
      refine ⟨hend, List.forall_mem_cons.2 ⟨?_, hcommits⟩, hextends.trans hextends',
        fun m hm => hbill' m (hbill m hm)⟩
      rintro decision ⟨⟩
      rfl
    | notReady dependency | done | invalid error =>
      obtain ⟨hend, hcommits, hrest⟩ := ih h hkeys
      refine ⟨hend, List.forall_mem_cons.2 ⟨?_, hcommits⟩, hrest⟩
      rintro decision ⟨⟩

/-! ## Passes -/

structure Passed (P : List Entry) (n : Nat) (p p' : Pass τ Context Simulator) : Prop where
  kept : I.Kept (P ++ p.queue.entries.filter (R.ready p.env)) p'.env p'.table p'.switch
  queue : p'.queue.entries = p.queue.entries.filter (R.waits p.env)
  batchSize : p'.queue.batchSize = p.queue.batchSize
  gains : Simulator.Gains I.touched p.switch p'.switch
  ample : p'.switch.Ample (n + p'.queue.entries.length)
  extends_ : p.env.Extends p'.env
  bill : ∀ m : Monitor, p.env.monitor = m.countAll (I.bill P) →
    p'.env.monitor = m.countAll (I.bill (P ++ p.queue.entries.filter (R.ready p.env)))

/-- A pass over new SETs programs what is ready and puts back what waits. -/
theorem reconcile {p : Pass τ Context Simulator} {n : Nat}
    (hkept : I.Kept P p.env p.table p.switch) (hsets : ∀ e ∈ p.queue.entries, e.op = .set)
    (hkeys : ((P ++ p.queue.entries).map Entry.key).Nodup)
    (hbatch : p.queue.entries.length ≤ p.queue.batchSize) (hfaultless : p.switch.Faultless)
    (hample : p.switch.Ample (n + p.queue.entries.length)) :
    ∃ summary p', ops.reconcile p = (.ok summary, p') ∧ I.Passed P n p p' := by
  by_cases hne : p.queue.entries = []
  · refine ⟨.empty, p, reconcile_idle hne, ?_, ?_, rfl, .refl hfaultless, hample, .refl _, ?_⟩
    · simpa [hne] using hkept
    · simp [hne]
    · simp [hne]
  have htaken : p.queue.entries.take p.queue.batchSize = p.queue.entries :=
    List.take_of_length_le hbatch
  have hleft : p.queue.entries.drop p.queue.batchSize = [] := List.drop_of_length_le hbatch
  rcases hs : ops.stageAll p.env p.queue.entries p.table with ⟨outcomes, t⟩
  obtain ⟨hstaged, hready, hwaiting⟩ := I.stageAll (I.start hkept) hsets (by simpa using hkeys)
  rw [hs, List.nil_append] at hstaged
  rw [hs] at hready hwaiting
  dsimp only at hstaged hready hwaiting
  have hcount : (p.queue.entries.filter (R.waits p.env)).length + (stagedOps outcomes).length ≤
      p.queue.entries.length := by
    have hstagedLength := congrArg List.length hready
    have hdisjoint : p.queue.entries.countP (R.waits p.env) ≤
        p.queue.entries.countP fun e => ¬R.ready p.env e = true := by
      refine List.countP_mono_left fun e _ hwaits => ?_
      simp only [Reading.waits, Bool.and_eq_true, Bool.not_eq_true'] at hwaits
      simp [hwaits.2]
    rw [List.length_map, ← List.countP_eq_length_filter] at hstagedLength
    rw [← List.countP_eq_length_filter, hstagedLength,
      List.length_eq_countP_add_countP (R.ready p.env)]
    omega
  obtain ⟨t', s', hsent, hpaid, hgains, hample'⟩ : ∃ t' s',
      ops.flushStaged outcomes t p.switch = (.ok (), t', s') ∧
        I.Paid P (stagedOps outcomes) p.env t' s' ∧ Simulator.Gains I.touched p.switch s' ∧
        s'.Ample (n + (p.queue.entries.filter (R.waits p.env)).length) := by
    rw [flushStaged, any_isStaged]
    cases hops : stagedOps outcomes with
    | nil =>
      rw [hops] at hstaged
      exact ⟨t, p.switch, rfl, I.idle hstaged, .refl hfaultless, hample.mono (by omega)⟩
    | cons o rest =>
      rw [hops] at hstaged hcount
      exact I.flush hstaged hfaultless (hample.mono (by omega))
  obtain ⟨hend, hcommits, hextends, hbill⟩ := I.commitAll hpaid (by
    rw [hready]
    exact hkeys.sublist ((List.filter_sublist.append_left P).map _))
  obtain ⟨summary, q, hpass, hqueue, hbatchSize, -⟩ :=
    reconcile_of_commits hne (by rw [htaken]; exact hs) hsent hcommits
  rw [hleft, List.append_nil, hwaiting] at hqueue
  rw [hready] at hend hbill
  refine ⟨summary, _, hpass, I.finish hend, hqueue, hbatchSize, hgains, ?_, hextends, hbill⟩
  dsimp only
  rw [hqueue]
  exact hample'

end Intake

end DashAgent
