import DashAgent.Proofs.Queue
import DashAgent.Reconcile.Pass
import Mathlib.Data.List.Nodup

/-!
# The fates of a pass

A pass collects the changes of its batch in two loops, at their places, and sorts what goes back to
the queue. Here the same pass is told by what becomes of each change: the changes that go back are
those of the batch with certain fates, in the order of the batch, and the summary counts the fates.
Main theorem: `BulkTable.reconcile_eq_byFates`.
-/
namespace DashAgent

/-- What became of a change in a pass. -/
inductive Fate where
  | notReady
  | done
  | invalid
  | decided (decision : Decision)
  deriving DecidableEq, Repr

/-- The change goes back to the queue. -/
def Fate.isKept : Fate → Bool
  | notReady | decided .retry => true
  | done | invalid | decided .commit | decided .drop => false

/-- The summary of a pass that met the given fates. -/
def Summary.ofFates (fates : List Fate) : Summary where
  staged := fates.countP fun f => f matches .decided _
  committed := fates.count (.decided .commit)
  retried := fates.count (.decided .retry)
  notReady := fates.count .notReady
  dropped := fates.count (.decided .drop) + fates.count .invalid
  done := fates.count .done

namespace BulkTable

variable {τ κ ε δ : Type} (ops : BulkTable τ κ ε δ)

def stageAll (env : ε) : List Entry → τ → List (Entry × StageOutcome κ) × τ
  | [], t => ([], t)
  | e :: rest, t =>
    let (outcome, t) := ops.stage e env t
    let (outcomes, t) := stageAll env rest t
    ((e, outcome) :: outcomes, t)

def commitAll : List (Entry × StageOutcome κ) → ε → τ → List (Entry × Fate) × ε × τ
  | [], env, t => ([], env, t)
  | (e, outcome) :: rest, env, t =>
    match outcome with
    | .staged op =>
      let (decision, env, t) := ops.commit e op env t
      let (fates, env, t) := commitAll rest env t
      ((e, .decided decision) :: fates, env, t)
    | .notReady _ =>
      let (fates, env, t) := commitAll rest env t
      ((e, .notReady) :: fates, env, t)
    | .done =>
      let (fates, env, t) := commitAll rest env t
      ((e, .done) :: fates, env, t)
    | .invalid _ =>
      let (fates, env, t) := commitAll rest env t
      ((e, .invalid) :: fates, env, t)

def unanswered (outcomes : List (Entry × StageOutcome κ)) : List Entry :=
  (outcomes.filter fun o => o.2.isStaged || o.2.isNotReady).map Prod.fst

def kept (fates : List (Entry × Fate)) : List Entry :=
  (fates.filter fun f => f.2.isKept).map Prod.fst

/-- Flushes the table if anything was staged. -/
def flushStaged (outcomes : List (Entry × StageOutcome κ)) (t : τ) (switch : δ) :
    Except DriverError Unit × τ × δ :=
  if outcomes.any fun o => o.2.isStaged then ops.flush t switch else (.ok (), t, switch)

/-- One pass over the next batch of a queue, told by the fates of its changes. -/
def passByFates (p : Pass τ ε δ) : Except DriverError Summary × Pass τ ε δ :=
  match p.queue.popBatch with
  | ([], _) => (.ok .empty, p)
  | (batch, queue) =>
    let (outcomes, table) := ops.stageAll p.env batch p.table
    match ops.flushStaged outcomes table p.switch with
    | (.error error, table, switch) =>
      (.error error, ⟨queue.requeue (unanswered outcomes), ops.endPass table, p.env, switch⟩)
    | (.ok (), table, switch) =>
      let (fates, env, table) := ops.commitAll outcomes p.env table
      (.ok (.ofFates (fates.map Prod.snd)),
        ⟨queue.requeue (kept fates), ops.endPass table, env, switch⟩)

/-! ## Sorting -/

section Sorting

theorem insertByPlace_perm (change : Nat × Entry) (changes : List (Nat × Entry)) :
    (insertByPlace change changes).Perm (change :: changes) := by
  induction changes with
  | nil => exact .refl _
  | cons other rest ih =>
    unfold insertByPlace
    split
    · exact .refl _
    · exact (ih.cons other).trans (.swap ..)

theorem sortByPlace_perm (changes : List (Nat × Entry)) : (sortByPlace changes).Perm changes := by
  induction changes with
  | nil => exact .refl _
  | cons change rest ih => exact (insertByPlace_perm ..).trans (ih.cons change)

theorem pairwise_insertByPlace {change : Nat × Entry} {changes : List (Nat × Entry)}
    (h : changes.Pairwise fun a b => a.1 ≤ b.1) :
    (insertByPlace change changes).Pairwise fun a b => a.1 ≤ b.1 := by
  induction changes with
  | nil => exact List.pairwise_singleton ..
  | cons other rest ih =>
    obtain ⟨hfirst, hrest⟩ := List.pairwise_cons.1 h
    unfold insertByPlace
    split
    · next hle =>
      refine List.pairwise_cons.2 ⟨fun x hx => ?_, h⟩
      rcases List.mem_cons.1 hx with rfl | hx
      · exact hle
      · exact Nat.le_trans hle (hfirst x hx)
    · next hgt =>
      refine List.pairwise_cons.2 ⟨fun x hx => ?_, ih hrest⟩
      rcases List.mem_cons.1 ((insertByPlace_perm ..).mem_iff.1 hx) with rfl | hx
      · exact Nat.le_of_not_le hgt
      · exact hfirst x hx

theorem pairwise_sortByPlace (changes : List (Nat × Entry)) :
    (sortByPlace changes).Pairwise fun a b => a.1 ≤ b.1 := by
  induction changes with
  | nil => exact .nil
  | cons change rest ih => exact pairwise_insertByPlace ih

/-- Changes at different places are sorted in one way only. -/
theorem sortByPlace_eq_of_perm {changes sorted : List (Nat × Entry)} (hperm : changes.Perm sorted)
    (hsorted : sorted.Pairwise fun a b => a.1 < b.1) : sortByPlace changes = sorted := by
  have hall := (sortByPlace_perm changes).trans hperm
  have hnodup : (sorted.map Prod.fst).Nodup := by
    rw [List.nodup_iff_pairwise_ne, List.pairwise_map]
    exact hsorted.imp Nat.ne_of_lt
  refine hall.eq_of_pairwise (fun a b ha hb hab hba => ?_) (pairwise_sortByPlace changes)
    (hsorted.imp Nat.le_of_lt)
  exact List.inj_on_of_nodup_map hnodup (hall.mem_iff.1 ha) hb (Nat.le_antisymm hab hba)

end Sorting

/-! ## Places -/

section Places

variable {α : Type} {p q : α → Bool}

/-- The changes for which something holds, with their places; the first one of the list stands at
`n`. -/
def placed (p : α → Bool) (changes : List (Entry × α)) (n : Nat) : List (Nat × Entry) :=
  ((changes.zipIdx n).filter fun change => p change.1.2).map fun change =>
    (change.2, change.1.1)

theorem placed_cons (p : α → Bool) (change : Entry × α) (rest : List (Entry × α)) (n : Nat) :
    placed p (change :: rest) n =
      if p change.2 then (n, change.1) :: placed p rest (n + 1) else placed p rest (n + 1) := by
  rw [placed, List.zipIdx_cons, List.filter_cons]
  split <;> rfl

theorem le_of_mem_placed {changes : List (Entry × α)} {n : Nat} {x : Nat × Entry}
    (h : x ∈ placed p changes n) : n ≤ x.1 := by
  induction changes generalizing n with
  | nil => cases h
  | cons change rest ih =>
    rw [placed_cons] at h
    split at h
    · rcases List.mem_cons.1 h with rfl | h
      · exact Nat.le_refl _
      · exact Nat.le_of_succ_le (ih h)
    · exact Nat.le_of_succ_le (ih h)

theorem pairwise_placed (p : α → Bool) (changes : List (Entry × α)) (n : Nat) :
    (placed p changes n).Pairwise fun a b => a.1 < b.1 := by
  induction changes generalizing n with
  | nil => exact .nil
  | cons change rest ih =>
    rw [placed_cons]
    split
    · exact List.pairwise_cons.2 ⟨fun x hx => le_of_mem_placed hx, ih (n + 1)⟩
    · exact ih (n + 1)

theorem map_snd_placed (p : α → Bool) (changes : List (Entry × α)) (n : Nat) :
    (placed p changes n).map Prod.snd = (changes.filter fun change => p change.2).map Prod.fst := by
  induction changes generalizing n with
  | nil => rfl
  | cons change rest ih =>
    rw [placed_cons, List.filter_cons]
    split
    · rw [List.map_cons, List.map_cons, ih]
    · exact ih (n + 1)

/-- Changes of two kinds, one kind behind the other, are those of either kind in another order. -/
theorem placed_append_perm (hpq : ∀ a, p a = true → q a = false) (changes : List (Entry × α))
    (n : Nat) :
    (placed p changes n ++ placed q changes n).Perm
      (placed (fun a => p a || q a) changes n) := by
  induction changes generalizing n with
  | nil => exact .refl _
  | cons change rest ih =>
    rw [placed_cons, placed_cons, placed_cons]
    cases hp : p change.2 with
    | true =>
      rw [hpq _ hp]
      exact (ih (n + 1)).cons _
    | false =>
      cases hq : q change.2 with
      | true => exact List.perm_middle.trans ((ih (n + 1)).cons _)
      | false => exact ih (n + 1)

/-- Sorting brings changes of two kinds back into the order of the batch. -/
theorem sortByPlace_placed (hpq : ∀ a, p a = true → q a = false) (changes : List (Entry × α)) :
    (sortByPlace (placed p changes 0 ++ placed q changes 0)).map Prod.snd =
      (changes.filter fun change => p change.2 || q change.2).map Prod.fst := by
  rw [sortByPlace_eq_of_perm (placed_append_perm hpq changes 0) (pairwise_placed ..),
    map_snd_placed (fun a => p a || q a)]

end Places

/-! ## The first loop -/

section Staging

def stagedAt : List (Entry × StageOutcome κ) → Nat → List (Nat × Entry × κ)
  | [], _ => []
  | (e, .staged op) :: rest, n => (n, e, op) :: stagedAt rest (n + 1)
  | (_, .notReady _) :: rest, n | (_, .done) :: rest, n | (_, .invalid _) :: rest, n =>
    stagedAt rest (n + 1)

theorem map_stagedAt (outcomes : List (Entry × StageOutcome κ)) (n : Nat) :
    (stagedAt outcomes n).map (fun change => (change.1, change.2.1)) =
      placed StageOutcome.isStaged outcomes n := by
  induction outcomes generalizing n with
  | nil => rfl
  | cons o rest ih =>
    obtain ⟨e, outcome⟩ := o
    rw [placed_cons, ← ih (n + 1)]
    cases outcome <;> rfl

theorem isEmpty_stagedAt (outcomes : List (Entry × StageOutcome κ)) (n : Nat) :
    (stagedAt outcomes n).isEmpty = !outcomes.any fun o => o.2.isStaged := by
  induction outcomes generalizing n with
  | nil => rfl
  | cons o rest ih =>
    obtain ⟨e, outcome⟩ := o
    cases outcome with
    | staged op => rfl
    | notReady | done | invalid => exact ih (n + 1)

/-- What staging adds to a summary. -/
def countStaging (summary : Summary) (outcomes : List (Entry × StageOutcome κ)) : Summary :=
  { summary with
    staged := summary.staged + outcomes.countP fun o => o.2.isStaged
    notReady := summary.notReady + outcomes.countP fun o => o.2.isNotReady
    dropped := summary.dropped + outcomes.countP fun o => o.2 matches .invalid _
    done := summary.done + outcomes.countP fun o => o.2 matches .done }

/-- The first loop finds what `stageAll` finds, and notes it at the places of the batch. -/
theorem foldl_stageNext {env : ε} {batch : List Entry} {t t' : τ}
    {outcomes : List (Entry × StageOutcome κ)} (h : ops.stageAll env batch t = (outcomes, t'))
    (summary : Summary) (requeue : Array (Nat × Entry)) (staged : Array (Nat × Entry × κ))
    (n : Nat) :
    (batch.zipIdx n).foldl (ops.stageNext env) ⟨summary, requeue, staged, t⟩ =
      ⟨countStaging summary outcomes, requeue ++ placed StageOutcome.isNotReady outcomes n,
        staged ++ stagedAt outcomes n, t'⟩ := by
  induction batch generalizing t outcomes summary requeue staged n with
  | nil =>
    cases h
    simp [countStaging, placed, stagedAt]
  | cons e rest ih =>
    obtain ⟨outcome, t₁, hstage⟩ : ∃ outcome t₁, ops.stage e env t = (outcome, t₁) := ⟨_, _, rfl⟩
    obtain ⟨later, t₂, hrest⟩ : ∃ later t₂, ops.stageAll env rest t₁ = (later, t₂) := ⟨_, _, rfl⟩
    simp only [stageAll, hstage, hrest, Prod.mk.injEq] at h
    obtain ⟨rfl, rfl⟩ := h
    rw [List.zipIdx_cons, List.foldl_cons]
    simp only [stageNext, hstage]
    cases outcome <;>
      simp [ih hrest, countStaging, placed_cons, stagedAt, StageOutcome.isStaged,
        StageOutcome.isNotReady, Nat.add_assoc, Nat.add_comm]

end Staging

/-! ## The second loop -/

section Committing

variable {outcomes : List (Entry × StageOutcome κ)} {fates : List (Entry × Fate)} {env env' : ε}
  {t t' : τ}

/-- What committing adds to a summary. -/
def countCommits (summary : Summary) (fates : List (Entry × Fate)) : Summary :=
  { summary with
    committed := summary.committed + fates.countP fun f => f.2 = .decided .commit
    retried := summary.retried + fates.countP fun f => f.2 = .decided .retry
    dropped := summary.dropped + fates.countP fun f => f.2 = .decided .drop }

/-- The second loop decides what `commitAll` decides. -/
theorem foldl_commitNext (h : ops.commitAll outcomes env t = (fates, env', t'))
    (summary : Summary) (requeue : Array (Nat × Entry)) (n : Nat) :
    (stagedAt outcomes n).foldl ops.commitNext ⟨summary, requeue, env, t⟩ =
      ⟨countCommits summary fates,
        requeue ++ placed (fun f => f = .decided .retry) fates n, env', t'⟩ := by
  induction outcomes generalizing env t fates summary requeue n with
  | nil =>
    cases h
    simp [countCommits, placed, stagedAt]
  | cons o rest ih =>
    obtain ⟨e, outcome⟩ := o
    cases outcome with
    | staged op =>
      obtain ⟨decision, env₁, t₁, hcommit⟩ :
          ∃ decision env₁ t₁, ops.commit e op env t = (decision, env₁, t₁) := ⟨_, _, _, rfl⟩
      obtain ⟨later, env₂, t₂, hrest⟩ :
          ∃ later env₂ t₂, ops.commitAll rest env₁ t₁ = (later, env₂, t₂) := ⟨_, _, _, rfl⟩
      simp only [commitAll, hcommit, hrest, Prod.mk.injEq] at h
      obtain ⟨rfl, rfl, rfl⟩ := h
      rw [stagedAt, List.foldl_cons]
      simp only [commitNext, hcommit]
      cases decision <;>
        simp [ih hrest, countCommits, placed_cons, Nat.add_assoc, Nat.add_comm]
    | notReady dependency | done | invalid error =>
      obtain ⟨later, env₂, t₂, hrest⟩ :
          ∃ later env₂ t₂, ops.commitAll rest env t = (later, env₂, t₂) := ⟨_, _, _, rfl⟩
      simp only [commitAll, hrest, Prod.mk.injEq] at h
      obtain ⟨rfl, rfl, rfl⟩ := h
      rw [stagedAt, ih hrest]
      simp [countCommits, placed_cons]

/-- Of a fate is said what is said of the outcome that it comes from. -/
structure SaidAlike {β : Type} (ofOutcome : StageOutcome κ → β) (ofFate : Fate → β) : Prop where
  staged : ∀ op decision, ofFate (.decided decision) = ofOutcome (.staged op)
  notReady : ∀ dependency, ofFate .notReady = ofOutcome (.notReady dependency)
  done : ofFate .done = ofOutcome .done
  invalid : ∀ error, ofFate .invalid = ofOutcome (.invalid error)

theorem saidAlike_staged :
    SaidAlike (κ := κ) StageOutcome.isStaged fun f => f matches .decided _ :=
  ⟨fun _ _ => rfl, fun _ => rfl, rfl, fun _ => rfl⟩

theorem saidAlike_notReady : SaidAlike (κ := κ) StageOutcome.isNotReady fun f => f = .notReady :=
  ⟨fun _ _ => rfl, fun _ => rfl, rfl, fun _ => rfl⟩

theorem saidAlike_done : SaidAlike (κ := κ) (fun o => o matches .done) fun f => f = .done :=
  ⟨fun _ _ => rfl, fun _ => rfl, rfl, fun _ => rfl⟩

theorem saidAlike_invalid :
    SaidAlike (κ := κ) (fun o => o matches .invalid _) fun f => f = .invalid :=
  ⟨fun _ _ => rfl, fun _ => rfl, rfl, fun _ => rfl⟩

theorem SaidAlike.map_commitAll {β : Type} {ofOutcome : StageOutcome κ → β} {ofFate : Fate → β}
    (hsaid : SaidAlike ofOutcome ofFate) (h : ops.commitAll outcomes env t = (fates, env', t')) :
    fates.map (fun f => (f.1, ofFate f.2)) = outcomes.map fun o => (o.1, ofOutcome o.2) := by
  obtain rfl : (ops.commitAll outcomes env t).1 = fates := congrArg Prod.fst h
  clear h
  induction outcomes generalizing env t with
  | nil => rfl
  | cons o rest ih =>
    obtain ⟨e, outcome⟩ := o
    cases outcome with
    | staged op => simp only [commitAll, List.map_cons, ih, hsaid.staged op]
    | notReady dependency => simp only [commitAll, List.map_cons, ih, hsaid.notReady dependency]
    | done => simp only [commitAll, List.map_cons, ih, hsaid.done]
    | invalid error => simp only [commitAll, List.map_cons, ih, hsaid.invalid error]

theorem placed_eq {α : Type} (p : α → Bool) (changes : List (Entry × α)) (n : Nat) :
    placed p changes n = placed id (changes.map fun x => (x.1, p x.2)) n := by
  induction changes generalizing n with
  | nil => rfl
  | cons change rest ih =>
    rw [placed_cons, ih (n + 1), List.map_cons, placed_cons]
    rfl

theorem countP_eq {α : Type} (p : α → Bool) (changes : List (Entry × α)) :
    (changes.countP fun x => p x.2) =
      (changes.map fun x => (x.1, p x.2)).countP fun x => x.2 := by
  rw [List.countP_map]
  rfl

theorem SaidAlike.countP_commitAll {ofOutcome : StageOutcome κ → Bool} {ofFate : Fate → Bool}
    (hsaid : SaidAlike ofOutcome ofFate) (h : ops.commitAll outcomes env t = (fates, env', t')) :
    (outcomes.countP fun o => ofOutcome o.2) = fates.countP fun f => ofFate f.2 := by
  rw [countP_eq, countP_eq, hsaid.map_commitAll ops h]

/-- Both loops together count the fates. -/
theorem countCommits_countStaging (h : ops.commitAll outcomes env t = (fates, env', t')) :
    countCommits (countStaging .empty outcomes) fates = .ofFates (fates.map Prod.snd) := by
  have hcount : ∀ fate : Fate, (fates.map Prod.snd).count fate =
      fates.countP fun f => f.2 = fate := by
    intro fate
    rw [List.count, List.countP_map]
    congr 1
  simp only [countCommits, countStaging, Summary.ofFates, Summary.empty, hcount,
    saidAlike_staged.countP_commitAll ops h, saidAlike_notReady.countP_commitAll ops h,
    saidAlike_invalid.countP_commitAll ops h, saidAlike_done.countP_commitAll ops h,
    List.countP_map, Nat.zero_add]
  congr 1
  exact Nat.add_comm ..

end Committing

/-! ## The pass -/

/-- What waits and what was staged is put back in the order of the batch. -/
theorem sortByPlace_unanswered (outcomes : List (Entry × StageOutcome κ)) :
    (sortByPlace (placed StageOutcome.isNotReady outcomes 0 ++
        (stagedAt outcomes 0).map fun change => (change.1, change.2.1))).map Prod.snd =
      unanswered outcomes := by
  rw [map_stagedAt, sortByPlace_placed]
  · simp only [Bool.or_comm, unanswered]
  · intro outcome h
    cases outcome with
    | notReady dependency => rfl
    | staged | done | invalid => cases h

/-- What waits and what is retried is put back in the order of the batch. -/
theorem sortByPlace_kept {outcomes : List (Entry × StageOutcome κ)} {fates : List (Entry × Fate)}
    {env env' : ε} {t t' : τ} (h : ops.commitAll outcomes env t = (fates, env', t')) :
    (sortByPlace (placed StageOutcome.isNotReady outcomes 0 ++
        placed (fun f => f = .decided .retry) fates 0)).map Prod.snd = kept fates := by
  have hplaced : placed StageOutcome.isNotReady outcomes 0 =
      placed (fun f => f = .notReady) fates 0 := by
    rw [placed_eq, ← saidAlike_notReady.map_commitAll ops h,
      ← placed_eq fun f => decide (f = Fate.notReady)]
  rw [hplaced, sortByPlace_placed, kept]
  · congr 1
    refine List.filter_congr fun f _ => ?_
    obtain ⟨e, fate⟩ := f
    cases fate with
    | decided decision => cases decision <;> rfl
    | notReady | done | invalid => rfl
  · intro fate h
    cases fate with
    | notReady => rfl
    | done | invalid | decided => cases h

/-- The two loops and the sorting of a pass do what the fates of its changes tell. -/
theorem reconcile_eq_byFates (p : Pass τ ε δ) : ops.reconcile p = ops.passByFates p := by
  obtain ⟨batch, queue, hpop⟩ : ∃ batch queue, p.queue.popBatch = (batch, queue) := ⟨_, _, rfl⟩
  obtain ⟨outcomes, t, hs⟩ : ∃ outcomes t, ops.stageAll p.env batch p.table = (outcomes, t) :=
    ⟨_, _, rfl⟩
  unfold reconcile passByFates
  rw [hpop]
  cases batch with
  | nil => rfl
  | cons e rest =>
    have hempty : ∀ {α : Type} (l : List α), (#[] : Array α) ++ l = l.toArray := by
      intro α l
      simp
    have hflush : (if (outcomes.any fun o => o.2.isStaged) = false then (.ok (), t, p.switch)
        else ops.flush t p.switch) = ops.flushStaged outcomes t p.switch := by
      unfold flushStaged
      cases outcomes.any fun o => o.2.isStaged <;> rfl
    simp only [foldl_stageNext ops hs, hs, hempty, List.isEmpty_toArray, isEmpty_stagedAt,
      Bool.not_eq_true', List.map_toArray, List.append_toArray, List.foldl_toArray, hflush]
    obtain ⟨answer, t', d', hf⟩ :
        ∃ answer t' d', ops.flushStaged outcomes t p.switch = (answer, t', d') := ⟨_, _, _, rfl⟩
    obtain ⟨fates, env, t'', hcommit⟩ :
        ∃ fates env t'', ops.commitAll outcomes p.env t' = (fates, env, t'') := ⟨_, _, _, rfl⟩
    rw [hf]
    cases answer with
    | error error => simp only [sortByPlace_unanswered]
    | ok _ =>
      simp only [foldl_commitNext ops hcommit, hcommit, countCommits_countStaging ops hcommit,
        Array.toList_appendList, sortByPlace_kept ops hcommit]

end BulkTable

end DashAgent
