import DashAgent.Context
import DashAgent.Proofs.Reconcile.Invariant
import DashAgent.Proofs.Switch.Simulator

/-!
# Conduct on a switch that grants everything

On a switch that supplies what a table asks for, a pass over valid changes fails nowhere. A
`Conduct` says what the calls of a table do there to the configurations that it has programmed. The
change of a key is then applied, with one exception: a SET may wait for a removal of its batch.
-/
namespace DashAgent

open BulkTable

variable {τ κ γ : Type}

/-- What a table does with valid changes on a switch that grants everything. -/
structure Conduct (ops : BulkTable τ κ Context Simulator) (γ : Type) where
  config? : τ → String → Option γ
  read? : Entry → Option γ
  /-- The change is well-formed and its parents are programmed. -/
  Valid : Context → Entry → Prop
  /-- The types of the objects that are created, at most one of each type for a change. -/
  types : List ObjectType
  /-- The table between passes. -/
  Tidy : τ → Prop
  /-- The table while changes are staged, so many of them with requests. -/
  Staging : Nat → τ → Prop
  /-- The table while changes are committed. -/
  Committing : τ → Prop
  Awaits : τ → Entry → κ → Prop
  Granted : τ → Entry → κ → Prop
  /-- A removal is staged that a SET may have to wait for. -/
  Removing : τ → Prop
  start : ∀ {t}, Tidy t → Staging 0 t ∧ ¬Removing t
  /-- What a change finds: a state that it asks for already, a removal that it waits for, or
  something to do. -/
  stage : ∀ {n c t e}, Staging n t → Valid c e →
    ops.stage e c t = (.done, t) ∧ (config? t e.key).isSome = decide (e.op = .set) ∨
    (∃ dependency, ops.stage e c t = (.notReady dependency, t)) ∧
      e.op = .set ∧ config? t e.key = none ∧ Removing t ∨
    ∃ op t', ops.stage e c t = (.staged op, t') ∧
      (config? t e.key).isSome = decide (e.op = .del) ∧ config? t' = config? t ∧
      Staging (n + 1) t' ∧ Awaits t' e op ∧
      (∀ {e' op'}, Awaits t e' op' → Awaits t' e' op') ∧
      (Removing t' → Removing t ∨ e.op = .del)
  idle : ∀ {n t}, Staging n t → Committing t
  flush : ∀ {n m t d}, Staging n t → (∀ type ∈ types, d.Supplies type (m + n)) →
    ∃ t' d', ops.flush t d = (.ok (), t', d') ∧ config? t' = config? t ∧ Committing t' ∧
      (∀ {e op}, Awaits t e op → Granted t' e op) ∧ ∀ type ∈ types, d'.Supplies type m
  commit : ∀ {c t e op}, Committing t → Granted t e op →
    (ops.commit e op c t).1 = .commit ∧ Committing (ops.commit e op c t).2.2 ∧
      config? (ops.commit e op c t).2.2 e.key = (if e.op = .set then read? e else none) ∧
      (∀ {key}, e.key ≠ key → config? (ops.commit e op c t).2.2 key = config? t key) ∧
      (∀ {e' op'}, Granted t e' op' → Granted (ops.commit e op c t).2.2 e' op') ∧
      ∀ {e'}, Valid c e' → Valid (ops.commit e op c t).2.1 e'
  finish : ∀ {t}, Committing t → Tidy (ops.endPass t) ∧ config? (ops.endPass t) = config? t

namespace Conduct

variable {ops : BulkTable τ κ Context Simulator} (C : Conduct ops γ)

/-- What staging finds, given the configurations before the pass. -/
def Found (before : String → Option γ) (e : Entry) : StageOutcome κ → Prop
  | .done => (before e.key).isSome = decide (e.op = .set)
  | .notReady _ => e.op = .set ∧ before e.key = none
  | .staged _ => (before e.key).isSome = decide (e.op = .del)
  | .invalid _ => False

/-- The configuration of a key after a change was found and, if staged, committed. -/
def after (before : String → Option γ) (e : Entry) (outcome : StageOutcome κ) : Option γ :=
  if outcome.isStaged then (if e.op = .set then C.read? e else none) else before e.key

/-! ## During a pass -/

variable (before : String → Option γ) (future : Nat) (c₀ : Context) (batch : List Entry)

/-- The assertion while changes are staged. As many creates as changes are still supplied, and
`future` more. -/
structure WhileStaging (outcomes : List (Entry × StageOutcome κ)) (rest : List Entry) (c : Context)
    (t : τ) (d : Simulator) : Prop where
  context : c = c₀
  valid : ∀ e ∈ rest, C.Valid c e
  config : C.config? t = before
  staging : C.Staging (outcomes.countP fun o => o.2.isStaged) t
  found : ∀ o ∈ outcomes, Found before o.1 o.2
  awaits : ∀ o ∈ outcomes, ∀ op, o.2 = .staged op → C.Awaits t o.1 op
  waiting : C.Removing t ∨ (∃ o ∈ outcomes, o.2.isNotReady = true) → ∃ o ∈ outcomes, o.1.op = .del
  supplied : ∀ type ∈ C.types, d.Supplies type (future + (outcomes.length + rest.length))
  whole : outcomes.map Prod.fst ++ rest = batch

/-- What staging found for the changes of a pass, those that are committed first. -/
def outcomesOf (courses : List (Course κ)) (rest : List (Entry × StageOutcome κ)) :
    List (Entry × StageOutcome κ) :=
  courses.map (fun course => (course.entry, course.outcome)) ++ rest

/-- The assertion while changes are committed. Creates are still supplied for the changes that were
not staged, and `future` more. -/
structure WhileCommitting (courses : List (Course κ)) (rest : List (Entry × StageOutcome κ))
    (c : Context) (t : τ) (d : Simulator) : Prop where
  valid : ∀ {e}, C.Valid c₀ e → C.Valid c e
  committing : C.Committing t
  found : ∀ o ∈ outcomesOf courses rest, Found before o.1 o.2
  waiting : (∃ o ∈ outcomesOf courses rest, o.2.isNotReady = true) → ∃ e ∈ batch, e.op = .del
  supplied : ∀ type ∈ C.types,
    d.Supplies type (future + (outcomesOf courses rest).countP fun o => !o.2.isStaged)
  whole : (outcomesOf courses rest).map Prod.fst = batch
  granted : ∀ o ∈ rest, ∀ op, o.2 = .staged op → C.Granted t o.1 op
  accepted : ∀ course ∈ courses, ∀ decision, course.fate = .decided decision → decision = .commit
  applied : ∀ course ∈ courses,
    C.config? t course.entry.key = C.after before course.entry course.outcome
  others : ∀ key, (∀ course ∈ courses, course.entry.key ≠ key) → C.config? t key = before key

variable {before future c₀ batch} {outcomes : List (Entry × StageOutcome κ)} {c : Context}
  {t t' : τ} {d d' : Simulator}

/-- A change that finds its outcome continues the staging: it keeps the configurations and the
requests that wait, and has to wait itself only for a removal. -/
theorem WhileStaging.snoc {e : Entry} {rest : List Entry}
    (h : C.WhileStaging before future c₀ batch outcomes (e :: rest) c t d)
    {outcome : StageOutcome κ} (hconfig : C.config? t' = C.config? t)
    (hstaging : C.Staging ((outcomes ++ [(e, outcome)]).countP fun o => o.2.isStaged) t')
    (hfound : Found before e outcome)
    (hkept : ∀ {e' op'}, C.Awaits t e' op' → C.Awaits t' e' op')
    (hawaits : ∀ op, outcome = .staged op → C.Awaits t' e op)
    (hwaiting : C.Removing t' ∨ outcome.isNotReady = true → C.Removing t ∨ e.op = .del) :
    C.WhileStaging before future c₀ batch (outcomes ++ [(e, outcome)]) rest c t' d where
  context := h.context
  valid e' he' := h.valid e' (List.mem_cons_of_mem _ he')
  config := hconfig.trans h.config
  staging := hstaging
  found := by
    intro o ho
    rcases List.mem_append.1 ho with ho | ho
    · exact h.found o ho
    · rw [List.mem_singleton.1 ho]
      exact hfound
  awaits := by
    intro o ho op hop
    rcases List.mem_append.1 ho with ho | ho
    · exact hkept (h.awaits o ho op hop)
    · rw [List.mem_singleton.1 ho] at hop ⊢
      exact hawaits op hop
  waiting := by
    intro hwait
    have hcause : (C.Removing t ∨ ∃ o ∈ outcomes, o.2.isNotReady = true) ∨ e.op = .del := by
      obtain hremoving | ⟨o, ho, hnot⟩ := hwait
      · exact (hwaiting (.inl hremoving)).imp .inl id
      · rcases List.mem_append.1 ho with ho | ho
        · exact .inl (.inr ⟨o, ho, hnot⟩)
        · rw [List.mem_singleton.1 ho] at hnot
          exact (hwaiting (.inr hnot)).imp .inl id
    obtain hbefore | hdel := hcause
    · obtain ⟨o, ho, hop⟩ := h.waiting hbefore
      exact ⟨o, List.mem_append_left _ ho, hop⟩
    · exact ⟨_, List.mem_append_right _ (List.mem_singleton_self _), hdel⟩
  supplied := by
    intro type htype
    have hs := h.supplied type htype
    rw [List.length_cons] at hs
    rw [List.length_append, List.length_singleton, Nat.add_assoc, Nat.add_comm 1]
    exact hs
  whole := by
    rw [← h.whole]
    simp

theorem WhileStaging.step {e : Entry} {rest : List Entry}
    (h : C.WhileStaging before future c₀ batch outcomes (e :: rest) c t d) :
    C.WhileStaging before future c₀ batch (outcomes ++ [(e, (ops.stage e c t).1)]) rest c
      (ops.stage e c t).2 d := by
  obtain ⟨hstage, hholds⟩ | ⟨⟨dependency, hstage⟩, hset, hnone, hremoving⟩ |
    ⟨op, t', hstage, hholds, hconfig, hstaging, hawaits, hkept, hremoving⟩ :=
      C.stage h.staging (h.valid e (List.mem_cons_self ..))
  · rw [hstage]
    rw [h.config] at hholds
    refine h.snoc C rfl ?_ hholds id (by simp) ?_
    · simpa [StageOutcome.isStaged] using h.staging
    · simpa [StageOutcome.isNotReady] using Or.inl
  · rw [hstage]
    rw [h.config] at hnone
    refine h.snoc C rfl ?_ ⟨hset, hnone⟩ id (by simp) fun _ => .inl hremoving
    simpa [StageOutcome.isStaged] using h.staging
  · rw [hstage]
    rw [h.config] at hholds
    refine h.snoc C hconfig ?_ hholds hkept ?_ ?_
    · simpa [StageOutcome.isStaged] using hstaging
    · intro op' hop
      cases hop
      exact hawaits
    · simpa [StageOutcome.isNotReady] using hremoving

/-- Staged and other changes make up the pass. -/
theorem countP_staged (outcomes : List (Entry × StageOutcome κ)) :
    (outcomes.countP fun o => !o.2.isStaged) + (outcomes.countP fun o => o.2.isStaged) =
      outcomes.length := by
  have hsum := List.length_eq_countP_add_countP (fun o : Entry × StageOutcome κ => o.2.isStaged)
    (l := outcomes)
  simp only [Bool.not_eq_true, Bool.decide_eq_false] at hsum
  omega

/-- The switch supplies the creates of a pass and as many more as there are other changes. -/
theorem WhileStaging.room (h : C.WhileStaging before future c₀ batch outcomes [] c t d) :
    ∀ type ∈ C.types, d.Supplies type
      (future + (outcomes.countP fun o => !o.2.isStaged) +
        outcomes.countP fun o => o.2.isStaged) := by
  intro type htype
  have hs := h.supplied type htype
  rw [Nat.add_assoc, countP_staged]
  exact hs

/-- Between staging and committing: what was staged is granted. -/
theorem WhileStaging.turn (h : C.WhileStaging before future c₀ batch outcomes [] c t d)
    (hconfig : C.config? t' = C.config? t) (hcommitting : C.Committing t')
    (hgranted : ∀ o ∈ outcomes, ∀ op, o.2 = .staged op → C.Granted t' o.1 op)
    (hsupplied : ∀ type ∈ C.types,
      d'.Supplies type (future + outcomes.countP fun o => !o.2.isStaged)) :
    C.WhileCommitting before future c₀ batch [] outcomes c t' d' where
  valid := by
    rw [h.context]
    exact id
  committing := hcommitting
  found := h.found
  waiting := by
    rintro ⟨o, ho, hnot⟩
    obtain ⟨o', ho', hop⟩ := h.waiting (.inr ⟨o, ho, hnot⟩)
    refine ⟨o'.1, ?_, hop⟩
    rw [← h.whole, List.append_nil]
    exact List.mem_map.2 ⟨o', ho', rfl⟩
  supplied := hsupplied
  whole := by
    rw [← h.whole, List.append_nil]
    rfl
  granted := hgranted
  accepted := by simp
  applied := by simp
  others := by
    intro key _
    rw [hconfig, h.config]

section Commits

variable {courses : List (Course κ)} {rest : List (Entry × StageOutcome κ)}

/-- The next change of a pass has a key of its own. -/
theorem WhileCommitting.key_ne {o : Entry × StageOutcome κ}
    (h : C.WhileCommitting before future c₀ batch courses (o :: rest) c t d)
    (hnodup : (batch.map Entry.key).Nodup) : ∀ course ∈ courses, o.1.key ≠ course.entry.key := by
  intro course hcourse heq
  rw [← h.whole, outcomesOf, List.map_append, List.map_append, List.nodup_append] at hnodup
  refine hnodup.2.2 course.entry.key ?_ o.1.key (by simp) heq.symm
  simp only [List.map_map, List.mem_map]
  exact ⟨course, hcourse, rfl⟩

/-- The outcomes of a pass stay the same from commit to commit. -/
theorem outcomesOf_snoc (courses : List (Course κ)) (course : Course κ)
    (rest : List (Entry × StageOutcome κ)) :
    outcomesOf (courses ++ [course]) rest =
      outcomesOf courses ((course.entry, course.outcome) :: rest) := by
  simp [outcomesOf]

theorem WhileCommitting.commit {e : Entry} {op : κ}
    (h : C.WhileCommitting before future c₀ batch courses ((e, .staged op) :: rest) c t d)
    (hnodup : (batch.map Entry.key).Nodup) :
    C.WhileCommitting before future c₀ batch
      (courses ++ [.staged e op (ops.commit e op c t).1]) rest (ops.commit e op c t).2.1
      (ops.commit e op c t).2.2 d := by
  have hne := h.key_ne C hnodup
  have houtcomes := outcomesOf_snoc courses (.staged e op (ops.commit e op c t).1) rest
  obtain ⟨hdecision, hcommitting, hown, hothers, hgranted, hvalid⟩ :=
    C.commit (c := c) h.committing (h.granted _ (List.mem_cons_self ..) op rfl)
  refine ⟨fun hv => hvalid (h.valid hv), hcommitting, ?_, ?_, ?_, ?_, ?_, ?_, ?_, ?_⟩
  · rw [houtcomes]
    exact h.found
  · rw [houtcomes]
    exact h.waiting
  · rw [houtcomes]
    exact h.supplied
  · rw [houtcomes]
    exact h.whole
  · intro o ho op' hop
    exact hgranted (h.granted o (List.mem_cons_of_mem _ ho) op' hop)
  · intro course hcourse decision hfate
    rcases List.mem_append.1 hcourse with hcourse | hcourse
    · exact h.accepted course hcourse decision hfate
    · rw [List.mem_singleton.1 hcourse, hdecision] at hfate
      cases hfate
      rfl
  · intro course hcourse
    rcases List.mem_append.1 hcourse with hcourse | hcourse
    · rw [hothers (hne course hcourse)]
      exact h.applied course hcourse
    · rw [List.mem_singleton.1 hcourse]
      exact hown
  · intro key hkey
    have hkey' : e.key ≠ key :=
      hkey (.staged e op (ops.commit e op c t).1)
        (List.mem_append_right _ (List.mem_singleton_self _))
    rw [hothers hkey']
    exact h.others key fun course hcourse => hkey course (List.mem_append_left _ hcourse)

theorem WhileCommitting.skip {course : Course κ} (hunstaged : course.outcome.isStaged = false)
    (h : C.WhileCommitting before future c₀ batch courses ((course.entry, course.outcome) :: rest)
      c t d) (hnodup : (batch.map Entry.key).Nodup) :
    C.WhileCommitting before future c₀ batch (courses ++ [course]) rest c t d := by
  have hne := h.key_ne C hnodup
  have houtcomes := outcomesOf_snoc courses course rest
  refine ⟨h.valid, h.committing, ?_, ?_, ?_, ?_, ?_, ?_, ?_, ?_⟩
  · rw [houtcomes]
    exact h.found
  · rw [houtcomes]
    exact h.waiting
  · rw [houtcomes]
    exact h.supplied
  · rw [houtcomes]
    exact h.whole
  · exact fun o ho => h.granted o (List.mem_cons_of_mem _ ho)
  · intro course' hcourse decision hfate
    rcases List.mem_append.1 hcourse with hcourse | hcourse
    · exact h.accepted course' hcourse decision hfate
    · rw [List.mem_singleton.1 hcourse] at hfate
      cases course with
      | staged e op decision' => cases hunstaged
      | notReady e dependency | done e | invalid e error => cases hfate
  · intro course' hcourse
    rcases List.mem_append.1 hcourse with hcourse | hcourse
    · exact h.applied course' hcourse
    · rw [List.mem_singleton.1 hcourse, after, hunstaged]
      exact h.others _ fun course' hcourse' => (hne course' hcourse').symm
  · intro key hkey
    exact h.others key fun course' hcourse => hkey course' (List.mem_append_left _ hcourse)

end Commits

def invariant (before : String → Option γ) (future : Nat) (c₀ : Context) {batch : List Entry}
    (hnodup : (batch.map Entry.key).Nodup) : PassInvariant ops where
  staging := C.WhileStaging before future c₀ batch
  committing := C.WhileCommitting before future c₀ batch
  answered courses c t d :=
    ∃ t', t = ops.endPass t' ∧ C.WhileCommitting before future c₀ batch courses [] c t' d
  unanswered _ _ _ := False
  stage h := h.step C
  idle := by
    intro outcomes c t d h hidle
    have hnone : (outcomes.countP fun o => o.2.isStaged) = 0 := by
      rw [List.countP_eq_zero]
      intro o ho
      rw [hidle o ho]
      exact Bool.false_ne_true
    refine h.turn C rfl (C.idle h.staging) ?_ ?_
    · intro o ho op hop
      have hunstaged := hidle o ho
      rw [hop] at hunstaged
      cases hunstaged
    · intro type htype
      have hs := h.room C type htype
      rw [hnone] at hs
      exact hs
  flush := by
    intro outcomes c t d t' d' h hflush
    obtain ⟨t'', d'', hflush', hconfig, hcommitting, hgranted, hsupplied⟩ :=
      C.flush h.staging (h.room C)
    rw [hflush] at hflush'
    cases hflush'
    exact h.turn C hconfig hcommitting
      (fun o ho op hop => hgranted (h.awaits o ho op hop)) hsupplied
  failure := by
    intro outcomes c t d error t' d' h hflush
    obtain ⟨t'', d'', hflush', -⟩ := C.flush h.staging (h.room C)
    rw [hflush] at hflush'
    cases hflush'
  commit h := h.commit C hnodup
  skip hunstaged h := h.skip C hunstaged hnodup
  finish h := ⟨_, rfl, h⟩

/-! ## A pass -/

/-- What the last change of a key makes of the configuration that it met. -/
def target (last : Option Entry) (base : Option γ) : Option γ :=
  last.elim base fun e => if e.op = .set then base.or (C.read? e) else none

/-- A table before a pass that will not fail: nothing is left of the pass before, the changes that
are pending or still to come are valid and fit into one batch, and the switch supplies them all. -/
structure Ready (toCome : List Entry) (p : Pass τ Context Simulator) : Prop where
  tidy : C.Tidy p.table
  pending : ∀ e ∈ p.queue.entries, C.Valid p.env e
  arriving : ∀ e ∈ toCome, C.Valid p.env e
  supplied : ∀ type ∈ C.types, p.switch.Supplies type (toCome.length + p.queue.entries.length)
  batch : toCome.length + p.queue.entries.length ≤ p.queue.batchSize

/-- What a pass does for one key: it applies the pending change, if there is one, or leaves a SET
pending that waits for a removal of the batch. -/
def Turn (p p' : Pass τ Context Simulator) (key : String) : Prop :=
  p'.queue.pending? key = none ∧
      C.config? p'.table key = C.target (p.queue.pending? key) (C.config? p.table key) ∨
    p'.queue.pending? key = p.queue.pending? key ∧
      C.config? p'.table key = C.config? p.table key ∧
      (∃ e, p.queue.pending? key = some e ∧ e.op = .set) ∧ ∃ e ∈ p.queue.entries, e.op = .del

section Outcome

variable {courses : List (Course κ)} {p : Pass τ Context Simulator}

/-- Of the changes of a pass only those are kept that were not staged. -/
theorem notReady_of_isKept {course : Course κ}
    (h : C.WhileCommitting before future c₀ batch courses [] c t d) (hcourse : course ∈ courses)
    (hkept : course.fate.isKept = true) :
    course.outcome.isNotReady = true ∧ course.outcome.isStaged = false := by
  cases course with
  | staged e op decision =>
    have hcommit := h.accepted _ hcourse decision rfl
    rw [hcommit] at hkept
    cases hkept
  | notReady e dependency => exact ⟨rfl, rfl⟩
  | done e | invalid e error => cases hkept

/-- A change that is not kept is applied. -/
theorem applied_of_not_kept {course : Course κ}
    (h : C.WhileCommitting before future c₀ batch courses [] c t d) (hcourse : course ∈ courses)
    (hkept : course.fate.isKept = false) :
    C.config? t course.entry.key = C.target (some course.entry) (before course.entry.key) := by
  have hfound : Found before course.entry course.outcome := by
    apply h.found (course.entry, course.outcome)
    simp only [outcomesOf, List.append_nil, List.mem_map]
    exact ⟨course, hcourse, rfl⟩
  rw [h.applied course hcourse]
  cases course with
  | staged e op decision =>
    have hsome : (before e.key).isSome = decide (e.op = .del) := hfound
    cases hop : e.op with
    | set =>
      have hnone : before e.key = none := by simpa [hop] using hsome
      simp [after, target, Course.entry, Course.outcome, StageOutcome.isStaged, hop, hnone]
    | del => simp [after, target, Course.entry, Course.outcome, StageOutcome.isStaged, hop]
  | done e =>
    have hsome : (before e.key).isSome = decide (e.op = .set) := hfound
    cases hop : e.op with
    | set =>
      obtain ⟨config, hconfig⟩ : ∃ config, before e.key = some config := by
        simpa [hop, Option.isSome_iff_exists] using hsome
      simp [after, target, Course.entry, Course.outcome, StageOutcome.isStaged, hop, hconfig]
    | del =>
      have hnone : before e.key = none := by simpa [hop] using hsome
      simp [after, target, Course.entry, Course.outcome, StageOutcome.isStaged, hop, hnone]
  | notReady e dependency => cases hkept
  | invalid e error => exact False.elim hfound

/-- A change that is kept is a SET, and waits for a removal of the batch. -/
theorem waits_of_kept {course : Course κ}
    (h : C.WhileCommitting before future c₀ batch courses [] c t d) (hcourse : course ∈ courses)
    (hkept : course.fate.isKept = true) :
    C.config? t course.entry.key = before course.entry.key ∧ course.entry.op = .set ∧
      ∃ e ∈ batch, e.op = .del := by
  obtain ⟨hnot, hunstaged⟩ := C.notReady_of_isKept h hcourse hkept
  have hin : (course.entry, course.outcome) ∈ outcomesOf courses [] := by
    simp only [outcomesOf, List.append_nil, List.mem_map]
    exact ⟨course, hcourse, rfl⟩
  have hfound := h.found _ hin
  have happlied := h.applied course hcourse
  rw [after, hunstaged] at happlied
  refine ⟨happlied, ?_, h.waiting ⟨_, hin, hnot⟩⟩
  cases course with
  | notReady e dependency => exact hfound.1
  | staged e op decision | done e | invalid e error => cases hnot

/-- The turns of the keys in a pass that has ended. -/
theorem turn_of_whileCommitting {p' : Pass τ Context Simulator}
    (h : C.WhileCommitting (C.config? p.table) future c₀ batch courses [] c t d)
    (hbatch : p.queue.entries = batch) (hentries : p'.queue.entries = keptEntries courses)
    (hconfig : C.config? p'.table = C.config? t) (key : String) : C.Turn p p' key := by
  have hcourses : courses.map Course.entry = p.queue.entries := by
    rw [hbatch, ← h.whole, outcomesOf, List.append_nil, List.map_map]
    rfl
  have hkept : ∀ e, e ∈ p'.queue.entries ↔
      ∃ course ∈ courses, course.fate.isKept = true ∧ course.entry = e := by
    intro e
    simp only [hentries, keptEntries, List.mem_map, List.mem_filter, and_assoc]
  have hsub : ∀ e ∈ p'.queue.entries, e ∈ p.queue.entries := by
    intro e he
    obtain ⟨course, hcourse, -, rfl⟩ := (hkept e).1 he
    rw [← hcourses]
    exact List.mem_map_of_mem hcourse
  rw [Turn, hconfig]
  cases hpending : p.queue.pending? key with
  | none =>
    have hnone := ChangeQueue.pending?_eq_none_iff.1 hpending
    refine .inl ⟨ChangeQueue.pending?_eq_none_iff.2 fun e he => hnone e (hsub e he), ?_⟩
    apply h.others
    intro course hcourse
    apply hnone
    rw [← hcourses]
    exact List.mem_map_of_mem hcourse
  | some e =>
    obtain ⟨hmem, rfl⟩ := ChangeQueue.pending?_eq_some_iff.1 hpending
    by_cases hstays : e ∈ p'.queue.entries
    · right
      obtain ⟨course, hcourse, hfate, rfl⟩ := (hkept e).1 hstays
      obtain ⟨hsame, hset, hdel⟩ := C.waits_of_kept h hcourse hfate
      rw [hbatch]
      exact ⟨ChangeQueue.pending?_eq_some_iff.2 ⟨hstays, rfl⟩, hsame, ⟨_, rfl, hset⟩, hdel⟩
    · left
      constructor
      · rw [ChangeQueue.pending?_eq_none_iff]
        intro e' he' heq
        have hsame := ChangeQueue.pending?_eq_some_iff.2 ⟨hsub e' he', heq⟩
        rw [hpending] at hsame
        cases hsame
        exact hstays he'
      · rw [← hcourses, List.mem_map] at hmem
        obtain ⟨course, hcourse, rfl⟩ := hmem
        refine C.applied_of_not_kept h hcourse ?_
        rw [hkept] at hstays
        cases hfate : course.fate.isKept with
        | false => rfl
        | true => exact absurd ⟨course, hcourse, hfate, rfl⟩ hstays

/-- As many changes are kept as were not staged, at most. -/
theorem length_keptEntries_le
    (h : C.WhileCommitting before future c₀ batch courses [] c t d) :
    (keptEntries courses).length ≤
      (outcomesOf courses []).countP fun o => !o.2.isStaged := by
  rw [keptEntries, List.length_map, ← List.countP_eq_length_filter, outcomesOf, List.append_nil,
    List.countP_map]
  apply List.countP_mono_left
  intro course hcourse hkept
  have hunstaged := (C.notReady_of_isKept h hcourse hkept).2
  simp [hunstaged]

end Outcome

/-- A pass that will not fail applies its changes, or leaves some SETs waiting, and the next one
will not fail either. What is not left waiting counts as consumed. -/
theorem reconcile {toCome : List Entry} {p : Pass τ Context Simulator} (h : C.Ready toCome p) :
    ∃ summary, (ops.reconcile p).1 = .ok summary ∧ C.Ready toCome (ops.reconcile p).2 ∧
      (∀ key, C.Turn p (ops.reconcile p).2 key) ∧
      summary.consumed + (ops.reconcile p).2.queue.entries.length = p.queue.entries.length := by
  by_cases hne : p.queue.entries = []
  · rw [reconcile_idle hne]
    refine ⟨.empty, rfl, h, ?_, by simp [Summary.consumed, Summary.empty]⟩
    intro key
    have hnone : p.queue.pending? key = none := by
      rw [ChangeQueue.pending?_eq_none_iff, hne]
      simp
    exact .inl ⟨hnone, by rw [hnone]; rfl⟩
  · have htake : p.queue.entries.take p.queue.batchSize = p.queue.entries :=
      List.take_of_length_le (Nat.le_trans (Nat.le_add_left ..) h.batch)
    have hdrop : p.queue.entries.drop p.queue.batchSize = [] :=
      List.drop_eq_nil_of_le (Nat.le_trans (Nat.le_add_left ..) h.batch)
    obtain ⟨hstaging, hremoving⟩ := C.start h.tidy
    have hstart : (C.invariant (C.config? p.table) toCome.length p.env
        p.queue.nodup_entries).staging [] (p.queue.entries.take p.queue.batchSize) p.env p.table
          p.switch := by
      rw [htake]
      refine ⟨rfl, h.pending, rfl, hstaging, by simp, by simp, ?_, ?_, rfl⟩
      · rintro (hwait | ⟨o, ho, -⟩)
        · exact absurd hwait hremoving
        · cases ho
      · intro type htype
        have hs := h.supplied type htype
        rw [List.length_nil, Nat.zero_add]
        exact hs
    obtain ⟨summary, courses, hanswer, hcounted, hbatch, hentries, t, htable, hend⟩ |
      ⟨_, -, hfalse⟩ := PassInvariant.reconcile _ hne hstart
    · obtain ⟨htidy, hconfig⟩ := C.finish hend.committing
      rw [← htable] at htidy hconfig
      rw [hdrop, List.append_nil] at hentries
      have hkept := C.length_keptEntries_le hend
      have hlength : courses.length = p.queue.entries.length := by
        rw [← List.length_map, hbatch, htake]
      have hleaving := hcounted.leaving
      refine ⟨summary, hanswer, ⟨htidy, ?_, ?_, ?_, ?_⟩, ?_, ?_⟩
      · intro e he
        apply hend.valid
        apply h.pending
        rw [hentries, keptEntries, List.mem_map] at he
        obtain ⟨course, hcourse, rfl⟩ := he
        rw [← htake, ← hbatch]
        exact List.mem_map_of_mem (List.mem_filter.1 hcourse).1
      · exact fun e he => hend.valid (h.arriving e he)
      · intro type htype
        apply (hend.supplied type htype).mono
        rw [hentries]
        omega
      · have hroom := h.batch
        have hle : (keptEntries courses).length ≤ courses.length := by
          rw [keptEntries, List.length_map]
          exact List.length_filter_le ..
        rw [batchSize_reconcile, hentries]
        omega
      · exact C.turn_of_whileCommitting hend rfl hentries hconfig
      · have hrequeued : summary.requeued = (keptEntries courses).length := hcounted.requeued
        rw [hentries]
        omega
    · exact False.elim hfalse

end Conduct

end DashAgent
