import DashAgent.Proofs.Overlay.GatePass
import DashAgent.Proofs.Overlay.MappingNames
import DashAgent.Proofs.Overlay.PaPass

/-!
# Requests for PA validation entries

Changes of one pass share the requests for a PA validation entry. An entry that is there is kept by
all of them, up to a remove by the last one; for an entry that is not there the first one stages a
create, whose answer the others share. So a pass makes one request for an entry at most, and the
answer to it tells what becomes of the entry, on the switch and in the table.
-/
namespace DashAgent.MappingTable

/-! ## Tasks -/

def paObject? (es : Table String PaRecord) (pa : String) : Option (Oid .vnet × IpAddress) :=
  (es.get? pa).map fun p => (p.vnetId, p.underlayIp)

def paObjectKey (v : Oid .vnet × IpAddress) : ObjectKey := .entry (paValidationEntryKey v.1 v.2)

/-- What a staged change does to a PA validation entry. -/
structure PaTask where
  action : PaAction
  position : Nat
  mapping : MappingRecord

namespace PaTask

/-- The entry that an acquire records where there is none. -/
def object (task : PaTask) : Oid .vnet × IpAddress :=
  (task.mapping.vnetId, task.mapping.config.underlayIp)

/-- The entry after a task that was accepted. -/
def step (task : PaTask) (old : Option (Oid .vnet × IpAddress)) :
    Option (Oid .vnet × IpAddress) :=
  match task.action with
  | .acquire => some (old.getD task.object)
  | .release => old
  | .remove => none

/-- The slot of the task was answered with the state that the task asks for. -/
def accepted (s : BulkStager) (task : PaTask) : Bool :=
  Decision.ofStatus task.action.kind (s.outcome task.position) = .commit

def Firm (slots : List Slot) (task : PaTask) : Prop :=
  slots[task.position]? = some (.settled .success)

end PaTask

/-- The entry after its tasks, by their answers. -/
def performed (s : BulkStager) :
    List PaTask → Option (Oid .vnet × IpAddress) → Option (Oid .vnet × IpAddress)
  | [], old => old
  | task :: rest, old => performed s rest (if task.accepted s then task.step old else old)

theorem performed_append (s : BulkStager) (front rest : List PaTask)
    (old : Option (Oid .vnet × IpAddress)) :
    performed s (front ++ rest) old = performed s rest (performed s front old) := by
  induction front generalizing old with
  | nil => rfl
  | cons task front ih => exact ih _

def taskOn (pa : String) (o : Entry × StageOutcome MappingOp) : Option PaTask :=
  o.2.op?.bind fun op =>
    if paOf o.1.key op = pa then op.pa.map fun (action, position) => ⟨action, position, op.mapping⟩
    else none

/-- The tasks of an entry, in the order of their commits. -/
def tasks (pa : String) (outcomes : List (Entry × StageOutcome MappingOp)) : List PaTask :=
  outcomes.filterMap (taskOn pa)

section Tasks

variable {pa : String} {e : Entry} {op : MappingOp}

theorem taskOn_staged : taskOn (paOf e.key op) (e, .staged op) =
    op.pa.map fun (action, position) => ⟨action, position, op.mapping⟩ := by
  simp [taskOn, StageOutcome.op?]

theorem taskOn_of_ne (h : paOf e.key op ≠ pa) : taskOn pa (e, .staged op) = none := by
  simp [taskOn, StageOutcome.op?, h]

theorem taskOn_of_unstaged {outcome : StageOutcome MappingOp} (h : outcome.isStaged = false) :
    taskOn pa (e, outcome) = none := by
  cases outcome with
  | staged op => cases h
  | notReady dependency | done | invalid error => rfl

theorem tasks_cons (o : Entry × StageOutcome MappingOp)
    (rest : List (Entry × StageOutcome MappingOp)) :
    tasks pa (o :: rest) = (taskOn pa o).toList ++ tasks pa rest := by
  rw [tasks, List.filterMap_cons, tasks]
  cases taskOn pa o <;> rfl

theorem tasks_snoc (outcomes : List (Entry × StageOutcome MappingOp))
    (o : Entry × StageOutcome MappingOp) :
    tasks pa (outcomes ++ [o]) = tasks pa outcomes ++ (taskOn pa o).toList := by
  rw [tasks, List.filterMap_append, tasks, ← List.append_nil (taskOn pa o).toList]
  exact congrArg _ (tasks_cons o [])

/-- The tasks of an entry are those of changes that stand under its name. -/
theorem recorded_of_task {admitted : String → Prop} {names : String → Oid .vnet → Prop}
    {outcomes : List (Entry × StageOutcome MappingOp)} {task : PaTask}
    (hplaced : ∀ {e op}, (e, .staged op) ∈ outcomes → Placed admitted names e.key op.mapping)
    (h : task ∈ tasks pa outcomes) : Recorded names pa task.object.1 task.object.2 := by
  obtain ⟨⟨e, outcome⟩, hmem, htask⟩ := List.mem_filterMap.1 h
  cases outcome with
  | notReady dependency | done | invalid error => cases htask
  | staged op =>
    by_cases hpa : paOf e.key op = pa
    · subst hpa
      rw [taskOn_staged, Option.map_eq_some_iff] at htask
      obtain ⟨_, -, rfl⟩ := htask
      exact (hplaced hmem).recorded
    · rw [taskOn_of_ne hpa] at htask
      cases htask

end Tasks

/-! ## Committing -/

theorem paObject?_paStep (es : Table String PaRecord) (pa : String) (task : PaTask) :
    paObject? (paStep es pa task.mapping task.action) pa = task.step (paObject? es pa) := by
  obtain ⟨action, position, m⟩ := task
  cases action with
  | acquire =>
    simp only [paStep, PaTask.step]
    split
    · next hcontains =>
      obtain ⟨p, hp⟩ := Option.isSome_iff_exists.1 (Table.contains_eq_isSome es pa ▸ hcontains)
      simp only [paObject?, Table.get?_modify, if_pos, hp, Option.map_some, Option.getD_some,
        Referenced.acquired]
      split <;> rfl
    · next habsent =>
      rw [Table.contains_eq_isSome, Bool.not_eq_true, Option.isSome_eq_false_iff,
        Option.isNone_iff_eq_none] at habsent
      simp only [paObject?, Table.get?_insert_self, habsent, Option.map_some, Option.map_none,
        Option.getD_none]
      rfl
  | release =>
    simp only [paStep, PaTask.step, Table.release]
    split
    · rfl
    · next p hp =>
      split
      · rfl
      · next p' hreleased =>
        simp only [Referenced.released?] at hreleased
        split at hreleased
        · cases hreleased
        · cases hreleased
          simp only [Except.toOption, Option.getD_some, paObject?, Table.get?_modify, if_pos, hp,
            Option.map_some]
  | remove =>
    simp only [paStep, PaTask.step]
    split
    · simp [paObject?]
    · next habsent =>
      rw [Table.contains_eq_isSome, Bool.not_eq_true, Option.isSome_eq_false_iff,
        Option.isNone_iff_eq_none] at habsent
      rw [paObject?, habsent, Option.map_none]

/-- A commit performs the task of its change. -/
theorem paObject?_commit (t : MappingTable) (e : Entry) (op : MappingOp) (c : Context)
    (pa : String) :
    paObject? (t.commit e op c).2.2.paEntries pa =
      performed t.paStager (taskOn pa (e, .staged op)).toList (paObject? t.paEntries pa) := by
  rw [commit_eq]
  by_cases hpa : paOf e.key op = pa
  case neg =>
    rw [taskOn_of_ne hpa]
    cases t.paAccepted? op with
    | none => rfl
    | some action =>
      simp only [Option.elim_some, paObject?]
      rw [get?_paStep_of_ne hpa action]
      rfl
  subst hpa
  rw [taskOn_staged]
  cases hop : op.pa with
  | none =>
    have hnone : t.paAccepted? op = none := by simp [paAccepted?, hop]
    simp [hnone, performed]
  | some staged =>
    obtain ⟨action, position⟩ := staged
    rw [Option.map_some, Option.toList_some, performed, performed]
    by_cases hd : Decision.ofStatus action.kind (t.paStager.outcome position) = .commit
    · have haccepted : t.paAccepted? op = some action := by simp [paAccepted?, hop, hd]
      rw [haccepted, Option.elim_some, if_pos (by simp [PaTask.accepted, hd])]
      exact paObject?_paStep t.paEntries _ ⟨action, position, op.mapping⟩
    · have hrefused : t.paAccepted? op = none := by simp [paAccepted?, hop, hd]
      rw [hrefused, if_neg (by simp [PaTask.accepted, hd])]
      rfl

/-! ## Staging -/

/-- The tasks that a pass has staged for an entry, and what their slots ask for: an entry that is
there is kept by all tasks but a remove at the end, and for an entry that is not there the first
task stages a create for all. -/
inductive Course (slots : List Slot) (p : PaPass) :
    Option (Oid .vnet × IpAddress) → List PaTask → Prop where
  | held (v : Oid .vnet × IpAddress) (tasks : List PaTask) :
    (∀ task ∈ tasks, task.Firm slots ∧ task.action ≠ .remove) → Course slots p (some v) tasks
  | removed (v : Oid .vnet × IpAddress) (front : List PaTask) (last : PaTask) :
    (∀ task ∈ front, task.Firm slots ∧ task.action ≠ .remove) → last.action = .remove →
    p.removing = true → slots[last.position]? = some (.remove (paObjectKey last.object) none) →
    Course slots p (some v) (front ++ [last])
  | absent : p.creating = none → Course slots p none []
  | created (first : PaTask) (rest : List PaTask) :
    (∀ task ∈ first :: rest, task.action = .acquire ∧ task.position = first.position) →
    p.creating = some first.position →
    slots[first.position]? = some (.create
      ⟨some (paValidationEntryKey first.object.1 first.object.2), []⟩ none) →
    Course slots p none (first :: rest)

theorem Course.mono {slots slots' : List Slot} {p : PaPass} {old : Option (Oid .vnet × IpAddress)}
    {tasks : List PaTask} (h : Course slots p old tasks)
    (hslots : ∀ {i : Nat} {slot}, slots[i]? = some slot → slots'[i]? = some slot) :
    Course slots' p old tasks := by
  cases h with
  | held v _ hfirm => exact .held v _ fun task ht => ⟨hslots (hfirm task ht).1, (hfirm task ht).2⟩
  | removed v front last hfirm hlast hremoving hslot =>
    exact .removed v front last (fun task ht => ⟨hslots (hfirm task ht).1, (hfirm task ht).2⟩)
      hlast hremoving (hslots hslot)
  | absent hcreating => exact .absent hcreating
  | created first rest hall hcreating hslot =>
    exact .created first rest hall hcreating (hslots hslot)

/-- The assertion while changes are staged: the slots are those of the tasks of some entry each. -/
structure PaTasking (outcomes : List (Entry × StageOutcome MappingOp)) (t : MappingTable) :
    Prop where
  unanswered : t.paStager.Unanswered
  courses : ∀ pa, Course t.paStager.slots (t.passOf pa) (paObject? t.paEntries pa)
    (tasks pa outcomes)
  owned : ∀ {i slot}, t.paStager.slots[i]? = some slot →
    ∃ pa, ∃ task ∈ tasks pa outcomes, task.position = i

theorem paTasking_start {t : MappingTable} (hslots : t.paStager.slots = [])
    (hpass : t.pass = .empty) : PaTasking [] t where
  unanswered := by simp [BulkStager.Unanswered, hslots]
  courses pa := by
    cases paObject? t.paEntries pa with
    | none => exact .absent (by simp [passOf, hpass, PaPass.idle])
    | some v => exact .held v [] (by simp)
  owned h := by simp [hslots] at h

/-- The slot that an acquire or a release stages, where it stages one, and what it remembers. -/
structure Extended (t : MappingTable) (pa : String) (position : Nat) (t' : MappingTable) :
    Prop where
  entries : t'.paEntries = t.paEntries
  others : ∀ {pa'}, pa ≠ pa' → t'.passOf pa' = t.passOf pa'
  slots : t'.paStager.slots = t.paStager.slots ∨
    ∃ slot, slot.question = slot ∧ position = t.paStager.slots.length ∧
      t'.paStager.slots = t.paStager.slots ++ [slot]

theorem Extended.getElem? {t t' : MappingTable} {pa : String} {position i : Nat} {slot : Slot}
    (h : Extended t pa position t') (hslot : t.paStager.slots[i]? = some slot) :
    t'.paStager.slots[i]? = some slot := by
  obtain hsame | ⟨_, -, -, hmore⟩ := h.slots
  · rw [hsame, hslot]
  · rw [hmore, List.getElem?_append_left (List.getElem?_eq_some_iff.1 hslot).1, hslot]

theorem extended_stageAcquire (t : MappingTable) (pa : String) (m : MappingRecord) :
    Extended t pa (t.stageAcquire pa m).1 (t.stageAcquire pa m).2 := by
  refine ⟨(stageAcquire_frame t pa m).2, fun h => passOf_stageAcquire_of_ne h, ?_⟩
  have hspec := stageAcquire_spec t pa m
  generalize t.stageAcquire pa m = result at hspec ⊢
  cases hspec with
  | shared => exact .inl rfl
  | present | created => exact .inr ⟨_, rfl, rfl, rfl⟩

theorem extended_stageRelease (t : MappingTable) (pa : String) (m : MappingRecord) :
    Extended t pa (t.stageRelease pa m).1.2 (t.stageRelease pa m).2 := by
  refine ⟨(stageRelease_frame t pa m).2, fun h => passOf_stageRelease_of_ne h, ?_⟩
  have hspec := stageRelease_spec t pa m
  generalize t.stageRelease pa m = result at hspec ⊢
  cases hspec <;> exact .inr ⟨_, rfl, rfl, rfl⟩

section Stage

variable {t : MappingTable} {pa : String} {m : MappingRecord} {staged : List PaTask}

/-- Staging an acquire continues the course of its entry. -/
theorem course_stageAcquire
    (h : Course t.paStager.slots (t.passOf pa) (paObject? t.paEntries pa) staged)
    (hfree : (t.passOf pa).removing = false) :
    Course (t.stageAcquire pa m).2.paStager.slots ((t.stageAcquire pa m).2.passOf pa)
      (paObject? t.paEntries pa) (staged ++ [⟨.acquire, (t.stageAcquire pa m).1, m⟩]) := by
  have hmono : ∀ {i : ℕ} {slot : Slot}, t.paStager.slots[i]? = some slot →
      (t.stageAcquire pa m).2.paStager.slots[i]? = some slot :=
    (extended_stageAcquire t pa m).getElem?
  have hcontains : t.paEntries.contains pa = (paObject? t.paEntries pa).isSome := by
    rw [Table.contains_eq_isSome, paObject?, Option.isSome_map]
  have hspec := stageAcquire_spec t pa m
  generalize t.stageAcquire pa m = result at hmono hspec ⊢
  generalize paObject? t.paEntries pa = old at h hcontains ⊢
  cases h with
  | held v _ hfirm =>
    cases hspec with
    | present =>
      refine .held v _ fun task ht => ?_
      rcases List.mem_append.1 ht with ht | ht
      · exact ⟨hmono (hfirm task ht).1, (hfirm task ht).2⟩
      · rw [List.mem_singleton.1 ht]
        simp [PaTask.Firm, remembering, BulkStager.push]
    | shared _ habsent | created habsent => cases hcontains.symm.trans habsent
  | removed v front last hfirm hlast hremoving hslot =>
    rw [hfree] at hremoving
    cases hremoving
  | absent hcreating =>
    cases hspec with
    | created =>
      refine .created _ [] (by simp) (by rw [passOf_remembering_self]) ?_
      simp [remembering, BulkStager.push, PaTask.object]
    | present hpresent => cases hcontains.symm.trans hpresent
    | shared _ _ hshared => cases hcreating.symm.trans hshared
  | created first rest hall hcreating hslot =>
    cases hspec with
    | shared position _ hshared =>
      cases hcreating.symm.trans hshared
      refine .created first (rest ++ [⟨.acquire, first.position, m⟩]) ?_ ?_ hslot
      case refine_2 => rw [passOf_remembering_self]; exact hcreating
      intro task ht
      rw [List.mem_cons, List.mem_append, List.mem_singleton] at ht
      rcases ht with rfl | ht | rfl
      · exact hall _ (List.mem_cons_self ..)
      · exact hall _ (List.mem_cons_of_mem _ ht)
      · exact ⟨rfl, rfl⟩
    | present hpresent => cases hcontains.symm.trans hpresent
    | created _ hunshared => cases hcreating.symm.trans hunshared

/-- Staging a release continues the course of its entry, which is there. -/
theorem course_stageRelease
    (h : Course t.paStager.slots (t.passOf pa) (paObject? t.paEntries pa) staged)
    (hfree : (t.passOf pa).removing = false) (hpresent : t.paEntries.contains pa = true) :
    Course (t.stageRelease pa m).2.paStager.slots ((t.stageRelease pa m).2.passOf pa)
      (paObject? t.paEntries pa)
      (staged ++ [⟨(t.stageRelease pa m).1.1, (t.stageRelease pa m).1.2, m⟩]) := by
  have hmono : ∀ {i : ℕ} {slot : Slot}, t.paStager.slots[i]? = some slot →
      (t.stageRelease pa m).2.paStager.slots[i]? = some slot :=
    (extended_stageRelease t pa m).getElem?
  have hsome : (paObject? t.paEntries pa).isSome = true := by
    rw [paObject?, Option.isSome_map, ← Table.contains_eq_isSome, hpresent]
  have hspec := stageRelease_spec t pa m
  generalize t.stageRelease pa m = result at hmono hspec ⊢
  generalize paObject? t.paEntries pa = old at h hsome ⊢
  cases h with
  | held v _ hfirm =>
    cases hspec with
    | shared =>
      refine .held v _ fun task ht => ?_
      rcases List.mem_append.1 ht with ht | ht
      · exact ⟨hmono (hfirm task ht).1, (hfirm task ht).2⟩
      · rw [List.mem_singleton.1 ht]
        simp [PaTask.Firm, remembering, BulkStager.push]
    | last =>
      refine .removed v _ _ (fun task ht => ⟨hmono (hfirm task ht).1, (hfirm task ht).2⟩) rfl
        (by rw [passOf_remembering_self]) ?_
      simp [remembering, BulkStager.push, PaTask.object, paObjectKey]
  | removed v front last hfirm hlast hremoving hslot =>
    rw [hfree] at hremoving
    cases hremoving
  | absent | created => cases hsome

end Stage

/-- What is staged besides requests for CA-to-PA entries continues all courses. -/
theorem PaTasking.extend {t t' : MappingTable} {s : BulkStager} {e : Entry} {op : MappingOp}
    {outcomes : List (Entry × StageOutcome MappingOp)} (h : PaTasking outcomes t) (task : PaTask)
    (hop : op.pa = some (task.action, task.position)) (hm : op.mapping = task.mapping)
    (hextended : Extended { t with caToPaStager := s } (paOf e.key op) task.position t')
    (hcourse : Course t'.paStager.slots (t'.passOf (paOf e.key op))
      (paObject? t.paEntries (paOf e.key op)) (tasks (paOf e.key op) outcomes ++ [task])) :
    PaTasking (outcomes ++ [(e, .staged op)]) t' := by
  have htask : taskOn (paOf e.key op) (e, .staged op) = some task := by
    rw [taskOn_staged, hop, hm]
    rfl
  constructor
  case unanswered =>
    intro slot hslot
    obtain hsame | ⟨slot', hquestion, -, hmore⟩ := hextended.slots
    · rw [hsame] at hslot
      exact h.unanswered slot hslot
    · rw [hmore, List.mem_append, List.mem_singleton] at hslot
      obtain hslot | rfl := hslot
      · exact h.unanswered slot hslot
      · exact hquestion
  case courses =>
    intro pa
    rw [show t'.paEntries = t.paEntries from hextended.entries, tasks_snoc]
    by_cases hpa : paOf e.key op = pa
    · subst hpa
      rw [htask]
      exact hcourse
    · rw [taskOn_of_ne hpa, Option.toList_none, List.append_nil,
        show t'.passOf pa = t.passOf pa from hextended.others hpa]
      exact (h.courses pa).mono fun hslot => hextended.getElem? hslot
  case owned =>
    intro i slot hslot
    have hmore : ∀ {pa task}, task ∈ tasks pa outcomes →
        task ∈ tasks pa (outcomes ++ [(e, .staged op)]) := by
      intro pa task ht
      rw [tasks_snoc]
      exact List.mem_append_left _ ht
    have hold : t.paStager.slots[i]? = some slot →
        ∃ pa, ∃ task ∈ tasks pa (outcomes ++ [(e, .staged op)]), task.position = i := by
      intro hslot
      obtain ⟨pa, task, ht, hi⟩ := h.owned hslot
      exact ⟨pa, task, hmore ht, hi⟩
    obtain hsame | ⟨slot', -, hposition, hslots⟩ := hextended.slots
    · rw [hsame] at hslot
      exact hold hslot
    · rw [hslots, List.getElem?_append] at hslot
      split at hslot
      · exact hold hslot
      · next hnew =>
        refine ⟨paOf e.key op, task, ?_, ?_⟩
        · rw [tasks_snoc, htask]
          exact List.mem_append_right _ (List.mem_cons_self ..)
        · have hlt := (List.getElem?_eq_some_iff.1 hslot).1
          rw [List.length_singleton] at hlt
          change task.position = t.paStager.slots.length at hposition
          change ¬i < t.paStager.slots.length at hnew
          change i - t.paStager.slots.length < 1 at hlt
          omega

/-- Staging one change continues the courses of all entries. -/
theorem PaTasking.stage {t : MappingTable} {e : Entry} {rest : List Entry}
    {outcomes : List (Entry × StageOutcome MappingOp)} (h : PaTasking outcomes t)
    (hplanning : Planning outcomes (e :: rest) t) (c : Context) :
    PaTasking (outcomes ++ [(e, (t.stage e c).1)]) (t.stage e c).2 := by
  have hnext := hplanning.next c
  have hresult := stage_result t e c
  generalize (t.stage e c).1 = outcome, (t.stage e c).2 = t' at hresult hnext
  cases hresult with
  | nothing _ hunstaged =>
    have hsame : ∀ pa, tasks pa (outcomes ++ [(e, outcome)]) = tasks pa outcomes := by
      intro pa
      rw [tasks_snoc, taskOn_of_unstaged hunstaged, Option.toList_none, List.append_nil]
    refine ⟨h.unanswered, fun pa => ?_, fun hslot => ?_⟩
    · rw [hsame]
      exact h.courses pa
    · obtain ⟨pa, task, ht, hi⟩ := h.owned hslot
      exact ⟨pa, task, by rwa [hsame], hi⟩
  | staged op s _ hagrees hpa =>
    generalize hop : op.pa = action at hpa
    cases hpa with
    | nothing =>
      have hsame : ∀ pa, tasks pa (outcomes ++ [(e, .staged op)]) = tasks pa outcomes := by
        intro pa
        rw [tasks_snoc, taskOn, StageOutcome.op?, Option.bind_some, hop]
        simp
      refine ⟨h.unanswered, fun pa => ?_, fun hslot => ?_⟩
      · rw [hsame]
        exact h.courses pa
      · obtain ⟨pa, task, ht, hi⟩ := h.owned hslot
        exact ⟨pa, task, by rwa [hsame], hi⟩
    | acquired hfree =>
      exact h.extend ⟨.acquire, _, op.mapping⟩ hop rfl
        (extended_stageAcquire { t with caToPaStager := s } _ _)
        (course_stageAcquire (t := { t with caToPaStager := s }) (h.courses _) hfree)
    | released =>
      have hplan := hplanning.plans (paOf e.key op)
      have hheld := released_lt hplanning.exact hnext hplan hop (stageRelease_drops _ _ _)
      have hpresent : t.paEntries.contains (paOf e.key op) = true := by
        rw [hplanning.exact.present, ← hplanning.exact.counted]
        omega
      exact h.extend ⟨_, _, op.mapping⟩ hop rfl
        (extended_stageRelease { t with caToPaStager := s } _ _)
        (course_stageRelease (t := { t with caToPaStager := s }) (h.courses _) (hplan.free hheld)
          hpresent)

end DashAgent.MappingTable
