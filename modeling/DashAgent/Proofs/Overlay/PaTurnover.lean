import DashAgent.Proofs.EntryKeys
import DashAgent.Proofs.Overlay.PaRequests

/-!
# PA validation entries on the switch

What the answers of a pass say of the PA validation entries, in the table and on the switch. An
entry that the table ends with was recorded before or has just been created, and no remove took its
object away. A remove goes by the identifier of the mapping that drops the last reference, which
need not be the one that the entry was created with.
-/
namespace DashAgent.MappingTable

/-! ## Answers -/

section Tasks

variable {s : BulkStager} {tasks : List PaTask} {v : Oid .vnet × IpAddress}

/-- An entry that is there stays as long as no task removes it. -/
theorem performed_kept (h : ∀ task ∈ tasks, task.action ≠ .remove) :
    performed s tasks (some v) = some v := by
  induction tasks with
  | nil => rfl
  | cons task rest ih =>
    have hstep : task.step (some v) = some v := by
      have hkept := h task (List.mem_cons_self ..)
      unfold PaTask.step
      cases haction : task.action with
      | acquire | release => rfl
      | remove => exact absurd haction hkept
    rw [performed, hstep, ite_self]
    exact ih fun task ht => h task (List.mem_cons_of_mem _ ht)

theorem performed_refused {old : Option (Oid .vnet × IpAddress)}
    (h : ∀ task ∈ tasks, task.accepted s = false) : performed s tasks old = old := by
  induction tasks with
  | nil => rfl
  | cons task rest ih =>
    rw [performed, h task (List.mem_cons_self ..), if_neg Bool.false_ne_true]
    exact ih fun task ht => h task (List.mem_cons_of_mem _ ht)

/-- A remove at the end takes an entry away if it is accepted. -/
theorem performed_removed {front : List PaTask} {last : PaTask}
    (hfront : ∀ task ∈ front, task.action ≠ .remove) (hlast : last.action = .remove) :
    performed s (front ++ [last]) (some v) = if last.accepted s then none else some v := by
  rw [performed_append, performed_kept hfront, performed, performed, PaTask.step, hlast]

/-- Acquires of one slot record an entry together. -/
theorem performed_created {first : PaTask} {rest : List PaTask}
    (h : ∀ task ∈ first :: rest, task.action = .acquire ∧ task.position = first.position) :
    performed s (first :: rest) none = if first.accepted s then some first.object else none := by
  have hfirst := (h first (List.mem_cons_self ..)).1
  cases haccepted : first.accepted s with
  | true =>
    rw [performed, haccepted, if_pos rfl, if_pos rfl, PaTask.step, hfirst]
    refine performed_kept fun task ht => ?_
    rw [(h task (List.mem_cons_of_mem _ ht)).1]
    decide
  | false =>
    rw [if_neg Bool.false_ne_true]
    refine performed_refused fun task ht => ?_
    rw [← haccepted, PaTask.accepted, PaTask.accepted, (h task ht).1, (h task ht).2, hfirst]

end Tasks

section Told

variable {s s' : BulkStager} {d₀ d : Simulator} {task : PaTask}

/-- The slot of a create gives its entry if the create is accepted. -/
theorem given?_of_create (h : BulkStager.Told s d₀ s' d) {key : String}
    {attributes : List Attribute} (haction : task.action = .acquire)
    (hslot : s.slots[task.position]? = some (.create ⟨some key, attributes⟩ none)) :
    s'.given? task.position = (if task.accepted s' then some (.entry key) else none) ∧
      s'.taken? task.position = none := by
  obtain ⟨answer, hanswer⟩ := h.slot_create hslot
  rw [BulkStager.given?, BulkStager.taken?, PaTask.accepted, haction,
    BulkStager.outcome_of_getElem? hanswer, hanswer]
  refine ⟨?_, rfl⟩
  cases answer with
  | none => simp [Slot.given?, Slot.status?, PaAction.kind, ofStatus_notExecuted]
  | some answer =>
    by_cases hcommit : Decision.ofStatus .create answer.status = .commit <;>
      simp [Slot.given?, Slot.status?, CreateAnswer.key?, PaAction.kind, hcommit]

/-- The slot of a remove takes its entry away if the remove is accepted. -/
theorem taken?_of_remove (h : BulkStager.Told s d₀ s' d) {key : ObjectKey}
    (haction : task.action = .remove)
    (hslot : s.slots[task.position]? = some (.remove key none)) :
    s'.taken? task.position = (if task.accepted s' then some key else none) ∧
      s'.given? task.position = none := by
  obtain ⟨answer, hanswer⟩ := h.slot_remove hslot
  rw [BulkStager.given?, BulkStager.taken?, PaTask.accepted, haction,
    BulkStager.outcome_of_getElem? hanswer, hanswer]
  refine ⟨?_, rfl⟩
  cases answer with
  | none => simp [Slot.taken?, Slot.status?, PaAction.kind, ofStatus_notExecuted]
  | some status =>
    by_cases hcommit : Decision.ofStatus .remove status = .commit <;>
      simp [Slot.taken?, Slot.status?, PaAction.kind, Status.IsGone, hcommit]

/-- A slot that was settled from the start gives and takes nothing. -/
theorem untold_of_firm (h : BulkStager.Told s d₀ s' d) (hfirm : task.Firm s.slots) :
    s'.given? task.position = none ∧ s'.taken? task.position = none := by
  rw [BulkStager.given?, BulkStager.taken?, h.slot_settled hfirm]
  exact ⟨rfl, rfl⟩

end Told

/-! ## The course of an entry -/

/-- What a pass does to the PA validation entries of a table, which recorded `old` before and
records `final` after, and to their objects on the switch. -/
structure Turnover (names : String → Oid .vnet → Prop)
    (old final : String → Option (Oid .vnet × IpAddress)) (objects objects' : List ObjectKey) :
    Prop where
  kept : ∀ {pa v}, old pa = some v → final pa = some v ∨ final pa = none
  held : ∀ {pa v}, final pa = some v → old pa = some v ∨ paObjectKey v ∈ objects'
  /-- An object is taken away on behalf of an entry that is gone. -/
  stays : ∀ {key}, key ∈ objects → key ∈ objects' ∨
    ∃ pa v, Recorded names pa v.1 v.2 ∧ final pa = none ∧ paObjectKey v = key
  arrives : ∀ {key}, key ∈ objects' → key ∈ objects ∨
    ∃ pa v, final pa = some v ∧ paObjectKey v = key
  /-- An entry that is gone took an object under its name away. -/
  leaves : ∀ {pa v}, old pa = some v → final pa = none → ∃ v', Recorded names pa v'.1 v'.2 ∧
    (paObjectKey v' ∈ objects' → ∃ pa' w, final pa' = some w ∧ paObjectKey w = paObjectKey v')

theorem Turnover.refl (names : String → Oid .vnet → Prop)
    (old : String → Option (Oid .vnet × IpAddress)) (objects : List ObjectKey) :
    Turnover names old old objects objects where
  kept h := .inl h
  held h := .inl h
  stays h := .inl h
  arrives h := .inl h
  leaves h hgone := by
    rw [h] at hgone
    cases hgone

/-- The key of a PA validation entry tells its identifier and its address. -/
theorem paObjectKey_inj {v v' : Oid .vnet × IpAddress} (h : paObjectKey v = paObjectKey v') :
    v = v' :=
  Prod.ext_iff.2 (paValidationEntryKey_inj.1 (ObjectKey.entry.inj h))

section Turnover

variable {names : String → Oid .vnet → Prop} {old final : String → Option (Oid .vnet × IpAddress)}
  {objects objects' : List ObjectKey}

/-- If no identifier has two names, the entries that a table ends with are on the switch, as those
were that it had before. -/
theorem Turnover.backed (h : Turnover names old final objects objects')
    (hsole : ∀ {vnet vnet' id}, names vnet id → names vnet' id → vnet = vnet')
    (hrecorded : ∀ {pa v}, old pa = some v → Recorded names pa v.1 v.2)
    (hbacked : ∀ {pa v}, old pa = some v → paObjectKey v ∈ objects) {pa : String}
    {v : Oid .vnet × IpAddress} (hend : final pa = some v) : paObjectKey v ∈ objects' := by
  obtain hold | hnew := h.held hend
  · obtain hstays | ⟨pa', v', ⟨vnet', -, hpa', hname'⟩, hgone, hkey⟩ := h.stays (hbacked hold)
    · exact hstays
    · -- A remove that took the object away would be one of the entry itself.
      obtain ⟨vnet, -, hpa, hname⟩ := hrecorded hold
      obtain rfl := paObjectKey_inj hkey
      obtain rfl := hsole hname hname'
      rw [hpa', ← hpa, hend] at hgone
      cases hgone
  · exact hnew

/-- If no name has two identifiers, the objects that the switch ends with are entries of the table,
as those were that it held before. -/
theorem Turnover.owned (h : Turnover names old final objects objects')
    (hsingle : ∀ {vnet id id'}, names vnet id → names vnet id' → id = id')
    (hrecorded : ∀ {pa v}, old pa = some v → Recorded names pa v.1 v.2)
    (howned : ∀ key ∈ objects, ∃ pa v, old pa = some v ∧ paObjectKey v = key) :
    ∀ key ∈ objects', ∃ pa v, final pa = some v ∧ paObjectKey v = key := by
  intro key hkey
  obtain hold | hnew := h.arrives hkey
  · obtain ⟨pa, v, hget, rfl⟩ := howned key hold
    obtain hkept | hgone := h.kept hget
    · exact ⟨pa, v, hkept, rfl⟩
    · obtain ⟨v', ⟨vnet', hcolon', hpa', hname'⟩, hback⟩ := h.leaves hget hgone
      obtain ⟨vnet, hcolon, hpa, hname⟩ := hrecorded hget
      obtain ⟨rfl, hip⟩ := (paKey_inj hcolon' hcolon).1 (hpa'.symm.trans hpa)
      have hsame : v' = v := Prod.ext (hsingle hname' hname) hip
      rw [hsame] at hback
      exact hback hkey
  · exact hnew

end Turnover

section Course

variable {s s' : BulkStager} {d₀ d : Simulator} {p : PaPass} {task : PaTask}
  {old : Option (Oid .vnet × IpAddress)} {v : Oid .vnet × IpAddress} {staged : List PaTask}

theorem Course.kept (h : Course s.slots p (some v) staged) (s' : BulkStager) :
    performed s' staged (some v) = some v ∨ performed s' staged (some v) = none := by
  cases h with
  | held _ _ hfirm => exact .inl (performed_kept fun task ht => (hfirm task ht).2)
  | removed _ front last hfirm hlast =>
    rw [performed_removed (fun task ht => (hfirm task ht).2) hlast]
    split
    · exact .inr rfl
    · exact .inl rfl

theorem Course.origin (h : Course s.slots p old staged) (htold : BulkStager.Told s d₀ s' d)
    (hend : performed s' staged old = some v) :
    old = some v ∨ ∃ i, s'.given? i = some (paObjectKey v) := by
  cases old with
  | some w =>
    obtain hkept | hgone := h.kept s'
    · rw [hkept] at hend
      exact .inl hend
    · rw [hgone] at hend
      cases hend
  | none =>
    cases h with
    | absent => cases hend
    | created first rest hall hcreating hslot =>
      rw [performed_created hall] at hend
      have hgiven := (given?_of_create htold (hall first (List.mem_cons_self ..)).1 hslot).1
      split at hend
      · next haccepted =>
        cases hend
        rw [haccepted, if_pos rfl] at hgiven
        exact .inr ⟨_, hgiven⟩
      · cases hend

/-- A key that was taken away was that of the entry's remove. -/
theorem Course.taken (h : Course s.slots p old staged) (htold : BulkStager.Told s d₀ s' d)
    (hmem : task ∈ staged) {key : ObjectKey} (htaken : s'.taken? task.position = some key) :
    paObjectKey task.object = key ∧ performed s' staged old = none := by
  have hnotFirm : ¬task.Firm s.slots := by
    intro hfirm
    rw [(untold_of_firm htold hfirm).2] at htaken
    cases htaken
  cases h with
  | held _ _ hfirm => exact absurd (hfirm task hmem).1 hnotFirm
  | removed _ front last hfirm hlast hremoving hslot =>
    rcases List.mem_append.1 hmem with hmem | hmem
    · exact absurd (hfirm task hmem).1 hnotFirm
    · obtain rfl := List.mem_singleton.1 hmem
      rw [(taken?_of_remove htold hlast hslot).1] at htaken
      rw [performed_removed (fun task ht => (hfirm task ht).2) hlast]
      split at htaken
      · next haccepted =>
        rw [if_pos haccepted]
        exact ⟨Option.some.inj htaken, rfl⟩
      · cases htaken
  | absent => cases hmem
  | created first rest hall hcreating hslot =>
    rw [(hall task hmem).2,
      (given?_of_create htold (hall first (List.mem_cons_self ..)).1 hslot).2] at htaken
    cases htaken

/-- A key that was given is that of the entry. -/
theorem Course.given (h : Course s.slots p old staged) (htold : BulkStager.Told s d₀ s' d)
    (hmem : task ∈ staged) {key : ObjectKey} (hgiven : s'.given? task.position = some key) :
    ∃ v, performed s' staged old = some v ∧ paObjectKey v = key := by
  have hnotFirm : ¬task.Firm s.slots := by
    intro hfirm
    rw [(untold_of_firm htold hfirm).1] at hgiven
    cases hgiven
  cases h with
  | held _ _ hfirm => exact absurd (hfirm task hmem).1 hnotFirm
  | removed _ front last hfirm hlast hremoving hslot =>
    rcases List.mem_append.1 hmem with hmem | hmem
    · exact absurd (hfirm task hmem).1 hnotFirm
    · obtain rfl := List.mem_singleton.1 hmem
      rw [(taken?_of_remove htold hlast hslot).2] at hgiven
      cases hgiven
  | absent => cases hmem
  | created first rest hall hcreating hslot =>
    rw [(hall task hmem).2,
      (given?_of_create htold (hall first (List.mem_cons_self ..)).1 hslot).1] at hgiven
    rw [performed_created hall]
    split at hgiven
    · next haccepted =>
      rw [if_pos haccepted]
      exact ⟨_, rfl, Option.some.inj hgiven⟩
    · cases hgiven

theorem Course.leaves (h : Course s.slots p (some v) staged) (htold : BulkStager.Told s d₀ s' d)
    (hgone : performed s' staged (some v) = none) :
    ∃ last ∈ staged, s'.taken? last.position = some (paObjectKey last.object) := by
  cases h with
  | held _ _ hfirm =>
    rw [performed_kept fun task ht => (hfirm task ht).2] at hgone
    cases hgone
  | removed _ front last hfirm hlast hremoving hslot =>
    rw [performed_removed (fun task ht => (hfirm task ht).2) hlast] at hgone
    refine ⟨last, by simp, ?_⟩
    rw [(taken?_of_remove htold hlast hslot).1]
    split at hgone
    · next haccepted => rw [if_pos haccepted]
    · cases hgone

end Course

/-- The answers of a pass tell what becomes of all PA validation entries. -/
theorem PaTasking.turnover {names : String → Oid .vnet → Prop} {t : MappingTable}
    {outcomes : List (Entry × StageOutcome MappingOp)} {s' : BulkStager} {d₀ d : Simulator}
    (h : PaTasking outcomes t) (htype : t.paStager.type = .paValidationEntry)
    (htold : BulkStager.Told t.paStager d₀ s' d)
    (hrecorded : ∀ {pa}, ∀ task ∈ tasks pa outcomes,
      Recorded names pa task.object.1 task.object.2) :
    Turnover names (paObject? t.paEntries)
      (fun pa => performed s' (tasks pa outcomes) (paObject? t.paEntries pa))
      (d₀.objects .paValidationEntry) (d.objects .paValidationEntry) := by
  have hobjects := htold.objects
  rw [htype] at hobjects
  -- Every slot that tells something is that of a task.
  have howner : ∀ {i key}, s'.taken? i = some key ∨ s'.given? i = some key →
      ∃ pa, ∃ task ∈ tasks pa outcomes, task.position = i := by
    intro i key htells
    have hlt : i < t.paStager.slots.length := htells.elim htold.lt_of_taken htold.lt_of_given
    exact h.owned (List.getElem?_eq_getElem hlt)
  have hgiven : ∀ {i key}, s'.given? i = some key → ∃ pa v,
      performed s' (tasks pa outcomes) (paObject? t.paEntries pa) = some v ∧
        paObjectKey v = key := by
    intro i key hi
    obtain ⟨pa, task, hmem, rfl⟩ := howner (.inr hi)
    exact ⟨pa, (h.courses pa).given htold hmem hi⟩
  constructor
  case kept =>
    intro pa v hold
    have hcourse := h.courses pa
    rw [hold] at hcourse ⊢
    exact hcourse.kept s'
  case held =>
    intro pa v hend
    refine ((h.courses pa).origin htold hend).imp_right ?_
    rintro ⟨i, hi⟩
    exact (hobjects _).2 (.inr ⟨i, hi⟩)
  case stays =>
    intro key hkey
    by_cases htaken : ∃ i, s'.taken? i = some key
    · obtain ⟨i, hi⟩ := htaken
      obtain ⟨pa, task, hmem, rfl⟩ := howner (.inl hi)
      obtain ⟨hown, hend⟩ := (h.courses pa).taken htold hmem hi
      exact .inr ⟨pa, task.object, hrecorded task hmem, hend, hown⟩
    · exact .inl ((hobjects key).2 (.inl ⟨hkey, fun i hi => htaken ⟨i, hi⟩⟩))
  case arrives =>
    intro key hkey
    obtain ⟨hold, -⟩ | ⟨i, hi⟩ := (hobjects key).1 hkey
    · exact .inl hold
    · exact .inr (hgiven hi)
  case leaves =>
    intro pa v hold hgone
    have hcourse := h.courses pa
    rw [hold] at hcourse hgone
    obtain ⟨last, hmem, htaken⟩ := hcourse.leaves htold hgone
    refine ⟨last.object, hrecorded last hmem, fun hkey => ?_⟩
    obtain ⟨-, hkept⟩ | ⟨i, hi⟩ := (hobjects _).1 hkey
    · exact absurd htaken (hkept _)
    · exact hgiven hi

/-! ## A pass -/

section Pass

variable {queued : Status → Prop} {admitted : String → Prop} {names : String → Oid .vnet → Prop}

/-- The requests for PA validation entries are answered by a flush through an open gate. -/
theorem told_of_flush {t : MappingTable} {g g' : FaultGate} {t' : MappingTable}
    {answer : Except DriverError Unit} (htyped : t.Typed) (hunanswered : t.paStager.Unanswered)
    (hopen : g.Open) (hsound : g.Sound queued) (hgone : ¬queued .itemNotFound)
    (hthere : ¬queued .itemAlreadyExists) (hflush : t.flush g = (answer, t', g'))
    (hcreates : g'.creates < 2 ^ 48) : ∃ d₁ : Simulator,
      d₁.objects .paValidationEntry = g.switch.objects .paValidationEntry ∧
      BulkStager.Told t.paStager d₁ t'.paStager g'.switch := by
  obtain ⟨s₁, g₁, s₂, g₂, hfirst, hopen₁, hsecond, hopen₂, heq⟩ := flush_eq hopen t
  have hserved₁ := hopen.served_flush queued t.caToPaStager
  have hserved₂ := hopen₁.served_flush queued t.paStager
  rw [hfirst, htyped.1] at hserved₁
  rw [hsecond, htyped.2] at hserved₂
  rw [hflush] at heq
  cases heq
  have hasked := hserved₂.asked
  dsimp only at hasked
  have hcreates₁ : g₁.creates < 2 ^ 48 := by omega
  have hsound₁ := hserved₁.sound hcreates₁ hsound
  have hbooks := hopen₁.books_flush hsound₁ hunanswered (by rw [hsecond]; exact hcreates) hgone
    fun _ _ _ => hthere
  rw [hsecond] at hbooks
  exact ⟨g₁.switch, hserved₁.others hcreates₁ hsound _ (by decide), hbooks.toTold⟩

/-- What the tasks of the changes that wait leave of every entry, and what the pass did to it. -/
structure WhileTurning (names : String → Oid .vnet → Prop)
    (old : String → Option (Oid .vnet × IpAddress)) (objects objects' : List ObjectKey)
    (rest : List (Entry × StageOutcome MappingOp)) (t : MappingTable) : Prop where
  turnover : Turnover names old
    (fun pa => performed t.paStager (tasks pa rest) (paObject? t.paEntries pa)) objects objects'

theorem WhileTurning.commit {old : String → Option (Oid .vnet × IpAddress)}
    {objects objects' : List ObjectKey} {rest : List (Entry × StageOutcome MappingOp)}
    {t : MappingTable} {e : Entry} {op : MappingOp}
    (h : WhileTurning names old objects objects' ((e, .staged op) :: rest) t) (c : Context) :
    WhileTurning names old objects objects' rest (t.commit e op c).2.2 := by
  constructor
  have hsame : (fun pa => performed (t.commit e op c).2.2.paStager (tasks pa rest)
      (paObject? (t.commit e op c).2.2.paEntries pa)) =
      fun pa => performed t.paStager (tasks pa ((e, .staged op) :: rest))
        (paObject? t.paEntries pa) := by
    funext pa
    rw [paObject?_commit, tasks_cons, performed_append, commit_eq]
  rw [hsame]
  exact h.turnover

theorem WhileTurning.skip {old : String → Option (Oid .vnet × IpAddress)}
    {objects objects' : List ObjectKey} {rest : List (Entry × StageOutcome MappingOp)}
    {t : MappingTable} {o : Entry × StageOutcome MappingOp} (hunstaged : o.2.isStaged = false)
    (h : WhileTurning names old objects objects' (o :: rest) t) :
    WhileTurning names old objects objects' rest t := by
  constructor
  have hsame : ∀ pa, tasks pa (o :: rest) = tasks pa rest := by
    intro pa
    rw [tasks_cons, show taskOn pa o = none from taskOn_of_unstaged hunstaged, Option.toList_none,
      List.nil_append]
  have hturnover := h.turnover
  simp only [hsame] at hturnover
  exact hturnover

def turnoverInvariant (hgone : ¬queued .itemNotFound) (hthere : ¬queued .itemAlreadyExists)
    (admitted : String → Prop) (names : String → Oid .vnet → Prop)
    (old : String → Option (Oid .vnet × IpAddress)) {g₀ : FaultGate} (hopen : g₀.Open)
    (hsound : g₀.Sound queued) : PassInvariant (bulk (δ := FaultGate)) where
  staging outcomes rest c t g := t.Typed ∧ g = g₀ ∧ paObject? t.paEntries = old ∧
    (nameInvariant (δ := FaultGate) admitted names).staging outcomes rest c t g ∧
    ReferencesStaging outcomes rest t ∧ PaTasking outcomes t
  committing _ rest _ t g := g.creates < 2 ^ 48 → WhileTurning names old
    (g₀.switch.objects .paValidationEntry) (g.switch.objects .paValidationEntry) rest t
  answered _ _ t g := g.creates < 2 ^ 48 → Turnover names old (paObject? t.paEntries)
    (g₀.switch.objects .paValidationEntry) (g.switch.objects .paValidationEntry)
  unanswered _ _ _ := False
  stage {outcomes e rest c t g} h := by
    obtain ⟨htyped, hg, hentries, hnames, hreferences, hpa⟩ := h
    refine ⟨stage_typed e c htyped, hg, ?_, (nameInvariant admitted names).stage hnames,
      hreferences.stage c, hpa.stage hreferences.planning c⟩
    exact (congrArg paObject? (stage_result t e c).frame.2).trans hentries
  idle {outcomes c t g} h _ := by
    obtain ⟨htyped, rfl, hentries, hnames, -, hpa⟩ := h
    intro _
    have hturnover := hpa.turnover htyped.2 (.start hpa.unanswered g.switch)
      fun _ ht => recorded_of_task hnames.2.2.2 ht
    rw [hentries] at hturnover
    exact ⟨hentries ▸ hturnover⟩
  flush {outcomes c t g t' g'} h hflush := by
    obtain ⟨htyped, rfl, hentries, hnames, -, hpa⟩ := h
    intro hcreates
    obtain ⟨d₁, hsame, htold⟩ := told_of_flush htyped hpa.unanswered hopen hsound hgone hthere
      hflush hcreates
    have hturnover := hpa.turnover htyped.2 htold fun _ ht => recorded_of_task hnames.2.2.2 ht
    rw [hsame] at hturnover
    constructor
    rw [(frame_of_flush hflush).2, ← hentries]
    exact hturnover
  failure {outcomes c t g e t' g'} h hflush := by
    obtain ⟨htyped, rfl, -⟩ := h
    have hanswer := ((gateTable queued).flush_served htyped hopen).1
    rw [hflush] at hanswer
    cases hanswer
  commit h hcreates := (h hcreates).commit _
  skip hunstaged h hcreates := (h hcreates).skip hunstaged
  finish h hcreates := (h hcreates).turnover

/-- A pass with fewer than `2 ^ 48` creates in all turns the PA validation entries over. -/
theorem turnover_reconcile {p : Pass MappingTable Context FaultGate}
    (hgone : ¬queued .itemNotFound) (hthere : ¬queued .itemAlreadyExists)
    (hrests : (gateTable queued).Rests p.table) (hopen : p.switch.Open)
    (hsound : p.switch.Sound queued) (hsettled : Settled p.table)
    (hroom : p.queue.FitsInto p.table.mappings)
    (hnamed : Named admitted names p.table.mappings p.table.paEntries)
    (hids : ∀ {vnet id}, p.env.vnetIds.get? vnet = some id → names vnet id)
    (hchanges : ∀ e ∈ p.queue.entries, admitted e.key)
    (hcreates : (bulk.reconcile p).2.switch.creates < 2 ^ 48) :
    Turnover names (paObject? p.table.paEntries)
      (paObject? (bulk.reconcile p).2.table.paEntries)
      (p.switch.switch.objects .paValidationEntry)
      ((bulk.reconcile p).2.switch.switch.objects .paValidationEntry) := by
  refine (turnoverInvariant hgone hthere admitted names (paObject? p.table.paEntries) hopen
    hsound).keeps (B := fun _ t g => g.creates < 2 ^ 48 → Turnover names
      (paObject? p.table.paEntries) (paObject? t.paEntries)
      (p.switch.switch.objects .paValidationEntry) (g.switch.objects .paValidationEntry))
    (fun _ => .refl ..) ?_ id False.elim hcreates
  exact ⟨hrests.typed, rfl, rfl,
    ⟨hnamed, hids, fun e he => hchanges e (List.mem_of_mem_take he), by simp⟩,
    hsettled.staging hroom, paTasking_start hrests.idle.2.1 hrests.idle.2.2⟩

end Pass

end DashAgent.MappingTable
