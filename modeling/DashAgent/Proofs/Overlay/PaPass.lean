import DashAgent.Proofs.Overlay.PaReferences
import DashAgent.Proofs.Reconcile.Invariant

/-!
# Planned references

Staging predicts what the commits of a pass will leave of every PA validation entry: the actions on
an entry, in the order of their commits, are its plan. The plans of all entries are the invariant
that makes the prediction come true, whatever the driver answers.
-/
namespace DashAgent.MappingTable

/-! ## Plans of a pass -/

def Firm (t : MappingTable) (position : Nat) : Prop :=
  t.paStager.slots[position]? = some (.settled .success)

def actionOn (pa : String) (o : Entry × StageOutcome MappingOp) : Option (PaAction × Nat) :=
  match o.2 with
  | .staged op => if paOf o.1.key op = pa then op.pa else none
  | _ => none

/-- The actions on a PA validation entry, in the order of their commits. -/
def plan (pa : String) (outcomes : List (Entry × StageOutcome MappingOp)) :
    List (PaAction × Nat) := outcomes.filterMap (actionOn pa)

section Plans

variable {e : Entry} {op : MappingOp} {pa : String}

theorem actionOn_staged (h : paOf e.key op = pa) : actionOn pa (e, .staged op) = op.pa := by
  simp [actionOn, h]

theorem actionOn_of_ne (h : paOf e.key op ≠ pa) : actionOn pa (e, .staged op) = none := by
  simp [actionOn, h]

theorem actionOn_of_unstaged {outcome : StageOutcome MappingOp} (h : outcome.isStaged = false) :
    actionOn pa (e, outcome) = none := by
  cases outcome with
  | staged op => cases h
  | notReady dependency | done | invalid error => rfl

theorem plan_cons (o : Entry × StageOutcome MappingOp)
    (rest : List (Entry × StageOutcome MappingOp)) :
    plan pa (o :: rest) = (actionOn pa o).toList ++ plan pa rest := by
  rw [plan, List.filterMap_cons, plan]
  cases actionOn pa o <;> rfl

theorem plan_snoc (outcomes : List (Entry × StageOutcome MappingOp))
    (o : Entry × StageOutcome MappingOp) :
    plan pa (outcomes ++ [o]) = plan pa outcomes ++ (actionOn pa o).toList := by
  rw [plan, List.filterMap_append, plan, ← List.append_nil (actionOn pa o).toList]
  exact congrArg _ (plan_cons o [])

end Plans

/-- The staged operations agree with the table, and no key is there twice. -/
structure Consistent (ms : Table String MappingRecord)
    (outcomes : List (Entry × StageOutcome MappingOp)) : Prop where
  nodup : (outcomes.map fun o => o.1.key).Nodup
  agrees : ∀ o ∈ outcomes, ∀ op, o.2 = .staged op → Agrees ms o.1.key op

theorem Consistent.tail {ms : Table String MappingRecord} {o : Entry × StageOutcome MappingOp}
    {rest : List (Entry × StageOutcome MappingOp)} (h : Consistent ms (o :: rest)) :
    Consistent ms rest :=
  ⟨(List.nodup_cons.1 h.nodup).2, fun o ho => h.agrees o (List.mem_cons_of_mem _ ho)⟩

/-- What a change stages agrees with the table. -/
theorem Consistent.snoc {t t' : MappingTable} {e : Entry} {outcome : StageOutcome MappingOp}
    {outcomes : List (Entry × StageOutcome MappingOp)} (h : Consistent t.mappings outcomes)
    (hresult : StageResult t e outcome t')
    (hnodup : ((outcomes ++ [(e, outcome)]).map fun o => o.1.key).Nodup) :
    Consistent t.mappings (outcomes ++ [(e, outcome)]) := by
  refine ⟨hnodup, ?_⟩
  intro o ho op hop
  rcases List.mem_append.1 ho with ho | ho
  · exact h.agrees o ho op hop
  · rw [List.mem_singleton.1 ho] at hop ⊢
    cases hresult with
    | nothing _ hunstaged =>
      dsimp only at hop
      rw [hop] at hunstaged
      cases hunstaged
    | staged op' s _ hagrees hpa =>
      cases hop
      exact hagrees

/-- A commit leaves what is staged for other keys in agreement with the table. -/
theorem Consistent.commit {ms : Table String MappingRecord} {o : Entry × StageOutcome MappingOp}
    {rest : List (Entry × StageOutcome MappingOp)} (h : Consistent ms (o :: rest))
    (m : MappingRecord) : Consistent (stored ms o.1.key m) rest := by
  refine ⟨h.tail.nodup, ?_⟩
  intro o' ho' op hop
  have hne : o.1.key ≠ o'.1.key := by
    intro heq
    apply (List.nodup_cons.1 h.nodup).1
    exact List.mem_map.2 ⟨o', ho', heq.symm⟩
  have hagrees := h.agrees o' (List.mem_cons_of_mem _ ho') op hop
  exact { hagrees with stored := stored_of_ne hne hagrees.stored }

/-- What drops a reference holds it. -/
theorem holds_of_drops {ms : Table String MappingRecord} {o : Entry × StageOutcome MappingOp}
    (h : ∀ op, o.2 = .staged op → Agrees ms o.1.key op) {pa : String} {action : PaAction}
    {position : Nat} (ha : actionOn pa o = some (action, position)) (hdrops : action ≠ .acquire) :
    ms.weight (fun key m => if holds pa key m then 1 else 0) o.1.key = 1 := by
  simp only [actionOn] at ha
  split at ha
  · next op hop =>
    split at ha
    · next hpa =>
      have hagrees := h op hop
      obtain ⟨hflag, hkind⟩ := hagrees.pa ha
      have hheld : op.mapping.paValidation = true := by
        rw [hflag, ← hkind]
        cases action with
        | acquire => exact absurd rfl hdrops
        | release | remove => rfl
      rw [hagrees.stored.weight (fun hempty => by simp [holds_of_isEmpty hempty]),
        holds_eq hagrees rfl, hheld, hpa]
      simp
    · cases ha
  · cases ha

def dropKeys (pa : String) (outcomes : List (Entry × StageOutcome MappingOp)) : List String :=
  (outcomes.filter fun o => (actionOn pa o).any (·.1 ≠ .acquire)).map fun o => o.1.key

theorem mem_dropKeys {pa key : String} {outcomes : List (Entry × StageOutcome MappingOp)} :
    key ∈ dropKeys pa outcomes ↔ ∃ o ∈ outcomes, o.1.key = key ∧
      ∃ action position, actionOn pa o = some (action, position) ∧ action ≠ .acquire := by
  constructor
  · intro h
    obtain ⟨o, ho, rfl⟩ := List.mem_map.1 h
    obtain ⟨hmem, hdrops⟩ := List.mem_filter.1 ho
    obtain ⟨⟨action, position⟩, ha, hne⟩ := (Option.any_eq_true _ _).1 hdrops
    exact ⟨o, hmem, rfl, action, position, ha, of_decide_eq_true hne⟩
  · rintro ⟨o, ho, rfl, action, position, ha, hne⟩
    exact List.mem_map.2 ⟨o, List.mem_filter.2 ⟨ho, by simp [ha, hne]⟩, rfl⟩

theorem length_dropKeys (pa : String) (outcomes : List (Entry × StageOutcome MappingOp)) :
    (dropKeys pa outcomes).length = (plan pa outcomes).countP (·.1 ≠ .acquire) := by
  rw [plan, List.countP_filterMap, dropKeys, List.length_map, ← List.countP_eq_length_filter]
  congr 1
  funext o
  cases actionOn pa o <;> rfl

theorem Consistent.nodup_dropKeys {ms : Table String MappingRecord}
    {outcomes : List (Entry × StageOutcome MappingOp)} (h : Consistent ms outcomes) (pa : String) :
    (dropKeys pa outcomes).Nodup :=
  h.nodup.sublist (List.filter_sublist.map _)

theorem Consistent.weight_dropKeys {ms : Table String MappingRecord}
    {outcomes : List (Entry × StageOutcome MappingOp)} (h : Consistent ms outcomes)
    {pa key : String} (hkey : key ∈ dropKeys pa outcomes) :
    ms.weight (fun key m => if holds pa key m then 1 else 0) key = 1 := by
  obtain ⟨o, ho, rfl, action, position, ha, hne⟩ := mem_dropKeys.1 hkey
  exact holds_of_drops (h.agrees o ho) ha hne

/-- The drops of a plan are at most as many as the holders, as no key is there twice. -/
theorem drops_le_holders {ms : Table String MappingRecord}
    {outcomes : List (Entry × StageOutcome MappingOp)} (h : Consistent ms outcomes) (pa : String) :
    (plan pa outcomes).countP (·.1 ≠ .acquire) ≤ holders ms pa := by
  rw [← length_dropKeys]
  exact Table.length_le_tally (h.nodup_dropKeys pa) fun key hkey =>
    Nat.le_of_eq (h.weight_dropKeys hkey).symm

section Staging

variable {t : MappingTable} {pa : String} {m : MappingRecord}

theorem firm_push {slot : Slot} {p : PaPass} {position : Nat} (h : t.Firm position) :
    (t.remembering (t.paStager.push slot).2 pa p).Firm position := by
  unfold Firm at h ⊢
  simp only [remembering, BulkStager.push]
  rw [List.getElem?_append_left (List.getElem?_eq_some_iff.1 h).1]
  exact h

theorem firm_settled {p : PaPass} :
    (t.remembering (t.paStager.push (.settled .success)).2 pa p).Firm
      t.paStager.slots.length := by
  simp [Firm, remembering, BulkStager.push]

theorem firm_stageAcquire {position : Nat} (h : t.Firm position) :
    (t.stageAcquire pa m).2.Firm position := by
  have hspec := stageAcquire_spec t pa m
  generalize t.stageAcquire pa m = result at hspec ⊢
  cases hspec with
  | shared => exact h
  | present | created => exact firm_push h

theorem firm_stageRelease {position : Nat} (h : t.Firm position) :
    (t.stageRelease pa m).2.Firm position := by
  have hspec := stageRelease_spec t pa m
  generalize t.stageRelease pa m = result at hspec ⊢
  cases hspec <;> exact firm_push h

/-- Staging an acquire continues the plan of its entry. -/
theorem planState_stageAcquire {as : List (PaAction × Nat)}
    (h : PlanState t.Firm (references t.paEntries pa) (t.passOf pa) as)
    (hr : (t.passOf pa).removing = false)
    (hpresent : t.paEntries.contains pa = true ↔ 0 < references t.paEntries pa) :
    PlanState (t.stageAcquire pa m).2.Firm (references t.paEntries pa)
      ((t.stageAcquire pa m).2.passOf pa) (as ++ [(.acquire, (t.stageAcquire pa m).1)]) := by
  have hfirm : ∀ position, t.Firm position → (t.stageAcquire pa m).2.Firm position :=
    fun _ => firm_stageAcquire
  have hmono := h.mono hfirm
  have hspec := stageAcquire_spec t pa m
  generalize t.stageAcquire pa m = result at hmono hspec ⊢
  cases hspec with
  | present hcontains =>
    rw [passOf_remembering_self]
    exact hmono.acquire_present (hpresent.1 hcontains) hr firm_settled
  | shared _ habsent | created habsent =>
    rw [references_of_not_contains habsent] at hmono ⊢
    rw [passOf_remembering_self]
    exact hmono.acquire_absent _

/-- Staging a release continues the plan of its entry. -/
theorem planState_stageRelease {as : List (PaAction × Nat)}
    (h : PlanState t.Firm (references t.paEntries pa) (t.passOf pa) as)
    (hheld : (t.passOf pa).released + 1 ≤ references t.paEntries pa) :
    PlanState (t.stageRelease pa m).2.Firm (references t.paEntries pa)
      ((t.stageRelease pa m).2.passOf pa) (as ++ [(t.stageRelease pa m).1]) := by
  have hfirm : ∀ position, t.Firm position → (t.stageRelease pa m).2.Firm position :=
    fun _ => firm_stageRelease
  have hmono := h.mono hfirm
  have hspec := stageRelease_spec t pa m
  generalize t.stageRelease pa m = result at hmono hspec ⊢
  cases hspec with
  | shared hremaining =>
    rw [passOf_remembering_self]
    exact hmono.release hheld hremaining firm_settled
  | last hremaining =>
    rw [passOf_remembering_self]
    exact hmono.remove hheld hremaining

end Staging

/-! ## A pass -/

/-- Between passes the counts are exact and nothing is remembered. -/
structure Settled (t : MappingTable) : Prop where
  exact : Exact t.mappings t.paEntries
  idle : t.pass = .empty

/-- A change that drops a reference finds one that the changes before it left. -/
theorem released_lt {t : MappingTable} {e : Entry} {op : MappingOp}
    {outcomes : List (Entry × StageOutcome MappingOp)} (hexact : Exact t.mappings t.paEntries)
    (hconsistent : Consistent t.mappings (outcomes ++ [(e, .staged op)]))
    (h : PlanState t.Firm (references t.paEntries (paOf e.key op)) (t.passOf (paOf e.key op))
      (plan (paOf e.key op) outcomes)) {action : PaAction} {position : Nat}
    (hop : op.pa = some (action, position)) (hdrop : action ≠ .acquire) :
    (t.passOf (paOf e.key op)).released + 1 ≤ references t.paEntries (paOf e.key op) := by
  have hdrops := drops_le_holders hconsistent (paOf e.key op)
  rw [← hexact.counted, plan_snoc, actionOn_staged rfl, hop, List.countP_append,
    Option.toList_some, List.countP_singleton] at hdrops
  simp only [hdrop, ne_eq, not_false_eq_true, decide_true, if_true] at hdrops
  rw [h.released]
  simpa using hdrops

theorem stageRelease_drops (t : MappingTable) (pa : String) (m : MappingRecord) :
    (t.stageRelease pa m).1.1 ≠ .acquire := by
  intro hacquire
  have hkind := stageRelease_kind t pa m
  rw [hacquire] at hkind
  cases hkind

/-- Staging one change continues the plans of all entries. -/
theorem planState_stage {t t' : MappingTable} {e : Entry} {outcome : StageOutcome MappingOp}
    {outcomes : List (Entry × StageOutcome MappingOp)} (hresult : StageResult t e outcome t')
    (hexact : Exact t.mappings t.paEntries)
    (hconsistent : Consistent t.mappings (outcomes ++ [(e, outcome)]))
    (h : ∀ pa, PlanState t.Firm (references t.paEntries pa) (t.passOf pa) (plan pa outcomes))
    (pa : String) :
    PlanState t'.Firm (references t.paEntries pa) (t'.passOf pa)
      (plan pa (outcomes ++ [(e, outcome)])) := by
  rw [plan_snoc]
  cases hresult with
  | nothing _ hunstaged =>
    rw [actionOn_of_unstaged hunstaged, Option.toList_none, List.append_nil]
    exact h pa
  | staged op s _ hagrees hpa =>
    have hcounted : ∀ pa, t.paEntries.contains pa = true ↔ 0 < references t.paEntries pa := by
      intro pa
      rw [hexact.counted]
      exact hexact.present pa
    by_cases hkey : paOf e.key op = pa
    · subst hkey
      rw [actionOn_staged rfl]
      generalize haction : op.pa = action at hpa
      cases hpa with
      | nothing =>
        rw [Option.toList_none, List.append_nil]
        exact h _
      | acquired hfree =>
        exact planState_stageAcquire (t := { t with caToPaStager := s }) (h _) hfree (hcounted _)
      | released =>
        exact planState_stageRelease (t := { t with caToPaStager := s }) (h _)
          (released_lt hexact hconsistent (h _) haction (stageRelease_drops _ _ _))
    · rw [actionOn_of_ne hkey, Option.toList_none, List.append_nil]
      have hother := h pa
      generalize op.pa = action at hpa
      cases hpa with
      | nothing => exact hother
      | acquired hfree =>
        rw [passOf_stageAcquire_of_ne hkey]
        exact hother.mono fun _ => firm_stageAcquire (t := { t with caToPaStager := s })
      | released =>
        rw [passOf_stageRelease_of_ne hkey]
        exact hother.mono fun _ => firm_stageRelease (t := { t with caToPaStager := s })

/-- The request of an operation whose slot is firm is accepted. -/
theorem paAccepted?_of_firm {t : MappingTable} {op : MappingOp} {action : PaAction}
    {position : Nat} (hop : op.pa = some (action, position)) (h : t.Firm position) :
    t.paAccepted? op = some action := by
  have houtcome : t.paStager.outcome position = .success := by
    simp only [BulkStager.outcome, BulkStager.status?]
    rw [h]
    rfl
  have hcommit : Decision.ofStatus action.kind .success = .commit := by
    simp [Decision.ofStatus, Status.isSuccess]
  simp [paAccepted?, hop, houtcome, hcommit]

theorem paAccepted?_eq {t : MappingTable} {op : MappingOp} {action : PaAction}
    (h : t.paAccepted? op = some action) : ∃ position, op.pa = some (action, position) := by
  simp only [paAccepted?, Option.map_eq_some_iff, Option.filter_eq_some_iff] at h
  obtain ⟨⟨action', position⟩, ⟨hop, -⟩, rfl⟩ := h
  exact ⟨position, hop⟩

/-- What is accepted of an operation whose entry has a plan fits and leaves the plan of the rest. -/
theorem planned_accepted {t : MappingTable} {op : MappingOp} {n : Nat}
    {rest : List (PaAction × Nat)} (h : Planned t.Firm n (op.pa.toList ++ rest)) :
    (∀ action, t.paAccepted? op = some action → action.Fits n) ∧
      Planned t.Firm ((t.paAccepted? op).elim n (PaAction.after n)) rest := by
  cases hop : op.pa with
  | none =>
    have hnone : t.paAccepted? op = none := by simp [paAccepted?, hop]
    rw [hop, Option.toList_none, List.nil_append] at h
    rw [hnone]
    exact ⟨by simp, h⟩
  | some staged =>
    obtain ⟨action, position⟩ := staged
    rw [hop, Option.toList_some, List.singleton_append] at h
    obtain ⟨hfits, hrest⟩ := h.commit (t.paAccepted? op).isSome
      fun hfirm => by rw [paAccepted?_of_firm hop hfirm]; rfl
    cases haccepted : t.paAccepted? op with
    | none =>
      rw [haccepted] at hrest
      exact ⟨by simp, hrest⟩
    | some action' =>
      obtain ⟨position', hop'⟩ := paAccepted?_eq haccepted
      rw [hop] at hop'
      cases hop'
      rw [haccepted] at hrest hfits
      refine ⟨?_, hrest⟩
      intro a ha
      cases ha
      exact hfits rfl

/-- An accepted action drops what is held, or acquires what is not. -/
theorem held_of_accepted {t : MappingTable} {ms : Table String MappingRecord} {key : String}
    {op : MappingOp} (hagrees : Agrees ms key op) {action : PaAction}
    (h : t.paAccepted? op = some action) :
    op.mapping.paValidation = decide (action ≠ .acquire) := by
  obtain ⟨position, hop⟩ := paAccepted?_eq h
  obtain ⟨hflag, hkind⟩ := hagrees.pa hop
  rw [hflag, ← hkind]
  cases action <;> rfl

/-- Committing a change keeps the counts exact and leaves plans for the rest. -/
theorem planned_commit {t : MappingTable} {e : Entry} {op : MappingOp}
    {rest : List (Entry × StageOutcome MappingOp)} (hexact : Exact t.mappings t.paEntries)
    (hconsistent : Consistent t.mappings ((e, .staged op) :: rest))
    (hplanned : ∀ pa, Planned t.Firm (references t.paEntries pa)
      (plan pa ((e, .staged op) :: rest)))
    (hroom : t.mappings.size + 1 < 2 ^ 32) :
    Exact (stored t.mappings e.key (t.settled op))
        ((t.paAccepted? op).elim t.paEntries (paStep t.paEntries (paOf e.key op) op.mapping)) ∧
      ∀ pa, Planned t.Firm
        (references ((t.paAccepted? op).elim t.paEntries
          (paStep t.paEntries (paOf e.key op) op.mapping)) pa)
        (plan pa rest) := by
  have hagrees := hconsistent.agrees _ (List.mem_cons_self ..) op rfl
  have hown := hplanned (paOf e.key op)
  rw [plan_cons, actionOn_staged rfl] at hown
  obtain ⟨hfits, hrest⟩ := planned_accepted hown
  refine ⟨hexact.commit (m := t.settled op) hagrees rfl rfl
    (fun _ => held_of_accepted hagrees) hfits hroom, ?_⟩
  intro pa
  by_cases hpa : paOf e.key op = pa
  · subst hpa
    cases haccepted : t.paAccepted? op with
    | none =>
      rw [haccepted] at hrest
      exact hrest
    | some action =>
      have hcounted := hexact.counted (paOf e.key op)
      have hpresent := hexact.present (paOf e.key op)
      have hsize := holders_le_size t.mappings (paOf e.key op)
      rw [← hcounted] at hpresent hsize
      obtain ⟨hafter, -⟩ := references_paStep (m := op.mapping) action (by omega) hpresent
        (hfits action haccepted)
      rw [haccepted] at hrest
      rw [Option.elim_some, hafter]
      exact hrest
  · have hother := hplanned pa
    rw [plan_cons, actionOn_of_ne hpa, Option.toList_none, List.nil_append] at hother
    cases t.paAccepted? op with
    | none => exact hother
    | some action =>
      rw [Option.elim_some, references_congr (get?_paStep_of_ne hpa action)]
      exact hother

/-- What is known of the references while changes are staged. The counts are exact, what is staged
agrees with the mappings, and of every entry it is known what will become of it. -/
structure Planning (outcomes : List (Entry × StageOutcome MappingOp)) (rest : List Entry)
    (t : MappingTable) : Prop where
  exact : Exact t.mappings t.paEntries
  consistent : Consistent t.mappings outcomes
  keys : ((outcomes.map fun o => o.1.key) ++ rest.map Entry.key).Nodup
  plans : ∀ pa, PlanState t.Firm (references t.paEntries pa) (t.passOf pa) (plan pa outcomes)

/-- The assertion while changes are staged, with room for all of them. -/
structure ReferencesStaging (outcomes : List (Entry × StageOutcome MappingOp)) (rest : List Entry)
    (t : MappingTable) : Prop where
  exact : Exact t.mappings t.paEntries
  consistent : Consistent t.mappings outcomes
  keys : ((outcomes.map fun o => o.1.key) ++ rest.map Entry.key).Nodup
  plans : ∀ pa, PlanState t.Firm (references t.paEntries pa) (t.passOf pa) (plan pa outcomes)
  room : t.mappings.size + (outcomes.length + rest.length) < 2 ^ 32

structure ReferencesCommitting (rest : List (Entry × StageOutcome MappingOp))
    (t : MappingTable) : Prop where
  exact : Exact t.mappings t.paEntries
  consistent : Consistent t.mappings rest
  planned : ∀ pa, Planned t.Firm (references t.paEntries pa) (plan pa rest)
  room : t.mappings.size + rest.length < 2 ^ 32

section Pass

variable {outcomes rest' : List (Entry × StageOutcome MappingOp)} {e : Entry} {rest : List Entry}
  {t : MappingTable}

/-- What a change stages agrees with the mappings, and so does what was staged before it. -/
theorem Planning.next (h : Planning outcomes (e :: rest) t) (c : Context) :
    Consistent t.mappings (outcomes ++ [(e, (t.stage e c).1)]) := by
  have hkeys : (((outcomes ++ [(e, (t.stage e c).1)]).map fun o => o.1.key) ++
      rest.map Entry.key).Nodup := by simpa using h.keys
  exact h.consistent.snoc (stage_result t e c) (List.nodup_append.1 hkeys).1

theorem Planning.stage (h : Planning outcomes (e :: rest) t) (c : Context) :
    Planning (outcomes ++ [(e, (t.stage e c).1)]) rest (t.stage e c).2 := by
  have hresult := stage_result t e c
  obtain ⟨hmappings, hentries⟩ := hresult.frame
  have hplans' := planState_stage hresult h.exact (h.next c) h.plans
  constructor
  · rw [hmappings, hentries]
    exact h.exact
  · rw [hmappings]
    exact h.next c
  · simpa using h.keys
  · rw [hentries]
    exact hplans'

theorem ReferencesStaging.planning (h : ReferencesStaging outcomes rest t) :
    Planning outcomes rest t :=
  ⟨h.exact, h.consistent, h.keys, h.plans⟩

theorem ReferencesStaging.stage (h : ReferencesStaging outcomes (e :: rest) t) (c : Context) :
    ReferencesStaging (outcomes ++ [(e, (t.stage e c).1)]) rest (t.stage e c).2 := by
  obtain ⟨hexact, hconsistent, hkeys, hplans⟩ := h.planning.stage c
  have hroom := h.room
  rw [List.length_cons] at hroom
  refine ⟨hexact, hconsistent, hkeys, hplans, ?_⟩
  rw [(stage_result t e c).frame.1, List.length_append, List.length_singleton]
  omega

/-- Nothing was staged, so nothing is flushed. -/
theorem ReferencesStaging.idle (h : ReferencesStaging outcomes [] t) :
    ReferencesCommitting outcomes t :=
  ⟨h.exact, h.consistent, fun pa => (h.plans pa).planned, h.room⟩

theorem ReferencesStaging.flush {δ : Type} [Driver δ] {d d' : δ} {t' : MappingTable}
    {answer : Except DriverError Unit} (h : ReferencesStaging outcomes [] t)
    (hflush : t.flush d = (answer, t', d')) : ReferencesCommitting outcomes t' := by
  obtain ⟨hmappings, hentries⟩ := frame_of_flush hflush
  have hfirm : ∀ position, t.Firm position → t'.Firm position := by
    intro position hp
    have hkept := flush_settled hp rfl d
    rw [hflush] at hkept
    exact hkept
  constructor
  · rw [hmappings, hentries]
    exact h.exact
  · rw [hmappings]
    exact h.consistent
  · rw [hentries]
    exact fun pa => (h.plans pa).planned.mono hfirm
  · rw [hmappings]
    exact h.room

theorem ReferencesCommitting.commit {op : MappingOp}
    (h : ReferencesCommitting ((e, .staged op) :: rest') t) (c : Context) :
    ReferencesCommitting rest' (t.commit e op c).2.2 := by
  obtain ⟨hexact, hconsistent, hplanned, hroom⟩ := h
  rw [List.length_cons] at hroom
  obtain ⟨hexact', hplanned'⟩ := planned_commit hexact hconsistent hplanned (by omega)
  have hsize := size_stored_le t.mappings e.key (t.settled op)
  rw [t.commit_eq e op c]
  exact ⟨hexact', hconsistent.commit _, hplanned', by dsimp only; omega⟩

theorem ReferencesCommitting.skip {course : Course MappingOp}
    (hunstaged : course.outcome.isStaged = false)
    (h : ReferencesCommitting ((course.entry, course.outcome) :: rest') t) :
    ReferencesCommitting rest' t := by
  obtain ⟨hexact, hconsistent, hplanned, hroom⟩ := h
  rw [List.length_cons] at hroom
  refine ⟨hexact, hconsistent.tail, ?_, by omega⟩
  intro pa
  have hown := hplanned pa
  rw [plan_cons, actionOn_of_unstaged hunstaged] at hown
  exact hown

end Pass

/-- A pass over the mappings, seen from the counts of references. -/
def referenceInvariant {δ : Type} [Driver δ] : PassInvariant (bulk (δ := δ)) where
  staging outcomes rest _ t _ := ReferencesStaging outcomes rest t
  committing _ rest _ t _ := ReferencesCommitting rest t
  answered _ _ t _ := Settled t
  unanswered _ t _ := Settled t
  stage h := h.stage _
  idle h _ := h.idle
  flush h hflush := h.flush hflush
  failure h hflush := by
    have hexact := h.exact
    rw [← (frame_of_flush hflush).1, ← (frame_of_flush hflush).2] at hexact
    exact ⟨hexact, rfl⟩
  commit h := h.commit _
  skip hunstaged h := h.skip hunstaged
  finish h := ⟨h.exact, rfl⟩

/-- Before anything is staged, the plans of all entries are empty. -/
theorem Settled.planning {t : MappingTable} {es : List Entry} (h : Settled t)
    (hkeys : (es.map Entry.key).Nodup) : Planning [] es t := by
  refine ⟨h.exact, ⟨by simp, by simp⟩, by simpa using hkeys, fun pa => ?_⟩
  rw [passOf, h.idle]
  exact .idle _

/-- The assertion holds before anything is staged, if the table has room for the batch. -/
theorem Settled.staging {t : MappingTable} {q : ChangeQueue} (h : Settled t)
    (hroom : q.FitsInto t.mappings) : ReferencesStaging [] (q.entries.take q.batchSize) t := by
  have hkeys := q.nodup_batch
  rw [ChangeQueue.popBatch_fst] at hkeys
  obtain ⟨hexact, hconsistent, hkeys, hplans⟩ := h.planning hkeys
  exact ⟨hexact, hconsistent, hkeys, hplans, by simpa [ChangeQueue.FitsInto] using hroom⟩

/-- A pass keeps the counts exact, if the table has room for its batch. -/
theorem settled_reconcile {δ : Type} [Driver δ] {p : Pass MappingTable Context δ}
    (h : Settled p.table) (hroom : p.queue.FitsInto p.table.mappings) :
    Settled (bulk.reconcile p).2.table :=
  referenceInvariant.keeps (B := fun _ t _ => Settled t) h (h.staging hroom) id id

end DashAgent.MappingTable
