import DashAgent.Context
import DashAgent.Proofs.Reconcile.Invariant
import DashAgent.Proofs.Switch.Ledger
import Mathlib.Data.List.Nodup
import Mathlib.Data.List.Pairwise

/-!
# One request for each change

Four tables make one request of the switch for each change, in a slot of its own, and so does the
mapping table as far as its CA-to-PA entries go. `SoleRequests` says what their calls do, seen from
the stager of these requests. A pass then comes down to a report: which operation was staged for
which key, what its slot asked for, and that the table holds afterwards what the answers say. If
table and switch agreed before the pass, they agree after it.
-/
namespace DashAgent

variable {τ κ δ ρ ν : Type}

def StageOutcome.op? : StageOutcome κ → Option κ
  | staged op => some op
  | _ => none

namespace BulkTable

def stagedFor? (outcomes : List (Entry × StageOutcome κ)) (key : String) : Option κ :=
  outcomes.findSome? fun o => if o.1.key = key then o.2.op? else none

section StagedFor

variable {o : Entry × StageOutcome κ} {outcomes rest : List (Entry × StageOutcome κ)}
  {key : String} {op : κ}

theorem stagedFor?_of_ne (h : o.1.key ≠ key) :
    stagedFor? (o :: rest) key = stagedFor? rest key := by
  simp [stagedFor?, h]

theorem exists_of_stagedFor? (h : stagedFor? outcomes key = some op) :
    ∃ e, (e, .staged op) ∈ outcomes ∧ e.key = key := by
  obtain ⟨⟨e, outcome⟩, hmem, ho⟩ := List.exists_of_findSome?_eq_some h
  dsimp only at ho
  split at ho
  · next hkey =>
    cases outcome with
    | staged op' =>
      cases ho
      exact ⟨e, hmem, hkey⟩
    | notReady dependency | done | invalid error => cases ho
  · cases ho

/-- No key is there twice, so the first operation of a key is its only one. -/
theorem stagedFor?_of_mem (hnodup : (outcomes.map fun o => o.1.key).Nodup)
    (h : (o.1, .staged op) ∈ outcomes) : stagedFor? outcomes o.1.key = some op := by
  induction outcomes with
  | nil => cases h
  | cons first rest ih =>
    rw [List.map_cons, List.nodup_cons] at hnodup
    rcases List.mem_cons.1 h with rfl | h
    · simp [stagedFor?, StageOutcome.op?]
    · rw [stagedFor?_of_ne, ih hnodup.2 h]
      intro heq
      exact hnodup.1 (List.mem_map.2 ⟨_, h, heq.symm⟩)

theorem stagedFor?_eq_none (h : key ∉ outcomes.map fun o => o.1.key) :
    stagedFor? outcomes key = none := by
  cases hop : stagedFor? outcomes key with
  | none => rfl
  | some op =>
    obtain ⟨e, hmem, hkey⟩ := exists_of_stagedFor? hop
    exact absurd (List.mem_map.2 ⟨_, hmem, hkey⟩) h

end StagedFor

end BulkTable

/-- What a slot asks for on behalf of an operation: to create the object that the operation makes
where there was none, or to remove the one that was there. -/
inductive SlotAsks (key : ν → ObjectKey) (made : Slot → Option ν) :
    Bool → Option ν → Slot → Prop where
  | create (request : CreateRequest) :
    (∀ answer, (Slot.create request answer).given? ≠ some (.oid 0) →
      (made (.create request answer)).map key = (Slot.create request answer).given?) →
    SlotAsks key made true none (.create request none)
  | remove (v : ν) : SlotAsks key made false (some v) (.remove (key v) none)

/-- A table as far as its changes make one request of a stager each. -/
structure SoleRequests (ops : BulkTable τ κ Context δ) (ρ ν : Type) where
  type : ObjectType
  stager : τ → BulkStager
  /-- What the table stores by key. -/
  cells : τ → Table String ρ
  view : ρ → Option ν
  key : ν → ObjectKey
  position? : κ → Option Nat
  creates : κ → Bool
  made : κ → Slot → Option ν
  /-- An operation was staged for what is stored. -/
  Suits : κ → Option ρ → Prop
  stage_cells : ∀ e c t, cells (ops.stage e c t).2 = cells t
  stage_idle : ∀ {e c t}, (ops.stage e c t).1.isStaged = false →
    stager (ops.stage e c t).2 = stager t
  stage_suits : ∀ {e c t op}, (ops.stage e c t).1 = .staged op →
    Suits op ((cells t).get? e.key)
  stage_slot : ∀ {e c t op}, (ops.stage e c t).1 = .staged op →
    position? op = none ∧ stager (ops.stage e c t).2 = stager t ∨
      ∃ slot, position? op = some (stager t).slots.length ∧
        stager (ops.stage e c t).2 = ((stager t).push slot).2 ∧
        SlotAsks key (made op) (creates op) (((cells t).get? e.key).bind view) slot
  endPass_cells : ∀ t, cells (ops.endPass t) = cells t
  endPass_stager : ∀ t, stager (ops.endPass t) = (stager t).clear
  commit_stager : ∀ e op c t, stager (ops.commit e op c t).2.2 = stager t
  commit_other : ∀ {e op c t l}, e.key ≠ l →
    (cells (ops.commit e op c t).2.2).get? l = (cells t).get? l
  /-- A commit of an operation without a request, or whose slot is gone, leaves the object as it is;
  otherwise the answer decides. -/
  commit_view : ∀ {e op c t}, Suits op ((cells t).get? e.key) →
    ((cells (ops.commit e op c t).2.2).get? e.key).bind view =
      match (position? op).bind fun i => (stager t).slots[i]? with
      | none => ((cells t).get? e.key).bind view
      | some slot =>
        if creates op then made op slot
        else if (slot.status?.getD .notExecuted).IsGone then none
        else ((cells t).get? e.key).bind view

namespace SoleRequests

open BulkTable (stagedFor?)

variable {ops : BulkTable τ κ Context δ} (S : SoleRequests ops ρ ν)

def look (t : τ) (name : String) : Option ν := ((S.cells t).get? name).bind S.view

/-- The object of a key after the operation on it is committed. -/
def settled (s : BulkStager) (op : κ) (old : Option ν) : Option ν :=
  match (S.position? op).bind fun i => s.slots[i]? with
  | none => old
  | some slot =>
    if S.creates op then S.made op slot
    else if (slot.status?.getD .notExecuted).IsGone then none else old

/-- The object of a key after all staged operations are committed. -/
def ends (rest : List (Entry × StageOutcome κ)) (t : τ) (name : String) : Option ν :=
  match stagedFor? rest name with
  | none => S.look t name
  | some op => S.settled (S.stager t) op (S.look t name)

@[simp] theorem ends_nil (t : τ) : S.ends [] t = S.look t := rfl

/-! ## Staging -/

section Staging

variable {c : Context} {outcomes : List (Entry × StageOutcome κ)} {rest : List Entry} {e : Entry}
  {t t' : τ} {d d' : Simulator}

/-- The assertion while changes are staged: the slots of the stager are those of the staged
operations, in order, and ask for what suits the objects of the table. -/
structure WhileStaging (c : Context) (outcomes : List (Entry × StageOutcome κ))
    (rest : List Entry) (t : τ) : Prop where
  keys : ((outcomes.map Prod.fst ++ rest).map Entry.key).Nodup
  type : (S.stager t).type = S.type
  unanswered : (S.stager t).Unanswered
  origin : ∀ {e op}, (e, .staged op) ∈ outcomes →
    ∃ t', S.cells t' = S.cells t ∧ (ops.stage e c t').1 = .staged op
  positions : outcomes.filterMap (fun o => o.2.op?.bind S.position?) =
    List.range (S.stager t).slots.length
  asks : ∀ {e op i}, (e, .staged op) ∈ outcomes → S.position? op = some i →
    ∃ slot, (S.stager t).slots[i]? = some slot ∧
      SlotAsks S.key (S.made op) (S.creates op) (S.look t e.key) slot

theorem WhileStaging.start (hkeys : (rest.map Entry.key).Nodup)
    (htype : (S.stager t).type = S.type) (hslots : (S.stager t).slots = []) :
    S.WhileStaging c [] rest t where
  keys := hkeys
  type := htype
  unanswered := by simp [BulkStager.Unanswered, hslots]
  origin h := by cases h
  positions := by simp [hslots]
  asks h := by cases h

theorem SlotAsks.unanswered {key : ν → ObjectKey} {made : Slot → Option ν} {creates : Bool}
    {old : Option ν} {slot : Slot} (h : SlotAsks key made creates old slot) :
    slot.question = slot := by
  cases h <;> rfl

theorem look_stage (e : Entry) (c : Context) (t : τ) : S.look (ops.stage e c t).2 = S.look t := by
  funext name
  rw [look, look, S.stage_cells]

theorem WhileStaging.keys_stage (h : S.WhileStaging c outcomes (e :: rest) t) :
    (((outcomes ++ [(e, (ops.stage e c t).1)]).map Prod.fst ++ rest).map Entry.key).Nodup := by
  simpa using h.keys

theorem WhileStaging.origin_stage (h : S.WhileStaging c outcomes (e :: rest) t) {e' : Entry}
    {op : κ} (hmem : (e', .staged op) ∈ outcomes ++ [(e, (ops.stage e c t).1)]) :
    ∃ t', S.cells t' = S.cells (ops.stage e c t).2 ∧ (ops.stage e' c t').1 = .staged op := by
  rw [S.stage_cells]
  rcases List.mem_append.1 hmem with hmem | hmem
  · exact h.origin hmem
  · obtain ⟨rfl, hop⟩ := Prod.mk.inj (List.mem_singleton.1 hmem)
    exact ⟨t, rfl, hop.symm⟩

/-- A change without a slot leaves the slots as they are. -/
theorem WhileStaging.stage_plain (h : S.WhileStaging c outcomes (e :: rest) t)
    (hstager : S.stager (ops.stage e c t).2 = S.stager t)
    (hposition : (ops.stage e c t).1.op?.bind S.position? = none) :
    S.WhileStaging c (outcomes ++ [(e, (ops.stage e c t).1)]) rest (ops.stage e c t).2 where
  keys := h.keys_stage S
  type := by rw [hstager, h.type]
  unanswered := by rw [hstager]; exact h.unanswered
  origin := h.origin_stage S
  positions := by simp [hstager, hposition, h.positions]
  asks {e' op i} hmem hi := by
    rw [hstager, S.look_stage]
    rcases List.mem_append.1 hmem with hmem | hmem
    · exact h.asks hmem hi
    · obtain ⟨rfl, hop⟩ := Prod.mk.inj (List.mem_singleton.1 hmem)
      rw [← hop, StageOutcome.op?, Option.bind_some, hi] at hposition
      cases hposition

/-- A change with a slot is given the next one. -/
theorem WhileStaging.stage_push (h : S.WhileStaging c outcomes (e :: rest) t) {op : κ}
    {slot : Slot} (houtcome : (ops.stage e c t).1 = .staged op)
    (hposition : S.position? op = some (S.stager t).slots.length)
    (hstager : S.stager (ops.stage e c t).2 = ((S.stager t).push slot).2)
    (hasks : SlotAsks S.key (S.made op) (S.creates op) (S.look t e.key) slot) :
    S.WhileStaging c (outcomes ++ [(e, (ops.stage e c t).1)]) rest (ops.stage e c t).2 := by
  have hslots : (S.stager (ops.stage e c t).2).slots = (S.stager t).slots ++ [slot] := by
    rw [hstager]
    rfl
  constructor
  case keys => exact h.keys_stage S
  case type => rw [hstager]; exact h.type
  case unanswered =>
    intro slot' hslot'
    rw [hslots, List.mem_append, List.mem_singleton] at hslot'
    obtain hslot' | rfl := hslot'
    · exact h.unanswered slot' hslot'
    · exact SlotAsks.unanswered hasks
  case origin => exact h.origin_stage S
  case positions =>
    rw [List.filterMap_append, h.positions, hslots, List.length_append, List.length_singleton,
      List.range_succ]
    simp [houtcome, StageOutcome.op?, hposition]
  case asks =>
    intro e' op' i hmem hi
    rw [hslots, S.look_stage]
    rcases List.mem_append.1 hmem with hmem | hmem
    · obtain ⟨slot', hslot', hasks'⟩ := h.asks hmem hi
      have hlt := (List.getElem?_eq_some_iff.1 hslot').1
      exact ⟨slot', by rw [List.getElem?_append_left hlt, hslot'], hasks'⟩
    · obtain ⟨rfl, hop⟩ := Prod.mk.inj (List.mem_singleton.1 hmem)
      rw [houtcome] at hop
      cases hop
      rw [hposition] at hi
      cases hi
      exact ⟨slot, by simp, hasks⟩

theorem WhileStaging.stage (h : S.WhileStaging c outcomes (e :: rest) t) :
    S.WhileStaging c (outcomes ++ [(e, (ops.stage e c t).1)]) rest (ops.stage e c t).2 := by
  cases houtcome : (ops.stage e c t).1 with
  | notReady dependency | done | invalid error =>
    rw [← houtcome]
    exact h.stage_plain S (S.stage_idle (by rw [houtcome]; rfl)) (by rw [houtcome]; rfl)
  | staged op =>
    rw [← houtcome]
    obtain ⟨hposition, hstager⟩ | ⟨slot, hposition, hstager, hasks⟩ := S.stage_slot houtcome
    · exact h.stage_plain S hstager (by rw [houtcome]; exact hposition)
    · exact h.stage_push S houtcome hposition hstager hasks

theorem WhileStaging.nodup (h : S.WhileStaging c outcomes [] t) :
    (outcomes.map fun o => o.1.key).Nodup := by
  simpa [Function.comp_def] using h.keys

/-- Every slot is that of one operation. -/
theorem WhileStaging.exists_op (h : S.WhileStaging c outcomes rest t) {i : Nat}
    (hi : i < (S.stager t).slots.length) :
    ∃ e op, (e, .staged op) ∈ outcomes ∧ S.position? op = some i := by
  have hmem := List.mem_range.2 hi
  rw [← h.positions, List.mem_filterMap] at hmem
  obtain ⟨⟨e, outcome⟩, hmem, hposition⟩ := hmem
  cases outcome with
  | staged op => exact ⟨e, op, hmem, hposition⟩
  | notReady dependency | done | invalid error => cases hposition

/-- No two operations share a slot. -/
theorem WhileStaging.own (h : S.WhileStaging c outcomes rest t) {e e' : Entry} {op op' : κ}
    {i : Nat} (hmem : (e, .staged op) ∈ outcomes) (hmem' : (e', .staged op') ∈ outcomes)
    (hi : S.position? op = some i) (hi' : S.position? op' = some i) : e = e' ∧ op = op' := by
  have hnodup : (outcomes.filterMap fun o => o.2.op?.bind S.position?).Nodup := by
    rw [h.positions]
    exact List.nodup_range
  rw [List.Nodup, List.pairwise_filterMap] at hnodup
  have : Std.Symm fun o o' : Entry × StageOutcome κ => ∀ b, o.2.op?.bind S.position? = some b →
      ∀ b', o'.2.op?.bind S.position? = some b' → b ≠ b' :=
    ⟨fun _ _ h b hb b' hb' => (h b' hb' b hb).symm⟩
  by_contra hne
  refine hnodup.forall hmem hmem' (fun heq => hne ?_) i hi i hi' rfl
  cases heq
  exact ⟨rfl, rfl⟩

end Staging

/-! ## Answers -/

/-- The objects of a table, by key, are those that the switch holds, one each. -/
structure Mirrors (look : String → Option ν) (key : ν → ObjectKey) (objects : List ObjectKey) :
    Prop where
  held : ∀ k, k ∈ objects ↔ ∃ name v, look name = some v ∧ key v = k
  distinct : ∀ {name name' v v'}, look name = some v → look name' = some v' → key v = key v' →
    name = name'

/-- A table that mirrors the switch lists what the switch holds. -/
theorem Mirrors.perm {t : Table String ν} {key : ν → ObjectKey} {objects : List ObjectKey}
    (h : Mirrors t.get? key objects) (hnodup : objects.Nodup) :
    objects.Perm (t.values.map key) := by
  have hentries : t.entries.Nodup := t.nodup.of_map _
  have hkeys : (t.values.map key).Nodup := by
    rw [Table.values, List.map_map]
    refine List.Nodup.map_on ?_ hentries
    intro x hx y hy heq
    have hname := h.distinct (Table.get?_eq_some_iff.2 hx) (Table.get?_eq_some_iff.2 hy) heq
    have hget := Table.get?_eq_some_iff.2 hx
    rw [hname, Table.get?_eq_some_iff.2 hy] at hget
    exact Prod.ext hname (Option.some.inj hget).symm
  refine (List.perm_ext_iff_of_nodup hnodup hkeys).2 fun k => ?_
  rw [h.held, List.mem_map]
  constructor
  · rintro ⟨name, v, hget, rfl⟩
    exact ⟨v, List.mem_map.2 ⟨(name, v), Table.get?_eq_some_iff.1 hget, rfl⟩, rfl⟩
  · rintro ⟨v, hv, rfl⟩
    obtain ⟨⟨name, v⟩, hmem, rfl⟩ := List.mem_map.1 hv
    exact ⟨name, v, Table.get?_eq_some_iff.2 hmem, rfl⟩

/-- The object of a key was made by an operation of the pass. -/
def Arrives (outcomes : List (Entry × StageOutcome κ)) (s : BulkStager) (name : String) (v : ν) :
    Prop :=
  ∃ e op i slot, (e, .staged op) ∈ outcomes ∧ e.key = name ∧ S.position? op = some i ∧
    s.slots[i]? = some slot ∧ S.made op slot = some v ∧ s.given? i = some (S.key v)

section Answers

variable {c : Context} {outcomes : List (Entry × StageOutcome κ)} {e : Entry} {op : κ} {t t' : τ}
  {d d' : Simulator}

/-- What is known of a table and the switch once its requests are answered: no slot gave the
identifier of nothing. -/
structure Answered (t : τ) (d : Simulator) (t' : τ) (d' : Simulator) : Prop where
  cells : S.cells t' = S.cells t
  told : BulkStager.Told (S.stager t) d (S.stager t') d'
  nonnull : ∀ i, (S.stager t').given? i ≠ some (.oid 0)

/-- The slot of an operation once it is answered: it is that of a create where there was nothing
and gave what was made, or that of a remove of what was there. -/
inductive SlotTells (s : BulkStager) (i : Nat) (op : κ) : Option ν → Slot → Prop where
  | create (slot : Slot) : S.creates op = true → (S.made op slot).map S.key = s.given? i →
    s.taken? i = none → SlotTells s i op none slot
  | remove (v : ν) (slot : Slot) : S.creates op = false → s.given? i = none →
    (s.taken? i = if (slot.status?.getD .notExecuted).IsGone then some (S.key v) else none) →
    SlotTells s i op (some v) slot

theorem WhileStaging.tells (h : S.WhileStaging c outcomes [] t) (ha : S.Answered t d t' d')
    (hmem : (e, .staged op) ∈ outcomes) {i : Nat} (hi : S.position? op = some i) :
    ∃ slot, (S.stager t').slots[i]? = some slot ∧
      S.SlotTells (S.stager t') i op (S.look t e.key) slot := by
  obtain ⟨slot, hslot, hasks⟩ := h.asks hmem hi
  generalize hcreates : S.creates op = creates, hlook : S.look t e.key = old at hasks
  cases hasks with
  | create request hmade =>
    obtain ⟨answer, hanswer⟩ := ha.told.slot_create hslot
    have hgiven : (S.stager t').given? i = (Slot.create request answer).given? := by
      rw [BulkStager.given?, hanswer, Option.bind_some]
    refine ⟨_, hanswer, .create _ hcreates ?_ ?_⟩
    · rw [hgiven]
      exact hmade answer (hgiven ▸ ha.nonnull i)
    · rw [BulkStager.taken?, hanswer]
      rfl
  | remove v =>
    obtain ⟨answer, hanswer⟩ := ha.told.slot_remove hslot
    refine ⟨_, hanswer, .remove v _ hcreates ?_ ?_⟩
    · rw [BulkStager.given?, hanswer]
      rfl
    · rw [BulkStager.taken?, hanswer, Option.bind_some]
      cases answer with
      | none =>
        have hretry : ¬Status.notExecuted.IsGone := by decide
        exact (if_neg hretry).symm
      | some status => rfl

theorem ends_staged (h : S.WhileStaging c outcomes [] t) (ha : S.Answered t d t' d')
    (hmem : (e, .staged op) ∈ outcomes) :
    S.ends outcomes t' e.key = S.settled (S.stager t') op (S.look t e.key) := by
  have hlook : S.look t' e.key = S.look t e.key := by rw [look, look, ha.cells]
  rw [ends, BulkTable.stagedFor?_of_mem (o := (e, .staged op)) h.nodup hmem, hlook]

theorem ends_unstaged (ha : S.Answered t d t' d') {name : String}
    (h : stagedFor? outcomes name = none) : S.ends outcomes t' name = S.look t name := by
  rw [ends, h, look, look, ha.cells]

/-- An object after the pass was there before, and its key was not taken away, or it arrives. -/
theorem ends_cases (h : S.WhileStaging c outcomes [] t) (ha : S.Answered t d t' d')
    {name : String} {v : ν} (hend : S.ends outcomes t' name = some v) :
    (S.look t name = some v ∧ ∀ {e op i}, (e, .staged op) ∈ outcomes → e.key = name →
      S.position? op = some i → (S.stager t').taken? i = none) ∨
    S.Arrives outcomes (S.stager t') name v := by
  cases hop : stagedFor? outcomes name with
  | none =>
    rw [S.ends_unstaged ha hop] at hend
    refine .inl ⟨hend, ?_⟩
    intro e op i hmem hkey
    rw [← hkey, BulkTable.stagedFor?_of_mem (o := (e, .staged op)) h.nodup hmem] at hop
    cases hop
  | some op =>
    obtain ⟨e, hmem, rfl⟩ := BulkTable.exists_of_stagedFor? hop
    have hsole : ∀ {e' op'}, (e', .staged op') ∈ outcomes → e'.key = e.key → op' = op := by
      intro e' op' hmem' hkey
      have hfound := BulkTable.stagedFor?_of_mem (o := (e', .staged op')) h.nodup hmem'
      rw [show ((e', StageOutcome.staged op').1.key) = e.key from hkey, hop] at hfound
      exact (Option.some.inj hfound).symm
    rw [S.ends_staged h ha hmem, settled] at hend
    cases hi : S.position? op with
    | none =>
      rw [hi, Option.bind_none] at hend
      refine .inl ⟨hend, ?_⟩
      intro e' op' j hmem' hkey hj
      rw [hsole hmem' hkey, hi] at hj
      cases hj
    | some i =>
      obtain ⟨slot, hslot, htells⟩ := h.tells S ha hmem hi
      rw [hi, Option.bind_some, hslot] at hend
      generalize hold : S.look t e.key = old at htells hend
      cases htells with
      | create _ hcreates hmade _ =>
        simp only [hcreates, if_true] at hend
        rw [hend, Option.map_some] at hmade
        exact .inr ⟨e, op, i, slot, hmem, rfl, hi, hslot, hend, hmade.symm⟩
      | remove v' _ hcreates _ htaken =>
        simp only [hcreates, Bool.false_eq_true, if_false] at hend
        by_cases hgone : (slot.status?.getD .notExecuted).IsGone
        · simp [hgone] at hend
        · rw [if_neg hgone] at hend
          refine .inl ⟨hend, ?_⟩
          intro e' op' j hmem' hkey hj
          rw [hsole hmem' hkey, hi] at hj
          cases hj
          rw [htaken, if_neg hgone]

/-- Where an object arrives there was none. -/
theorem absent_of_arrives (h : S.WhileStaging c outcomes [] t) (ha : S.Answered t d t' d')
    {name : String} {v : ν} (harrives : S.Arrives outcomes (S.stager t') name v) :
    S.look t name = none := by
  obtain ⟨e, op, i, -, hmem, rfl, hi, -, -, hgiven⟩ := harrives
  obtain ⟨slot, -, htells⟩ := h.tells S ha hmem hi
  generalize S.look t e.key = old at htells ⊢
  cases htells with
  | create => rfl
  | remove v _ _ hnone _ =>
    rw [hnone] at hgiven
    cases hgiven

/-- An object that no remove took away is still there when the pass ends. -/
theorem ends_of_kept (h : S.WhileStaging c outcomes [] t) (ha : S.Answered t d t' d')
    {name : String} {v : ν} (hlook : S.look t name = some v)
    (hkept : ∀ i, (S.stager t').taken? i ≠ some (S.key v)) :
    S.ends outcomes t' name = some v := by
  cases hop : stagedFor? outcomes name with
  | none => rw [S.ends_unstaged ha hop, hlook]
  | some op =>
    obtain ⟨e, hmem, rfl⟩ := BulkTable.exists_of_stagedFor? hop
    rw [S.ends_staged h ha hmem, settled]
    cases hi : S.position? op with
    | none => rw [Option.bind_none, hlook]
    | some i =>
      obtain ⟨slot, hslot, htells⟩ := h.tells S ha hmem hi
      rw [Option.bind_some, hslot]
      rw [hlook] at htells ⊢
      cases htells with
      | remove _ _ hcreates _ htaken =>
        have hstays := hkept i
        rw [htaken] at hstays
        have hkept : ¬(slot.status?.getD .notExecuted).IsGone :=
          fun hgone => by simp [hgone] at hstays
        simp only [hcreates, Bool.false_eq_true, if_false, if_neg hkept]

/-- What was put in place is the object of a key when the pass ends. -/
theorem ends_of_given (h : S.WhileStaging c outcomes [] t) (ha : S.Answered t d t' d') {i : Nat}
    {k : ObjectKey} (hi : (S.stager t').given? i = some k) :
    ∃ name v, S.ends outcomes t' name = some v ∧ S.key v = k := by
  obtain ⟨e, op, hmem, hposition⟩ := h.exists_op S (ha.told.lt_of_given hi)
  obtain ⟨slot, hslot, htells⟩ := h.tells S ha hmem hposition
  generalize hold : S.look t e.key = old at htells
  cases htells with
  | create _ hcreates hmade _ =>
    rw [hi, Option.map_eq_some_iff] at hmade
    obtain ⟨v, hv, hkey⟩ := hmade
    refine ⟨e.key, v, ?_, hkey⟩
    rw [S.ends_staged h ha hmem, settled, hposition, Option.bind_some, hslot]
    simp only [hcreates, if_true, hv]
  | remove v _ _ hgiven _ =>
    rw [hgiven] at hi
    cases hi

/-- Only the remove that the key of an object staged takes the object away. -/
theorem op_of_taken (h : S.WhileStaging c outcomes [] t) (ha : S.Answered t d t' d')
    (hdistinct : ∀ {name name' v v'}, S.look t name = some v → S.look t name' = some v' →
      S.key v = S.key v' → name = name')
    {name : String} {v : ν} (hlook : S.look t name = some v) {i : Nat}
    (hi : (S.stager t').taken? i = some (S.key v)) :
    ∃ e op, (e, .staged op) ∈ outcomes ∧ e.key = name ∧ S.position? op = some i := by
  obtain ⟨e, op, hmem, hposition⟩ := h.exists_op S (ha.told.lt_of_taken hi)
  refine ⟨e, op, hmem, ?_, hposition⟩
  obtain ⟨slot, hslot, htells⟩ := h.tells S ha hmem hposition
  generalize hold : S.look t e.key = old at htells
  cases htells with
  | create _ _ _ htaken =>
    rw [htaken] at hi
    cases hi
  | remove v' _ _ _ htaken =>
    rw [htaken] at hi
    split at hi
    · exact hdistinct hold hlook (Option.some.inj hi)
    · cases hi

/-- The switch holds the objects that the table ends with, if it held those of the table before. -/
theorem held_ends (h : S.WhileStaging c outcomes [] t) (ha : S.Answered t d t' d')
    (hmirrors : Mirrors (S.look t) S.key (d.objects S.type)) (k : ObjectKey) :
    k ∈ d'.objects S.type ↔ ∃ name v, S.ends outcomes t' name = some v ∧ S.key v = k := by
  have hobjects := ha.told.objects k
  rw [h.type, hmirrors.held] at hobjects
  rw [hobjects]
  constructor
  · rintro (⟨⟨name, v, hlook, rfl⟩, hkept⟩ | ⟨i, hi⟩)
    · exact ⟨name, v, S.ends_of_kept h ha hlook hkept, rfl⟩
    · exact S.ends_of_given h ha hi
  · rintro ⟨name, v, hend, rfl⟩
    obtain ⟨hlook, hkept⟩ | ⟨e, op, i, slot, -, -, -, -, -, hgiven⟩ := S.ends_cases h ha hend
    · refine .inl ⟨⟨name, v, hlook, rfl⟩, fun i hi => ?_⟩
      obtain ⟨e, op, hmem, hown, hposition⟩ := S.op_of_taken h ha hmirrors.distinct hlook hi
      rw [hkept hmem hown hposition] at hi
      cases hi
    · exact .inr ⟨i, hgiven⟩

/-- Table and switch agree at the end, if they agreed before and what the table ends with has
different keys. -/
theorem mirrors_ends (h : S.WhileStaging c outcomes [] t) (ha : S.Answered t d t' d')
    (hmirrors : Mirrors (S.look t) S.key (d.objects S.type))
    (hdistinct : ∀ {name name' v v'}, S.ends outcomes t' name = some v →
      S.ends outcomes t' name' = some v' → S.key v = S.key v' → name = name') :
    Mirrors (S.ends outcomes t') S.key (d'.objects S.type) :=
  ⟨S.held_ends h ha hmirrors, hdistinct⟩

end Answers

/-! ## Committing -/

section Committing

variable {c : Context} {outcomes rest : List (Entry × StageOutcome κ)} {e : Entry} {op : κ}
  {t t' : τ} {d d' : Simulator} {final : String → Option ν}

/-- The assertion while changes are committed: the table is to end with the given objects. -/
structure WhileCommitting (final : String → Option ν) (rest : List (Entry × StageOutcome κ))
    (t : τ) : Prop where
  nodup : (rest.map fun o => o.1.key).Nodup
  suits : ∀ {e op}, (e, .staged op) ∈ rest → S.Suits op ((S.cells t).get? e.key)
  reaches : S.ends rest t = final

/-- Between staging and committing the requests are answered. -/
theorem WhileStaging.turn (h : S.WhileStaging c outcomes [] t) (ha : S.Answered t d t' d') :
    S.WhileCommitting (S.ends outcomes t') outcomes t' where
  nodup := h.nodup
  suits hmem := by
    obtain ⟨t'', hcells, hstage⟩ := h.origin hmem
    rw [ha.cells, ← hcells]
    exact S.stage_suits hstage
  reaches := rfl

theorem WhileCommitting.skip {o : Entry × StageOutcome κ} (ho : o.2.isStaged = false)
    (h : S.WhileCommitting final (o :: rest) t) : S.WhileCommitting final rest t := by
  have hends : S.ends (o :: rest) t = S.ends rest t := by
    funext name
    have hfor : stagedFor? (o :: rest) name = stagedFor? rest name := by
      have hnone : o.2.op? = none := by
        cases houtcome : o.2 with
        | staged op => rw [houtcome] at ho; cases ho
        | notReady dependency | done | invalid error => rfl
      simp [stagedFor?, hnone]
    rw [ends, ends, hfor]
  refine ⟨(List.nodup_cons.1 h.nodup).2, fun hmem => h.suits (List.mem_cons_of_mem _ hmem), ?_⟩
  rw [← hends]
  exact h.reaches

theorem WhileCommitting.commit (h : S.WhileCommitting final ((e, .staged op) :: rest) t) :
    S.WhileCommitting final rest (ops.commit e op c t).2.2 := by
  have hnodup := List.nodup_cons.1 h.nodup
  have hne : ∀ {e' op'}, (e', StageOutcome.staged op') ∈ rest → e.key ≠ e'.key :=
    fun hmem heq => hnodup.1 (List.mem_map.2 ⟨_, hmem, heq.symm⟩)
  have hends : S.ends ((e, .staged op) :: rest) t = S.ends rest (ops.commit e op c t).2.2 := by
    funext name
    by_cases hkey : e.key = name
    · subst hkey
      have hrest : stagedFor? rest e.key = none := BulkTable.stagedFor?_eq_none hnodup.1
      have hfirst : stagedFor? ((e, .staged op) :: rest) e.key = some op :=
        BulkTable.stagedFor?_of_mem (o := (e, .staged op)) h.nodup (List.mem_cons_self ..)
      rw [ends, ends, hfirst, hrest]
      exact (S.commit_view (h.suits (List.mem_cons_self ..))).symm
    · have hlook : S.look (ops.commit e op c t).2.2 name = S.look t name := by
        rw [look, look, S.commit_other hkey]
      rw [ends, ends, BulkTable.stagedFor?_of_ne (o := (e, .staged op)) hkey, hlook,
        S.commit_stager]
  refine ⟨hnodup.2, fun hmem => ?_, ?_⟩
  · rw [S.commit_other (hne hmem)]
    exact h.suits (List.mem_cons_of_mem _ hmem)
  · rw [← hends]
    exact h.reaches

theorem WhileCommitting.look_endPass (h : S.WhileCommitting final [] t) :
    S.look (ops.endPass t) = final := by
  rw [← h.reaches, ends_nil]
  funext name
  rw [look, look, S.endPass_cells]

end Committing

end SoleRequests

end DashAgent
