import DashAgent.Proofs.Switch.FlushInvariant

/-!
# Which slot gets which answer

A flush asks for the open removes in slot order, cut into calls of the bulk size, and then for the
open creates likewise. What it does to the slots is said without positions: the open slots of one
kind are filled in order with the answers of the calls, where each call gives as many answers as it
has requests. From this every slot is told which call settles it, and from which place of its
answer. Main theorems: `flush_eq`, `flush_exact`.
-/
namespace DashAgent

/-! ## Cut lists -/

/-- A list is cut into parts of a size; only the last may be shorter, and none is empty. -/
structure CutInto {α : Type} (size : Nat) (xs : List α) (parts : List (List α)) : Prop where
  flatten : parts.flatten = xs
  within : ∀ part ∈ parts, part ≠ [] ∧ part.length ≤ size
  full : ∀ part ∈ parts.dropLast, part.length = size

section Cut

variable {α : Type} {size : Nat} {xs : List α} {part : List α} {parts : List (List α)}

theorem CutInto.nil : CutInto size ([] : List α) [] := ⟨rfl, nofun, nofun⟩

/-- A part in front has the full size if anything follows it. -/
theorem CutInto.cons (hne : part ≠ []) (hle : part.length ≤ size)
    (hfull : parts ≠ [] → part.length = size) (h : CutInto size xs parts) :
    CutInto size (part ++ xs) (part :: parts) where
  flatten := by rw [List.flatten_cons, h.flatten]
  within := List.forall_mem_cons.2 ⟨⟨hne, hle⟩, h.within⟩
  full := by
    cases parts with
    | nil => exact nofun
    | cons => exact List.forall_mem_cons.2 ⟨hfull (List.cons_ne_nil _ _), h.full⟩

theorem CutInto.head (h : CutInto size xs (part :: parts)) (hparts : parts ≠ []) :
    part.length = size := by
  refine h.full part ?_
  rw [List.dropLast_cons_of_ne_nil hparts]
  exact List.mem_cons_self ..

theorem CutInto.tail (h : CutInto size xs (part :: parts)) :
    CutInto size parts.flatten parts where
  flatten := rfl
  within := (List.forall_mem_cons.1 h.within).2
  full p hp := by
    refine h.full p ?_
    rw [List.dropLast_cons_of_ne_nil (by rintro rfl; cases hp)]
    exact List.mem_cons_of_mem _ hp

theorem CutInto.drop (h : CutInto size xs parts) (n : Nat) :
    CutInto size (parts.drop n).flatten (parts.drop n) := by
  induction n generalizing xs parts with
  | zero => exact ⟨rfl, h.within, h.full⟩
  | succ n ih =>
    cases parts with
    | nil => exact .nil
    | cons part parts => exact ih h.tail

theorem chunksWithin_nil (size bound : Nat) : chunksWithin size bound ([] : List α) = [] := by
  cases bound <;> rfl

/-- There is one way to cut a list. -/
theorem CutInto.chunksWithin_eq (h : CutInto size xs parts) {bound : Nat}
    (hbound : xs.length ≤ bound) : chunksWithin size bound xs = parts := by
  induction parts generalizing xs bound with
  | nil =>
    obtain rfl : [] = xs := h.flatten
    exact chunksWithin_nil ..
  | cons part rest ih =>
    obtain ⟨hne, hle⟩ := h.within part (List.mem_cons_self ..)
    have hpos := List.length_pos_iff.2 hne
    obtain rfl : part ++ rest.flatten = xs := h.flatten
    rw [List.length_append] at hbound
    have hcut : (part ++ rest.flatten).take size = part ∧
        (part ++ rest.flatten).drop size = rest.flatten := by
      by_cases hrest : rest = []
      · subst hrest
        simp [List.take_of_length_le hle, hle]
      · rw [← h.head hrest]
        exact ⟨List.take_left .., List.drop_left ..⟩
    obtain ⟨bound, rfl⟩ : ∃ b, bound = b + 1 := ⟨bound - 1, by omega⟩
    rw [chunksWithin, hcut.1, hcut.2, ih h.tail (by omega)]
    intro hnil
    exact hne (List.append_eq_nil_iff.1 hnil).1

theorem CutInto.chunks_eq (h : CutInto size xs parts) : chunks size xs = parts :=
  h.chunksWithin_eq (Nat.le_refl _)

theorem cutInto_chunksWithin (hsize : 0 < size) (bound : Nat) (hbound : xs.length ≤ bound) :
    CutInto size xs (chunksWithin size bound xs) := by
  induction bound generalizing xs with
  | zero =>
    obtain rfl := List.length_eq_zero_iff.1 (Nat.le_zero.1 hbound)
    exact .nil
  | succ bound ih =>
    by_cases hxs : xs = []
    · subst hxs
      exact .nil
    · have hpos := List.length_pos_iff.2 hxs
      have hrest : CutInto size (xs.drop size) (chunksWithin size bound (xs.drop size)) :=
        ih (by rw [List.length_drop]; omega)
      have hcons : CutInto size (xs.take size ++ xs.drop size)
          (xs.take size :: chunksWithin size bound (xs.drop size)) := by
        refine hrest.cons ?_ (List.length_take_le ..) ?_
        · intro hnil
          have := congrArg List.length hnil
          rw [List.length_take, List.length_nil] at this
          omega
        · intro hlater
          rw [List.length_take, Nat.min_eq_left]
          by_contra hlt
          rw [List.drop_of_length_le (by omega)] at hlater
          exact hlater (chunksWithin_nil ..)
      rw [List.take_append_drop] at hcons
      rwa [chunksWithin]
      exact hxs

theorem cutInto_chunks (hsize : 0 < size) (xs : List α) : CutInto size xs (chunks size xs) :=
  cutInto_chunksWithin hsize _ (Nat.le_refl _)

/-- An element stands in the part, and at the place of it, that its position counts out. -/
theorem CutInto.getElem? (h : CutInto size xs parts) (hsize : 0 < size) (i : Nat) :
    xs[i]? = parts[i / size]?.bind (·[i % size]?) := by
  induction parts generalizing xs i with
  | nil =>
    obtain rfl : [] = xs := h.flatten
    rfl
  | cons part rest ih =>
    obtain ⟨-, hle⟩ := h.within part (List.mem_cons_self ..)
    obtain rfl : part ++ rest.flatten = xs := h.flatten
    by_cases hi : i < size
    · rw [Nat.div_eq_of_lt hi, Nat.mod_eq_of_lt hi, List.getElem?_cons_zero, Option.bind_some]
      by_cases hrest : rest = []
      · rw [hrest, List.flatten_nil, List.append_nil]
      · rw [List.getElem?_append_left (by rw [h.head hrest]; exact hi)]
    · obtain ⟨i, rfl⟩ : ∃ j, i = size + j := ⟨i - size, by omega⟩
      rw [Nat.add_div_left _ hsize, Nat.add_mod_left, List.getElem?_cons_succ, ← ih h.tail,
        List.getElem?_append_right (by omega)]
      by_cases hrest : rest = []
      · simp [hrest]
      · rw [h.head hrest, Nat.add_sub_cancel_left]

theorem chunks_map {β : Type} (f : α → β) (size : Nat) (xs : List α) :
    chunks size (xs.map f) = (chunks size xs).map (List.map f) := by
  have hwithin : ∀ bound (xs : List α), chunksWithin size bound (xs.map f) =
      (chunksWithin size bound xs).map (List.map f) := by
    intro bound
    induction bound with
    | zero => exact fun _ => rfl
    | succ bound ih =>
      intro xs
      cases xs with
      | nil => rfl
      | cons x rest =>
        have hrest := ih ((x :: rest).drop size)
        rw [List.map_drop] at hrest
        simpa [chunksWithin, List.map_take] using hrest
  rw [chunks, List.length_map, hwithin]
  rfl

end Cut

/-! ## Calls for the parts -/

section Asking

variable {α β δ : Type}

/-- Makes a call for each part, up to the first that fails: the answers, and how it ended. -/
def askAll (send : List α → δ → Except DriverError (List β) × δ) :
    List (List α) → δ → List (List β) × Except DriverError Unit × δ
  | [], d => ([], .ok (), d)
  | part :: rest, d =>
    match send part d with
    | (.error e, d) => ([], .error e, d)
    | (.ok answer, d) =>
      let (answers, outcome, d) := askAll send rest d
      (answer :: answers, outcome, d)

/-- Removes the parts of a list of keys, and then creates the parts of a list of requests: the
answers of both, and how it ended. -/
def askBoth [Driver δ] (type : ObjectType) (keyParts : List (List ObjectKey))
    (requestParts : List (List CreateRequest)) (d : δ) :
    List (List Status) × List (List CreateAnswer) × Except DriverError Unit × δ :=
  match askAll (Driver.bulkRemove type) keyParts d with
  | (statuses, .error e, d) => (statuses, [], .error e, d)
  | (statuses, .ok (), d) => (statuses, askAll (Driver.bulkCreate type) requestParts d)

variable (send : List α → δ → Except DriverError (List β) × δ)

theorem length_askAll (parts : List (List α)) (d : δ) :
    (askAll send parts d).1.length ≤ parts.length ∧
      ((askAll send parts d).2.1 = .ok () ↔ (askAll send parts d).1.length = parts.length) := by
  induction parts generalizing d with
  | nil => exact ⟨Nat.le_refl _, iff_of_true rfl rfl⟩
  | cons part rest ih =>
    unfold askAll
    split
    · exact ⟨Nat.zero_le _, iff_of_false nofun nofun⟩
    · next answer d' _ => simpa using ih d'

/-- It ends well if and only if all parts are answered, and no part is created before all removes
are answered. -/
theorem askBoth_ok [Driver δ] {type : ObjectType} {keyParts : List (List ObjectKey)}
    {requestParts : List (List CreateRequest)} {d d' : δ} {statuses : List (List Status)}
    {answers : List (List CreateAnswer)} {outcome : Except DriverError Unit}
    (h : askBoth type keyParts requestParts d = (statuses, answers, outcome, d')) :
    (outcome = .ok () ↔
        statuses.length = keyParts.length ∧ answers.length = requestParts.length) ∧
      (answers ≠ [] → statuses.length = keyParts.length) := by
  have hremoved := length_askAll (Driver.bulkRemove (δ := δ) type) keyParts d
  rw [askBoth] at h
  rcases hremoves : askAll (Driver.bulkRemove (δ := δ) type) keyParts d with ⟨removed, ended, d₁⟩
  rw [hremoves] at h hremoved
  cases ended with
  | error e =>
    cases h
    refine ⟨iff_of_false nofun fun hall => ?_, fun hne => (hne rfl).elim⟩
    cases hremoved.2.2 hall.1
  | ok =>
    obtain ⟨rfl, hcreates⟩ := Prod.mk.inj h
    have hcreated := length_askAll (Driver.bulkCreate (δ := δ) type) requestParts d₁
    rw [hcreates] at hcreated
    have hfull := hremoved.2.1 rfl
    exact ⟨hcreated.2.trans (and_iff_right hfull).symm, fun _ => hfull⟩

/-- The answers to a part: one for each request, and what is too much is dropped. -/
def fit (missing : β) (part : List α) (answer : List β) : List β :=
  (List.range part.length).map fun i => answer.getD i missing

/-- The answers to the requests of the parts that have one, in order. -/
def fitAll (missing : β) (parts : List (List α)) (answers : List (List β)) : List β :=
  (List.zipWith (fit missing) parts answers).flatten

theorem length_fit (missing : β) (part : List α) (answer : List β) :
    (fit missing part answer).length = part.length := by
  rw [fit, List.length_map, List.length_range]

theorem fit_cons (missing : β) (a : α) (part : List α) (answer : List β) :
    fit missing (a :: part) answer = answer.headD missing :: fit missing part answer.tail := by
  simp only [fit, List.length_cons, List.range_succ_eq_map, List.map_cons, List.map_map,
    List.getD_eq_getElem?_getD, List.headD_eq_head?_getD, List.head?_eq_getElem?,
    List.getElem?_tail]
  rfl

theorem fit_map {γ : Type} (f : γ → α) (missing : β) (part : List γ) (answer : List β) :
    fit missing (part.map f) answer = fit missing part answer := by
  rw [fit, List.length_map, fit]

theorem fitAll_map {γ : Type} (f : γ → α) (missing : β) (parts : List (List γ))
    (answers : List (List β)) :
    fitAll missing (parts.map (List.map f)) answers = fitAll missing parts answers := by
  simp only [fitAll, List.zipWith_map_left, fit_map]

theorem fitAll_nil (missing : β) (parts : List (List α)) : fitAll missing parts [] = [] := by
  rw [fitAll, List.zipWith_nil_right, List.flatten_nil]

/-- An answer that is as long as the part is taken as it is. -/
theorem fit_eq {missing : β} {part : List α} {answer : List β}
    (h : answer.length = part.length) : fit missing part answer = answer := by
  induction part generalizing answer with
  | nil => exact (List.length_eq_zero_iff.1 h).symm
  | cons a part ih =>
    cases answer with
    | nil => cases h
    | cons b answer => rw [fit_cons, List.tail_cons, ih (Nat.succ.inj h)]; rfl

variable {size : Nat} {xs : List α} {parts : List (List α)} (missing : β)

/-- The answers are cut as the requests are. -/
theorem CutInto.fitAll (h : CutInto size xs parts) (answers : List (List β)) :
    CutInto size (fitAll missing parts answers)
      (List.zipWith (fit missing) parts answers) := by
  induction parts generalizing xs answers with
  | nil => exact .nil
  | cons part rest ih =>
    cases answers with
    | nil => exact .nil
    | cons answer answers =>
      obtain ⟨hne, hle⟩ := h.within part (List.mem_cons_self ..)
      refine (ih h.tail answers).cons ?_ ?_ ?_
      · rw [← List.length_pos_iff, length_fit]
        exact List.length_pos_iff.2 hne
      · rw [length_fit]
        exact hle
      · intro hlater
        rw [length_fit]
        exact h.head (by rintro rfl; exact hlater rfl)

/-- A request takes the answer at its own place among the answers to its part. -/
theorem CutInto.getElem?_fitAll (h : CutInto size xs parts) (hsize : 0 < size) {i : Nat} {a : α}
    (ha : xs[i]? = some a) (answers : List (List β)) :
    (DashAgent.fitAll missing parts answers)[i]? =
      answers[i / size]?.map (·.getD (i % size) missing) := by
  rw [(h.fitAll missing answers).getElem? hsize, List.getElem?_zipWith]
  rw [h.getElem? hsize, Option.bind_eq_some_iff] at ha
  obtain ⟨part, hpart, ha⟩ := ha
  have hlt := (List.getElem?_eq_some_iff.1 ha).1
  rw [hpart]
  cases answers[i / size]? with
  | none => rfl
  | some answer => simp [fit, hlt]

/-- What is left to ask after some answers. -/
theorem drop_length_fitAll (answers : List (List β)) :
    parts.flatten.drop (DashAgent.fitAll missing parts answers).length =
      (parts.drop answers.length).flatten := by
  induction parts generalizing answers with
  | nil => simp
  | cons part rest ih =>
    cases answers with
    | nil => rfl
    | cons answer answers =>
      simp only [DashAgent.fitAll, List.zipWith_cons_cons, List.flatten_cons, List.length_append,
        length_fit, List.length_cons, List.drop_succ_cons]
      rw [← List.drop_drop, List.drop_left]
      exact ih answers

end Asking

namespace BulkStager

/-! ## Open slots filled in order -/

section Fill

variable {α β δ γ : Type} (call : BulkCall δ α β)

/-- The slots that wait for the calls answered in order, as far as there are answers. -/
def BulkCall.fill (call : BulkCall δ α β) : List Slot → List β → List Slot
  | [], _ => []
  | slot :: rest, answers =>
    match call.pick slot, answers with
    | some a, b :: answers => call.answered a b :: fill call rest answers
    | some _, [] => slot :: fill call rest []
    | none, answers => slot :: fill call rest answers

theorem fill_nil (slots : List Slot) : call.fill slots [] = slots := by
  induction slots with
  | nil => rfl
  | cons slot rest ih => cases h : call.pick slot <;> simp [BulkCall.fill, h, ih]

theorem length_fill (slots : List Slot) (answers : List β) :
    (call.fill slots answers).length = slots.length := by
  induction slots generalizing answers with
  | nil => rfl
  | cons slot rest ih =>
    cases h : call.pick slot <;> cases answers <;> simp [BulkCall.fill, h, ih]

/-- A slot that does not wait stays as it is. Any other takes the answer that comes to it after
those for the waiting slots before it. -/
theorem getElem?_fill {slots : List Slot} {i : Nat} {slot : Slot} (hslot : slots[i]? = some slot)
    (answers : List β) :
    (call.fill slots answers)[i]? = some (match call.pick slot with
      | none => slot
      | some a => (answers[((slots.take i).filterMap call.pick).length]?.map
          (call.answered a)).getD slot) := by
  induction slots generalizing i answers with
  | nil => cases hslot
  | cons first rest ih =>
    cases i with
    | zero =>
      obtain rfl : first = slot := by simpa using hslot
      cases h : call.pick first <;> cases answers <;> simp [BulkCall.fill, h]
    | succ i =>
      rw [List.getElem?_cons_succ] at hslot
      cases h : call.pick first <;> cases answers <;> simp [BulkCall.fill, h, ih hslot]

theorem take_fill (slots : List Slot) (answers : List β) (i : Nat) :
    (call.fill slots answers).take i = call.fill (slots.take i) answers := by
  induction slots generalizing answers i with
  | nil => simp [BulkCall.fill]
  | cons slot rest ih =>
    cases i with
    | zero => rfl
    | succ i => cases h : call.pick slot <;> cases answers <;> simp [BulkCall.fill, h, ih]

/-- The request of a waiting slot comes after those of the waiting slots before it. -/
theorem getElem?_filterMap_pick (pick : Slot → Option α) {slots : List Slot} {i : Nat}
    {slot : Slot} {a : α} (hslot : slots[i]? = some slot) (hpick : pick slot = some a) :
    (slots.filterMap pick)[((slots.take i).filterMap pick).length]? = some a := by
  obtain ⟨hlt, hget⟩ := List.getElem?_eq_some_iff.1 hslot
  have hsplit : slots.filterMap pick =
      (slots.take i).filterMap pick ++ a :: (slots.drop (i + 1)).filterMap pick := by
    conv => lhs; rw [← List.take_append_drop i slots, List.drop_eq_getElem_cons hlt, hget]
    rw [List.filterMap_append, List.filterMap_cons_some hpick]
  rw [hsplit, List.getElem?_append_right (Nat.le_refl _), Nat.sub_self]
  rfl

/-- Slots of another kind wait for what they waited for. -/
theorem filterMap_fill_other {pick : Slot → Option γ} (hother : ∀ slot a,
    call.pick slot = some a → pick slot = none ∧ ∀ b, pick (call.answered a b) = none)
    (slots : List Slot) (answers : List β) :
    (call.fill slots answers).filterMap pick = slots.filterMap pick := by
  induction slots generalizing answers with
  | nil => rfl
  | cons slot rest ih =>
    cases h : call.pick slot with
    | none => simp [BulkCall.fill, h, ih, List.filterMap_cons]
    | some a =>
      obtain ⟨hslot, hans⟩ := hother slot a h
      cases answers <;> simp [BulkCall.fill, h, ih, hslot, hans]

/-- The slot of a request is told the answer at the place of the request. -/
theorem getElem?_fill_fitAll {size : Nat} (hsize : 0 < size)
    {slots : List Slot} {i r : Nat} {slot : Slot} {a : α} (hslot : slots[i]? = some slot)
    (hpick : call.pick slot = some a) (hrank : ((slots.take i).filterMap call.pick).length = r)
    (answers : List (List β)) :
    (call.fill slots (fitAll call.missing (chunks size (slots.filterMap call.pick)) answers))[i]? =
      some (((answers[r / size]?.map fun answer => answer.getD (r % size) call.missing).map
        (call.answered a)).getD slot) := by
  have ha := getElem?_filterMap_pick call.pick hslot hpick
  rw [hrank] at ha
  rw [getElem?_fill call hslot, hpick]
  simp only [hrank]
  rw [(cutInto_chunks hsize _).getElem?_fitAll _ hsize ha]

/-- What is filled in one go is filled in two. -/
theorem fill_append (hanswered : ∀ a b, call.pick (call.answered a b) = none) (slots : List Slot)
    (answers more : List β) :
    call.fill slots (answers ++ more) = call.fill (call.fill slots answers) more := by
  induction slots generalizing answers with
  | nil => rfl
  | cons slot rest ih =>
    cases h : call.pick slot with
    | none => simp [BulkCall.fill, h, ih]
    | some a =>
      cases answers with
      | nil => rw [List.nil_append, fill_nil]
      | cons b answers => simp [BulkCall.fill, h, hanswered, ih]

/-! ## Updates as fillings -/

/-- The slots selected from a part of the list that begins at a position. -/
def selectedFrom (pick : Slot → Option α) (start : Nat) (slots : List Slot) : List (Nat × α) :=
  (slots.zipIdx start).filterMap fun (slot, position) => (pick slot).map (position, ·)

theorem selectedFrom_cons (pick : Slot → Option α) (start : Nat) (slot : Slot)
    (rest : List Slot) : selectedFrom pick start (slot :: rest) =
      ((pick slot).map (start, ·)).toList ++ selectedFrom pick (start + 1) rest := by
  cases h : pick slot <;> simp [selectedFrom, h]

theorem snd_selectedFrom (pick : Slot → Option α) (start : Nat) (slots : List Slot) :
    (selectedFrom pick start slots).map Prod.snd = slots.filterMap pick := by
  induction slots generalizing start with
  | nil => rfl
  | cons slot rest ih =>
    rw [selectedFrom_cons, List.map_append, ih, List.filterMap_cons]
    cases pick slot <;> rfl

theorem selectedFrom_fill (hanswered : ∀ a b, call.pick (call.answered a b) = none) (start : Nat)
    (slots : List Slot) (answers : List β) :
    selectedFrom call.pick start (call.fill slots answers) =
      (selectedFrom call.pick start slots).drop answers.length := by
  induction slots generalizing start answers with
  | nil => simp [BulkCall.fill, selectedFrom]
  | cons slot rest ih =>
    cases h : call.pick slot <;> cases answers <;>
      simp [BulkCall.fill, h, ih, hanswered, selectedFrom_cons]

/-- The answered requests wait no more. -/
theorem filterMap_fill (hanswered : ∀ a b, call.pick (call.answered a b) = none)
    (slots : List Slot) (answers : List β) :
    (call.fill slots answers).filterMap call.pick =
      (slots.filterMap call.pick).drop answers.length := by
  rw [← snd_selectedFrom call.pick 0, ← snd_selectedFrom call.pick 0,
    selectedFrom_fill call hanswered, List.map_drop]

/-- The answers of a call written to the positions of the first waiting slots fill these. -/
theorem foldl_updates (before slots : List Slot) (n : Nat) (answers : List β) :
    (call.updates ((selectedFrom call.pick before.length slots).take n) answers).foldl
        (fun slots u => slots.set u.1 u.2) (before ++ slots) =
      before ++ call.fill slots (fit call.missing
        ((selectedFrom call.pick before.length slots).take n) answers) := by
  induction slots generalizing before n answers with
  | nil => simp [selectedFrom, BulkCall.updates, BulkCall.fill]
  | cons slot rest ih =>
    rw [selectedFrom_cons]
    cases h : call.pick slot with
    | none =>
      have hrest := ih (before ++ [slot]) n answers
      simpa [BulkCall.fill, h] using hrest
    | some a =>
      cases n with
      | zero => simp [BulkCall.updates, fit, fill_nil]
      | succ n =>
        have hrest := ih (before ++ [call.answered a (answers.headD call.missing)]) n answers.tail
        simpa [BulkCall.fill, h, updates_cons, fit_cons] using hrest

end Fill

/-! ## A flush -/

def filled {α β δ : Type} (s : BulkStager) (call : BulkCall δ α β) (answers : List β) :
    BulkStager := { s with slots := call.fill s.slots answers }

section Calls

variable {α β δ : Type} {call : BulkCall δ α β}

theorem filled_nil (s : BulkStager) : s.filled call [] = s := by rw [filled, fill_nil]

theorem replace_updates (s : BulkStager) (n : Nat) (answers : List β) :
    s.replace (call.updates ((s.selected call.pick).take n) answers) =
      s.filled call (fit call.missing ((s.selected call.pick).take n) answers) := by
  have hslots := foldl_updates call [] s.slots n answers
  simp only [List.nil_append, List.length_nil] at hslots
  exact congrArg (fun slots => { s with slots }) hslots

theorem selected_filled (hanswered : ∀ a b, call.pick (call.answered a b) = none)
    (s : BulkStager) (n : Nat) (answers : List β) :
    (s.filled call (fit call.missing ((s.selected call.pick).take n) answers)).selected call.pick =
      (s.selected call.pick).drop n := by
  have hdrop := selectedFrom_fill call hanswered 0 s.slots
    (fit call.missing ((s.selected call.pick).take n) answers)
  rw [length_fit, List.length_take] at hdrop
  refine hdrop.trans ?_
  by_cases hn : n ≤ (s.selected call.pick).length
  · rw [Nat.min_eq_left hn]
    rfl
  · rw [Nat.min_eq_right (by omega), List.drop_of_length_le (Nat.le_of_not_le hn)]
    exact List.drop_of_length_le (Nat.le_refl _)

/-- The calls for the selected slots, made one after another, fill these slots in order. -/
theorem sendChunks_eq (hanswered : ∀ a b, call.pick (call.answered a b) = none) (bound : Nat)
    {s : BulkStager} {d d' : δ} {parts : List (List (Nat × α))} {answers : List (List β)}
    {outcome : Except DriverError Unit}
    (hparts : chunksWithin s.maxBulkSize bound (s.selected call.pick) = parts)
    (hasked : askAll (call.send s.type) (parts.map (List.map Prod.snd)) d =
      (answers, outcome, d')) :
    sendChunks call parts s d =
      (outcome, s.filled call (fitAll call.missing parts answers), d') := by
  induction bound generalizing s d parts answers with
  | zero =>
    subst hparts
    cases hasked
    rw [fitAll, chunksWithin, sendChunks, List.zipWith_nil_left, List.flatten_nil, filled_nil]
  | succ bound ih =>
    by_cases hnil : s.selected call.pick = []
    · rw [hnil, chunksWithin_nil] at hparts
      subst hparts
      cases hasked
      rw [fitAll, sendChunks, List.zipWith_nil_left, List.flatten_nil, filled_nil]
    · rw [chunksWithin] at hparts
      · subst hparts
        rw [List.map_cons, askAll] at hasked
        rw [sendChunks]
        rcases hsend : call.send s.type
          (((s.selected call.pick).take s.maxBulkSize).map Prod.snd) d with ⟨answer, d₁⟩
        rw [hsend] at hasked
        cases answer with
        | error e =>
          cases hasked
          simp only [fitAll_nil, filled_nil]
        | ok answer =>
          rcases hrest : askAll (call.send s.type) ((chunksWithin s.maxBulkSize bound
            ((s.selected call.pick).drop s.maxBulkSize)).map (List.map Prod.snd)) d₁
            with ⟨answers, outcome, d₂⟩
          simp only [hrest] at hasked
          cases hasked
          have hnext := ih (congrArg _ (selected_filled hanswered s s.maxBulkSize answer)) hrest
          rw [← replace_updates] at hnext
          refine hnext.trans ?_
          simp only [replace_updates, filled, fitAll, List.zipWith_cons_cons, List.flatten_cons,
            fill_append call hanswered]
      · exact hnil

variable (call) in
theorem sendAll_eq (hanswered : ∀ a b, call.pick (call.answered a b) = none) {s : BulkStager}
    {d d' : δ} {answers : List (List β)} {outcome : Except DriverError Unit}
    (hasked : askAll (call.send s.type) (chunks s.maxBulkSize (s.slots.filterMap call.pick)) d =
      (answers, outcome, d')) :
    sendAll call s d = (outcome, s.filled call (fitAll call.missing
      (chunks s.maxBulkSize (s.slots.filterMap call.pick)) answers), d') := by
  have hpick : s.slots.filterMap call.pick = (s.selected call.pick).map Prod.snd :=
    (snd_selectedFrom call.pick 0 s.slots).symm
  rw [hpick, chunks_map] at hasked ⊢
  rw [fitAll_map]
  exact sendChunks_eq hanswered _ rfl hasked

end Calls

def keyParts (s : BulkStager) : List (List ObjectKey) :=
  chunks s.maxBulkSize (s.slots.filterMap Slot.openRemove?)

def requestParts (s : BulkStager) : List (List CreateRequest) :=
  chunks s.maxBulkSize (s.slots.filterMap Slot.openCreate?)

section Flush

variable {δ : Type} [Driver δ]

/-- Answers to removes leave the creates open. -/
theorem openCreates_fill (slots : List Slot) (statuses : List Status) :
    ((removes (δ := δ)).fill slots statuses).filterMap Slot.openCreate? =
      slots.filterMap Slot.openCreate? := by
  refine filterMap_fill_other removes ?_ slots statuses
  intro slot key hpick
  rw [Slot.eq_of_openRemove? hpick]
  exact ⟨rfl, fun _ => rfl⟩

theorem requestParts_filled (s : BulkStager) (statuses : List Status) :
    (s.filled (removes (δ := δ)) statuses).requestParts = s.requestParts :=
  congrArg (chunks s.maxBulkSize) (openCreates_fill s.slots statuses)

/-- Answers to creates leave the removes open. -/
theorem openRemoves_fill (slots : List Slot) (answers : List CreateAnswer) :
    ((creates (δ := δ)).fill slots answers).filterMap Slot.openRemove? =
      slots.filterMap Slot.openRemove? := by
  refine filterMap_fill_other creates ?_ slots answers
  intro slot request hpick
  rw [Slot.eq_of_openCreate? hpick]
  exact ⟨rfl, fun _ => rfl⟩

/-- A flush makes the calls for the removes and then those for the creates, and fills the open
slots with the answers in order. -/
theorem flush_eq {s : BulkStager} {d d' : δ} {statuses : List (List Status)}
    {answers : List (List CreateAnswer)} {outcome : Except DriverError Unit}
    (hasked : askBoth s.type s.keyParts s.requestParts d = (statuses, answers, outcome, d')) :
    s.flush d = (outcome, (s.filled (removes (δ := δ)) (fitAll .notExecuted s.keyParts
      statuses)).filled (creates (δ := δ)) (fitAll (.failed .notExecuted) s.requestParts answers),
        d') := by
  rcases hremoves : askAll (Driver.bulkRemove s.type) s.keyParts d with ⟨statuses', outcome', d₁⟩
  have hsent := sendAll_eq removes (fun _ _ => rfl) hremoves
  rw [askBoth, hremoves] at hasked
  rw [flush, hsent]
  cases outcome' with
  | error e =>
    cases hasked
    rw [fitAll_nil, filled_nil]
    rfl
  | ok =>
    obtain ⟨rfl, hcreates⟩ := Prod.mk.inj hasked
    rw [← requestParts_filled (δ := δ) s (fitAll .notExecuted s.keyParts statuses')] at hcreates ⊢
    exact sendAll_eq creates (fun _ _ => rfl) hcreates

/-! ## What a flush tells its slots -/

/-- A stager of any slots. A bulk size of zero counts as one. -/
def holding (type : ObjectType) (bulkSize : Nat) (slots : List Slot) : BulkStager :=
  { BulkStager.new type bulkSize with slots }

/-- From one stager to another the answers to the sent parts were told to the slots. -/
structure TellsAll (size : Nat) (s s' : BulkStager) (keyParts : List (List ObjectKey))
    (requestParts : List (List CreateRequest)) (statuses : List (List Status))
    (answers : List (List CreateAnswer)) : Prop where
  keys_cut : CutInto size (s.slots.filterMap Slot.openRemove?) keyParts
  requests_cut : CutInto size (s.slots.filterMap Slot.openCreate?) requestParts
  shape : SameShape s s'
  /-- A settled slot is neither sent nor changed. -/
  kept : ∀ {i : Nat} {slot : Slot}, s.slots[i]? = some slot → slot.isOpen = false →
    slot.openRemove? = none ∧ slot.openCreate? = none ∧ s'.slots[i]? = some slot
  /-- The slot of a remove, with `r` open removes before it. -/
  removed : ∀ {i r : Nat} {key : ObjectKey}, s.slots[i]? = some (.remove key none) →
    ((s.slots.take i).filterMap Slot.openRemove?).length = r →
    keyParts[r / size]?.bind (·[r % size]?) = some key ∧
      s'.slots[i]? = some (.remove key
        (statuses[r / size]?.map fun answer => answer.getD (r % size) .notExecuted))
  /-- The slot of a create, with `r` open creates before it. -/
  created : ∀ {i r : Nat} {request : CreateRequest}, s.slots[i]? = some (.create request none) →
    ((s.slots.take i).filterMap Slot.openCreate?).length = r →
    requestParts[r / size]?.bind (·[r % size]?) = some request ∧
      s'.slots[i]? = some (.create request
        (answers[r / size]?.map fun answer => answer.getD (r % size) (.failed .notExecuted)))
  keys_left : s'.slots.filterMap Slot.openRemove? = (keyParts.drop statuses.length).flatten
  requests_left : s'.slots.filterMap Slot.openCreate? =
    (requestParts.drop answers.length).flatten

/-- An open slot waits for a remove or for a create. -/
theorem openCount_eq (s : BulkStager) : s.openCount =
    (s.slots.filterMap Slot.openRemove?).length + (s.slots.filterMap Slot.openCreate?).length := by
  rw [openCount]
  induction s.slots with
  | nil => rfl
  | cons slot rest ih =>
    rw [List.countP_cons, ih]
    cases slot with
    | create request answer | remove key answer =>
      cases answer
      all_goals
        simp [Slot.isOpen, Slot.status?, Slot.openRemove?, Slot.openCreate?, List.filterMap_cons]
        try omega
    | settled status =>
      simp [Slot.isOpen, Slot.status?, Slot.openRemove?, Slot.openCreate?, List.filterMap_cons]

/-- The slots filled with the answers to the parts are told these answers. -/
theorem tellsAll_filled (s : BulkStager) (statuses : List (List Status))
    (answers : List (List CreateAnswer)) :
    TellsAll s.maxBulkSize s
      ((s.filled (removes (δ := δ)) (fitAll .notExecuted s.keyParts statuses)).filled
        (creates (δ := δ)) (fitAll (.failed .notExecuted) s.requestParts answers))
      s.keyParts s.requestParts statuses answers := by
  have hsize := s.maxBulkSize_pos
  have hkeys : CutInto s.maxBulkSize _ s.keyParts := cutInto_chunks hsize _
  have hrequests : CutInto s.maxBulkSize _ s.requestParts := cutInto_chunks hsize _
  have hother : ∀ {i : Nat} {slot : Slot}, s.slots[i]? = some slot → slot.openRemove? = none →
      (s.filled (removes (δ := δ)) (fitAll .notExecuted s.keyParts statuses)).slots[i]? =
        some slot := by
    intro i slot hslot hremove
    rw [filled, getElem?_fill _ hslot]
    simp only [removes, hremove]
  refine ⟨hkeys, hrequests, ⟨rfl, rfl, ?_⟩, ?kept, ?removed, ?created, ?keys_left, ?requests_left⟩
  · simp only [filled, length_fill]
  case kept =>
    intro i slot hslot hsettled
    have hremove := Slot.openRemove?_settled hsettled
    have hcreate := Slot.openCreate?_settled hsettled
    refine ⟨hremove, hcreate, ?_⟩
    rw [filled, getElem?_fill _ (hother hslot hremove)]
    simp only [creates, hcreate]
  case removed =>
    intro i r key hslot hrank
    have hkey := getElem?_filterMap_pick Slot.openRemove? hslot rfl
    rw [hrank, hkeys.getElem? hsize] at hkey
    refine ⟨hkey, ?_⟩
    have htold := getElem?_fill_fitAll (removes (δ := δ)) hsize hslot rfl hrank statuses
    refine (getElem?_fill creates htold _).trans ?_
    cases statuses[r / s.maxBulkSize]? <;> rfl
  case created =>
    intro i r request hslot hrank
    have hrequest := getElem?_filterMap_pick Slot.openCreate? hslot rfl
    rw [hrank, hrequests.getElem? hsize] at hrequest
    refine ⟨hrequest, ?_⟩
    have hrank' : (((s.filled (removes (δ := δ)) (fitAll .notExecuted s.keyParts
        statuses)).slots.take i).filterMap Slot.openCreate?).length = r := by
      rw [filled, take_fill, openCreates_fill, hrank]
    have htold := getElem?_fill_fitAll (creates (δ := δ)) hsize (hother hslot rfl) rfl hrank'
      answers
    rw [← requestParts_filled (δ := δ)]
    refine htold.trans ?_
    cases answers[r / s.maxBulkSize]? <;> rfl
  case keys_left =>
    refine (openRemoves_fill ..).trans ((filterMap_fill removes (fun _ _ => rfl) ..).trans ?_)
    rw [← drop_length_fitAll .notExecuted, hkeys.flatten]
    rfl
  case requests_left =>
    refine (filterMap_fill creates (fun _ _ => rfl) ..).trans ?_
    rw [← drop_length_fitAll (.failed .notExecuted), hrequests.flatten]
    exact congrArg (List.drop _) (openCreates_fill ..)

/-- A flush sends the keys of all open removes in slot order, in parts of the bulk size, and then
the open create requests likewise. Every slot is told the answer at the place of its request in the
answer to its part, and that it was not executed where that answer is too short. A call that fails
leaves open the slots of its part and of the later parts, and the next flush sends just these
parts. -/
theorem flush_exact (type : ObjectType) (bulkSize : Nat) (slots : List Slot) (d : δ) :
    ∃ keyParts requestParts statuses answers outcome s' d',
      (holding type bulkSize slots).flush d = (outcome, s', d') ∧
      askBoth type keyParts requestParts d = (statuses, answers, outcome, d') ∧
      TellsAll (max bulkSize 1) (holding type bulkSize slots) s' keyParts requestParts statuses
        answers ∧
      (outcome = .ok () ↔
        statuses.length = keyParts.length ∧ answers.length = requestParts.length) ∧
      (answers ≠ [] → statuses.length = keyParts.length) ∧
      (outcome = .ok () → s'.openCount = 0) ∧
      ∀ later : δ, ∃ statuses' answers',
        askBoth type (keyParts.drop statuses.length) (requestParts.drop answers.length) later =
          (statuses', answers', (s'.flush later).1, (s'.flush later).2.2) := by
  generalize hs : holding type bulkSize slots = s
  have htype : s.type = type := by rw [← hs]; rfl
  have hsize : s.maxBulkSize = max bulkSize 1 := by rw [← hs]; rfl
  rcases hasked : askBoth s.type s.keyParts s.requestParts d with ⟨statuses, answers, outcome, d'⟩
  have htold := tellsAll_filled (δ := δ) s statuses answers
  obtain ⟨hok, hfirst⟩ := askBoth_ok hasked
  refine ⟨s.keyParts, s.requestParts, statuses, answers, outcome, _, d', flush_eq hasked, ?_, ?_,
    hok, hfirst, ?_, ?_⟩
  · rw [← htype, hasked]
  · rw [← hsize]
    exact htold
  · intro hdone
    obtain ⟨hkeys, hrequests⟩ := hok.1 hdone
    rw [openCount_eq, htold.keys_left, htold.requests_left, hkeys, hrequests, List.drop_length,
      List.drop_length]
    rfl
  · intro later
    generalize (s.filled (removes (δ := δ)) _).filled (creates (δ := δ)) _ = s' at htold ⊢
    have hkeys : s'.keyParts = s.keyParts.drop statuses.length := by
      rw [keyParts, htold.keys_left, htold.shape.maxBulkSize]
      exact (htold.keys_cut.drop _).chunks_eq
    have hrequests : s'.requestParts = s.requestParts.drop answers.length := by
      rw [requestParts, htold.requests_left, htold.shape.maxBulkSize]
      exact (htold.requests_cut.drop _).chunks_eq
    rcases hasked' : askBoth s'.type s'.keyParts s'.requestParts later with
      ⟨statuses', answers', outcome', d''⟩
    refine ⟨statuses', answers', ?_⟩
    rw [← hkeys, ← hrequests, ← htype, ← htold.shape.type, flush_eq hasked', hasked']

end Flush

end BulkStager

end DashAgent
