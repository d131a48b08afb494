import DashAgent.Proofs.Words
import DashAgent.Switch.Status
import Mathlib.Data.List.GetD

/-!
# Statuses and their codes

A status is read back from its code, and a code that belongs to no status is read as a failure. The
two ranges of codes with an index lie apart from each other and from the single codes, and 32 bits
are enough for all the arithmetic. Main theorem: `codes_exact`.
-/
namespace DashAgent.Status

/-- A code of the range that ends with the given base. -/
def Indexed (base code : Int) : Prop := base - rangeWidth < code ∧ code ≤ base

instance (base code : Int) : Decidable (Indexed base code) := inferInstanceAs (Decidable (_ ∧ _))

/-! ## Ranges -/

section Ranges

variable {base code : Int} {s : Status}

theorem indexed_sub (base : Int) (index : UInt16) : Indexed base (base - index.toNat) := by
  have hlt := index.toNat_lt
  unfold Indexed rangeWidth
  omega

/-- The distance of a code from the base of its range is an index of 16 bits. -/
theorem Indexed.toNat_index (h : Indexed base code) :
    ((UInt16.ofNat (base - code).toNat).toNat : Int) = base - code := by
  unfold Indexed rangeWidth at h
  have hlt : (base - code).toNat < 2 ^ 16 := by omega
  rw [UInt16.toNat_ofNat_of_lt' hlt]
  omega

theorem Indexed.exists_index (h : Indexed base code) :
    ∃ index : UInt16, base - index.toNat = code := by
  refine ⟨UInt16.ofNat (base - code).toNat, ?_⟩
  rw [h.toNat_index]
  omega

/-- Every number of a range is the code of a status. -/
theorem exists_code_of_indexed
    (h : Indexed notImplementedBase code ∨ Indexed notSupportedBase code) :
    ∃ s : Status, s.code = code := by
  obtain h | h := h
  · obtain ⟨index, hindex⟩ := h.exists_index
    exact ⟨attrNotImplemented index, hindex⟩
  · obtain ⟨index, hindex⟩ := h.exists_index
    exact ⟨attrNotSupported index, hindex⟩

/-- No code lies in both ranges. -/
theorem not_both_indexed (code : Int) :
    ¬(Indexed notImplementedBase code ∧ Indexed notSupportedBase code) := by
  unfold Indexed notImplementedBase notSupportedBase rangeWidth
  omega

/-- A status has a single code or an index. -/
theorem mem_singles_or (s : Status) : s ∈ singles ∨
    (∃ index, s = attrNotImplemented index) ∨ ∃ index, s = attrNotSupported index := by
  cases s with
  | attrNotImplemented index => exact .inr (.inl ⟨index, rfl⟩)
  | attrNotSupported index => exact .inr (.inr ⟨index, rfl⟩)
  | _ => exact .inl (by decide)

/-- No single code lies in a range. -/
theorem not_indexed_single (h : s ∈ singles) :
    ¬Indexed notImplementedBase s.code ∧ ¬Indexed notSupportedBase s.code := by
  revert s
  decide

theorem indexed_notImplemented_iff :
    Indexed notImplementedBase s.code ↔ ∃ index, s = attrNotImplemented index := by
  constructor
  · intro h
    obtain hsingle | hindex | ⟨index, rfl⟩ := s.mem_singles_or
    · exact absurd h (not_indexed_single hsingle).1
    · exact hindex
    · exact absurd ⟨h, indexed_sub notSupportedBase index⟩ (not_both_indexed _)
  · rintro ⟨index, rfl⟩
    exact indexed_sub notImplementedBase index

theorem indexed_notSupported_iff :
    Indexed notSupportedBase s.code ↔ ∃ index, s = attrNotSupported index := by
  constructor
  · intro h
    obtain hsingle | ⟨index, rfl⟩ | hindex := s.mem_singles_or
    · exact absurd h (not_indexed_single hsingle).2
    · exact absurd ⟨indexed_sub notImplementedBase index, h⟩ (not_both_indexed _)
    · exact hindex
  · rintro ⟨index, rfl⟩
    exact indexed_sub notSupportedBase index

end Ranges

/-! ## Reading -/

section Reading

variable {code : Int}

theorem ofCode_notImplemented (h : Indexed notImplementedBase code) :
    ofCode code = attrNotImplemented (UInt16.ofNat (notImplementedBase - code).toNat) :=
  if_pos h

theorem ofCode_notSupported (h : Indexed notSupportedBase code) :
    ofCode code = attrNotSupported (UInt16.ofNat (notSupportedBase - code).toNat) := by
  have hother : ¬Indexed notImplementedBase code := fun hother => not_both_indexed code ⟨hother, h⟩
  exact (if_neg hother).trans (if_pos h)

theorem code_single {s : Status} (h : s ∈ singles) : -23 ≤ s.code ∧ s.code ≤ 0 := by
  revert s
  decide

theorem ofCode_single {s : Status} (h : s ∈ singles) : ofCode s.code = s := by
  revert s
  decide

/-- A status is read back from its code. -/
theorem ofCode_code (s : Status) : ofCode s.code = s := by
  obtain hsingle | ⟨index, rfl⟩ | ⟨index, rfl⟩ := s.mem_singles_or
  · exact ofCode_single hsingle
  · have hread := ofCode_notImplemented (indexed_sub notImplementedBase index)
    rwa [Int.sub_sub_self, Int.toNat_natCast, UInt16.ofNat_toNat] at hread
  · have hread := ofCode_notSupported (indexed_sub notSupportedBase index)
    rwa [Int.sub_sub_self, Int.toNat_natCast, UInt16.ofNat_toNat] at hread

/-- A code that belongs to no status is read as a failure. -/
theorem ofCode_eq_failure (h : ∀ s : Status, s.code ≠ code) : ofCode code = failure := by
  have hrange : ¬(Indexed notImplementedBase code ∨ Indexed notSupportedBase code) := by
    intro hindexed
    obtain ⟨s, hs⟩ := exists_code_of_indexed hindexed
    exact h s hs
  obtain ⟨hfirst, hsecond⟩ := not_or.1 hrange
  refine (if_neg hfirst).trans ((if_neg hsecond).trans ?_)
  split
  · next hle =>
    -- The place of a single status in the list is its code without the sign.
    have hplace : ∀ n : Fin 24, (singles.getD n.val failure).code = -n.val := by decide
    by_cases hlt : (-code).toNat < 24
    · exact absurd ((hplace ⟨_, hlt⟩).trans (by dsimp only; omega)) (h _)
    · exact List.getD_eq_default _ _ (Nat.le_of_not_lt hlt)
  · rfl

theorem isNotSupported_iff (s : Status) : s.isNotSupported = true ↔
    s.code = -2 ∨ s.code = -15 ∨ Indexed notImplementedBase s.code ∨
      Indexed notSupportedBase s.code := by
  have hsingles : ∀ s ∈ singles, s.isNotSupported = true ↔
      s.code = -2 ∨ s.code = -15 ∨ Indexed notImplementedBase s.code ∨
        Indexed notSupportedBase s.code := by decide
  obtain hsingle | ⟨index, rfl⟩ | ⟨index, rfl⟩ := s.mem_singles_or
  · exact hsingles s hsingle
  · exact iff_of_true rfl (.inr (.inr (.inl (indexed_sub _ index))))
  · exact iff_of_true rfl (.inr (.inr (.inr (indexed_sub _ index))))

/-- What is read as not supported are two single codes and both ranges. -/
theorem isNotSupported_ofCode_iff : (ofCode code).isNotSupported = true ↔
    code = -2 ∨ code = -15 ∨ Indexed notImplementedBase code ∨ Indexed notSupportedBase code := by
  by_cases hcode : ∃ s : Status, s.code = code
  · obtain ⟨s, rfl⟩ := hcode
    rw [ofCode_code, isNotSupported_iff]
  · have hnone : ∀ s : Status, s.code ≠ code := fun s hs => hcode ⟨s, hs⟩
    rw [ofCode_eq_failure hnone]
    refine iff_of_false (by decide) ?_
    rintro (rfl | rfl | hrange)
    · exact hnone notSupported rfl
    · exact hnone notImplemented rfl
    · exact hcode (exists_code_of_indexed hrange)

end Reading

/-! ## In words -/

def codeInWords? : Status → Option Int32
  | attrNotImplemented index =>
    Word.difference? (Int32.ofInt notImplementedBase) index.toUInt32.toInt32
  | attrNotSupported index =>
    Word.difference? (Int32.ofInt notSupportedBase) index.toUInt32.toInt32
  | s => some (Int32.ofInt s.code)

/-- Whether a code lies in the range of a base, asked in words. The end of the range is looked at
only for a code at or below the base. -/
def indexedInWords? (base code : Int32) : Option Bool :=
  if code ≤ base then (Word.difference? base (Int32.ofInt rangeWidth)).map (decide <| · < code)
  else some false

def indexInWords? (base code : Int32) : Option UInt16 :=
  (Word.difference? base code).bind Word.last16?

/-- The status of a code, read in words: the single codes first, then the two ranges. -/
def ofCodeInWords? (code : Int32) : Option Status :=
  match singles.find? (·.code = code.toInt) with
  | some s => some s
  | none => do
    if ← indexedInWords? (Int32.ofInt notImplementedBase) code then
      let index ← indexInWords? (Int32.ofInt notImplementedBase) code
      some (attrNotImplemented index)
    else if ← indexedInWords? (Int32.ofInt notSupportedBase) code then
      let index ← indexInWords? (Int32.ofInt notSupportedBase) code
      some (attrNotSupported index)
    else some failure

section Words

variable {base code : Int32}

/-- An index becomes a signed word without a change. -/
theorem toInt_index (index : UInt16) : index.toUInt32.toInt32.toInt = index.toNat := by
  have hlt := index.toNat_lt
  have hcond := BitVec.toInt_eq_toNat_cond index.toUInt32.toInt32.toBitVec
  rw [Int32.toInt_toBitVec, Int32.toNat_toBitVec] at hcond
  simp only [UInt32.toUInt32_toInt32, UInt16.toNat_toUInt32] at hcond
  split at hcond <;> omega

/-- A code with an index is a word, since its base is not far below zero. -/
theorem difference?_index {base : Int} (index : UInt16) (h : -0x80000 ≤ base) (h' : base ≤ 0) :
    ∃ word, Word.difference? (Int32.ofInt base) index.toUInt32.toInt32 = some word ∧
      word.toInt = base - index.toNat := by
  have hlt := index.toNat_lt
  have hbase : (Int32.ofInt base).toInt = base := Int32.toInt_ofInt_of_le (by omega) (by omega)
  have hcode : (Int32.ofInt (base - index.toNat)).toInt = base - index.toNat :=
    Int32.toInt_ofInt_of_le (by omega) (by omega)
  exact ⟨_, Word.difference?_eq_some_iff.2 (by rw [hbase, toInt_index, hcode]), hcode⟩

/-- Every code is a word. -/
theorem codeInWords?_exact (s : Status) :
    ∃ word, s.codeInWords? = some word ∧ word.toInt = s.code := by
  obtain hsingle | ⟨index, rfl⟩ | ⟨index, rfl⟩ := s.mem_singles_or
  · have hsingles : ∀ s ∈ singles, s.codeInWords? = some (Int32.ofInt s.code) := by decide
    obtain ⟨hle, hlt⟩ := code_single hsingle
    exact ⟨_, hsingles s hsingle, Int32.toInt_ofInt_of_le (by omega) (by omega)⟩
  · exact difference?_index index (by decide) (by decide)
  · exact difference?_index index (by decide) (by decide)

theorem indexedInWords?_eq (h : -0x70000 ≤ base.toInt) :
    indexedInWords? base code = some (decide (Indexed base.toInt code.toInt)) := by
  unfold indexedInWords? Indexed
  split
  · next hle =>
    have hlt := base.toInt_lt
    have hwidth : (Int32.ofInt rangeWidth).toInt = rangeWidth := by decide
    have hend : (Int32.ofInt (base.toInt - rangeWidth)).toInt = base.toInt - rangeWidth := by
      refine Int32.toInt_ofInt_of_le ?_ ?_ <;> unfold rangeWidth <;> omega
    have hdifference : Word.difference? base (Int32.ofInt rangeWidth) =
        some (Int32.ofInt (base.toInt - rangeWidth)) := by
      rw [Word.difference?_eq_some_iff, hwidth, hend]
    rw [Int32.le_iff_toInt_le] at hle
    rw [hdifference, Option.map_some]
    simp only [Int32.lt_iff_toInt_lt, hend, hle, and_true]
  · next hle =>
    rw [Int32.le_iff_toInt_le] at hle
    simp only [hle, and_false, decide_false]

theorem indexInWords?_eq (h : Indexed base.toInt code.toInt) :
    indexInWords? base code = some (UInt16.ofNat (base.toInt - code.toInt).toNat) := by
  have hindex := h.toNat_index
  unfold Indexed rangeWidth at h
  have hword : (Int32.ofInt (base.toInt - code.toInt)).toInt = base.toInt - code.toInt :=
    Int32.toInt_ofInt_of_le (by omega) (by omega)
  have hdifference : Word.difference? base code =
      some (Int32.ofInt (base.toInt - code.toInt)) := by
    rw [Word.difference?_eq_some_iff, hword]
  rw [indexInWords?, hdifference, Option.bind_some, Word.last16?_eq_some_iff, hword, hindex]

/-- Reading in words comes to the same, for every word. -/
theorem ofCodeInWords?_eq (code : Int32) : ofCodeInWords? code = some (ofCode code.toInt) := by
  have hfirst : (Int32.ofInt notImplementedBase).toInt = notImplementedBase := by decide
  have hsecond : (Int32.ofInt notSupportedBase).toInt = notSupportedBase := by decide
  unfold ofCodeInWords?
  split
  · next s hfind =>
    have hcode : s.code = code.toInt := by simpa using List.find?_some hfind
    rw [← hcode, ofCode_single (List.mem_of_find?_eq_some hfind)]
  · next hfind =>
    rw [indexedInWords?_eq (by rw [hfirst]; decide), indexedInWords?_eq (by rw [hsecond]; decide),
      hfirst, hsecond]
    simp only [Option.bind_eq_bind, Option.bind_some, decide_eq_true_eq]
    split
    · next hindexed =>
      rw [indexInWords?_eq (by rwa [hfirst]), ofCode_notImplemented hindexed, hfirst]
      rfl
    · next hother =>
      split
      · next hindexed =>
        rw [indexInWords?_eq (by rwa [hsecond]), ofCode_notSupported hindexed, hsecond]
        rfl
      · next hnone =>
        rw [ofCode_eq_failure]
        intro s hs
        obtain hsingle | ⟨index, rfl⟩ | ⟨index, rfl⟩ := s.mem_singles_or
        · exact List.find?_eq_none.1 hfind s hsingle (by simpa using hs)
        · exact hother (hs ▸ indexed_sub notImplementedBase index)
        · exact hnone (hs ▸ indexed_sub notSupportedBase index)

end Words

/-! ## The codes -/

/-- Every status is read back from its code, and 32 bits are enough to write and to read it. Of all
words, those that are codes read as a status that has the code, and all others as a failure. The two
ranges have no code in common and hold the codes of their own statuses only. What is read as not
supported are two single codes and both ranges. -/
theorem codes_exact :
    (∀ s : Status, ofCode s.code = s ∧
      (∃ word, s.codeInWords? = some word ∧ word.toInt = s.code) ∧
      (Indexed notImplementedBase s.code ↔ ∃ index, s = attrNotImplemented index) ∧
      (Indexed notSupportedBase s.code ↔ ∃ index, s = attrNotSupported index)) ∧
    (∀ word : Int32, ofCodeInWords? word = some (ofCode word.toInt) ∧
      ((∃ s : Status, s.code = word.toInt) → (ofCode word.toInt).code = word.toInt) ∧
      ((∀ s : Status, s.code ≠ word.toInt) → ofCode word.toInt = failure) ∧
      ((ofCode word.toInt).isNotSupported = true ↔ word.toInt = -2 ∨ word.toInt = -15 ∨
        Indexed notImplementedBase word.toInt ∨ Indexed notSupportedBase word.toInt)) ∧
    ∀ code, ¬(Indexed notImplementedBase code ∧ Indexed notSupportedBase code) := by
  refine ⟨fun s => ?_, fun word => ?_, not_both_indexed⟩
  · exact ⟨s.ofCode_code, s.codeInWords?_exact, indexed_notImplemented_iff,
      indexed_notSupported_iff⟩
  · refine ⟨ofCodeInWords?_eq word, ?_, ofCode_eq_failure, isNotSupported_ofCode_iff⟩
    rintro ⟨s, hs⟩
    rw [← hs, ofCode_code]

/-- The last code of the second range is read as its status, the number below it as a failure. -/
theorem lastCode_read :
    (ofCode (-0x6ffff)).code = -0x6ffff ∧ ofCode (-0x70000) = failure := by
  have hnone : ∀ s : Status, s.code ≠ (-0x70000 : Int32).toInt := by
    intro s hs
    have hfailure : s = failure := by
      rw [← s.ofCode_code, hs]
      decide
    rw [hfailure] at hs
    exact absurd hs (by decide)
  exact ⟨(codes_exact.2.1 (-0x6ffff)).2.1 ⟨attrNotSupported 0xffff, by decide⟩,
    (codes_exact.2.1 (-0x70000)).2.2.1 hnone⟩

end DashAgent.Status
