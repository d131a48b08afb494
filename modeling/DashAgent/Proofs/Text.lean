import DashAgent.Text.Numeral
import DashAgent.Text.Split

/-!
# Texts made of parts

A text that is cut at its separators is the parts joined again, and no other parts without a
separator are joined to it. A numeral is read back as the number that it was written for; what is
read as a hexadecimal digit is one of the sixteen digits of either case.
-/
namespace DashAgent

namespace Text

/-! ## Parts between separators -/

/-- The text is the parts in their order, with one separator between neighbours. -/
inductive Joined (isSep : Char → Bool) : List (List Char) → List Char → Prop where
  | last (part : List Char) : Joined isSep [part] part
  | cons (part : List Char) {sep : Char} {parts : List (List Char)} {text : List Char}
      (hsep : isSep sep = true) (rest : Joined isSep parts text) :
      Joined isSep (part :: parts) (part ++ sep :: text)

variable {isSep : Char → Bool} {text part : List Char} {parts : List (List Char)}

/-- A joined text has the characters of its parts. -/
theorem Joined.mem (h : Joined isSep parts text) (hpart : part ∈ parts) {c : Char}
    (hc : c ∈ part) : c ∈ text := by
  induction h with
  | last part => exact List.mem_singleton.1 hpart ▸ hc
  | cons part _ _ ih =>
    rcases List.mem_cons.1 hpart with rfl | hpart
    · exact List.mem_append_left _ hc
    · exact List.mem_append_right _ (List.mem_cons_of_mem _ (ih hpart))

/-- A joined text has no characters but those of its parts and separators. -/
theorem Joined.mem_cases (h : Joined isSep parts text) {c : Char} (hc : c ∈ text) :
    isSep c = true ∨ ∃ part ∈ parts, c ∈ part := by
  induction h with
  | last part => exact .inr ⟨part, List.mem_singleton_self part, hc⟩
  | cons part hsep _ ih =>
    rcases List.mem_append.1 hc with hc | hc
    · exact .inr ⟨part, List.mem_cons_self .., hc⟩
    · rcases List.mem_cons.1 hc with rfl | hc
      · exact .inl hsep
      · obtain hsep | ⟨other, hother, hc⟩ := ih hc
        · exact .inl hsep
        · exact .inr ⟨other, List.mem_cons_of_mem _ hother, hc⟩

theorem pieces_ne_nil (isSep : Char → Bool) (text : List Char) : pieces isSep text ≠ [] := by
  cases text with
  | nil => simp [pieces]
  | cons c text =>
    unfold pieces
    split
    · simp
    · split <;> simp

theorem pieces_of_all_not (h : ∀ c ∈ text, isSep c = false) : pieces isSep text = [text] := by
  induction text with
  | nil => rfl
  | cons c text ih =>
    obtain ⟨hc, htext⟩ := List.forall_mem_cons.1 h
    simp [pieces, hc, ih htext]

theorem pieces_append_sep {sep : Char} (h : ∀ c ∈ part, isSep c = false)
    (hsep : isSep sep = true) (text : List Char) :
    pieces isSep (part ++ sep :: text) = part :: pieces isSep text := by
  induction part with
  | nil => simp [pieces, hsep]
  | cons c part ih =>
    obtain ⟨hc, hpart⟩ := List.forall_mem_cons.1 h
    simp [pieces, hc, ih hpart]

theorem joined_pieces (isSep : Char → Bool) (text : List Char) :
    Joined isSep (pieces isSep text) text := by
  induction text with
  | nil => exact .last []
  | cons c text ih =>
    by_cases hc : isSep c = true
    · simpa [pieces, hc] using Joined.cons [] hc ih
    · -- The first part grows by a character that is no separator.
      simp only [pieces, hc]
      cases hpieces : pieces isSep text with
      | nil => exact absurd hpieces (pieces_ne_nil isSep text)
      | cons piece rest =>
        rw [hpieces] at ih
        cases ih with
        | last => exact .last _
        | cons _ hsep hrest => exact .cons (c :: piece) hsep hrest

theorem isSep_of_mem_pieces {c : Char} (hpart : part ∈ pieces isSep text) (hc : c ∈ part) :
    isSep c = false := by
  induction text generalizing part with
  | nil => simp_all [pieces]
  | cons d text ih =>
    by_cases hd : isSep d = true
    · simp only [pieces, hd, if_true, List.mem_cons] at hpart
      rcases hpart with rfl | hpart
      · cases hc
      · exact ih hpart hc
    · simp only [pieces, hd] at hpart
      cases hpieces : pieces isSep text with
      | nil => exact absurd hpieces (pieces_ne_nil isSep text)
      | cons piece rest =>
        rw [hpieces] at ih hpart
        rcases List.mem_cons.1 hpart with rfl | hpart
        · rcases List.mem_cons.1 hc with rfl | hc
          · exact Bool.eq_false_iff.2 hd
          · exact ih (List.mem_cons_self ..) hc
        · exact ih (List.mem_cons_of_mem _ hpart) hc

/-- Parts without a separator are what a text is cut into if the text is joined from them. -/
theorem pieces_of_joined (h : Joined isSep parts text)
    (hparts : ∀ part ∈ parts, ∀ c ∈ part, isSep c = false) : pieces isSep text = parts := by
  induction h with
  | last part => exact pieces_of_all_not (hparts part (List.mem_singleton_self part))
  | cons part hsep _ ih =>
    obtain ⟨hpart, hrest⟩ := List.forall_mem_cons.1 hparts
    rw [pieces_append_sep hpart hsep, ih hrest]

/-- A text is cut into the parts without separators that it is joined from. -/
theorem pieces_eq_iff : pieces isSep text = parts ↔
    Joined isSep parts text ∧ ∀ part ∈ parts, ∀ c ∈ part, isSep c = false := by
  constructor
  · rintro rfl
    exact ⟨joined_pieces isSep text, fun _ hpart _ hc => isSep_of_mem_pieces hpart hc⟩
  · rintro ⟨hjoined, hparts⟩
    exact pieces_of_joined hjoined hparts

/-- A cut at a separator that the first part does not have. -/
theorem splitOnce_append {sep : Char} (hpart : sep ∉ part) (text : List Char) :
    splitOnce sep (part ++ sep :: text) = some (part, text) :=
  splitOnce_eq_some_iff.2 ⟨rfl, hpart⟩

end Text

namespace Numeral

/-! ## Digits -/

/-- The hexadecimal digit of a number below sixteen, in lower or upper case. -/
def IsHexDigit (c : Char) (n : Nat) : Prop :=
  "0123456789abcdef".toList[n]? = some c ∨ "0123456789ABCDEF".toList[n]? = some c

theorem IsHexDigit.lt {c : Char} {n : Nat} (h : IsHexDigit c n) : n < 16 := by
  rcases h with h | h <;> exact (List.getElem?_eq_some_iff.1 h).1

instance (c : Char) (n : Nat) : Decidable (IsHexDigit c n) := inferInstanceAs (Decidable (_ ∨ _))

theorem hexDigit?_of_isHexDigit {c : Char} {n : Nat} (h : IsHexDigit c n) :
    hexDigit? c = some n := by
  have hall : ∀ n : Fin 16,
      "0123456789abcdef".toList[n.val]?.bind hexDigit? = some n.val ∧
        "0123456789ABCDEF".toList[n.val]?.bind hexDigit? = some n.val := by decide
  obtain ⟨hlower, hupper⟩ := hall ⟨n, h.lt⟩
  exact h.elim (fun h => by rwa [h] at hlower) fun h => by rwa [h] at hupper

/-- What is read as a hexadecimal digit is one; all of them are below the code point of `g`. -/
theorem isHexDigit_of_hexDigit? {c : Char} {n : Nat} (h : hexDigit? c = some n) :
    IsHexDigit c n := by
  have hall : ∀ code : Fin 103, ∀ n ∈ hexDigit? (Char.ofNat code.val),
      IsHexDigit (Char.ofNat code.val) n := by decide
  have hcode : c.toNat < 103 := by
    unfold hexDigit? at h
    split at h
    · next hrange =>
      have hhigh : c.toNat ≤ 57 := hrange.2
      omega
    · split at h
      · next hrange =>
        have hhigh : c.toNat ≤ 102 := hrange.2
        omega
      · split at h
        · next hrange =>
          have hhigh : c.toNat ≤ 70 := hrange.2
          omega
        · cases h
  have hread := hall ⟨c.toNat, hcode⟩ n
  rw [Char.ofNat_toNat] at hread
  exact hread h

theorem hexDigit?_eq_some_iff {c : Char} {n : Nat} : hexDigit? c = some n ↔ IsHexDigit c n :=
  ⟨isHexDigit_of_hexDigit?, hexDigit?_of_isHexDigit⟩

theorem isHexDigit_digitChar {n : Nat} (h : n < 16) : IsHexDigit (Nat.digitChar n) n := by
  have hall : ∀ n : Fin 16, IsHexDigit (Nat.digitChar n.val) n.val := by decide
  exact hall ⟨n, h⟩

/-! ## Numerals -/

theorem hexFrom?_concat (value : Nat) (text : List Char) (c : Char) :
    hexFrom? value (text ++ [c]) =
      (hexFrom? value text).bind fun v => (hexDigit? c).map (16 * v + ·) := by
  induction text generalizing value with
  | nil => cases h : hexDigit? c <;> simp [hexFrom?, h]
  | cons d text ih => cases h : hexDigit? d <;> simp [hexFrom?, h, ih]

theorem hexFrom?_hex (n : Nat) : hexFrom? 0 (hex n) = some n := by
  induction n using Nat.strongRecOn with
  | ind n ih =>
    have hdigit := hexDigit?_of_isHexDigit (isHexDigit_digitChar (Nat.mod_lt n (by decide)))
    rw [hex, Nat.toDigits_eq_if (by decide)]
    split
    · next hsmall =>
      rw [Nat.mod_eq_of_lt hsmall] at hdigit
      simp [hexFrom?, hdigit]
    · have hfront := ih (n / 16) (by omega)
      rw [hex] at hfront
      rw [hexFrom?_concat, hfront, Option.bind_some, hdigit, Option.map_some, Nat.div_add_mod]

/-- What is written in hexadecimal reads back. -/
theorem readHex?_hex (n : Nat) : readHex? (hex n) = some n := by
  cases htext : hex n with
  | nil => exact absurd htext Nat.toDigits_ne_nil
  | cons c text =>
    have hvalue := hexFrom?_hex n
    rwa [htext] at hvalue

theorem isSome_hexDigit?_of_mem_hex {c : Char} {n : Nat} (h : c ∈ hex n) :
    (hexDigit? c).isSome = true := by
  induction n using Nat.strongRecOn with
  | ind n ih =>
    have hdigit := hexDigit?_of_isHexDigit (isHexDigit_digitChar (Nat.mod_lt n (by decide)))
    rw [hex, Nat.toDigits_eq_if (by decide)] at h
    split at h
    · next hsmall =>
      rw [Nat.mod_eq_of_lt hsmall] at hdigit
      rw [List.mem_singleton.1 h, hdigit]
      rfl
    · rcases List.mem_append.1 h with h | h
      · exact ih (n / 16) (by omega) h
      · rw [List.mem_singleton.1 h, hdigit]
        rfl

theorem isDigit_of_mem_decimal {c : Char} {n : Nat} (h : c ∈ decimal n) : c.isDigit = true :=
  Nat.isDigit_of_mem_toDigits (by decide) (by decide) h

theorem notMem_decimal {c : Char} (h : c.isDigit = false) (n : Nat) : c ∉ decimal n := by
  intro hmem
  rw [isDigit_of_mem_decimal hmem] at h
  cases h

/-- Only the numeral of zero begins with a zero. -/
theorem eq_zero_of_head?_decimal {n : Nat} (h : (decimal n).head? = some '0') : n = 0 := by
  induction n using Nat.strongRecOn with
  | ind n ih =>
    rw [decimal, Nat.toDigits_eq_if (by decide)] at h
    split at h
    · next hsmall =>
      have hall : ∀ n : Fin 10, Nat.digitChar n.val = '0' → n.val = 0 := by decide
      exact hall ⟨n, hsmall⟩ (Option.some.inj h)
    · cases hfront : Nat.toDigits 10 (n / 10) with
      | nil => exact absurd hfront Nat.toDigits_ne_nil
      | cons c text =>
        rw [hfront] at h
        have hzero := ih (n / 10) (by omega) (by simpa [decimal, hfront] using h)
        omega

/-- A decimal numeral has no sign, so it is read as its digits are. -/
theorem readDecimal?_decimal {bound n : Nat} (h : n ≤ bound) :
    readDecimal? bound (decimal n) = some n := by
  have hread := readDigits?_decimal h
  unfold readDecimal?
  split
  · next text htext =>
    have hdigit := isDigit_of_mem_decimal (n := n) (c := '+') (by simp [htext])
    simp at hdigit
  · exact hread

theorem le_of_readDecimal? {bound n : Nat} {text : List Char}
    (h : readDecimal? bound text = some n) : n ≤ bound := by
  have hdigits : ∀ text, readDigits? bound text = some n → n ≤ bound := by
    intro text hread
    unfold readDigits? at hread
    split at hread
    · next hvalid =>
      cases hread
      exact hvalid.2.2
    · cases hread
  unfold readDecimal? at h
  split at h
  · exact hdigits _ h
  · exact hdigits _ h

end Numeral

end DashAgent
