import DashAgent.Net.IpPrefix
import DashAgent.Proofs.Text
import Mathlib.Data.List.Basic

/-!
# Addresses read back

Every address is read back from its canonical text, in either family: the octets of dotted decimal,
the groups between colons, the zero groups that a double colon stands for, and the dotted ending of
an IPv4-mapped address. The text has no character but digits, colons and dots, so a slash behind it
is the first one. A prefix is read back if its length is within the bound of its family.
-/
namespace DashAgent

namespace IpAddress

open Numeral (decimal hex hexDigit? notMem_decimal)

/-! ## Dotted decimal -/

theorem octet?_decimal (o : UInt8) : octet? (decimal o.toNat) = some o := by
  have hlt := o.toNat_lt
  have hlength : (decimal o.toNat).length ≤ 3 :=
    (Nat.length_toDigits_le_iff (by decide) (by decide)).2 (by omega)
  have hzero : (decimal o.toNat).head? = some '0' → (decimal o.toNat).length = 1 := by
    intro hhead
    rw [Numeral.eq_zero_of_head?_decimal hhead]
    rfl
  have hread := Numeral.readDigits?_decimal (show o.toNat ≤ 255 by omega)
  rw [octet?, if_pos ⟨hlength, hzero⟩, hread, Option.map_some, UInt8.ofNat_toNat]

theorem dotted_eq (o₁ o₂ o₃ o₄ : UInt8) : dotted o₁ o₂ o₃ o₄ =
    decimal o₁.toNat ++ '.' :: (decimal o₂.toNat ++ '.' :: (decimal o₃.toNat ++ '.' ::
      decimal o₄.toNat)) := by
  simp [dotted]

/-- Dotted decimal is its numerals, also with more text in front of the first one. -/
theorem pieces_append_dotted {front : List Char} (h : '.' ∉ front) (o₁ o₂ o₃ o₄ : UInt8) :
    Text.pieces (· == '.') (front ++ dotted o₁ o₂ o₃ o₄) =
      [front ++ decimal o₁.toNat, decimal o₂.toNat, decimal o₃.toNat, decimal o₄.toNat] := by
  have hnumeral : ∀ n, ∀ c ∈ decimal n, (c == '.') = false := by
    intro n c hc
    rw [beq_eq_false_iff_ne]
    rintro rfl
    exact notMem_decimal (by decide) n hc
  have hfront : ∀ c ∈ front ++ decimal o₁.toNat, (c == '.') = false := by
    intro c hc
    rcases List.mem_append.1 hc with hc | hc
    · rw [beq_eq_false_iff_ne]
      rintro rfl
      exact h hc
    · exact hnumeral _ c hc
  rw [dotted_eq, ← List.append_assoc, Text.pieces_append_sep hfront rfl,
    Text.pieces_append_sep (hnumeral _) rfl, Text.pieces_append_sep (hnumeral _) rfl,
    Text.pieces_of_all_not (hnumeral _)]

theorem readDotted?_dotted (o₁ o₂ o₃ o₄ : UInt8) :
    readDotted? (dotted o₁ o₂ o₃ o₄) = some (o₁, o₂, o₃, o₄) := by
  have hpieces := pieces_append_dotted List.not_mem_nil o₁ o₂ o₃ o₄
  simp only [List.nil_append] at hpieces
  simp [readDotted?, hpieces, octet?_decimal]

theorem readDotted?_of_dot_notMem {cs : List Char} (h : '.' ∉ cs) : readDotted? cs = none := by
  have hpieces : Text.pieces (· == '.') cs = [cs] := by
    refine Text.pieces_of_all_not fun c hc => ?_
    rw [beq_eq_false_iff_ne]
    rintro rfl
    exact h hc
  simp [readDotted?, hpieces]

/-! ## Groups -/

theorem notMem_hex {c : Char} (h : hexDigit? c = none) (n : Nat) : c ∉ hex n := by
  intro hmem
  have hsome := Numeral.isSome_hexDigit?_of_mem_hex hmem
  rw [h] at hsome
  cases hsome

theorem colon_notMem_hex (n : Nat) : ':' ∉ hex n := notMem_hex (by decide) n

theorem hex_ne_nil (n : Nat) : hex n ≠ [] := Nat.toDigits_ne_nil

theorem group?_hex (g : UInt16) : group? (hex g.toNat) = some g := by
  have hlt := g.toNat_lt
  have hlength : (hex g.toNat).length ≤ 4 :=
    (Nat.length_toDigits_le_iff (by decide) (by decide)).2 (by omega)
  simp [group?, hlength, Numeral.readHex?_hex]

theorem ending?_hex (g : UInt16) : ending? (hex g.toNat) = some [g] := by
  simp [ending?, readDotted?_of_dot_notMem (notMem_hex (by decide) g.toNat), group?_hex]

theorem groups?_hex (gs : List UInt16) : groups? (gs.map fun g => hex g.toNat) = some gs := by
  induction gs with
  | nil => rfl
  | cons g gs ih => simp [groups?, group?_hex, ih]

theorem groupsWithEnding?_hex (gs : List UInt16) :
    groupsWithEnding? (gs.map fun g => hex g.toNat) = some gs := by
  induction gs with
  | nil => rfl
  | cons g gs ih =>
    cases gs with
    | nil => exact ending?_hex g
    | cons g' gs =>
      rw [List.map_cons] at ih
      simp [groupsWithEnding?, group?_hex, ih]

theorem colonJoined_cons (g g' : UInt16) (gs : List UInt16) :
    colonJoined (g :: g' :: gs) = hex g.toNat ++ ':' :: colonJoined (g' :: gs) := rfl

theorem colonJoined_ne_nil (g : UInt16) (gs : List UInt16) : colonJoined (g :: gs) ≠ [] := by
  cases gs with
  | nil => exact hex_ne_nil g.toNat
  | cons g' gs => simp [colonJoined_cons]

theorem pieces_colonJoined (g : UInt16) (gs : List UInt16) :
    Text.pieces (· == ':') (colonJoined (g :: gs)) = (g :: gs).map fun g => hex g.toNat := by
  have hgroup : ∀ n, ∀ c ∈ hex n, (c == ':') = false := by
    intro n c hc
    rw [beq_eq_false_iff_ne]
    rintro rfl
    exact colon_notMem_hex n hc
  induction gs generalizing g with
  | nil => exact Text.pieces_of_all_not (hgroup _)
  | cons g' gs ih =>
    rw [colonJoined_cons, Text.pieces_append_sep (hgroup _) rfl, ih]
    rfl

theorem colonPieces_colonJoined (gs : List UInt16) :
    colonPieces (colonJoined gs) = gs.map fun g => hex g.toNat := by
  cases gs with
  | nil => rfl
  | cons g gs => rw [colonPieces, if_neg (colonJoined_ne_nil g gs), pieces_colonJoined]

/-! ## The double colon -/

theorem splitDoubleColon_cons {c : Char} {text : List Char}
    (h : c ≠ ':' ∨ text.head? ≠ some ':') : splitDoubleColon (c :: text) =
      (splitDoubleColon text).map fun (before, after) => (c :: before, after) := by
  rw [splitDoubleColon]
  rintro rest rfl rfl
  simp at h

theorem splitDoubleColon_append {front : List Char} (h : ':' ∉ front) (text : List Char) :
    splitDoubleColon (front ++ text) =
      (splitDoubleColon text).map fun (before, after) => (front ++ before, after) := by
  induction front with
  | nil => simp
  | cons c front ih =>
    simp only [List.mem_cons, not_or] at h
    have hc : c ≠ ':' := fun heq => h.1 heq.symm
    rw [List.cons_append, splitDoubleColon_cons (.inl hc), ih h.2, Option.map_map]
    rfl

/-- Joined groups begin with a digit. -/
theorem head?_colonJoined_append (g : UInt16) (gs : List UInt16) (text : List Char) :
    (colonJoined (g :: gs) ++ text).head? ≠ some ':' := by
  obtain ⟨rest, hrest⟩ : ∃ rest, colonJoined (g :: gs) ++ text = hex g.toNat ++ rest := by
    cases gs with
    | nil => exact ⟨text, rfl⟩
    | cons g' gs => exact ⟨_, List.append_assoc ..⟩
  rw [hrest]
  cases hhex : hex g.toNat with
  | nil => exact absurd hhex (hex_ne_nil _)
  | cons c cs =>
    have hcolon := colon_notMem_hex g.toNat
    rw [hhex] at hcolon
    simp only [List.mem_cons, not_or] at hcolon
    simpa [eq_comm] using hcolon.1

/-- The first double colon stands behind the groups that are joined in front of it. -/
theorem splitDoubleColon_colonJoined_append (gs : List UInt16) (text : List Char) :
    splitDoubleColon (colonJoined gs ++ ':' :: ':' :: text) = some (colonJoined gs, text) := by
  induction gs with
  | nil => rfl
  | cons g gs ih =>
    cases gs with
    | nil => simp [colonJoined, splitDoubleColon_append (colon_notMem_hex _), splitDoubleColon]
    | cons g' gs =>
      rw [colonJoined_cons, List.append_assoc, splitDoubleColon_append (colon_notMem_hex _),
        List.cons_append, splitDoubleColon_cons (.inr (head?_colonJoined_append g' gs _)), ih]
      rfl

/-- Joined groups have no double colon. -/
theorem splitDoubleColon_colonJoined (gs : List UInt16) :
    splitDoubleColon (colonJoined gs) = none := by
  induction gs with
  | nil => rfl
  | cons g gs ih =>
    cases gs with
    | nil =>
      have happend := splitDoubleColon_append (colon_notMem_hex g.toNat) []
      simpa [colonJoined, splitDoubleColon] using happend
    | cons g' gs =>
      have hhead := head?_colonJoined_append g' gs []
      rw [List.append_nil] at hhead
      rw [colonJoined_cons, splitDoubleColon_append (colon_notMem_hex _),
        splitDoubleColon_cons (.inr hhead), ih]
      rfl

/-! ## Zero groups -/

theorem take_zerosInFront {gs : List UInt16} {n : Nat} (h : n ≤ zerosInFront gs) :
    gs.take n = List.replicate n 0 := by
  induction gs generalizing n with
  | nil =>
    have hn : n = 0 := Nat.le_zero.1 h
    simp [hn]
  | cons g gs ih =>
    cases n with
    | zero => simp
    | succ n =>
      by_cases hg : g = 0
      · have hn : n ≤ zerosInFront gs := by simpa [zerosInFront, hg] using h
        simp [hg, ih hn, List.replicate_succ]
      · simp [zerosInFront, hg] at h

/-- The run that is found is a run of zeros. -/
theorem longestZeroRun_le (gs : List UInt16) :
    (longestZeroRun gs).2 ≤ zerosInFront (gs.drop (longestZeroRun gs).1) := by
  unfold longestZeroRun
  -- The best run so far is a run of zeros, whichever places were looked at.
  have hfold : ∀ (places : List Nat) (best : Nat × Nat),
      best.2 ≤ zerosInFront (gs.drop best.1) →
      (places.foldl (fun best start =>
        let run := zerosInFront (gs.drop start)
        if best.2 < run then (start, run) else best) best).2 ≤
      zerosInFront (gs.drop (places.foldl (fun best start =>
        let run := zerosInFront (gs.drop start)
        if best.2 < run then (start, run) else best) best).1) := by
    intro places
    induction places with
    | nil => exact fun _ h => h
    | cons start places ih =>
      intro best h
      refine ih _ ?_
      dsimp only
      split
      · exact Nat.le_refl _
      · exact h
  exact hfold _ _ (Nat.zero_le _)

/-- The groups with their longest zero run written out. -/
theorem take_replicate_drop {gs : List UInt16} {start run : Nat}
    (h : longestZeroRun gs = (start, run)) :
    gs.take start ++ List.replicate run 0 ++ gs.drop (start + run) = gs := by
  have hrun := longestZeroRun_le gs
  rw [h] at hrun
  rw [← take_zerosInFront hrun, List.append_assoc, ← List.drop_drop, List.take_append_drop,
    List.take_append_drop]

/-! ## Addresses -/

theorem notMem_colonJoined {c : Char} (hdigit : hexDigit? c = none) (hcolon : c ≠ ':')
    (gs : List UInt16) : c ∉ colonJoined gs := by
  induction gs with
  | nil => simp [colonJoined]
  | cons g gs ih =>
    cases gs with
    | nil => exact notMem_hex hdigit _
    | cons g' gs => simp [colonJoined_cons, notMem_hex hdigit, hcolon, ih]

theorem notMem_shortened {c : Char} (hdigit : hexDigit? c = none) (hcolon : c ≠ ':')
    (gs : List UInt16) : c ∉ shortened gs := by
  unfold shortened
  dsimp only
  split
  · simp [notMem_colonJoined hdigit hcolon, hcolon]
  · exact notMem_colonJoined hdigit hcolon gs

/-- Eight groups are read back from their shortened text. -/
theorem readV6?_shortened {gs : List UInt16} (h : gs.length = 8) :
    readV6? (shortened gs) = ofGroups? gs := by
  obtain ⟨start, run, hrun⟩ : ∃ start run, longestZeroRun gs = (start, run) := ⟨_, _, rfl⟩
  unfold shortened
  rw [hrun]
  dsimp only
  split
  · next hlong =>
    have hgs := take_replicate_drop hrun
    have hlength := congrArg List.length hgs
    simp only [List.length_append, List.length_replicate] at hlength
    have hzeros : 8 - (gs.take start).length - (gs.drop (start + run)).length = run := by omega
    have hfew : (gs.take start).length + (gs.drop (start + run)).length ≤ 7 := by omega
    simp only [readV6?, splitDoubleColon_colonJoined_append, colonPieces_colonJoined, groups?_hex,
      groupsWithEnding?_hex, Option.bind_eq_bind, Option.bind_some, if_pos hfew, hzeros, hgs]
  · simp [readV6?, splitDoubleColon_colonJoined, colonPieces_colonJoined, groupsWithEnding?_hex]

theorem ofChars?_of_dot_notMem {cs : List Char} (h : '.' ∉ cs) : ofChars? cs = readV6? cs := by
  rw [ofChars?, readDotted?_of_dot_notMem h]

/-- The two octets of a group make the group. -/
theorem groupOf_octetsOf (g : UInt16) : groupOf (octetsOf g).1 (octetsOf g).2 = g := by
  have hlt := g.toNat_lt
  have hshift : UInt16.toNat 8 % 16 = 8 := rfl
  have hlow : g.toNat % 2 ^ 8 < 2 ^ 8 := Nat.mod_lt _ (by decide)
  have hhigh : (g.toNat >>> 8 % 2 ^ 8) <<< 8 % 2 ^ 16 = (g.toNat / 2 ^ 8) <<< 8 := by
    rw [Nat.shiftRight_eq_div_pow, Nat.shiftLeft_eq, Nat.shiftLeft_eq]
    omega
  rw [← UInt16.toNat_inj]
  simp only [groupOf, octetsOf, UInt16.toNat_or, UInt16.toNat_shiftLeft, UInt8.toNat_toUInt16,
    UInt16.toNat_toUInt8, UInt16.toNat_shiftRight, hshift]
  rw [hhigh, ← Nat.shiftLeft_add_eq_or_of_lt hlow, Nat.shiftLeft_eq]
  omega

section Mapped

variable (o₁ o₂ o₃ o₄ : UInt8)

/-- The text of an IPv4-mapped address is no dotted decimal: its first part is too long. -/
theorem readDotted?_mapped :
    readDotted? ([':', ':', 'f', 'f', 'f', 'f', ':'] ++ dotted o₁ o₂ o₃ o₄) = none := by
  have hfront : '.' ∉ [':', ':', 'f', 'f', 'f', 'f', ':'] := by decide
  have hpieces := pieces_append_dotted hfront o₁ o₂ o₃ o₄
  have hlong : octet? ([':', ':', 'f', 'f', 'f', 'f', ':'] ++ decimal o₁.toNat) = none := by
    simp [octet?]
  rw [readDotted?, hpieces]
  simp only [hlong, Option.bind_eq_bind, Option.bind_none]

theorem colonPieces_mapped :
    colonPieces (['f', 'f', 'f', 'f', ':'] ++ dotted o₁ o₂ o₃ o₄) =
      [['f', 'f', 'f', 'f'], dotted o₁ o₂ o₃ o₄] := by
  have hdotted : ∀ c ∈ dotted o₁ o₂ o₃ o₄, (c == ':') = false := by
    intro c hc
    rw [beq_eq_false_iff_ne]
    rintro rfl
    simp [dotted_eq, notMem_decimal] at hc
  have hffff : ∀ c ∈ ['f', 'f', 'f', 'f'], (c == ':') = false := by simp
  have hpieces := Text.pieces_append_sep hffff (beq_self_eq_true ':') (dotted o₁ o₂ o₃ o₄)
  rw [Text.pieces_of_all_not hdotted] at hpieces
  exact hpieces

end Mapped

/-- What stands behind the double colon of an IPv4-mapped address. -/
theorem groupsWithEnding?_mapped (g₇ g₈ : UInt16) :
    groupsWithEnding? [['f', 'f', 'f', 'f'], dotted (octetsOf g₇).1 (octetsOf g₇).2
      (octetsOf g₈).1 (octetsOf g₈).2] = some [0xffff, g₇, g₈] := by
  have hffff : group? ['f', 'f', 'f', 'f'] = some 0xffff := by decide
  simp [groupsWithEnding?, hffff, ending?, readDotted?_dotted, groupOf_octetsOf]

/-- Every address is read back from its canonical text. -/
theorem ofChars?_chars (a : IpAddress) : ofChars? a.chars = some a := by
  cases a with
  | v4 o₁ o₂ o₃ o₄ => simp [ofChars?, chars, readDotted?_dotted]
  | v6 g₁ g₂ g₃ g₄ g₅ g₆ g₇ g₈ =>
    unfold chars
    split
    · next heq => cases heq
    · next g₇ g₈ heq =>
      cases heq
      have hread := readDotted?_mapped (octetsOf g₇).1 (octetsOf g₇).2 (octetsOf g₈).1
        (octetsOf g₈).2
      have hpieces := colonPieces_mapped (octetsOf g₇).1 (octetsOf g₇).2 (octetsOf g₈).1
        (octetsOf g₈).2
      have hsplit : splitDoubleColon ([':', ':', 'f', 'f', 'f', 'f', ':'] ++
          dotted (octetsOf g₇).1 (octetsOf g₇).2 (octetsOf g₈).1 (octetsOf g₈).2) =
          some ([], ['f', 'f', 'f', 'f', ':'] ++
            dotted (octetsOf g₇).1 (octetsOf g₇).2 (octetsOf g₈).1 (octetsOf g₈).2) := rfl
      have hnone : groups? (colonPieces []) = some [] := rfl
      simp only [ofChars?, hread, readV6?, hsplit, hnone, hpieces, groupsWithEnding?_mapped,
        Option.bind_eq_bind, Option.bind_some]
      rfl
    · next heq =>
      cases heq
      rw [ofChars?_of_dot_notMem (notMem_shortened (by decide) (by decide) _),
        readV6?_shortened rfl]
      rfl

theorem parse?_text (a : IpAddress) : parse? a.text = some a := by
  rw [parse?, text, String.toList_ofList, ofChars?_chars]

/-- The text of an address tells the address. -/
theorem text_inj {a b : IpAddress} (h : a.text = b.text) : a = b := by
  have hparse := parse?_text a
  rw [h, parse?_text b] at hparse
  exact (Option.some.inj hparse).symm

theorem slash_notMem_chars (a : IpAddress) : '/' ∉ a.chars := by
  have hdotted : ∀ o₁ o₂ o₃ o₄, '/' ∉ dotted o₁ o₂ o₃ o₄ := by
    intro o₁ o₂ o₃ o₄
    simp [dotted_eq, notMem_decimal]
  unfold chars
  split
  · exact hdotted _ _ _ _
  · simp [hdotted]
  · exact notMem_shortened (by decide) (by decide) _

end IpAddress

/-! ## Prefixes -/

namespace IpPrefix

/-- The length of a prefix is within the number of bits of its address. -/
def Fits (p : IpPrefix) : Prop := p.length.toNat ≤ maxLength p.address

instance (p : IpPrefix) : Decidable p.Fits := inferInstanceAs (Decidable (_ ≤ _))

theorem maxLength_lt (a : IpAddress) : maxLength a < 256 := by
  cases a <;> simp [maxLength]

theorem splitOnce_text (p : IpPrefix) : Text.splitOnce '/' p.text.toList =
    some (p.address.chars, Numeral.decimal p.length.toNat) := by
  have htext : p.text.toList = p.address.chars ++ '/' :: Numeral.decimal p.length.toNat := by
    simp [text, IpAddress.text]
  rw [htext, Text.splitOnce_append p.address.slash_notMem_chars]

theorem parse_text {p : IpPrefix} (h : p.Fits) : parse p.text = .ok p := by
  have hlength := Numeral.readDecimal?_decimal h
  simp [parse, splitOnce_text, IpAddress.ofChars?_chars, orError, hlength, bind, Except.bind]

/-- What is read as a prefix has a length within its bound. -/
theorem fits_of_parse {s : String} {p : IpPrefix} (h : parse s = .ok p) : p.Fits := by
  unfold parse at h
  split at h
  · obtain ⟨address, -, h⟩ := exists_of_bind_ok h
    cases h
    have hlt := maxLength_lt address
    simp only [Fits, UInt8.toNat_ofNat', Nat.mod_eq_of_lt hlt, Nat.le_refl]
  · obtain ⟨address, -, h⟩ := exists_of_bind_ok h
    obtain ⟨length, hlength, h⟩ := exists_of_bind_ok h
    cases h
    have hle := Numeral.le_of_readDecimal? (orError_eq_ok_iff.1 hlength)
    have hlt := maxLength_lt address
    simp only [Fits, UInt8.toNat_ofNat']
    exact Nat.le_trans (Nat.mod_le ..) hle

end IpPrefix

end DashAgent
