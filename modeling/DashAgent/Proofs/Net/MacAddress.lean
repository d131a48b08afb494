import DashAgent.Change.Fields
import DashAgent.Proofs.Text
import Mathlib.Data.List.Forall2

/-!
# What a MAC address looks like

A MAC address is six groups with a colon or a hyphen between neighbours. A group of two hexadecimal
digits writes a byte, and so does a plus sign in front of one digit; nothing else is read. The texts
without a plus sign that are read are those of two digits a group. Main theorem: `readMac_exact`.
-/
namespace DashAgent

namespace MacAddress

open Numeral (IsHexDigit hexDigit? readHex?)

def isSeparator (c : Char) : Bool := c == ':' || c == '-'

def TwoDigits (group : List Char) (byte : UInt8) : Prop :=
  ∃ c d high low, group = [c, d] ∧ IsHexDigit c high ∧ IsHexDigit d low ∧
    byte.toNat = 16 * high + low

/-- A plus sign and one hexadecimal digit write a byte below sixteen. -/
def SignedDigit (group : List Char) (byte : UInt8) : Prop :=
  ∃ d low, group = ['+', d] ∧ IsHexDigit d low ∧ byte.toNat = low

def ByteText (group : List Char) (byte : UInt8) : Prop :=
  TwoDigits group byte ∨ SignedDigit group byte

/-- The text is six groups, each of which writes the octet at its place. -/
def Written (writes : List Char → UInt8 → Prop) (text : String) (m : MacAddress) : Prop :=
  ∃ groups, Text.Joined isSeparator groups text.toList ∧ List.Forall₂ writes groups m.octets

/-! ## Bytes -/

theorem not_isHexDigit_plus (n : Nat) : ¬IsHexDigit '+' n := by
  rw [← Numeral.hexDigit?_eq_some_iff]
  simp [hexDigit?]

theorem isSeparator_of_isHexDigit {c : Char} {n : Nat} (h : IsHexDigit c n) :
    isSeparator c = false := by
  have hread := Numeral.hexDigit?_eq_some_iff.2 h
  by_contra hsep
  simp only [isSeparator, Bool.not_eq_false, Bool.or_eq_true, beq_iff_eq] at hsep
  rcases hsep with rfl | rfl <;> simp [hexDigit?] at hread

theorem readHex?_pair (c d : Char) : readHex? [c, d] =
    (hexDigit? c).bind fun high => (hexDigit? d).map fun low => 16 * high + low := by
  cases hc : hexDigit? c <;> cases hd : hexDigit? d <;> simp [readHex?, Numeral.hexFrom?, hc, hd]

theorem toNat_ofNat_of_lt {n : Nat} (h : n < 256) : (UInt8.ofNat n).toNat = n := by
  rw [UInt8.toNat_ofNat']
  exact Nat.mod_eq_of_lt h

theorem byte?_eq_some_iff {group : List Char} {byte : UInt8} :
    byte? group = some byte ↔ ByteText group byte := by
  constructor
  · intro h
    unfold byte? at h
    split at h
    · next d =>
      obtain ⟨low, hlow, rfl⟩ := Option.map_eq_some_iff.1 h
      have hdigit := Numeral.hexDigit?_eq_some_iff.1 hlow
      have hlt := hdigit.lt
      exact .inr ⟨d, low, rfl, hdigit, toNat_ofNat_of_lt (by omega)⟩
    · next c d _ =>
      rw [readHex?_pair, Option.map_bind] at h
      obtain ⟨high, hhigh, h⟩ := Option.bind_eq_some_iff.1 h
      rw [Function.comp_apply, Option.map_map] at h
      obtain ⟨low, hlow, rfl⟩ := Option.map_eq_some_iff.1 h
      have hc := Numeral.hexDigit?_eq_some_iff.1 hhigh
      have hd := Numeral.hexDigit?_eq_some_iff.1 hlow
      have hlt := hc.lt
      have hlt' := hd.lt
      have hbyte : 16 * high + low < 256 := by omega
      exact .inl ⟨c, d, high, low, rfl, hc, hd, toNat_ofNat_of_lt hbyte⟩
    · cases h
  · rintro (⟨c, d, high, low, rfl, hc, hd, hbyte⟩ | ⟨d, low, rfl, hd, hbyte⟩)
    · -- Two digits are not taken for a sign and a digit.
      have hsign : c ≠ '+' := by
        rintro rfl
        exact not_isHexDigit_plus high hc
      simp [byte?, readHex?_pair, Numeral.hexDigit?_eq_some_iff.2 hc,
        Numeral.hexDigit?_eq_some_iff.2 hd, ← hbyte]
    · simp [byte?, Numeral.hexDigit?_eq_some_iff.2 hd, ← hbyte]

theorem ByteText.isSeparator {group : List Char} {byte : UInt8} (h : ByteText group byte) :
    ∀ c ∈ group, isSeparator c = false := by
  rcases h with ⟨c, d, high, low, rfl, hc, hd, -⟩ | ⟨d, low, rfl, hd, -⟩
  · simp [isSeparator_of_isHexDigit hc, isSeparator_of_isHexDigit hd]
  · have hplus : MacAddress.isSeparator '+' = false := by decide
    simp [isSeparator_of_isHexDigit hd, hplus]

/-! ## Addresses -/

/-- An address is read if its parts are six bytes. -/
theorem parse?_eq_some_iff_pieces {s : String} {m : MacAddress} : parse? s = some m ↔
    List.Forall₂ (fun group byte => byte? group = some byte) (Text.pieces isSeparator s.toList)
      m.octets := by
  unfold parse?
  constructor
  · intro h
    split at h
    · next hpieces =>
      change Text.pieces isSeparator s.toList = _ at hpieces
      rw [hpieces]
      simp only [Option.bind_eq_bind, Option.bind_eq_some_iff, Option.some.injEq] at h
      obtain ⟨o₁, h₁, o₂, h₂, o₃, h₃, o₄, h₄, o₅, h₅, o₆, h₆, rfl⟩ := h
      exact .cons h₁ (.cons h₂ (.cons h₃ (.cons h₄ (.cons h₅ (.cons h₆ .nil)))))
    · cases h
  · intro h
    simp only [octets, List.forall₂_cons_right_iff, List.forall₂_nil_right_iff] at h
    obtain ⟨p₁, _, h₁, ⟨p₂, _, h₂, ⟨p₃, _, h₃, ⟨p₄, _, h₄, ⟨p₅, _, h₅, ⟨p₆, _, h₆, rfl, rfl⟩,
      rfl⟩, rfl⟩, rfl⟩, rfl⟩, hpieces⟩ := h
    change Text.pieces (fun c => c == ':' || c == '-') s.toList = _ at hpieces
    simp [hpieces, h₁, h₂, h₃, h₄, h₅, h₆]

/-- Every group of a written address writes a byte. -/
theorem exists_writes {writes : List Char → UInt8 → Prop} {groups : List (List Char)}
    {octets : List UInt8} (h : List.Forall₂ writes groups octets) {group : List Char}
    (hgroup : group ∈ groups) : ∃ byte, writes group byte := by
  obtain ⟨i, hi, rfl⟩ := List.getElem_of_mem hgroup
  exact ⟨_, h.get hi (h.length_eq ▸ hi)⟩

/-- The groups of a written address are its parts. -/
theorem written_iff_pieces {writes : List Char → UInt8 → Prop} {s : String} {m : MacAddress}
    (hsep : ∀ {group byte}, writes group byte → ∀ c ∈ group, isSeparator c = false) :
    Written writes s m ↔
      List.Forall₂ writes (Text.pieces isSeparator s.toList) m.octets := by
  constructor
  · rintro ⟨groups, hjoined, hwrites⟩
    have hpieces : Text.pieces isSeparator s.toList = groups := by
      refine Text.pieces_eq_iff.2 ⟨hjoined, fun group hgroup => ?_⟩
      obtain ⟨byte, hbyte⟩ := exists_writes hwrites hgroup
      exact hsep hbyte
    rwa [hpieces]
  · intro h
    exact ⟨_, Text.joined_pieces isSeparator s.toList, h⟩

theorem parse?_eq_some_iff {s : String} {m : MacAddress} :
    parse? s = some m ↔ Written ByteText s m := by
  rw [written_iff_pieces ByteText.isSeparator, parse?_eq_some_iff_pieces]
  simp only [byte?_eq_some_iff]

/-- Two digits a group leave no place for a plus sign. -/
theorem written_twoDigits_iff {s : String} {m : MacAddress} :
    Written TwoDigits s m ↔ Written ByteText s m ∧ '+' ∉ s.toList := by
  constructor
  · rintro ⟨groups, hjoined, hwrites⟩
    refine ⟨⟨groups, hjoined, hwrites.imp fun _ _ => .inl⟩, fun hplus => ?_⟩
    obtain hsep | ⟨group, hgroup, hplus⟩ := hjoined.mem_cases hplus
    · exact absurd hsep (by decide)
    · obtain ⟨byte, c, d, high, low, rfl, hc, hd, -⟩ := exists_writes hwrites hgroup
      simp only [List.mem_cons, List.not_mem_nil, or_false] at hplus
      rcases hplus with rfl | rfl
      · exact not_isHexDigit_plus high hc
      · exact not_isHexDigit_plus low hd
  · rintro ⟨⟨groups, hjoined, hwrites⟩, hplus⟩
    refine ⟨groups, hjoined, List.forall₂_iff_get.2 ⟨hwrites.length_eq, fun i hi hi' => ?_⟩⟩
    obtain htwo | ⟨d, low, hsigned, -⟩ := hwrites.get hi hi'
    · exact htwo
    · have hmem : '+' ∈ groups.get ⟨i, hi⟩ := hsigned ▸ List.mem_cons_self ..
      exact absurd (hjoined.mem (List.get_mem groups ⟨i, hi⟩) hmem) hplus

theorem readMac_eq_ok_iff {s : String} {m : MacAddress} :
    readMac s = .ok m ↔ Written ByteText s m := by
  rw [← parse?_eq_some_iff, readMac]
  cases parse? s <;> simp [orError]

/-- A MAC address is read if and only if it is six groups with one colon or hyphen between
neighbours, each of two hexadecimal digits or of a plus sign and one digit; every octet is the
number that its group writes. Every other text is refused with an error that quotes it. Of the
texts without a plus sign, exactly those of two digits a group are read. -/
theorem readMac_exact (s : String) :
    (∀ m, readMac s = .ok m ↔ Written ByteText s m) ∧
      (readMac s = .error (.badMac s) ↔ ∀ m, ¬Written ByteText s m) ∧
      ∀ m, Written TwoDigits s m ↔ readMac s = .ok m ∧ '+' ∉ s.toList := by
  refine ⟨fun m => readMac_eq_ok_iff, ?_, fun m => ?_⟩
  · simp only [← parse?_eq_some_iff, readMac]
    cases parse? s <;> simp [orError]
  · rw [readMac_eq_ok_iff, written_twoDigits_iff]

/-- A plus sign in the place of a digit is read. -/
theorem plusSign_read :
    readMac "+1:02:03:04:05:06" = .ok ⟨1, 2, 3, 4, 5, 6⟩ ∧
      ∀ m, ¬Written TwoDigits "+1:02:03:04:05:06" m := by
  refine ⟨by decide, fun m h => ?_⟩
  have hplus := (written_twoDigits_iff.1 h).2
  exact hplus (by decide)

end MacAddress

end DashAgent
