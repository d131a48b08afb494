/-!
# Numerals

Unsigned numbers as they stand in keys, fields and identifiers: decimal text is read with an
optional plus sign and any number of leading zeros and must stay within a bound; hexadecimal text
is written in lower case, either padded to a fixed width or without leading zeros.
-/
namespace DashAgent.Numeral

/-- The shortest decimal numeral of `n`. -/
def decimal (n : Nat) : List Char := Nat.toDigits 10 n

/-- Reads a nonempty run of ASCII digits whose value is at most `bound`. -/
def readDigits? (bound : Nat) (text : List Char) : Option Nat :=
  if text ≠ [] ∧ text.all Char.isDigit ∧ Nat.ofDigitChars 10 text 0 ≤ bound then
    some (Nat.ofDigitChars 10 text 0)
  else none

/-- Reads a decimal numeral up to `bound`; one plus sign may stand in front. -/
def readDecimal? (bound : Nat) : List Char → Option Nat
  | '+' :: text => readDigits? bound text
  | text => readDigits? bound text

def hexDigit? (c : Char) : Option Nat :=
  if '0' ≤ c ∧ c ≤ '9' then some (c.toNat - 48)
  else if 'a' ≤ c ∧ c ≤ 'f' then some (c.toNat - 87)
  else if 'A' ≤ c ∧ c ≤ 'F' then some (c.toNat - 55)
  else none

/-- Appends the digits of `text` to the value read so far. -/
def hexFrom? : Nat → List Char → Option Nat
  | value, [] => some value
  | value, c :: text => (hexDigit? c).bind fun d => hexFrom? (16 * value + d) text

/-- The value of a nonempty run of hexadecimal digits. -/
def readHex? : List Char → Option Nat
  | [] => none
  | text => hexFrom? 0 text

/-- The shortest lower-case hexadecimal numeral of `n`. -/
def hex (n : Nat) : List Char := Nat.toDigits 16 n

/-- The last `width` hexadecimal digits of `n`, zeros in front. -/
def hexPadded : Nat → Nat → List Char
  | 0, _ => []
  | width + 1, n => hexPadded width (n / 16) ++ [Nat.digitChar (n % 16)]

@[simp] theorem length_hexPadded (width n : Nat) : (hexPadded width n).length = width := by
  induction width generalizing n with
  | zero => rfl
  | succ width ih => simp [hexPadded, ih]

/-- What is written in decimal reads back, with every bound it respects. -/
theorem readDigits?_decimal {bound n : Nat} (h : n ≤ bound) :
    readDigits? bound (decimal n) = some n := by
  have digits : (decimal n).all Char.isDigit = true :=
    List.all_eq_true.2 fun c hc => Nat.isDigit_of_mem_toDigits (by decide) (by decide) hc
  have value : Nat.ofDigitChars 10 (decimal n) 0 = n :=
    Nat.ofDigitChars_toDigits (by decide) (by decide)
  have nonempty : decimal n ≠ [] := Nat.toDigits_ne_nil
  simp [readDigits?, digits, value, nonempty, h]

end DashAgent.Numeral
