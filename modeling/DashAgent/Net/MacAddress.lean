import DashAgent.Text.Numeral
import DashAgent.Text.Split

/-!
# MAC addresses

Six bytes of two characters each, separated by colons or hyphens. A byte is a hexadecimal number,
which may be written as a plus sign and one digit.
-/
namespace DashAgent

structure MacAddress where
  o₁ : UInt8
  o₂ : UInt8
  o₃ : UInt8
  o₄ : UInt8
  o₅ : UInt8
  o₆ : UInt8
  deriving DecidableEq, Repr

namespace MacAddress

def octets (m : MacAddress) : List UInt8 := [m.o₁, m.o₂, m.o₃, m.o₄, m.o₅, m.o₆]

def byte? : List Char → Option UInt8
  | ['+', c] => (Numeral.hexDigit? c).map UInt8.ofNat
  | [c, d] => (Numeral.readHex? [c, d]).map UInt8.ofNat
  | _ => none

/-- Reads six bytes between colons or hyphens. -/
def parse? (s : String) : Option MacAddress :=
  match Text.pieces (fun c => c == ':' || c == '-') s.toList with
  | [p₁, p₂, p₃, p₄, p₅, p₆] => do
    let o₁ ← byte? p₁
    let o₂ ← byte? p₂
    let o₃ ← byte? p₃
    let o₄ ← byte? p₄
    let o₅ ← byte? p₅
    let o₆ ← byte? p₆
    some ⟨o₁, o₂, o₃, o₄, o₅, o₆⟩
  | _ => none

end MacAddress

end DashAgent
