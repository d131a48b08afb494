import DashAgent.Text.Numeral

/-!
# Durations

A duration in whole milliseconds as text: seconds with a decimal fraction without trailing zeros
from one second upwards, milliseconds below that, and nanoseconds for nothing at all.
-/
namespace DashAgent.Text

/-- Three digits without the zeros at their end. -/
def thousandths (n : Nat) : List Char :=
  let digits := [Nat.digitChar (n / 100 % 10), Nat.digitChar (n / 10 % 10), Nat.digitChar (n % 10)]
  (digits.reverse.dropWhile (· = '0')).reverse

def duration (ms : Nat) : String :=
  if ms = 0 then "0ns"
  else if ms < 1000 then toString ms ++ "ms"
  else
    let fraction := thousandths (ms % 1000)
    let point := if fraction = [] then "" else "." ++ String.ofList fraction
    toString (ms / 1000) ++ point ++ "s"

end DashAgent.Text
