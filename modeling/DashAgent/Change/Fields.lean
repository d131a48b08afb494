import DashAgent.Change.Entry
import DashAgent.Net.MacAddress
import DashAgent.Text.Numeral
import DashAgent.Text.Split

/-!
# Field values

How the values of entry fields are read: booleans in four spellings of each truth value, MAC
addresses, and unsigned numbers of 32 and 64 bits.
-/
namespace DashAgent

/-- Reads a boolean in one of its four spellings, in any case. -/
def readBoolean (value : String) : Except EntryError Bool :=
  let word := Text.lowered value
  if word ∈ ["true", "1", "enabled", "up"] then .ok true
  else if word ∈ ["false", "0", "disabled", "down"] then .ok false
  else .error (.badBoolean value)

def readMac (value : String) : Except EntryError MacAddress :=
  orError (.badMac value) (MacAddress.parse? value)

def readUInt32? (s : String) : Option UInt32 :=
  (Numeral.readDecimal? 4294967295 s.toList).map UInt32.ofNat

def readUInt64? (s : String) : Option Nat := Numeral.readDecimal? 18446744073709551615 s.toList

end DashAgent
