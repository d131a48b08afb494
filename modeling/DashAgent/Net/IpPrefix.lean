import DashAgent.Change.EntryError
import DashAgent.Net.IpAddress

/-!
# IP prefixes

An address and a length, written with a slash between them. Host bits stay as given: a prefix is
a key, and two spellings of one network are two keys. A missing length means the whole address.
-/
namespace DashAgent

structure IpPrefix where
  address : IpAddress
  length : UInt8
  deriving DecidableEq, Repr

namespace IpPrefix

def family (p : IpPrefix) : AddressFamily := p.address.family

def maxLength : IpAddress → Nat
  | .v4 .. => 32
  | .v6 .. => 128

def text (p : IpPrefix) : String :=
  p.address.text ++ "/" ++ String.ofList (Numeral.decimal p.length.toNat)

instance : ToString IpPrefix := ⟨text⟩

/-- Reads a prefix; the address is looked at before the length. -/
def parse (s : String) : Except EntryError IpPrefix :=
  match Text.splitOnce '/' s.toList with
  | none => do
    let address ← orError (.badNetwork s) (IpAddress.parse? s)
    .ok ⟨address, UInt8.ofNat (maxLength address)⟩
  | some (head, tail) => do
    let address ← orError (.badNetwork s) (IpAddress.ofChars? head)
    let length ← orError (.badNetworkLength s) (Numeral.readDecimal? (maxLength address) tail)
    .ok ⟨address, UInt8.ofNat length⟩

end IpPrefix

end DashAgent
