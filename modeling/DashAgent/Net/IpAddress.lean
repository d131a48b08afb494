import DashAgent.Text.Numeral
import DashAgent.Text.Split

/-!
# IP addresses

IPv4 addresses in dotted decimal and IPv6 addresses in the recommended form: lower-case groups
without leading zeros, the first longest run of at least two zero groups as a double colon, an
IPv4-mapped address with its last two groups dotted. Reading also accepts the other spellings of
an IPv6 address: leading zeros up to four digits, any placement of one double colon that stands
for at least one group, upper case, and a dotted ending in place of the last two groups.
-/
namespace DashAgent

inductive AddressFamily where
  | ipv4
  | ipv6
  deriving DecidableEq, Repr, Ord

def AddressFamily.text : AddressFamily → String
  | ipv4 => "ipv4"
  | ipv6 => "ipv6"

instance : ToString AddressFamily := ⟨AddressFamily.text⟩

/-- An IPv4 address by octets or an IPv6 address by 16-bit groups. -/
inductive IpAddress where
  | v4 (o₁ o₂ o₃ o₄ : UInt8)
  | v6 (g₁ g₂ g₃ g₄ g₅ g₆ g₇ g₈ : UInt16)
  deriving DecidableEq, Repr

namespace IpAddress

def family : IpAddress → AddressFamily
  | v4 .. => .ipv4
  | v6 .. => .ipv6

/-! ## Writing -/

def dotted (o₁ o₂ o₃ o₄ : UInt8) : List Char :=
  Numeral.decimal o₁.toNat ++ '.' :: Numeral.decimal o₂.toNat ++ '.' ::
    Numeral.decimal o₃.toNat ++ '.' :: Numeral.decimal o₄.toNat

def colonJoined : List UInt16 → List Char
  | [] => []
  | [g] => Numeral.hex g.toNat
  | g :: rest => Numeral.hex g.toNat ++ ':' :: colonJoined rest

def zerosInFront (groups : List UInt16) : Nat := (groups.takeWhile (· == 0)).length

/-- Start and length of the first longest run of zero groups. -/
def longestZeroRun (groups : List UInt16) : Nat × Nat :=
  (List.range groups.length).foldl
    (fun best start =>
      let run := zerosInFront (groups.drop start)
      if best.2 < run then (start, run) else best)
    (0, 0)

/-- The groups with their first longest zero run of at least two shortened to a double colon. -/
def shortened (groups : List UInt16) : List Char :=
  let (start, run) := longestZeroRun groups
  if 1 < run then
    colonJoined (groups.take start) ++ ':' :: ':' :: colonJoined (groups.drop (start + run))
  else colonJoined groups

def octetsOf (g : UInt16) : UInt8 × UInt8 := ((g >>> 8).toUInt8, g.toUInt8)

def chars : IpAddress → List Char
  | v4 o₁ o₂ o₃ o₄ => dotted o₁ o₂ o₃ o₄
  | v6 0 0 0 0 0 0xffff g₇ g₈ =>
    let (o₁, o₂) := octetsOf g₇
    let (o₃, o₄) := octetsOf g₈
    [':', ':', 'f', 'f', 'f', 'f', ':'] ++ dotted o₁ o₂ o₃ o₄
  | v6 g₁ g₂ g₃ g₄ g₅ g₆ g₇ g₈ => shortened [g₁, g₂, g₃, g₄, g₅, g₆, g₇, g₈]

def text (a : IpAddress) : String := String.ofList a.chars

instance : ToString IpAddress := ⟨text⟩

/-! ## Reading -/

/-- A decimal number up to 255 of at most three digits without leading zeros. -/
def octet? (digits : List Char) : Option UInt8 :=
  if digits.length ≤ 3 ∧ (digits.head? = some '0' → digits.length = 1) then
    (Numeral.readDigits? 255 digits).map UInt8.ofNat
  else none

def readDotted? (cs : List Char) : Option (UInt8 × UInt8 × UInt8 × UInt8) :=
  match Text.pieces (· == '.') cs with
  | [p₁, p₂, p₃, p₄] => do
    let o₁ ← octet? p₁
    let o₂ ← octet? p₂
    let o₃ ← octet? p₃
    let o₄ ← octet? p₄
    some (o₁, o₂, o₃, o₄)
  | _ => none

/-- One group: one to four hexadecimal digits. -/
def group? (digits : List Char) : Option UInt16 :=
  if digits.length ≤ 4 then (Numeral.readHex? digits).map UInt16.ofNat else none

def groups? : List (List Char) → Option (List UInt16)
  | [] => some []
  | piece :: rest => do
    let g ← group? piece
    let gs ← groups? rest
    some (g :: gs)

def groupOf (high low : UInt8) : UInt16 := (high.toUInt16 <<< 8) ||| low.toUInt16

/-- The last piece as one group, or as the two groups of a dotted ending. -/
def ending? (piece : List Char) : Option (List UInt16) :=
  match readDotted? piece with
  | some (o₁, o₂, o₃, o₄) => some [groupOf o₁ o₂, groupOf o₃ o₄]
  | none => (group? piece).map ([·])

/-- Pieces as groups, the last of which may be a dotted ending. -/
def groupsWithEnding? : List (List Char) → Option (List UInt16)
  | [] => some []
  | [piece] => ending? piece
  | piece :: rest => do
    let g ← group? piece
    let gs ← groupsWithEnding? rest
    some (g :: gs)

/-- The pieces between colons; no pieces in an empty text. -/
def colonPieces (cs : List Char) : List (List Char) :=
  if cs = [] then [] else Text.pieces (· == ':') cs

def splitDoubleColon : List Char → Option (List Char × List Char)
  | ':' :: ':' :: rest => some ([], rest)
  | [] => none
  | c :: rest => (splitDoubleColon rest).map fun (before, after) => (c :: before, after)

def ofGroups? : List UInt16 → Option IpAddress
  | [g₁, g₂, g₃, g₄, g₅, g₆, g₇, g₈] => some (v6 g₁ g₂ g₃ g₄ g₅ g₆ g₇ g₈)
  | _ => none

/-- An IPv6 address: eight groups, or fewer around one double colon. -/
def readV6? (cs : List Char) : Option IpAddress :=
  match splitDoubleColon cs with
  | none => (groupsWithEnding? (colonPieces cs)).bind ofGroups?
  | some (before, after) => do
    let head ← groups? (colonPieces before)
    let tail ← groupsWithEnding? (colonPieces after)
    if head.length + tail.length ≤ 7 then
      ofGroups? (head ++ List.replicate (8 - head.length - tail.length) 0 ++ tail)
    else none

def ofChars? (cs : List Char) : Option IpAddress :=
  match readDotted? cs with
  | some (o₁, o₂, o₃, o₄) => some (v4 o₁ o₂ o₃ o₄)
  | none => readV6? cs

def parse? (s : String) : Option IpAddress := ofChars? s.toList

end IpAddress

end DashAgent
