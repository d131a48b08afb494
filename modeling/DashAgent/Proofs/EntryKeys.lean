import DashAgent.Overlay.Mapping
import DashAgent.Overlay.RouteRule
import DashAgent.Proofs.Net.IpAddress
import Mathlib.Algebra.Order.Ring.Nat

/-!
# What an entry key tells

The entry keys of the switch begin with an identifier in sixteen digits. They tell this identifier
and what stands behind it: an address, whose text has colons of its own, a prefix, or a VNI and a
prefix. The key of a PA validation entry begins with the name of a VNET, which has no colon. So two
keys of one kind are equal only if they are made of the same parts. Main theorem:
`entryKeys_apart`.
-/
namespace DashAgent

/-! ## Identifiers -/

theorem Numeral.digitChar_inj {m n : Nat} (hm : m < 16) (hn : n < 16)
    (h : Nat.digitChar m = Nat.digitChar n) : m = n := by
  have hall : ∀ m n : Fin 16, Nat.digitChar m = Nat.digitChar n → m = n := by decide
  exact congrArg Fin.val (hall ⟨m, hm⟩ ⟨n, hn⟩ h)

/-- Padded digits tell the number as far as they reach. -/
theorem Numeral.hexPadded_inj {width m n : Nat} (h : hexPadded width m = hexPadded width n) :
    m % 16 ^ width = n % 16 ^ width := by
  induction width generalizing m n with
  | zero => rw [Nat.pow_zero, Nat.mod_one, Nat.mod_one]
  | succ width ih =>
    simp only [hexPadded] at h
    obtain ⟨hfront, hlast⟩ := List.append_inj h (by simp)
    have hdigit := digitChar_inj (Nat.mod_lt m (by decide)) (Nat.mod_lt n (by decide))
      (List.cons.inj hlast).1
    rw [Nat.pow_succ, Nat.mul_comm, Nat.mod_mul, Nat.mod_mul, hdigit, ih hfront]

namespace Oid

variable {kind : OidKind} {id id' : Oid kind}

theorem text_inj (h : id.text = id'.text) : id = id' := by
  have hdigits := Numeral.hexPadded_inj
    (List.cons.inj (List.cons.inj (String.ofList_injective h)).2).2
  have hmod : ∀ raw : ObjectId, raw.toNat % 16 ^ 16 = raw.toNat :=
    fun raw => Nat.mod_eq_of_lt raw.toNat_lt
  rw [hmod, hmod, UInt64.toNat_inj] at hdigits
  exact congrArg Oid.mk hdigits

theorem length_text (id : Oid kind) : id.text.toList.length = 18 := by
  simp [text]

/-- A key that begins with an identifier tells it and what follows. -/
theorem text_append_inj {rest rest' : String}
    (h : id.text ++ ":" ++ rest = id'.text ++ ":" ++ rest') : id = id' ∧ rest = rest' := by
  have hchars := congrArg String.toList h
  simp only [String.toList_append, List.append_assoc] at hchars
  obtain ⟨hid, hrest⟩ := List.append_inj hchars (by rw [length_text, length_text])
  exact ⟨text_inj (String.toList_injective hid),
    String.toList_injective (List.append_cancel_left hrest)⟩

end Oid

/-! ## Parts behind an identifier -/

theorem Numeral.decimal_inj {m n : Nat} (h : decimal m = decimal n) : m = n := by
  have hread := readDigits?_decimal (Nat.le_max_left m n)
  rw [h, readDigits?_decimal (Nat.le_max_right m n)] at hread
  exact (Option.some.inj hread).symm

/-- The text of a prefix tells its address and its length, in whatever range this is. -/
theorem IpPrefix.text_inj {p q : IpPrefix} (h : p.text = q.text) : p = q := by
  have hparts := p.splitOnce_text
  rw [h, q.splitOnce_text] at hparts
  obtain ⟨hchars, hdigits⟩ := Prod.mk.inj (Option.some.inj hparts)
  have haddress : q.address = p.address := IpAddress.text_inj (congrArg String.ofList hchars)
  have hlength : q.length = p.length := UInt8.toNat_inj.1 (Numeral.decimal_inj hdigits)
  cases p
  cases q
  rw [IpPrefix.mk.injEq]
  exact ⟨haddress.symm, hlength.symm⟩

/-- A numeral in front of a colon is told from what follows. -/
theorem Numeral.decimal_append_inj {m n : Nat} {rest rest' : List Char}
    (h : decimal m ++ ':' :: rest = decimal n ++ ':' :: rest') : m = n ∧ rest = rest' := by
  have hcolon : ∀ k, ':' ∉ decimal k := notMem_decimal (by decide)
  have hparts := Text.splitOnce_append (hcolon m) rest
  rw [h, Text.splitOnce_append (hcolon n)] at hparts
  obtain ⟨hdigits, hrest⟩ := Prod.mk.inj (Option.some.inj hparts)
  exact ⟨(decimal_inj hdigits).symm, hrest.symm⟩

/-! ## The keys of each kind -/

section Keys

variable {vnetId vnetId' : Oid .vnet} {eniId eniId' : Oid .eni} {ip ip' : IpAddress}
  {net net' : IpPrefix} {vni vni' : UInt32} {vnet vnet' : String}

theorem caToPaEntryKey_inj :
    caToPaEntryKey vnetId ip = caToPaEntryKey vnetId' ip' ↔ vnetId = vnetId' ∧ ip = ip' := by
  refine ⟨fun h => (Oid.text_append_inj h).imp_right IpAddress.text_inj, ?_⟩
  rintro ⟨rfl, rfl⟩
  rfl

theorem paValidationEntryKey_inj :
    paValidationEntryKey vnetId ip = paValidationEntryKey vnetId' ip' ↔
      vnetId = vnetId' ∧ ip = ip' :=
  caToPaEntryKey_inj

theorem outboundEntryKey_inj :
    outboundEntryKey eniId net = outboundEntryKey eniId' net' ↔ eniId = eniId' ∧ net = net' := by
  refine ⟨fun h => (Oid.text_append_inj h).imp_right IpPrefix.text_inj, ?_⟩
  rintro ⟨rfl, rfl⟩
  rfl

theorem inboundEntryKey_eq (eniId : Oid .eni) (vni : UInt32) (net : IpPrefix) :
    inboundEntryKey eniId vni net =
      eniId.text ++ ":" ++ String.ofList (Numeral.decimal vni.toNat ++ ':' :: net.text.toList) := by
  simp [inboundEntryKey, Numeral.decimal, String.ext_iff]

theorem inboundEntryKey_inj :
    inboundEntryKey eniId vni net = inboundEntryKey eniId' vni' net' ↔
      eniId = eniId' ∧ vni = vni' ∧ net = net' := by
  constructor
  · intro h
    rw [inboundEntryKey_eq, inboundEntryKey_eq] at h
    obtain ⟨hid, hrest⟩ := Oid.text_append_inj h
    obtain ⟨hvni, hnet⟩ := Numeral.decimal_append_inj (String.ofList_injective hrest)
    exact ⟨hid, UInt32.toNat_inj.1 hvni, IpPrefix.text_inj (String.toList_injective hnet)⟩
  · rintro ⟨rfl, rfl, rfl⟩
    rfl

/-- A VNET name in a key has no colon. -/
theorem colon_notMem_vnetOf? (key : String) :
    ':' ∉ ((MappingKey.vnetOf? key).getD "").toList := by
  unfold MappingKey.vnetOf?
  cases hsplit : Text.splitOnce ':' key.toList with
  | none => simp
  | some parts =>
    obtain ⟨vnet, rest⟩ := parts
    simpa using (Text.splitOnce_eq_some_iff.1 hsplit).2

/-- The key of a PA validation entry tells the VNET and the address, whatever colons follow the
first one. -/
theorem paKey_inj (hv : ':' ∉ vnet.toList) (hv' : ':' ∉ vnet'.toList) :
    paKey vnet ip = paKey vnet' ip' ↔ vnet = vnet' ∧ ip = ip' := by
  have hsplit : ∀ {vnet : String} (ip : IpAddress), ':' ∉ vnet.toList →
      Text.splitOnce ':' (paKey vnet ip).toList = some (vnet.toList, ip.text.toList) := by
    intro vnet ip hv
    exact Text.splitOnce_eq_some_iff.2 ⟨by simp [paKey], hv⟩
  constructor
  · intro h
    have hparts := hsplit ip hv
    rw [h, hsplit ip' hv'] at hparts
    obtain ⟨hvnet, hip⟩ := Prod.mk.inj (Option.some.inj hparts)
    exact ⟨(String.toList_injective hvnet).symm,
      (IpAddress.text_inj (String.toList_injective hip)).symm⟩
  · rintro ⟨rfl, rfl⟩
    rfl

end Keys

/-- Two keys of one kind are equal if and only if they are made of the same parts: any identifiers,
addresses and VNIs, prefixes of any length, and VNET names without a colon. -/
theorem entryKeys_apart :
    (∀ (vnetId vnetId' : Oid .vnet) (ip ip' : IpAddress),
      (caToPaEntryKey vnetId ip = caToPaEntryKey vnetId' ip' ↔ vnetId = vnetId' ∧ ip = ip') ∧
      (paValidationEntryKey vnetId ip = paValidationEntryKey vnetId' ip' ↔
        vnetId = vnetId' ∧ ip = ip')) ∧
    (∀ (eniId eniId' : Oid .eni) (net net' : IpPrefix),
      (outboundEntryKey eniId net = outboundEntryKey eniId' net' ↔ eniId = eniId' ∧ net = net') ∧
      ∀ vni vni' : UInt32, inboundEntryKey eniId vni net = inboundEntryKey eniId' vni' net' ↔
        eniId = eniId' ∧ vni = vni' ∧ net = net') ∧
    ∀ (vnet vnet' : String) (ip ip' : IpAddress), ':' ∉ vnet.toList → ':' ∉ vnet'.toList →
      (paKey vnet ip = paKey vnet' ip' ↔ vnet = vnet' ∧ ip = ip') :=
  ⟨fun _ _ _ _ => ⟨caToPaEntryKey_inj, paValidationEntryKey_inj⟩,
    fun _ _ _ _ => ⟨outboundEntryKey_inj, fun _ _ => inboundEntryKey_inj⟩,
    fun _ _ _ _ => paKey_inj⟩

/-- Addresses that begin alike make different keys. -/
theorem paKeys_apart_v6 :
    paKey "red" (.v6 1 2 0 0 0 0 0 0) ≠ paKey "red" (.v6 1 0 2 0 0 0 0 0) := by
  intro h
  have hsame := (entryKeys_apart.2.2 "red" "red" _ _ (by decide) (by decide)).1 h
  exact absurd hsame.2 (by decide)

-- A name with a colon can take the first group of an address for itself.
example : paKey "red:1" (.v6 2 0 0 0 0 0 0 0) = paKey "red" (.v6 1 2 0 0 0 0 0 0) := by decide

end DashAgent
