import DashAgent.Overlay.RouteRule
import DashAgent.Overlay.Mapping
import DashAgent.Proofs.Net.IpAddress

/-!
# Keys read back

A key of a change begins with the name of a VNET or an ENI and is cut at its first colon. Addresses
have colons of their own, but a name has none, and neither has the VNI of a rule, so every key with
a proper name is read back from its text; and no key with another name or with a prefix out of its
bound is ever read. Main theorem: `keys_read_back`.
-/
namespace DashAgent

/-- Reading undoes writing for the proper values, and only proper values are read. -/
structure ReadsBack {α : Type} (parse : String → Except EntryError α) (text : α → String)
    (Proper : α → Prop) : Prop where
  parse_text : ∀ a, Proper a → parse (text a) = .ok a
  proper : ∀ s a, parse s = .ok a → Proper a

namespace ReadsBack

variable {α : Type} {parse : String → Except EntryError α} {text : α → String} {Proper : α → Prop}

theorem iff (h : ReadsBack parse text Proper) (a : α) : parse (text a) = .ok a ↔ Proper a :=
  ⟨h.proper (text a) a, h.parse_text a⟩

/-- What was read from any text is read from its own text. -/
theorem reread (h : ReadsBack parse text Proper) {s : String} {a : α} (hread : parse s = .ok a) :
    parse (text a) = .ok a :=
  h.parse_text a (h.proper s a hread)

end ReadsBack

theorem IpPrefix.readsBack : ReadsBack parse text Fits :=
  ⟨fun _ => parse_text, fun _ _ => fits_of_parse⟩

/-! ## Names in front of a colon -/

/-- A name that can stand in front of the first colon of a key. -/
def IsNamePart (name : String) : Prop := name ≠ "" ∧ ':' ∉ name.toList

theorem IsNamePart.toList_ne_nil {name : String} (h : IsNamePart name) : name.toList ≠ [] :=
  fun hnil => h.1 (String.toList_eq_nil_iff.1 hnil)

theorem isNamePart_of_splitOnce {text name rest : List Char}
    (h : Text.splitOnce ':' text = some (name, rest)) (hname : name ≠ []) :
    IsNamePart (String.ofList name) := by
  have hcolon := (Text.splitOnce_eq_some_iff.1 h).2
  exact ⟨by simpa using hname, by simpa using hcolon⟩

theorem IsNamePart.splitOnce {name : String} (h : IsNamePart name) (rest : List Char) :
    ∃ c cs, name = String.ofList (c :: cs) ∧
      Text.splitOnce ':' (name.toList ++ ':' :: rest) = some (c :: cs, rest) := by
  obtain ⟨c, cs, hname⟩ := List.exists_cons_of_ne_nil h.toList_ne_nil
  refine ⟨c, cs, by rw [← hname, String.ofList_toList], ?_⟩
  rw [Text.splitOnce_append h.2, hname]

namespace MappingKey

theorem parse_text {k : MappingKey} (h : IsNamePart k.vnet) : parse k.text = .ok k := by
  have htext : k.text.toList = k.vnet.toList ++ ':' :: k.overlayIp.chars := by
    simp [text, IpAddress.text]
  obtain ⟨c, cs, hname, hsplit⟩ := h.splitOnce k.overlayIp.chars
  simp only [parse, htext, hsplit, IpAddress.ofChars?_chars, orError, ← hname]
  rfl

theorem isNamePart_of_parse {s : String} {k : MappingKey} (h : parse s = .ok k) :
    IsNamePart k.vnet := by
  unfold parse at h
  split at h
  · cases h
  · cases h
  · next hname hsplit =>
    obtain ⟨ip, -, h⟩ := exists_of_bind_ok h
    cases h
    exact isNamePart_of_splitOnce hsplit hname

theorem readsBack : ReadsBack parse text fun k => IsNamePart k.vnet :=
  ⟨fun _ => parse_text, fun _ _ => isNamePart_of_parse⟩

end MappingKey

namespace RouteKey

/-- The name is proper and the prefix within its bound. -/
def Proper (k : RouteKey) : Prop := IsNamePart k.eni ∧ k.net.Fits

theorem parse_text {k : RouteKey} (h : k.Proper) : parse k.text = .ok k := by
  have htext : k.text.toList = k.eni.toList ++ ':' :: k.net.text.toList := by simp [text]
  obtain ⟨c, cs, hname, hsplit⟩ := h.1.splitOnce k.net.text.toList
  simp only [parse, htext, hsplit, String.ofList_toList, IpPrefix.parse_text h.2, ← hname]
  rfl

theorem proper_of_parse {s : String} {k : RouteKey} (h : parse s = .ok k) : k.Proper := by
  unfold parse at h
  split at h
  · cases h
  · cases h
  · next hname hsplit =>
    obtain ⟨net, hnet, h⟩ := exists_of_bind_ok h
    cases h
    exact ⟨isNamePart_of_splitOnce hsplit hname,
      IpPrefix.fits_of_parse hnet⟩

theorem readsBack : ReadsBack parse text Proper :=
  ⟨fun _ => parse_text, fun _ _ => proper_of_parse⟩

end RouteKey

namespace RuleKey

def Proper (k : RuleKey) : Prop := IsNamePart k.eni ∧ k.net.Fits

/-- The second colon of a key stands behind the VNI. -/
theorem split?_text {k : RuleKey} (h : IsNamePart k.eni) :
    split? k.text = some (k.eni.toList, Numeral.decimal k.vni.toNat, k.net.text.toList) := by
  have htext : k.text.toList = k.eni.toList ++ ':' ::
      (Numeral.decimal k.vni.toNat ++ ':' :: k.net.text.toList) := by
    simp [text, Numeral.decimal]
  obtain ⟨c, cs, hname, hsplit⟩ := h.splitOnce
    (Numeral.decimal k.vni.toNat ++ ':' :: k.net.text.toList)
  have hvni : ':' ∉ Numeral.decimal k.vni.toNat := Numeral.notMem_decimal (by decide) _
  rw [split?, htext, hsplit]
  simp [Text.splitOnce_append hvni, hname]

theorem parse_text {k : RuleKey} (h : k.Proper) : parse k.text = .ok k := by
  have hlt := k.vni.toNat_lt
  have hvni := Numeral.readDecimal?_decimal (show k.vni.toNat ≤ 4294967295 by omega)
  simp [parse, split?_text h.1, orError, hvni, IpPrefix.parse_text h.2, bind, Except.bind]

theorem proper_of_parse {s : String} {k : RuleKey} (h : parse s = .ok k) : k.Proper := by
  obtain ⟨⟨eni, vni, net⟩, hsplit, h⟩ := exists_of_bind_ok h
  obtain ⟨vni', -, h⟩ := exists_of_bind_ok h
  obtain ⟨net', hnet, h⟩ := exists_of_bind_ok h
  cases h
  refine ⟨?_, IpPrefix.fits_of_parse hnet⟩
  have hparts := orError_eq_ok_iff.1 hsplit
  unfold split? at hparts
  split at hparts
  · cases hparts
  · cases hparts
  · next hname hcut =>
    obtain ⟨parts, -, hparts⟩ := Option.map_eq_some_iff.1 hparts
    cases hparts
    exact isNamePart_of_splitOnce hcut hname

theorem readsBack : ReadsBack parse text Proper :=
  ⟨fun _ => parse_text, fun _ _ => proper_of_parse⟩

end RuleKey

/-- A prefix is read back from its text if and only if its length is within the bound of its
family, and a key if and only if its name is not empty and has no colon and its prefix, where it has
one, is within its bound. What is read from any text at all is such a prefix or key, and so is read
from its own text. -/
theorem keys_read_back :
    (∀ p : IpPrefix, IpPrefix.parse p.text = .ok p ↔ p.Fits) ∧
      (∀ k : MappingKey, MappingKey.parse k.text = .ok k ↔ IsNamePart k.vnet) ∧
      (∀ k : RouteKey, RouteKey.parse k.text = .ok k ↔ IsNamePart k.eni ∧ k.net.Fits) ∧
      (∀ k : RuleKey, RuleKey.parse k.text = .ok k ↔ IsNamePart k.eni ∧ k.net.Fits) ∧
      ∀ s : String,
        (∀ p, IpPrefix.parse s = .ok p → IpPrefix.parse p.text = .ok p) ∧
          (∀ k, MappingKey.parse s = .ok k → MappingKey.parse k.text = .ok k) ∧
          (∀ k, RouteKey.parse s = .ok k → RouteKey.parse k.text = .ok k) ∧
          ∀ k, RuleKey.parse s = .ok k → RuleKey.parse k.text = .ok k :=
  ⟨IpPrefix.readsBack.iff, MappingKey.readsBack.iff, RouteKey.readsBack.iff, RuleKey.readsBack.iff,
    fun _ => ⟨fun _ => IpPrefix.readsBack.reread, fun _ => MappingKey.readsBack.reread,
      fun _ => RouteKey.readsBack.reread, fun _ => RuleKey.readsBack.reread⟩⟩

theorem ruleKey_read_back_v6 :
    RuleKey.parse (RuleKey.text ⟨"eni0", 100, ⟨.v6 0x2001 0xdb8 0 0 0 0 0 0, 32⟩⟩) =
      .ok ⟨"eni0", 100, ⟨.v6 0x2001 0xdb8 0 0 0 0 0 0, 32⟩⟩ :=
  (keys_read_back.2.2.2.1 _).2 ⟨⟨by decide, by decide⟩, by decide⟩

end DashAgent
