import DashAgent.Context
import DashAgent.Change.Entry
import DashAgent.Proofs.Switch.Placing
import Mathlib.Data.List.Dedup
import Mathlib.Data.Option.Basic

/-!
# Sites

A programmed change puts an object in place under the identifier that a name has in the context. The
identifiers differ between two histories, but which changes share an object does not: two changes
have the same site if and only if they give the same name and tell the object by the same text. So
the number of objects of a type is told by the changes alone. Main theorem:
`Site.Fills.objectCount`.
-/
namespace DashAgent

namespace Context

/-- What is programmed in the first context is programmed in the second one under the same
identifier. -/
structure Extends (c c' : Context) : Prop where
  vnets : ∀ {name id}, c.vnetIds.get? name = some id → c'.vnetIds.get? name = some id
  enis : ∀ {name id}, c.eniIds.get? name = some id → c'.eniIds.get? name = some id

theorem Extends.refl (c : Context) : c.Extends c := ⟨id, id⟩

theorem Extends.trans {c c' c'' : Context} (h : c.Extends c') (h' : c'.Extends c'') :
    c.Extends c'' :=
  ⟨fun hid => h'.vnets (h.vnets hid), fun hid => h'.enis (h.enis hid)⟩

/-- The VNETs that are programmed in the first context are programmed in the second one. -/
def VnetsLe (c c' : Context) : Prop :=
  ∀ name, c.vnetIds.contains name = true → c'.vnetIds.contains name = true

/-- The VNETs and ENIs that are programmed in the first context are programmed in the second one. -/
structure NamesLe (c c' : Context) : Prop where
  vnets : c.VnetsLe c'
  enis : ∀ name, c.eniIds.contains name = true → c'.eniIds.contains name = true

theorem VnetsLe.of_eq {c c' : Context} (h : c.vnetIds = c'.vnetIds) : c.VnetsLe c' := by
  intro name hname
  rw [← h]
  exact hname

theorem VnetsLe.vnetId? {c c' : Context} (h : c.VnetsLe c') {name : String} {id : Oid .vnet}
    (hid : c.vnetIds.get? name = some id) : ∃ id', c'.vnetIds.get? name = some id' := by
  have hname := h name
  rw [Table.contains_eq_isSome, Table.contains_eq_isSome, hid] at hname
  exact Option.isSome_iff_exists.1 (hname rfl)

theorem NamesLe.eniId? {c c' : Context} (h : c.NamesLe c') {name : String} {id : Oid .eni}
    (hid : c.eniIds.get? name = some id) : ∃ id', c'.eniIds.get? name = some id' := by
  have hname := h.enis name
  rw [Table.contains_eq_isSome, Table.contains_eq_isSome, hid] at hname
  exact Option.isSome_iff_exists.1 (hname rfl)

theorem NamesLe.of_indices {c c' : Context} (hvnets : c.vnetIds = c'.vnetIds)
    (henis : c.eniIds = c'.eniIds) : c.NamesLe c' := by
  refine ⟨.of_eq hvnets, fun name hname => ?_⟩
  rw [← henis]
  exact hname

theorem Extends.namesLe {c c' : Context} (h : c.Extends c') : c.NamesLe c' := by
  constructor
  all_goals
    intro name hname
    rw [Table.contains_eq_isSome] at hname ⊢
    obtain ⟨id, hid⟩ := Option.isSome_iff_exists.1 hname
  · rw [h.vnets hid]
    rfl
  · rw [h.enis hid]
    rfl

end Context

/-- No two names have one identifier. -/
def Table.NamesApart {ν : Type} (t : Table String ν) : Prop :=
  ∀ {name name' id}, t.get? name = some id → t.get? name' = some id → name = name'

/-- Where the objects of changes are: under the identifier of a name, told apart by a text. -/
structure Site (kind : OidKind) where
  /-- The identifiers by name. -/
  ids : Context → Table String (Oid kind)
  /-- The name and the text that a change gives. -/
  part? : Entry → Option (String × String)
  key : Oid kind → String → ObjectKey
  grows : ∀ {c c' name id}, c.Extends c' → (ids c).get? name = some id →
    (ids c').get? name = some id
  key_inj : ∀ {e e' name name' text text' id id'}, part? e = some (name, text) →
    part? e' = some (name', text') → key id text = key id' text' → id = id' ∧ text = text'

namespace Site

variable {kind : OidKind} (S : Site kind)

/-- The key of the object of a change, if its name is programmed. -/
def key? (c : Context) (e : Entry) : Option ObjectKey :=
  (S.part? e).bind fun part => ((S.ids c).get? part.1).map fun id => S.key id part.2

variable {S} {c c' : Context} {e e' : Entry} {k : ObjectKey}

theorem key?_eq_some_iff : S.key? c e = some k ↔ ∃ name text id, S.part? e = some (name, text) ∧
    (S.ids c).get? name = some id ∧ k = S.key id text := by
  constructor
  · intro h
    obtain ⟨⟨name, text⟩, hpart, h⟩ := Option.bind_eq_some_iff.1 h
    obtain ⟨id, hid, hk⟩ := Option.map_eq_some_iff.1 h
    exact ⟨name, text, id, hpart, hid, hk.symm⟩
  · rintro ⟨name, text, id, hpart, hid, rfl⟩
    simp [key?, hpart, hid]

theorem key?_extends (hc : c.Extends c') (h : S.key? c e = some k) : S.key? c' e = some k := by
  obtain ⟨name, text, id, hpart, hid, hk⟩ := key?_eq_some_iff.1 h
  exact key?_eq_some_iff.2 ⟨name, text, id, hpart, S.grows hc hid, hk⟩

/-- Changes share an object if they give the same name and the same text. -/
theorem key?_eq_key?_iff (hapart : (S.ids c).NamesApart) (he : (S.key? c e).isSome) :
    S.key? c e = S.key? c e' ↔ S.part? e = S.part? e' := by
  constructor
  · intro heq
    obtain ⟨k, hk⟩ := Option.isSome_iff_exists.1 he
    obtain ⟨name, text, id, hpart, hid, rfl⟩ := key?_eq_some_iff.1 hk
    obtain ⟨name', text', id', hpart', hid', hkeys⟩ := key?_eq_some_iff.1 (heq.symm.trans hk)
    obtain ⟨rfl, rfl⟩ := S.key_inj hpart hpart' hkeys
    rw [hpart, hpart', hapart hid hid']
  · intro heq
    rw [key?, key?, heq]

/-- The objects of a type are those of the programmed changes. -/
structure Fills (S : Site kind) (type : ObjectType) (programmed : List Entry) (c : Context)
    (s : Simulator) : Prop where
  located : ∀ e ∈ programmed, (S.key? c e).isSome
  objects : ∀ k, k ∈ s.objects type ↔ ∃ e ∈ programmed, S.key? c e = some k

variable {type : ObjectType} {programmed : List Entry} {s s' : Simulator}

theorem fills_nil (h : s.objects type = []) : S.Fills type [] c s where
  located := nofun
  objects k := by simp [h]

/-- More programmed parents change nothing. -/
theorem Fills.extends (h : S.Fills type programmed c s) (hc : c.Extends c')
    (hobjects : s'.objects type = s.objects type) : S.Fills type programmed c' s' := by
  have hsame : ∀ e ∈ programmed, S.key? c' e = S.key? c e := by
    intro e he
    obtain ⟨k, hk⟩ := Option.isSome_iff_exists.1 (h.located e he)
    rw [hk, key?_extends hc hk]
  constructor
  · intro e he
    rw [hsame e he]
    exact h.located e he
  · intro k
    rw [hobjects, h.objects]
    refine exists_congr fun e => and_congr_right fun he => ?_
    rw [hsame e he]

/-- A flush puts the objects of the staged changes in place. -/
theorem Fills.placed (h : S.Fills type programmed c s) {staged : List Entry}
    {stager stager' : BulkStager} (htype : stager.type = type)
    (hordered : BulkStager.Ordered (S.key? c) programmed staged stager)
    (hplaced : stager.Placed s stager' s') : S.Fills type (programmed ++ staged) c s' := by
  subst htype
  refine ⟨fun e he => ?_, hordered.placed hplaced h.objects⟩
  rcases List.mem_append.1 he with he | he
  · exact h.located e he
  · obtain ⟨k, hk, -⟩ := hordered.covered e he
    exact Option.isSome_iff_exists.2 ⟨k, hk⟩

end Site

/-- Two ways to mark the elements of a list give as many marks, if they tell the same elements
apart. -/
theorem length_dedup_map {α β γ : Type} [DecidableEq β] [DecidableEq γ] {f : α → β} {g : α → γ}
    {l : List α} (h : ∀ a ∈ l, ∀ b ∈ l, f a = f b ↔ g a = g b) :
    (l.map f).dedup.length = (l.map g).dedup.length := by
  induction l with
  | nil => rfl
  | cons a rest ih =>
    have hrest := ih fun x hx y hy => h x (List.mem_cons_of_mem _ hx) y (List.mem_cons_of_mem _ hy)
    have hmem : f a ∈ rest.map f ↔ g a ∈ rest.map g := by
      simp only [List.mem_map]
      exact exists_congr fun b => and_congr_right fun hb =>
        h b (List.mem_cons_of_mem _ hb) a (List.mem_cons_self ..)
    rw [List.map_cons, List.map_cons]
    by_cases hfa : f a ∈ rest.map f
    · rw [List.dedup_cons_of_mem hfa, List.dedup_cons_of_mem (hmem.1 hfa), hrest]
    · rw [List.dedup_cons_of_notMem hfa, List.dedup_cons_of_notMem (mt hmem.2 hfa),
        List.length_cons, List.length_cons, hrest]

/-- There are as many objects of a type as the programmed changes give different parts. -/
theorem Site.Fills.objectCount {kind : OidKind} {S : Site kind} {type : ObjectType}
    {programmed : List Entry} {c : Context} {s : Simulator} (h : S.Fills type programmed c s)
    (hapart : (S.ids c).NamesApart) (hnodup : (s.objects type).Nodup) :
    s.objectCount type = (programmed.map S.part?).dedup.length := by
  have hperm : ((s.objects type).map some).Perm (programmed.map (S.key? c)).dedup := by
    rw [List.perm_ext_iff_of_nodup (hnodup.map (Option.some_injective _)) (List.nodup_dedup _)]
    intro o
    simp only [List.mem_dedup, List.mem_map]
    constructor
    · rintro ⟨k, hk, rfl⟩
      exact (h.objects k).1 hk
    · rintro ⟨e, he, rfl⟩
      obtain ⟨k, hk⟩ := Option.isSome_iff_exists.1 (h.located e he)
      exact ⟨k, (h.objects k).2 ⟨e, he, hk⟩, hk.symm⟩
  rw [Simulator.objectCount, ← List.length_map (f := some), hperm.length_eq]
  exact length_dedup_map fun e he _ _ => key?_eq_key?_iff hapart (h.located e he)

/-- Two histories that programmed the same changes hold the same number of objects. -/
theorem Site.Fills.objectCount_eq {kind : OidKind} {S : Site kind} {type : ObjectType}
    {programmed programmed' : List Entry} {c c' : Context} {s s' : Simulator}
    (h : S.Fills type programmed c s) (h' : S.Fills type programmed' c' s')
    (hperm : programmed.Perm programmed') (hapart : (S.ids c).NamesApart)
    (hapart' : (S.ids c').NamesApart) (hnodup : (s.objects type).Nodup)
    (hnodup' : (s'.objects type).Nodup) : s.objectCount type = s'.objectCount type := by
  rw [h.objectCount hapart hnodup, h'.objectCount hapart' hnodup']
  exact (hperm.map S.part?).dedup.length_eq

end DashAgent
