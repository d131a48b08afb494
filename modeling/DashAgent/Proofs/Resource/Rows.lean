import DashAgent.Proofs.EntryKeys
import DashAgent.Resource.Kind
import DashAgent.Resource.Counter
import DashAgent.Resource.Telemetry

/-!
# Rows and fields of the telemetry

Different sub-pools have different rows, and different resources have different fields. What the
operations of the telemetry do is therefore said field by field: to set, to delete and to withdraw
the fields of one row leaves every other field alone.
-/
namespace DashAgent

/-! ## Names -/

/-- Numerals without padding tell their numbers. -/
theorem Numeral.hex_inj {m n : Nat} (h : hex m = hex n) : m = n := by
  have hread := readHex?_hex m
  rw [h, readHex?_hex] at hread
  exact (Option.some.inj hread).symm

theorem ObjectId.text_inj {a b : ObjectId} (h : a.text = b.text) : a = b := by
  have hdigits := (List.cons.inj (List.cons.inj (String.ofList_injective h)).2).2
  exact UInt64.toNat_inj.1 (Numeral.hex_inj hdigits)

namespace Resource

variable {r s : Resource}

theorem mem_all (r : Resource) : r ∈ all := by
  cases r <;> decide

/-- Resources are told apart by their names. -/
theorem name_inj (h : r.name = s.name) : r = s := by
  have hall : ∀ r ∈ all, ∀ s ∈ all, r.name = s.name → r = s := by decide +kernel
  exact hall r r.mem_all s s.mem_all h

theorem usedField_inj : r.usedField = s.usedField ↔ r = s := by
  refine ⟨fun h => name_inj ?_, fun h => h ▸ rfl⟩
  simpa [usedField, String.ext_iff] using h

theorem availableField_inj : r.availableField = s.availableField ↔ r = s := by
  refine ⟨fun h => name_inj ?_, fun h => h ▸ rfl⟩
  simpa [availableField, String.ext_iff] using h

/-- Rules tell the groups that they belong to. -/
theorem ruleOf?_inj {rule : Resource} (h : r.ruleOf? = some rule) (h' : s.ruleOf? = some rule) :
    r = s := by
  have hgroup : ∀ {r}, r.ruleOf? = some rule →
      r = dashIpv4AclGroup ∧ rule = dashIpv4AclRule ∨
        r = dashIpv6AclGroup ∧ rule = dashIpv6AclRule := by
    intro r hr
    cases r <;> simp [ruleOf?] at hr <;> simp [← hr]
  obtain ⟨rfl, rfl⟩ | ⟨rfl, rfl⟩ := hgroup h <;> obtain ⟨rfl, hrule⟩ | ⟨rfl, hrule⟩ := hgroup h'
  all_goals first | rfl | cases hrule

/-- The two fields of a resource end in different letters. -/
theorem usedField_ne_availableField : r.usedField ≠ s.availableField := by
  intro h
  have hlast := congrArg (fun text => text.toList.reverse.head?) h
  simp [usedField, availableField] at hlast

end Resource

namespace SubPool

theorem row_acl (stage : AclStage) (bindPoint : AclBindPoint) :
    (acl stage bindPoint).row = "ACL_STATS:" ++ stage.text ++ ":" ++ bindPoint.text := rfl

theorem row_aclTable (id : ObjectId) : (aclTable id).row = "ACL_TABLE_STATS:" ++ id.text := rfl

theorem row_extTable (name : String) : (extTable name).row = "EXT_TABLE_STATS:" ++ name := rfl

theorem row_dashAclGroup (id : ObjectId) :
    (dashAclGroup id).row = "DASH_ACL_GROUP_STATS:" ++ id.text := rfl

theorem acl_row_inj {stage stage' : AclStage} {bindPoint bindPoint' : AclBindPoint}
    (h : (acl stage bindPoint).row = (acl stage' bindPoint').row) :
    stage = stage' ∧ bindPoint = bindPoint' := by
  rw [row_acl, row_acl] at h
  cases stage <;> cases bindPoint <;> cases stage' <;> cases bindPoint' <;>
    first
      | exact ⟨rfl, rfl⟩
      | exact absurd h (by decide +kernel)

/-- How the rows of a kind begin. -/
def rowStem : SubPool → String
  | global => "STATS"
  | acl .. => "ACL_S"
  | aclTable _ => "ACL_T"
  | extTable _ => "EXT_T"
  | dashAclGroup _ => "DASH_"

theorem take_row (p : SubPool) : p.row.toList.take 5 = p.rowStem.toList := by
  cases p with
  | global => rfl
  | acl stage bindPoint => simp [row_acl, rowStem]
  | aclTable id => simp [row_aclTable, rowStem]
  | extTable name => simp [row_extTable, rowStem]
  | dashAclGroup id => simp [row_dashAclGroup, rowStem]

/-- Sub-pools are told apart by their rows: those of different kinds begin differently. -/
theorem row_inj {p q : SubPool} (h : p.row = q.row) : p = q := by
  have hstem : p.rowStem = q.rowStem := by
    rw [← String.toList_inj, ← take_row, ← take_row, h]
  cases p <;> cases q <;> simp [rowStem] at hstem
  case global.global => rfl
  case acl.acl stage bindPoint stage' bindPoint' =>
    obtain ⟨rfl, rfl⟩ := acl_row_inj h
    rfl
  case aclTable.aclTable id id' =>
    rw [row_aclTable, row_aclTable] at h
    rw [ObjectId.text_inj (a := id) (b := id') (by simpa [String.ext_iff] using h)]
  case extTable.extTable name name' =>
    rw [row_extTable, row_extTable] at h
    simpa [String.ext_iff] using h
  case dashAclGroup.dashAclGroup id id' =>
    rw [row_dashAclGroup, row_dashAclGroup] at h
    rw [ObjectId.text_inj (a := id) (b := id') (by simpa [String.ext_iff] using h)]

end SubPool

/-! ## What the operations do to a field -/

namespace Telemetry

variable (t : Telemetry) {row row' field : String}

/-- The used or the available count of a resource stands in a row. -/
def Shows (row : String) (r : Resource) : Prop :=
  (t.field? row r.usedField).isSome ∨ (t.field? row r.availableField).isSome

/-- Exactly these counts of a resource stand in a row, in decimal. -/
structure ShowsCounts (row : String) (r : Resource) (c : Counter) : Prop where
  used : t.field? row r.usedField = some (toString c.used.toNat)
  available : t.field? row r.availableField = some (toString c.available.toNat)

theorem contains_eq (row : String) : t.contains row = (t.row? row).isSome :=
  Table.contains_eq_isSome ..

theorem row?_delete (row row' : String) :
    (t.delete row).row? row' = if row = row' then none else t.row? row' := by
  unfold row? delete
  split
  · next h => simp [h]
  · next h => rw [Table.get?_erase_of_ne h]

theorem field?_delete (row row' field : String) :
    (t.delete row).field? row' field = if row = row' then none else t.field? row' field := by
  rw [field?, row?_delete]
  split <;> rfl

theorem contains_delete (row : String) : (t.delete row).contains row = false := by
  simp [contains_eq, row?_delete]

theorem contains_of_contains_delete (h : (t.delete row).contains row' = true) :
    t.contains row' = true := by
  rw [contains_eq, row?_delete] at h
  rw [contains_eq]
  split at h
  · cases h
  · exact h

theorem get?_eraseAll (fields : List String) (values : Table String String) (field : String) :
    (fields.foldl (fun values name => values.erase name) values).get? field =
      if field ∈ fields then none else values.get? field := by
  induction fields generalizing values with
  | nil => simp
  | cons name rest ih =>
    rw [List.foldl_cons, ih]
    by_cases hrest : field ∈ rest
    · simp [hrest]
    · by_cases hname : name = field
      · simp [hname, hrest]
      · simp [hrest, Ne.symm hname, Table.get?_erase_of_ne hname]

/-- The row that fields are withdrawn from loses them, and is gone with the last one. -/
theorem row?_deleteFields (row : String) (fields : List String) (row' : String) :
    (t.deleteFields row fields).row? row' =
      if row = row' then
        ((t.row? row).map fun values => fields.foldl (fun values name => values.erase name) values
          ).filter fun values => !values.isEmpty
      else t.row? row' := by
  cases hrow : t.row? row with
  | none =>
    have hsame : t.deleteFields row fields = t := by simp only [deleteFields, hrow]
    by_cases h : row = row'
    · simp [hsame, ← h, hrow]
    · simp [hsame, h]
  | some values =>
    obtain ⟨left, hleft⟩ :
        ∃ left, fields.foldl (fun values name => values.erase name) values = left := ⟨_, rfl⟩
    have hdelete : t.deleteFields row fields =
        if left.isEmpty then ⟨t.rows.erase row⟩ else ⟨t.rows.insert row left⟩ := by
      simp only [deleteFields, hrow, hleft]
    rw [hdelete, Option.map_some, hleft]
    by_cases hsame : row = row'
    · subst hsame
      cases hempty : left.isEmpty <;> simp [row?, Option.filter, hempty]
    · cases hempty : left.isEmpty <;>
        simp [row?, hsame, Table.get?_erase_of_ne hsame, Table.get?_insert_of_ne _ hsame]

theorem field?_deleteFields (row : String) (fields : List String) (row' field : String) :
    (t.deleteFields row fields).field? row' field =
      if row = row' ∧ field ∈ fields then none else t.field? row' field := by
  rw [field?, row?_deleteFields]
  by_cases hsame : row = row'
  · subst hsame
    simp only [if_true, true_and]
    cases hrow : t.row? row with
    | none => simp [field?, hrow]
    | some values =>
      have hleft := get?_eraseAll fields values field
      simp only [field?, hrow, Option.map_some, Option.bind_some, ← hleft]
      generalize fields.foldl (fun values name => values.erase name) values = left
      cases hempty : left.isEmpty with
      | false => simp [Option.filter, hempty]
      | true =>
        have hnone : left.entries = [] := List.isEmpty_iff.1 hempty
        simp [Option.filter, hempty, Table.get?, hnone]
  · simp [hsame, field?]

theorem contains_of_contains_deleteFields {fields : List String}
    (h : (t.deleteFields row fields).contains row' = true) : t.contains row' = true := by
  rw [contains_eq, row?_deleteFields] at h
  rw [contains_eq]
  split at h
  · next heq =>
    subst heq
    cases hvalues : t.row? row with
    | none => simp [hvalues] at h
    | some values => rfl
  · exact h

/-- The two counts of a resource are set in the row of a sub-pool. -/
def publish (p : SubPool) (r : Resource) (c : Counter) : Telemetry :=
  t.set p.row
    [(r.usedField, toString c.used.toNat), (r.availableField, toString c.available.toNat)]

theorem contains_of_contains_publish {p : SubPool} {r : Resource} {c : Counter}
    (h : (t.publish p r c).contains row = true) : t.contains row = true ∨ p.row = row := by
  by_cases hsame : p.row = row
  · exact .inr hsame
  · left
    rw [contains_eq] at h ⊢
    rwa [publish, set, row?, Table.get?_insert_of_ne _ hsame] at h

/-- The counts that are set are shown. -/
theorem showsCounts_publish (p : SubPool) (r : Resource) (c : Counter) :
    (t.publish p r c).ShowsCounts p.row r c := by
  constructor
  · simp [publish, set, field?, row?, Table.insertAll,
      Table.get?_insert_of_ne _ (Resource.usedField_ne_availableField (r := r) (s := r)).symm]
  · simp [publish, set, field?, row?, Table.insertAll]

/-- Another row keeps its fields. -/
theorem field?_publish_of_row_ne {p : SubPool} (r : Resource) (c : Counter) (h : p.row ≠ row)
    (field : String) : (t.publish p r c).field? row field = t.field? row field := by
  simp only [publish, set, field?, row?]
  rw [Table.get?_insert_of_ne _ h]

/-- Another field keeps its value. -/
theorem field?_publish_of_field_ne (p : SubPool) {r : Resource} (c : Counter)
    (hused : r.usedField ≠ field) (havailable : r.availableField ≠ field) (row : String) :
    (t.publish p r c).field? row field = t.field? row field := by
  by_cases hrow : p.row = row
  · subst hrow
    simp only [publish, set, field?, row?, Table.get?_insert_self, Option.bind_some,
      Table.insertAll, List.foldl_cons, List.foldl_nil]
    rw [Table.get?_insert_of_ne _ havailable, Table.get?_insert_of_ne _ hused]
    cases t.rows.get? p.row <;> rfl
  · exact t.field?_publish_of_row_ne r c hrow field

end Telemetry

end DashAgent
