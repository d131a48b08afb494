import DashAgent.Proofs.Resource.Alarms
import Mathlib.Data.List.Forall2

/-!
# Settings

What a list of configuration fields asks for is a list of settings, one to a field: `Says` tells the
setting of a field from its text. The fields of a configuration are read just if each says a
setting, and these are entered into a draft one after another. Main theorem: `readFields_eq_ok_iff`.
-/
namespace DashAgent

/-! ## Fields -/

theorem Text.dropSuffix?_eq_some_iff {suffix text stem : List Char} :
    dropSuffix? suffix text = some stem ↔ text = stem ++ suffix := by
  unfold dropSuffix?
  constructor
  · intro h
    split at h
    · next hsuffix =>
      obtain ⟨front, rfl⟩ := List.isSuffixOf_iff_suffix.1 hsuffix
      obtain rfl := Option.some.inj h
      simp
    · cases h
  · rintro rfl
    simp

namespace ThresholdField

/-- A field names a component of a resource: the name of the resource stands in front, in any case,
and the field ends as the component does. -/
def Names (field : String) (r : Resource) (kind : ThresholdField) : Prop :=
  ∃ stem : String, field = stem ++ kind.ending ∧ Text.lowered stem = r.name

def letter : ThresholdField → Char
  | type => 'e'
  | low => 'w'
  | high => 'h'

theorem Names.letter {field : String} {r : Resource} {kind : ThresholdField}
    (h : Names field r kind) : field.toList.reverse[10]? = some kind.letter := by
  obtain ⟨stem, rfl, -⟩ := h
  cases kind <;> simp [ending, ThresholdField.letter]

theorem Names.kind_eq {field : String} {r s : Resource} {kind kind' : ThresholdField}
    (h : Names field r kind) (h' : Names field s kind') : kind = kind' := by
  have hletter := h.letter.symm.trans h'.letter
  revert hletter
  cases kind <;> cases kind' <;> decide

theorem not_names_pollingInterval (r : Resource) (kind : ThresholdField) :
    ¬ Names "polling_interval" r kind := by
  intro h
  have hletter := h.letter
  revert hletter
  cases kind <;> decide

end ThresholdField

theorem Resource.parse?_eq_some_iff {text : String} {r : Resource} :
    parse? text = some r ↔ Text.lowered text = r.name := by
  unfold parse?
  constructor
  · intro h
    have hname := List.find?_some h
    simpa [eq_comm] using hname
  · intro h
    cases hfound : all.find? fun r => r.name = Text.lowered text with
    | none =>
      have hnone := List.find?_eq_none.1 hfound r r.mem_all
      simp [h] at hnone
    | some s =>
      have hname := List.find?_some hfound
      have hsame : s.name = r.name := by simpa [h] using hname
      rw [name_inj hsame]

namespace ThresholdField

/-- Reading a field finds what it names. -/
theorem parse?_eq_some_iff {field : String} {r : Resource} {kind : ThresholdField} :
    parse? field = some (r, kind) ↔ Names field r kind := by
  have hone : ∀ k s k', ((Text.dropSuffix? (ending k).toList field.toList).bind
      fun stem => (Resource.parse? (String.ofList stem)).map fun r => (r, k)) = some (s, k') ↔
        k = k' ∧ Names field s k' := by
    intro k s k'
    simp only [Option.bind_eq_some_iff, Text.dropSuffix?_eq_some_iff, Option.map_eq_some_iff,
      Resource.parse?_eq_some_iff, Prod.mk.injEq]
    constructor
    · rintro ⟨stem, htext, s, hname, rfl, rfl⟩
      refine ⟨rfl, String.ofList stem, ?_, hname⟩
      rw [← String.toList_inj, htext]
      simp
    · rintro ⟨rfl, stem, rfl, hname⟩
      exact ⟨stem.toList, by simp, s, by simpa using hname, rfl, rfl⟩
  unfold parse?
  constructor
  · intro h
    obtain ⟨k, -, hk⟩ := List.exists_of_findSome?_eq_some h
    exact ((hone k r kind).1 hk).2
  · intro h
    have hown := (hone kind r kind).2 ⟨rfl, h⟩
    cases hfound : [type, low, high].findSome? fun k =>
        (Text.dropSuffix? k.ending.toList field.toList).bind fun stem =>
          (Resource.parse? (String.ofList stem)).map fun r => (r, k) with
    | none =>
      have hnone := List.findSome?_eq_none_iff.1 hfound kind (by cases kind <;> simp)
      rw [hnone] at hown
      cases hown
    | some found =>
      obtain ⟨s, k'⟩ := found
      obtain ⟨k, -, hk⟩ := List.exists_of_findSome?_eq_some hfound
      obtain ⟨rfl, hnames⟩ := (hone k s k').1 hk
      obtain rfl := hnames.kind_eq h
      exact hk.symm.trans hown

end ThresholdField

/-! ## Settings -/

/-- A value for one component of thresholds. -/
inductive ThresholdValue where
  | type (type : ThresholdType)
  | low (low : UInt32)
  | high (high : UInt32)
  deriving DecidableEq

namespace ThresholdValue

def kind : ThresholdValue → ThresholdField
  | type _ => .type
  | low _ => .low
  | high _ => .high

/-- The value that a text stands for. -/
def IsReadFrom (text : String) : ThresholdValue → Prop
  | type t => ThresholdType.parse text = .ok t
  | low n | high n => readUInt32? text = some n

def putInto (t : Thresholds) : ThresholdValue → Thresholds
  | type kind => { t with type := kind }
  | low n => { t with low := n }
  | high n => { t with high := n }

end ThresholdValue

/-- What one configuration field asks for. -/
inductive Setting where
  | pollingMs (ms : Nat)
  | threshold (r : Resource) (value : ThresholdValue)
  deriving DecidableEq

namespace Setting

/-- A field with its value says a setting: a positive number of seconds between polls, or a value
for a component that the field names. -/
inductive Says : String × String → Setting → Prop where
  | pollingMs {text : String} {seconds : Nat} : readUInt64? text = some seconds → 0 < seconds →
    Says ("polling_interval", text) (.pollingMs (seconds * 1000))
  | threshold {field text : String} {r : Resource} {value : ThresholdValue} :
    ThresholdField.Names field r value.kind → value.IsReadFrom text →
    Says (field, text) (.threshold r value)

/-- The resource and component of a setting; the time between polls has neither. -/
def component? : Setting → Option (Resource × ThresholdField)
  | pollingMs _ => none
  | threshold r value => some (r, value.kind)

/-- Any other field than the time between polls names the component that its setting is for. -/
theorem Says.names {field text : String} {s : Setting} (h : Says (field, text) s)
    (hfield : field ≠ "polling_interval") :
    ∃ r kind, s.component? = some (r, kind) ∧ ThresholdField.Names field r kind := by
  cases h with
  | pollingMs => exact absurd rfl hfield
  | threshold hnames => exact ⟨_, _, rfl, hnames⟩

def pollingMs? : Setting → Option Nat
  | pollingMs ms => some ms
  | threshold .. => none

def typeOf? (r : Resource) : Setting → Option ThresholdType
  | threshold s (.type type) => if s = r then some type else none
  | _ => none

def lowOf? (r : Resource) : Setting → Option UInt32
  | threshold s (.low low) => if s = r then some low else none
  | _ => none

def highOf? (r : Resource) : Setting → Option UInt32
  | threshold s (.high high) => if s = r then some high else none
  | _ => none

def mentions (r : Resource) : Setting → Bool
  | pollingMs _ => false
  | threshold s _ => s = r

/-- The last value that the settings give. -/
def last? {α : Type} (value? : Setting → Option α) (settings : List Setting) : Option α :=
  (settings.filterMap value?).getLast?

theorem last?_append {α : Type} (value? : Setting → Option α) (settings : List Setting)
    (s : Setting) : last? value? (settings ++ [s]) = (value? s).or (last? value? settings) := by
  unfold last?
  cases hvalue : value? s <;> simp [hvalue]

end Setting

namespace Monitor

/-- The thresholds that settings leave for a resource: the last value given to each component, and
the value in force where none is given. -/
def requested (m : Monitor) (settings : List Setting) (r : Resource) : Thresholds where
  type := (Setting.last? (Setting.typeOf? r) settings).getD (m.record r).thresholds.type
  low := (Setting.last? (Setting.lowOf? r) settings).getD (m.record r).thresholds.low
  high := (Setting.last? (Setting.highOf? r) settings).getD (m.record r).thresholds.high

/-- The monitor with settings in force: the thresholds asked for, the last time between polls, and
no report of an excursion where the threshold type is another. Each resource mentioned and a time
between polls count as updates. -/
def configured (m : Monitor) (settings : List Setting) : Monitor :=
  { m with
    pollingMs := (Setting.last? Setting.pollingMs? settings).getD m.pollingMs
    records := .tabulate fun r =>
      { m.record r with
        thresholds := m.requested settings r
        counters :=
          if (m.requested settings r).type = (m.record r).thresholds.type then
            (m.record r).counters
          else (m.record r).counters.mapValues fun c => { c with exceededCount := 0 } }
    stats := { m.stats with
      configUpdates := m.stats.configUpdates +
        (Setting.last? Setting.pollingMs? settings).toList.length +
          (Resource.all.filter fun r => settings.any (·.mentions r)).length } }

/-! ## Reading -/

/-- The draft with one setting entered. -/
def enter (m : Monitor) (draft : ConfigurationDraft) : Setting → ConfigurationDraft
  | .pollingMs ms => { draft with pollingMs := some ms }
  | .threshold r value =>
    { draft with
      thresholds := assign r
        (value.putInto ((draft.thresholds.lookup r).getD (m.record r).thresholds))
        draft.thresholds }

theorem readComponent_eq_ok_iff {t t' : Thresholds} {kind : ThresholdField}
    {field text : String} :
    readComponent t kind field text = .ok t' ↔
      ∃ value : ThresholdValue, value.kind = kind ∧ value.IsReadFrom text ∧
        value.putInto t = t' := by
  unfold readComponent
  constructor
  · intro h
    split at h
    · split at h
      · next type htype =>
        cases h
        exact ⟨.type type, rfl, htype, rfl⟩
      · cases h
    · split at h
      · next low hlow =>
        cases h
        exact ⟨.low low, rfl, hlow, rfl⟩
      · cases h
    · split at h
      · next high hhigh =>
        cases h
        exact ⟨.high high, rfl, hhigh, rfl⟩
      · cases h
  · rintro ⟨value, rfl, hread, rfl⟩
    cases value <;> simp only [ThresholdValue.IsReadFrom] at hread <;>
      simp only [ThresholdValue.kind, hread, ThresholdValue.putInto]

/-- A field is read just if it says a setting, which is then entered. -/
theorem readField_eq_ok_iff {m : Monitor} {draft draft' : ConfigurationDraft}
    {field text : String} :
    m.readField draft field text = .ok draft' ↔
      ∃ s, Setting.Says (field, text) s ∧ m.enter draft s = draft' := by
  unfold readField
  split
  · next hfield =>
    subst hfield
    constructor
    · intro h
      split at h
      · next seconds hseconds =>
        cases h
        exact ⟨_, .pollingMs hseconds (Nat.succ_pos seconds), rfl⟩
      · cases h
    · rintro ⟨s, hsays, rfl⟩
      cases hsays with
      | pollingMs hseconds hpos =>
        obtain ⟨n, rfl⟩ := Nat.exists_eq_succ_of_ne_zero hpos.ne'
        simp only [hseconds]
        rfl
      | threshold hnames => exact absurd hnames (ThresholdField.not_names_pollingInterval _ _)
  · next hfield =>
    constructor
    · intro h
      split at h
      · cases h
      · next r kind hparse =>
        rw [ThresholdField.parse?_eq_some_iff] at hparse
        cases hcomponent : readComponent
            ((draft.thresholds.lookup r).getD (m.record r).thresholds) kind field text with
        | error e =>
          simp only [hcomponent] at h
          cases h
        | ok t =>
          simp only [hcomponent] at h
          cases h
          obtain ⟨value, rfl, hread, rfl⟩ := readComponent_eq_ok_iff.1 hcomponent
          exact ⟨_, .threshold hparse hread, rfl⟩
    · rintro ⟨s, hsays, rfl⟩
      cases hsays with
      | pollingMs => exact absurd rfl hfield
      | @threshold _ _ r value hnames hread =>
        rw [ThresholdField.parse?_eq_some_iff.2 hnames]
        have hcomponent : readComponent ((draft.thresholds.lookup r).getD (m.record r).thresholds)
            value.kind field text =
              .ok (value.putInto ((draft.thresholds.lookup r).getD (m.record r).thresholds)) :=
          readComponent_eq_ok_iff.2 ⟨value, rfl, hread, rfl⟩
        simp only [hcomponent]
        rfl

/-- Fields are read just if each says a setting, and these are entered in turn. -/
theorem readFields_eq_ok_iff {m : Monitor} {fields : List (String × String)}
    {draft draft' : ConfigurationDraft} :
    m.readFields fields draft = .ok draft' ↔
      ∃ settings, List.Forall₂ Setting.Says fields settings ∧
        settings.foldl m.enter draft = draft' := by
  induction fields generalizing draft with
  | nil => simp [readFields]
  | cons field rest ih =>
    obtain ⟨name, text⟩ := field
    unfold readFields
    constructor
    · intro h
      cases hfield : m.readField draft name text with
      | error e =>
        rw [hfield] at h
        cases h
      | ok next =>
        rw [hfield] at h
        obtain ⟨s, hsays, rfl⟩ := readField_eq_ok_iff.1 hfield
        obtain ⟨settings, hrest, hdraft⟩ := ih.1 h
        exact ⟨s :: settings, .cons hsays hrest, hdraft⟩
    · rintro ⟨settings, hall, rfl⟩
      cases hall with
      | cons hsays hrest =>
        rw [readField_eq_ok_iff.2 ⟨_, hsays, rfl⟩]
        exact ih.2 ⟨_, hrest, rfl⟩

end Monitor

end DashAgent
