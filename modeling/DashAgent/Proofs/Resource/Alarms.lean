import DashAgent.Proofs.Resource.Calls
import DashAgent.Proofs.Resource.Rows

/-!
# Alarms

The threshold events of a sub-pool are those of an automaton with two states, which the count of
reports of its counter hides: an excursion lasts while the count is not zero. A check of a counter
is a step of this automaton, and a check of the whole monitor is one for every sub-pool. Main
theorem: `checkThresholds_step`.
-/
namespace DashAgent

/-! ## The automaton -/

inductive Alarm where
  | clear
  | exceeded
  deriving DecidableEq, Repr

/-- What a call means for a sub-pool. -/
inductive Happening where
  /-- Its counter is checked against the thresholds in force. -/
  | check (t : Thresholds) (c : Counter)
  /-- The threshold type of its resource changes, or it is dropped. -/
  | reset
  /-- Nothing that matters to an excursion. -/
  | pass

namespace Alarm

/-- An excursion begins at or above the high threshold and ends at or below the low one, and tells
both. A reset ends it silently. -/
def step (r : Resource) (p : SubPool) : Alarm → Happening → Alarm × List ThresholdEvent
  | alarm, .pass => (alarm, [])
  | _, .reset => (clear, [])
  | clear, .check t c =>
    if t.high.toNat ≤ c.utilization t.type then
      (exceeded, [⟨r, p, .exceeded, t.type, c.percent, c.used, c.available⟩])
    else (clear, [])
  | exceeded, .check t c =>
    if c.utilization t.type ≤ t.low.toNat then
      (clear, [⟨r, p, .clear, t.type, c.percent, c.used, c.available⟩])
    else (exceeded, [])

/-- One happening after another: the last state, and all that was told. -/
def walk (r : Resource) (p : SubPool) : Alarm → List Happening → Alarm × List ThresholdEvent
  | alarm, [] => (alarm, [])
  | alarm, h :: rest =>
    let (alarm, now) := alarm.step r p h
    let (alarm, later) := walk r p alarm rest
    (alarm, now ++ later)

/-- Every beginning is followed by an end and every end by a beginning. -/
def Alternates : Alarm → List ThresholdEventKind → Prop
  | _, [] => True
  | clear, .exceeded :: rest => Alternates exceeded rest
  | exceeded, .clear :: rest => Alternates clear rest
  | _, _ => False

/-- Without resets beginnings and ends alternate. -/
theorem alternates_walk (r : Resource) (p : SubPool) {hs : List Happening}
    (h : .reset ∉ hs) (alarm : Alarm) :
    alarm.Alternates ((walk r p alarm hs).2.map ThresholdEvent.kind) := by
  induction hs generalizing alarm with
  | nil => cases alarm <;> trivial
  | cons first rest ih =>
    rw [List.mem_cons, not_or] at h
    cases first with
    | reset => exact absurd rfl h.1
    | pass => exact ih h.2 alarm
    | check t c =>
      cases alarm with
      | clear =>
        by_cases hhigh : t.high.toNat ≤ c.utilization t.type
        · simpa [walk, step, hhigh, Alternates] using ih h.2 exceeded
        · simpa [walk, step, hhigh] using ih h.2 clear
      | exceeded =>
        by_cases hlow : c.utilization t.type ≤ t.low.toNat
        · simpa [walk, step, hlow, Alternates] using ih h.2 clear
        · simpa [walk, step, hlow] using ih h.2 exceeded

/-- The state that a count of reports stands for. -/
def ofReports (n : Nat) : Alarm := if n = 0 then clear else exceeded

end Alarm

/-! ## One check -/

/-- Thresholds that can be watched. -/
structure Thresholds.Sound (t : Thresholds) : Prop where
  below : t.low < t.high
  percentage : t.type = .percentage → t.high ≤ 100

theorem Thresholds.sound_default : Thresholds.default.Sound := ⟨by decide, fun _ => by decide⟩

theorem Thresholds.sound_of_validate {t : Thresholds} (h : t.validate = .ok ()) : t.Sound := by
  unfold validate at h
  split at h
  · cases h
  · next hbelow =>
    split at h
    · cases h
    · next hover =>
      rw [not_and, UInt32.not_lt] at hover
      exact ⟨UInt32.not_le.1 hbelow, hover⟩

/-- The count of reports of a sub-pool; one that is not there has none. -/
def ResourceRecord.reports (x : ResourceRecord) (p : SubPool) : Nat :=
  (x.counter? p).elim 0 Counter.exceededCount

namespace Monitor

/-- An event tells of the sub-pool that was checked. -/
theorem mem_eventOf? {r : Resource} {t : Thresholds} {p : SubPool} {c : Counter}
    {e : ThresholdEvent} (h : eventOf? r t p c = some e) : e.resource = r ∧ e.subPool = p := by
  unfold eventOf? at h
  split at h <;> cases h <;> exact ⟨rfl, rfl⟩

/-- The count of reports goes with the state, also when no more reports are made, and stays within
its limit. -/
theorem check_step (r : Resource) (p : SubPool) {c : Counter} {t : Thresholds} (hsound : t.Sound)
    (hcount : c.exceededCount ≤ Counter.maxReports) :
    (Alarm.ofReports c.exceededCount).step r p (.check t c) =
      (Alarm.ofReports (c.check t).2.exceededCount, (eventOf? r t p c).toList) ∧
      (c.check t).2.exceededCount ≤ Counter.maxReports := by
  have hbelow : t.low.toNat < t.high.toNat := UInt32.lt_iff_toNat_lt.1 hsound.below
  have hne : t.high ≠ t.low := fun heq => by rw [heq] at hbelow; omega
  by_cases hzero : c.exceededCount = 0
  · by_cases hhigh : t.high.toNat ≤ c.utilization t.type
    · simp [Alarm.ofReports, Alarm.step, eventOf?, Counter.check, Counter.maxReports, hzero, hhigh]
    · simp [Alarm.ofReports, Alarm.step, eventOf?, Counter.check, Counter.maxReports, hzero, hhigh]
  · by_cases hlow : c.utilization t.type ≤ t.low.toNat
    · have hhigh : ¬ t.high.toNat ≤ c.utilization t.type := by omega
      simp [Alarm.ofReports, Alarm.step, eventOf?, Counter.check, Nat.pos_of_ne_zero, hzero, hlow,
        hhigh, hne]
    · by_cases hreport : t.high.toNat ≤ c.utilization t.type ∧ c.exceededCount < Counter.maxReports
      · have hnext : c.exceededCount + 1 ≤ Counter.maxReports := hreport.2
        simp [Alarm.ofReports, Alarm.step, eventOf?, Counter.check, hzero, hlow, hreport, hnext]
      · simp [Alarm.ofReports, Alarm.step, eventOf?, Counter.check, hzero, hlow, hreport, hcount]

/-! ## All checks -/

/-- The record of a resource after its sub-pools were checked, if it is supported. -/
def checkedRecord (x : ResourceRecord) : ResourceRecord :=
  if x.supported then
    { x with counters := x.counters.mapValues fun c => (c.check x.thresholds).2 }
  else x

def eventsOf (r : Resource) (x : ResourceRecord) : List ThresholdEvent :=
  if x.supported then x.counters.entries.filterMap fun e => eventOf? r x.thresholds e.1 e.2 else []

def eventsAt (r : Resource) (p : SubPool) (events : List ThresholdEvent) : List ThresholdEvent :=
  events.filter fun e => e.resource = r ∧ e.subPool = p

theorem eventsAt_append (r : Resource) (p : SubPool) (events more : List ThresholdEvent) :
    eventsAt r p (events ++ more) = eventsAt r p events ++ eventsAt r p more :=
  List.filter_append ..

theorem record_checkResource (m : Monitor) (s r : Resource) :
    (m.checkResource s).record r = if s = r then checkedRecord (m.record r) else m.record r := by
  by_cases hsupported : (m.record s).supported = true
  · have hrecords : (m.checkResource s).records = m.records.modify s fun x => { x with
        counters := x.counters.mapValues fun c => (c.check (m.record s).thresholds).2 } := by
      simp only [checkResource, hsupported, if_true]
      rfl
    obtain ⟨hself, hother⟩ := record_of_modify hrecords
    split
    · next hs =>
      subst hs
      rw [hself, checkedRecord, if_pos hsupported]
    · next hs => exact hother hs
  · have hsame : m.checkResource s = m := by simp [checkResource, hsupported]
    rw [hsame]
    split
    · next hs =>
      subst hs
      rw [checkedRecord, if_neg hsupported]
    · rfl

theorem events_checkResource (m : Monitor) (r : Resource) :
    (m.checkResource r).events = m.events ++ eventsOf r (m.record r) := by
  unfold checkResource eventsOf
  split <;> simp [*]

/-- Checks of different sub-pools tell at most one thing of each. -/
theorem eventsAt_filterMap (r : Resource) (p : SubPool) (t : Thresholds)
    {l : List (SubPool × Counter)} (hnodup : (l.map Prod.fst).Nodup) :
    eventsAt r p (l.filterMap fun e => eventOf? r t e.1 e.2) =
      (((l.find? (·.1 = p)).map Prod.snd).bind (eventOf? r t p)).toList := by
  induction l with
  | nil => rfl
  | cons e rest ih =>
    rw [List.map_cons, List.nodup_cons] at hnodup
    have hrest := ih hnodup.2
    by_cases hp : e.1 = p
    · subst hp
      have hnone : rest.find? (·.1 = e.1) = none :=
        List.find?_eq_none.2 fun e' he' => by
          simpa using fun heq => hnodup.1 (List.mem_map.2 ⟨e', he', heq⟩)
      rw [hnone] at hrest
      rw [List.filterMap_cons, List.find?_cons_of_pos (by simp)]
      cases hevent : eventOf? r t e.1 e.2 with
      | none => simpa [hevent] using hrest
      | some event =>
        obtain ⟨hr, hp⟩ := mem_eventOf? hevent
        simpa [hevent, eventsAt, hr, hp] using hrest
    · rw [List.filterMap_cons, List.find?_cons_of_neg (by simpa using hp), ← hrest]
      cases hevent : eventOf? r t e.1 e.2 with
      | none => rfl
      | some event => simp [eventsAt, (mem_eventOf? hevent).2, hp]

/-- What the checks of a resource tell of a sub-pool. -/
theorem eventsAt_eventsOf (r : Resource) (p : SubPool) (x : ResourceRecord) :
    eventsAt r p (eventsOf r x) =
      if x.supported then ((x.counter? p).bind (eventOf? r x.thresholds p)).toList else [] := by
  unfold eventsOf
  split
  · exact eventsAt_filterMap r p x.thresholds x.counters.nodup
  · rfl

/-- The checks of one resource tell nothing of another. -/
theorem eventsAt_eventsOf_of_ne {r s : Resource} (h : s ≠ r) (p : SubPool) (x : ResourceRecord) :
    eventsAt r p (eventsOf s x) = [] := by
  rw [eventsAt, List.filter_eq_nil_iff]
  intro e he
  unfold eventsOf at he
  split at he
  · obtain ⟨entry, -, hevent⟩ := List.mem_filterMap.1 he
    simp [(mem_eventOf? hevent).1, h]
  · cases he

/-- Each resource is checked once, as it was before. -/
theorem foldl_checkResource {rs : List Resource} (hnodup : rs.Nodup) (m : Monitor) :
    (∀ r, (rs.foldl checkResource m).record r =
      if r ∈ rs then checkedRecord (m.record r) else m.record r) ∧
      (rs.foldl checkResource m).events =
        m.events ++ rs.flatMap fun r => eventsOf r (m.record r) := by
  induction rs generalizing m with
  | nil => simp
  | cons s rest ih =>
    rw [List.nodup_cons] at hnodup
    obtain ⟨hrecords, hevents⟩ := ih hnodup.2 (m.checkResource s)
    constructor
    · intro r
      rw [List.foldl_cons, hrecords, record_checkResource]
      by_cases hs : s = r
      · subst hs
        simp [hnodup.1]
      · simp [hs, Ne.symm hs]
    · rw [List.foldl_cons, hevents, events_checkResource, List.append_assoc, List.flatMap_cons]
      congr 2
      apply List.flatMap_congr
      intro r hr
      rw [record_checkResource, if_neg]
      rintro rfl
      exact hnodup.1 hr

theorem eventsAt_flatMap {r : Resource} (p : SubPool) (f : Resource → ResourceRecord)
    {rs : List Resource} (hnodup : rs.Nodup) (hr : r ∈ rs) :
    eventsAt r p (rs.flatMap fun s => eventsOf s (f s)) = eventsAt r p (eventsOf r (f r)) := by
  have hothers : ∀ rs : List Resource, r ∉ rs →
      eventsAt r p (rs.flatMap fun s => eventsOf s (f s)) = [] := by
    intro rs hrs
    rw [eventsAt, List.filter_flatMap, List.flatMap_eq_nil_iff]
    intro s hs
    exact eventsAt_eventsOf_of_ne (by rintro rfl; exact hrs hs) p (f s)
  obtain ⟨before, after, rfl⟩ := List.append_of_mem hr
  rw [List.perm_middle.nodup_iff, List.nodup_cons, List.mem_append, not_or] at hnodup
  rw [List.flatMap_append, List.flatMap_cons, eventsAt_append, eventsAt_append,
    hothers before hnodup.1.1, hothers after hnodup.1.2, List.nil_append, List.append_nil]

/-- How many checks have reported the excursion of a sub-pool. -/
def reports (m : Monitor) (r : Resource) (p : SubPool) : Nat := (m.record r).reports p

theorem reports_of_some {m : Monitor} {r : Resource} {p : SubPool} {c : Counter}
    (h : m.counter? r p = some c) : m.reports r p = c.exceededCount :=
  congrArg (Option.elim · 0 Counter.exceededCount) h

theorem reports_of_none {m : Monitor} {r : Resource} {p : SubPool} (h : m.counter? r p = none) :
    m.reports r p = 0 :=
  congrArg (Option.elim · 0 Counter.exceededCount) h

/-- Whether an excursion of a sub-pool lasts. -/
def alarm (m : Monitor) (r : Resource) (p : SubPool) : Alarm := .ofReports (m.reports r p)

/-- The thresholds of all resources can be watched, and the reports of excursions are limited. -/
structure Watched (m : Monitor) : Prop where
  sound : ∀ r, (m.record r).thresholds.Sound
  limit : ∀ r p, m.reports r p ≤ Counter.maxReports

def checked (m : Monitor) (r : Resource) (p : SubPool) : Happening :=
  match m.counter? r p with
  | some c => if (m.record r).supported then .check (m.record r).thresholds c else .pass
  | none => .pass

/-- Checks are steps of the automaton of each sub-pool. -/
theorem checkThresholds_step {m : Monitor} (h : m.Watched) :
    m.checkThresholds.Watched ∧ ∃ new, m.checkThresholds.events = m.events ++ new ∧
      ∀ r p, (m.alarm r p).step r p (m.checked r p) =
        (m.checkThresholds.alarm r p, eventsAt r p new) := by
  have hnodup : Resource.all.Nodup := by decide
  obtain ⟨hrecords, hevents⟩ := foldl_checkResource hnodup m
  have hrecord : ∀ r, m.checkThresholds.record r = checkedRecord (m.record r) := fun r =>
    (hrecords r).trans (if_pos r.mem_all)
  have hcounter : ∀ r p, m.checkThresholds.counter? r p = (m.counter? r p).map fun c =>
      if (m.record r).supported then (c.check (m.record r).thresholds).2 else c := by
    intro r p
    rw [counter?, hrecord, checkedRecord]
    split
    · exact Table.get?_mapValues ..
    · exact Option.map_id_apply.symm
  have hlimit : ∀ {r p c}, m.counter? r p = some c → c.exceededCount ≤ Counter.maxReports :=
    fun {r p _} hc => reports_of_some hc ▸ h.limit r p
  refine ⟨⟨fun r => ?_, fun r p => ?_⟩, _, hevents, fun r p => ?_⟩
  · rw [hrecord, checkedRecord]
    split <;> exact h.sound r
  · cases hc : m.counter? r p with
    | none =>
      rw [reports_of_none (by rw [hcounter, hc]; rfl)]
      exact Nat.zero_le _
    | some c =>
      rw [reports_of_some (by rw [hcounter, hc]; rfl)]
      split
      · exact (check_step r p (h.sound r) (hlimit hc)).2
      · exact hlimit hc
  · rw [eventsAt_flatMap p m.record hnodup r.mem_all, eventsAt_eventsOf, alarm, alarm, checked]
    change _ = (_, if _ then ((m.counter? r p).bind _).toList else _)
    cases hc : m.counter? r p with
    | none =>
      rw [reports_of_none hc, reports_of_none (by rw [hcounter, hc]; rfl)]
      simp [Alarm.step]
    | some c =>
      rw [reports_of_some hc, reports_of_some (by rw [hcounter, hc]; rfl)]
      by_cases hsupported : (m.record r).supported = true
      · simpa [hsupported] using (check_step r p (h.sound r) (hlimit hc)).1
      · simp [hsupported, Alarm.step]

end Monitor

end DashAgent
