import DashAgent.Proofs.Resource.Configuring
import DashAgent.Proofs.Resource.Postings

/-!
# Steps that rearm

`Calm` says of the steps that leave all thresholds and all counts of reports alone that they do, and
`Rearms` where any other step but a check ends an excursion without an event: where the threshold
type changes, and where a sub-pool is dropped.
-/
namespace DashAgent.Monitor

/-! ## Steps without checks -/

/-- All thresholds, counts of reports and events are left alone. -/
structure Calm (m m' : Monitor) : Prop where
  events : m'.events = m.events
  thresholds : ∀ r, (m'.record r).thresholds = (m.record r).thresholds
  reports : ∀ r p, m'.reports r p = m.reports r p

section Calm

variable {m m' m'' : Monitor}

theorem Calm.refl (m : Monitor) : Calm m m := ⟨rfl, fun _ => rfl, fun _ _ => rfl⟩

theorem Calm.trans (h : Calm m m') (h' : Calm m' m'') : Calm m m'' where
  events := h'.events.trans h.events
  thresholds r := (h'.thresholds r).trans (h.thresholds r)
  reports r p := (h'.reports r p).trans (h.reports r p)

/-- What is not looked at may change. -/
theorem Calm.of_records (hrecords : m'.records = m.records) (hevents : m'.events = m.events) :
    Calm m m' := by
  have hrecord : ∀ r, m'.record r = m.record r := fun r => by rw [record, hrecords]; rfl
  exact ⟨hevents, fun r => by rw [hrecord], fun r p => congrArg (·.reports p) (hrecord r)⟩

theorem Calm.of_modify {r : Resource} {f : ResourceRecord → ResourceRecord}
    (hrecords : m'.records = m.records.modify r f) (hevents : m'.events = m.events)
    (hthresholds : (f (m.record r)).thresholds = (m.record r).thresholds)
    (hreports : ∀ p, (f (m.record r)).reports p = (m.record r).reports p) : Calm m m' := by
  obtain ⟨hself, hother⟩ := record_of_modify hrecords
  refine ⟨hevents, ?_, ?_⟩
  · intro s
    by_cases hs : r = s
    · subst hs
      rw [hself, hthresholds]
    · rw [hother hs]
  · intro s p
    by_cases hs : r = s
    · subst hs
      exact (congrArg (·.reports p) hself).trans (hreports p)
    · exact congrArg (·.reports p) (hother hs)

/-- A counter is put in its place with the count of reports that it had. -/
theorem Calm.of_setCounter {r : Resource} {p : SubPool} {c : Counter}
    (hrecords : m'.records = m.records.modify r (·.setCounter p c))
    (hevents : m'.events = m.events)
    (hc : c.exceededCount = ((m.record r).counterOrNew p).exceededCount) : Calm m m' := by
  refine .of_modify hrecords hevents rfl ?_
  intro q
  by_cases hq : p = q
  · subst hq
    rw [ResourceRecord.reports, ResourceRecord.counter?, ResourceRecord.setCounter,
      Table.get?_insert_self, Option.elim_some, hc, ResourceRecord.counterOrNew,
      ResourceRecord.reports]
    cases (m.record r).counter? p <;> rfl
  · rw [ResourceRecord.reports, ResourceRecord.counter?, ResourceRecord.setCounter,
      Table.get?_insert_of_ne _ hq]
    rfl

theorem calm_countUp (m : Monitor) (r : Resource) (p : SubPool) : Calm m (m.countUp r p).2 := by
  refine .of_setCounter rfl rfl ?_
  unfold Counter.increment
  split <;> rfl

theorem calm_countDown (m : Monitor) (r : Resource) (p : SubPool) :
    Calm m (m.countDown r p).2 := by
  obtain ⟨-, heq⟩ | ⟨c, -, -, heq⟩ | ⟨c, hc, -, heq⟩ := countDown_cases m r p <;> rw [heq]
  · exact .refl m
  · exact .refl m
  · exact .of_setCounter rfl rfl (by rw [counterOrNew_of_counter? hc])

theorem calm_ensure (m : Monitor) (r : Resource) (p : SubPool) :
    Calm m (m.modifyRecord r (·.ensure p)) := by
  obtain ⟨-, hsame⟩ | hset := records_ensure_cases m r p
  · exact .of_modify hsame rfl rfl fun _ => rfl
  · exact .of_setCounter hset rfl rfl

/-! ## Polling -/

theorem calm_setAvailable (m : Monitor) (r : Resource) (p : SubPool) (available : Nat) :
    Calm m (m.setAvailable r p available) :=
  .of_setCounter (c := { (m.record r).counterOrNew p with
    available := UInt32.ofNat (min available 0xffffffff) }) rfl rfl rfl

theorem calm_giveUp (m : Monitor) (r : Resource) : Calm m (m.giveUp r) :=
  .of_modify (f := fun x => { x with supported := false }) rfl rfl rfl fun _ => rfl

theorem PollStep.calm (h : PollStep m m') : Calm m m' := by
  cases h with
  | learn available => exact calm_setAvailable ..
  | giveUp r => exact calm_giveUp m r

theorem calm_of_polling (h : Polling m m') : Calm m m' := by
  induction h with
  | refl => exact .refl m
  | tail _ step ih => exact ih.trans step.calm

theorem calm_publish (m : Monitor) : Calm m m.publish := by
  unfold publish
  generalize Resource.all.foldl _ _ = t
  exact .of_records rfl rfl

theorem Calm.alarm (h : Calm m m') (r : Resource) (p : SubPool) : m'.alarm r p = m.alarm r p :=
  congrArg Alarm.ofReports (h.reports r p)

theorem Calm.watched (h : Calm m m') (hm : m.Watched) : m'.Watched where
  sound r := (h.thresholds r).symm ▸ hm.sound r
  limit r p := (h.reports r p).symm ▸ hm.limit r p

end Calm

/-- Excursions end without an event, but only where the threshold type changes or the sub-pool
goes; and thresholds that can be watched are replaced by such thresholds. -/
structure Rearms (m m' : Monitor) : Prop where
  events : m'.events = m.events
  sound : ∀ r, (m.record r).thresholds.Sound → (m'.record r).thresholds.Sound
  reset : ∀ {r p}, (m'.record r).thresholds.type ≠ (m.record r).thresholds.type →
    m'.reports r p = 0
  kept : ∀ {r p}, (m'.record r).thresholds.type = (m.record r).thresholds.type →
    (m'.counter? r p).isSome → m'.reports r p = m.reports r p

section Rearms

variable {m m' m'' : Monitor}

theorem Calm.rearms (h : Calm m m') : Rearms m m' where
  events := h.events
  sound r hr := (h.thresholds r).symm ▸ hr
  reset hne := absurd (congrArg Thresholds.type (h.thresholds _)) hne
  kept _ _ := h.reports _ _

theorem Calm.rearms_trans (h : Calm m m') (h' : Rearms m' m'') : Rearms m m'' where
  events := h'.events.trans h.events
  sound r hr := h'.sound r ((h.thresholds r).symm ▸ hr)
  reset hne := h'.reset (by rwa [h.thresholds])
  kept htype hthere := (h'.kept (by rwa [h.thresholds]) hthere).trans (h.reports _ _)

/-! ## Accounting -/

/-- What goes with a removed object has no excursions any more. -/
theorem rearms_shed (m : Monitor) (along : Option Cascade) : Rearms m (m.shed along) := by
  cases along with
  | none => exact (Calm.refl m).rearms
  | some c =>
    have hleaves := c.leaves_drop m
    refine ⟨hleaves.events, fun r hr => (hleaves.thresholds r).symm ▸ hr,
      fun hne => absurd (congrArg Thresholds.type (hleaves.thresholds _)) hne,
      fun {r p} _ hthere => ?_⟩
    have hcounter := hleaves.counters r p
    split at hcounter
    · rw [shed, hcounter] at hthere
      cases hthere
    · exact congrArg (Option.elim · 0 Counter.exceededCount) hcounter

theorem Posting.rearms (posting : Posting) (m : Monitor) : Rearms m (posting.perform m).2 := by
  cases posting with
  | refused r use => exact (Calm.refl m).rearms
  | up r p seed =>
    have hcounted := calm_countUp m r p
    cases seed with
    | none => exact hcounted.rearms
    | some seeded => exact (hcounted.trans (calm_ensure ..)).rearms
  | down r p along => exact (calm_countDown m r p).rearms_trans (rearms_shed _ along)

/-! ## Replaced thresholds -/

/-- The thresholds of some resources are replaced, each once. -/
theorem Rearms.of_applyThresholds (hevents : m'.events = m.events)
    (hrecords : ∀ r, m'.record r = m.record r ∨
      ∃ t : Thresholds, t.Sound ∧ m'.record r = applyThresholds t (m.record r)) :
    Rearms m m' where
  events := hevents
  sound r hr := by
    obtain hsame | ⟨t, ht, hset⟩ := hrecords r
    · rwa [hsame]
    · rw [hset]
      exact ht
  reset {r p} hne := by
    obtain hsame | ⟨t, -, hset⟩ := hrecords r
    · exact absurd (by rw [hsame]) hne
    · rw [hset] at hne
      have htype : (m.record r).thresholds.type ≠ t.type := Ne.symm hne
      rw [Monitor.reports, hset, applyThresholds, ResourceRecord.reports, ResourceRecord.counter?,
        if_neg htype, Table.get?_mapValues]
      cases (m.record r).counters.get? p <;> rfl
  kept {r p} htype _ := by
    obtain hsame | ⟨t, -, hset⟩ := hrecords r
    · exact congrArg (·.reports p) hsame
    · rw [hset] at htype
      have htype : (m.record r).thresholds.type = t.type := htype.symm
      rw [Monitor.reports, hset, applyThresholds, if_pos htype]
      rfl

theorem rearms_trySetThresholds (m : Monitor) (s : Resource) (t : Thresholds) :
    Rearms m ((m.trySetThresholds s t).2) := by
  unfold trySetThresholds
  split
  · exact (Calm.refl m).rearms
  · next hvalid =>
    refine .of_applyThresholds rfl fun r => ?_
    change (m.installThresholds s t).record r = _ ∨ ∃ t', _ ∧ (m.installThresholds s t).record r = _
    rw [record_installThresholds]
    split
    · exact .inr ⟨t, Thresholds.sound_of_validate hvalid, rfl⟩
    · exact .inl rfl

theorem rearms_configure (m : Monitor) (fields : List (String × String)) :
    Rearms m (m.configure fields).2 := by
  obtain ⟨answer, m', hconfigure⟩ : ∃ answer m', m.configure fields = (answer, m') := ⟨_, _, rfl⟩
  rw [hconfigure]
  cases answer with
  | error e =>
    obtain rfl := configure_error hconfigure
    exact (Calm.refl m').rearms
  | ok _ =>
    obtain ⟨settings, -, hacceptable, rfl⟩ := configure_eq_ok_iff.1 hconfigure
    refine .of_applyThresholds rfl fun r => ?_
    change (m.configured settings).record r = _ ∨ ∃ t, _ ∧ (m.configured settings).record r = _
    rw [record_configured]
    cases hmentions : settings.any (·.mentions r) with
    | true => exact .inr ⟨_, hacceptable r hmentions, rfl⟩
    | false =>
      rw [requested_of_unmentioned hmentions, applyThresholds_self]
      exact .inl rfl

end Rearms

end DashAgent.Monitor
