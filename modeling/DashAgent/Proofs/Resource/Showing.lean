import DashAgent.Proofs.Resource.Postings

/-!
# What the telemetry shows

A count stands in the telemetry only while its resource is supported and its sub-pool has a counter:
publishing sets the counts of such counters alone, a resource that is given up takes its fields
along, and sub-pools that are dropped take their row. `Follows` says what one call does to the
supported resources, to the sub-pools and to the rows; main theorem: `telemetry_live`.
-/
namespace DashAgent.Monitor

/-- Every count that is shown belongs to a supported resource and to the row of a counter. -/
def Live (m : Monitor) : Prop :=
  ∀ row r, m.telemetry.Shows row r →
    (m.record r).supported = true ∧ ∃ p, (m.counter? r p).isSome ∧ p.row = row

/-- What a step does that may make counters for some sub-pools: nothing is supported again, counters
and rows appear for these sub-pools only, and what is shown stays live. -/
structure Follows (made : Resource → SubPool → Prop) (m m' : Monitor) : Prop where
  supported : ∀ r, (m'.record r).supported = true → (m.record r).supported = true
  counters : ∀ r p, (m'.counter? r p).isSome → (m.counter? r p).isSome ∨ made r p
  rows : ∀ row, m'.telemetry.contains row = true → m.telemetry.contains row = true ∨
    ∃ r p, ((m.counter? r p).isSome ∨ made r p) ∧ p.row = row
  live : m.Live → m'.Live

section Follows

variable {made made' : Resource → SubPool → Prop} {m m' m'' : Monitor}

theorem Follows.refl (m : Monitor) : Follows made m m :=
  ⟨fun _ => id, fun _ _ => .inl, fun _ => .inl, id⟩

theorem Follows.trans (h : Follows made m m') (h' : Follows made m' m'') : Follows made m m'' where
  supported r hr := h.supported r (h'.supported r hr)
  counters r p hc := (h'.counters r p hc).elim (h.counters r p) .inr
  rows row hrow := by
    obtain hold | ⟨r, p, hc, hp⟩ := h'.rows row hrow
    · exact h.rows row hold
    · exact .inr ⟨r, p, hc.elim (h.counters r p) .inr, hp⟩
  live hm := h'.live (h.live hm)

theorem Follows.mono (hle : ∀ r p, made r p → made' r p) (h : Follows made m m') :
    Follows made' m m' :=
  { h with
    counters := fun r p hc => (h.counters r p hc).imp_right (hle r p)
    rows := fun row hrow => (h.rows row hrow).imp_right fun ⟨r, p, hc, hp⟩ =>
      ⟨r, p, hc.imp_right (hle r p), hp⟩ }

theorem Grows.follows (h : Grows made m m') : Follows made m m' where
  supported r hr := (h.supported r).symm.trans hr
  counters _ _ := h.fresh
  rows row hrow := .inl (h.telemetry ▸ hrow)
  live hlive := by
    intro row r hshows
    rw [h.telemetry] at hshows
    obtain ⟨hsupported, p, hc, hp⟩ := hlive row r hshows
    exact ⟨(h.supported r).trans hsupported, p, h.kept hc, hp⟩

/-! ## Publishing -/

theorem contains_publishAll {row : String} (r : Resource) (l : List (SubPool × Counter))
    {t : Telemetry} (h : (l.foldl (fun t e => t.publish e.1 r e.2) t).contains row = true) :
    t.contains row = true ∨ ∃ e ∈ l, e.1.row = row := by
  induction l generalizing t with
  | nil => exact .inl h
  | cons e rest ih =>
    obtain hnext | ⟨e', he', hrow⟩ := ih h
    · refine (t.contains_of_contains_publish hnext).imp_right fun hrow => ?_
      exact ⟨e, List.mem_cons_self .., hrow⟩
    · exact .inr ⟨e', List.mem_cons_of_mem _ he', hrow⟩

/-- A field changes only in the rows of the counters, and only if it is one of the resource. -/
theorem field?_publishAll {row field : String} (r : Resource) (l : List (SubPool × Counter))
    (h : (∀ e ∈ l, e.1.row ≠ row) ∨ r.usedField ≠ field ∧ r.availableField ≠ field)
    (t : Telemetry) :
    (l.foldl (fun t e => t.publish e.1 r e.2) t).field? row field = t.field? row field := by
  induction l generalizing t with
  | nil => rfl
  | cons e rest ih =>
    rw [List.foldl_cons, ih (h.imp_left fun hrow e' he' => hrow e' (List.mem_cons_of_mem _ he'))]
    obtain hrow | ⟨hused, havailable⟩ := h
    · exact t.field?_publish_of_row_ne r e.2 (hrow e (List.mem_cons_self ..)) field
    · exact t.field?_publish_of_field_ne e.1 e.2 hused havailable row

/-- Every counter is shown as it is: later ones have other rows. -/
theorem showsCounts_publishAll {p : SubPool} {c : Counter} (r : Resource)
    {l : List (SubPool × Counter)} (hnodup : (l.map Prod.fst).Nodup) (h : (p, c) ∈ l)
    (t : Telemetry) :
    (l.foldl (fun t e => t.publish e.1 r e.2) t).ShowsCounts p.row r c := by
  induction l generalizing t with
  | nil => cases h
  | cons e rest ih =>
    rw [List.map_cons, List.nodup_cons] at hnodup
    rw [List.foldl_cons]
    rcases List.mem_cons.1 h with heq | hrest
    · subst heq
      have hlater : ∀ e ∈ rest, e.1.row ≠ p.row := fun e he hrow =>
        hnodup.1 (List.mem_map.2 ⟨e, he, SubPool.row_inj hrow⟩)
      have hset := t.showsCounts_publish p r c
      constructor
      · rw [field?_publishAll r rest (.inl hlater)]
        exact hset.used
      · rw [field?_publishAll r rest (.inl hlater)]
        exact hset.available
    · exact ih hnodup.2 hrest _

theorem publishRecord_eq (r : Resource) (record : ResourceRecord) (t : Telemetry) :
    publishRecord r record t =
      if record.supported then
        record.counters.entries.foldl (fun t e => t.publish e.1 r e.2) t
      else t := rfl

/-- The fields of other resources are left alone. -/
theorem field?_publishRecord_of_ne {r s : Resource} (h : s ≠ r) (record : ResourceRecord)
    (t : Telemetry) (row : String) :
    (publishRecord s record t).field? row r.usedField = t.field? row r.usedField ∧
      (publishRecord s record t).field? row r.availableField = t.field? row r.availableField := by
  rw [publishRecord_eq]
  split
  · constructor <;> apply field?_publishAll <;> right
    · exact ⟨mt Resource.usedField_inj.1 h, Resource.usedField_ne_availableField.symm⟩
    · exact ⟨Resource.usedField_ne_availableField, mt Resource.availableField_inj.1 h⟩
  · exact ⟨rfl, rfl⟩

theorem shows_publishRecord {r s : Resource} {row : String} (record : ResourceRecord)
    {t : Telemetry} (h : (publishRecord s record t).Shows row r) :
    t.Shows row r ∨
      s = r ∧ record.supported = true ∧ ∃ p, (record.counter? p).isSome ∧ p.row = row := by
  by_cases hs : s = r
  · subst hs
    rw [publishRecord_eq] at h
    split at h
    · next hsupported =>
      by_cases hrow : ∃ e ∈ record.counters.entries, e.1.row = row
      · obtain ⟨⟨p, c⟩, he, hrow⟩ := hrow
        have hc : record.counter? p = some c := Table.get?_eq_some_iff.2 he
        exact .inr ⟨rfl, hsupported, p, by rw [hc]; rfl, hrow⟩
      · left
        have hother : ∀ e ∈ record.counters.entries, e.1.row ≠ row :=
          fun e he heq => hrow ⟨e, he, heq⟩
        simpa only [Telemetry.Shows, field?_publishAll s _ (.inl hother)] using h
    · exact .inl h
  · left
    have hsame := field?_publishRecord_of_ne hs record t row
    simpa only [Telemetry.Shows, hsame] using h

theorem contains_publishRecord {row : String} (r : Resource) (record : ResourceRecord)
    {t : Telemetry} (h : (publishRecord r record t).contains row = true) :
    t.contains row = true ∨ ∃ p, (record.counter? p).isSome ∧ p.row = row := by
  rw [publishRecord_eq] at h
  split at h
  · refine (contains_publishAll r _ h).imp_right ?_
    rintro ⟨⟨p, c⟩, he, hrow⟩
    have hc : record.counter? p = some c := Table.get?_eq_some_iff.2 he
    exact ⟨p, by rw [hc]; rfl, hrow⟩
  · exact .inl h

theorem follows_publish (m : Monitor) : Follows made m m.publish := by
  have hshown : ∀ (rs : List Resource) (t : Telemetry) row r,
      (rs.foldl (fun t r => publishRecord r (m.record r) t) t).Shows row r →
      t.Shows row r ∨
        (m.record r).supported = true ∧ ∃ p, (m.counter? r p).isSome ∧ p.row = row := by
    intro rs
    induction rs with
    | nil => exact fun t row r h => .inl h
    | cons s rest ih =>
      intro t row r h
      obtain hnext | hnow := ih _ row r h
      · refine (shows_publishRecord _ hnext).imp_right ?_
        rintro ⟨rfl, hnow⟩
        exact hnow
      · exact .inr hnow
  have hrows : ∀ (rs : List Resource) (t : Telemetry) row,
      (rs.foldl (fun t r => publishRecord r (m.record r) t) t).contains row = true →
      t.contains row = true ∨ ∃ r p, (m.counter? r p).isSome ∧ p.row = row := by
    intro rs
    induction rs with
    | nil => exact fun t row h => .inl h
    | cons s rest ih =>
      intro t row h
      obtain hnext | hnow := ih _ row h
      · refine (contains_publishRecord s _ hnext).imp_right ?_
        rintro ⟨p, hp⟩
        exact ⟨s, p, hp⟩
      · exact .inr hnow
  refine ⟨fun _ => id, fun _ _ => .inl, fun row hrow => ?_, fun hlive row r h => ?_⟩
  · refine (hrows _ _ row hrow).imp_right ?_
    rintro ⟨r, p, hc, hp⟩
    exact ⟨r, p, .inl hc, hp⟩
  · exact (hshown _ _ row r h).elim (hlive row r) id

/-- Publishing shows every counter of a supported resource exactly. -/
theorem showsCounts_publish {m : Monitor} {r : Resource} {p : SubPool} {c : Counter}
    (hsupported : (m.record r).supported = true) (hc : m.counter? r p = some c) :
    m.publish.telemetry.ShowsCounts p.row r c := by
  have hown : ∀ t, (publishRecord r (m.record r) t).ShowsCounts p.row r c := by
    intro t
    rw [publishRecord_eq, if_pos hsupported]
    exact showsCounts_publishAll r (m.record r).counters.nodup (Table.get?_eq_some_iff.1 hc) t
  have hkept : ∀ s t, t.ShowsCounts p.row r c →
      (publishRecord s (m.record s) t).ShowsCounts p.row r c := by
    intro s t h
    by_cases hs : s = r
    · exact hs ▸ hown t
    · obtain ⟨hused, havailable⟩ := field?_publishRecord_of_ne hs (m.record s) t p.row
      exact ⟨hused.trans h.used, havailable.trans h.available⟩
  have hall : ∀ (rs : List Resource) t, r ∈ rs ∨ t.ShowsCounts p.row r c →
      (rs.foldl (fun t r => publishRecord r (m.record r) t) t).ShowsCounts p.row r c := by
    intro rs
    induction rs with
    | nil => exact fun t h => h.elim (fun h => nomatch h) id
    | cons s rest ih =>
      rintro t (hmem | hset)
      · rcases List.mem_cons.1 hmem with rfl | hrest
        · exact ih _ (.inr (hown t))
        · exact ih _ (.inl hrest)
      · exact ih _ (.inr (hkept s t hset))
  exact hall Resource.all m.telemetry (.inl r.mem_all)

/-! ## Giving up and dropping -/

/-- Fields that were withdrawn from the rows of sub-pools are gone there, and no field appears. -/
theorem field?_withdraw (fields : List String) (ps : List SubPool) (t : Telemetry)
    (row field : String) :
    (ps.foldl (fun t p => t.deleteFields p.row fields) t).field? row field =
      if (∃ p ∈ ps, p.row = row) ∧ field ∈ fields then none else t.field? row field := by
  induction ps generalizing t with
  | nil => simp
  | cons p rest ih =>
    rw [List.foldl_cons, ih, Telemetry.field?_deleteFields]
    by_cases hfield : field ∈ fields
    · by_cases hrest : ∃ p ∈ rest, p.row = row
      · simp [hfield, hrest]
      · by_cases hp : p.row = row <;> simp [hfield, hrest, hp]
    · simp [hfield]

theorem contains_withdraw {fields : List String} {row : String} (ps : List SubPool) {t : Telemetry}
    (h : (ps.foldl (fun t p => t.deleteFields p.row fields) t).contains row = true) :
    t.contains row = true := by
  induction ps generalizing t with
  | nil => exact h
  | cons p rest ih => exact t.contains_of_contains_deleteFields (ih h)

/-- A resource that is given up takes its fields along: they stood in the rows of its counters. -/
theorem follows_giveUp (m : Monitor) (r : Resource) : Follows made m (m.giveUp r) := by
  have hcounter : ∀ s p, (m.giveUp r).counter? s p = m.counter? s p := by
    intro s p
    by_cases hs : r = s
    · subst hs
      rw [counter?, record_giveUp_self]
      rfl
    · rw [counter?, record_giveUp_of_ne m hs]
      rfl
  refine ⟨?_, fun s p hc => .inl (hcounter s p ▸ hc), fun row hrow => ?_, fun hlive row s h => ?_⟩
  · intro s hs
    by_cases heq : r = s
    · subst heq
      rw [record_giveUp_self] at hs
      cases hs
    · rwa [record_giveUp_of_ne m heq] at hs
  · exact .inl (contains_withdraw _ hrow)
  · have hfield := field?_withdraw [r.usedField, r.availableField] (m.record r).counters.keys
      m.telemetry row
    have hshows : m.telemetry.Shows row s := by
      simp only [Telemetry.Shows, giveUp, hfield] at h
      exact h.imp (fun hu => by split at hu <;> [cases hu; exact hu])
        fun ha => by split at ha <;> [cases ha; exact ha]
    obtain ⟨hsupported, p, hc, hp⟩ := hlive row s hshows
    have hne : r ≠ s := by
      rintro rfl
      have hkey : p ∈ (m.record r).counters.keys := by
        by_contra hnot
        rw [counter?, ResourceRecord.counter?, Table.get?_eq_none_iff.2 hnot] at hc
        cases hc
      have hin : ∃ q ∈ (m.record r).counters.keys, q.row = row := ⟨p, hkey, hp⟩
      simp [Telemetry.Shows, giveUp, hfield, hin] at h
    rw [record_giveUp_of_ne m hne]
    exact ⟨hsupported, p, (hcounter s p).symm ▸ hc, hp⟩

/-- What goes with a removed object goes together with the row that it had. -/
theorem follows_shed (m : Monitor) (along : Option Cascade) : Follows made m (m.shed along) := by
  cases along with
  | none => exact .refl m
  | some c =>
    have hleaves := c.leaves_drop m
    have htelemetry : (c.drop m).telemetry = m.telemetry.delete c.subPool.row := by
      rw [Cascade.drop, dropRow, telemetry_foldl_dropSubPool]
    refine ⟨fun r hr => (hleaves.supported r).symm.trans hr, fun r q hc => .inl ?_,
      fun row hrow => .inl (m.telemetry.contains_of_contains_delete (htelemetry ▸ hrow)),
      fun hlive row r hshows => ?_⟩
    · rw [shed, hleaves.counters] at hc
      split at hc
      · cases hc
      · exact hc
    · have hrow : c.subPool.row ≠ row := by
        rintro rfl
        simp [Telemetry.Shows, shed, htelemetry, Telemetry.field?_delete] at hshows
      have hbefore : m.telemetry.Shows row r := by
        simpa [Telemetry.Shows, shed, htelemetry, Telemetry.field?_delete, hrow] using hshows
      obtain ⟨hr, q, hq, rfl⟩ := hlive row r hbefore
      refine ⟨(hleaves.supported r).trans hr, q, ?_, rfl⟩
      rw [shed, hleaves.counters, if_neg fun hgone => hrow (congrArg SubPool.row hgone.2).symm]
      exact hq

/-- A posting makes the sub-pools of its increment only. -/
theorem Posting.follows {posting : Posting} (hmade : ∀ r p seed, posting = .up r p seed →
    made r p ∧ ∀ s q, seed = some (s, q) → made s q) (m : Monitor) :
    Follows made m (posting.perform m).2 := by
  cases posting with
  | refused r use => exact .refl m
  | up r p seed =>
    obtain ⟨hup, hseed⟩ := hmade r p seed rfl
    have hcounted : Grows made m (m.countUp r p).2 := grows_countUp m hup
    cases seed with
    | none => exact hcounted.follows
    | some seeded => exact (hcounted.trans (grows_ensure _ (hseed _ _ rfl))).follows
  | down r p along => exact (grows_countDown m r p).follows.trans (follows_shed _ along)

/-! ## Calls -/

theorem Routine.follows (h : Routine m m') : Follows made m m' := by
  cases h with
  | install r t => exact (grows_installThresholds m r t).follows
  | setPollingMs ms => exact Grows.follows ⟨rfl, fun _ => rfl, id, .inl⟩
  | publish => exact follows_publish m
  | check r => exact (grows_checkResource m r).follows
  | tick => exact Grows.follows ⟨rfl, fun _ => rfl, id, .inl⟩

theorem follows_of_routines (h : Routines m m') : Follows made m m' := by
  induction h with
  | refl => exact .refl m
  | tail _ step ih => exact ih.trans step.follows

theorem PollStep.follows (h : PollStep m m') : Follows (fun _ => Call.Polled) m m' := by
  cases h with
  | learn available _ hthere => exact (grows_setAvailable m available hthere).follows
  | giveUp r => exact follows_giveUp m r

theorem follows_of_polling (h : Polling m m') : Follows (fun _ => Call.Polled) m m' := by
  induction h with
  | refl => exact .refl m
  | tail _ step ih => exact ih.trans step.follows

theorem follows_onTimer {δ : Type} [Driver δ] (m : Monitor) (d : δ) :
    Follows (fun _ => Call.Polled) m (m.onTimer d).1 := by
  rw [onTimer_eq]
  have hpoll : Follows (fun _ => Call.Polled) m (pollEach Resource.all m.ticked d).1 :=
    (Routine.follows .tick).trans (follows_of_polling (polling_pollEach ..))
  exact hpoll.trans (follows_of_routines (.head .publish (routines_checkThresholds _)))

theorem follows_decrementAcl (m : Monitor) (r : Resource) (stage : AclStage)
    (bindPoint : AclBindPoint) (table : ObjectId) :
    Follows made m (m.decrementAcl r stage bindPoint table).2 := by
  have hperform := Option.some.inj (accounted?_eq m (.decrementAcl r stage bindPoint table))
  rw [hperform]
  refine Posting.follows (fun s p seed hup => ?_) m
  obtain ⟨-, heq⟩ | ⟨-, heq⟩ := Posting.of_checked hup <;> cases heq

theorem follows_decrementDashAcl (m : Monitor) (r : Resource) (group : ObjectId) :
    Follows made m (m.decrementDashAcl r group).2 := by
  have hperform := Option.some.inj (accounted?_eq m (.decrementDashAcl r group))
  rw [hperform]
  refine Posting.follows (fun s p seed hup => ?_) m
  obtain ⟨-, heq⟩ | ⟨-, heq⟩ := Posting.of_checked hup <;> cases heq

/-- What a call does to the monitor. -/
theorem follows_apply {δ : Type} [Driver δ] (call : Call) (m : Monitor) (d : δ) :
    Follows call.Makes m (call.apply m d) := by
  cases hposting : call.posting? with
  | some posting =>
    rw [apply_of_posting? hposting]
    exact Posting.follows (fun r p seed hup => makes_of_posting? (hup ▸ hposting)) m
  | none =>
    cases call with
    | poll => exact follows_of_polling (polling_pollEach Resource.all m d)
    | onTimer => exact follows_onTimer m d
    | setPollingMs _ | setThresholds _ _ _ | setThresholdType _ _ | configure _ | publish
    | checkThresholds => exact follows_of_routines (routines_apply rfl m d)
    | _ => cases hposting

/-! ## Runs -/

/-- What calls of some kind do to the monitor. -/
theorem Leads.follows {allowed : Call → Prop} (h : Leads allowed m m') :
    Follows (fun r p => ∃ call, allowed call ∧ call.Makes r p) m m' := by
  induction h with
  | refl => exact .refl m
  | call call d hallowed _ ih =>
    exact ih.trans ((follows_apply call _ d).mono fun _ _ hmakes => ⟨call, hallowed, hmakes⟩)

/-- A sub-pool that no call makes has no counter and no fields. -/
theorem Leads.absent {allowed : Call → Prop} (h : Leads allowed m m') {r : Resource} {p : SubPool}
    (hnone : m.counter? r p = none) (hnever : ∀ call, allowed call → ¬ call.Makes r p) :
    m'.counter? r p = none := by
  cases hc : m'.counter? r p with
  | none => rfl
  | some c =>
    obtain hbefore | ⟨call, hallowed, hmakes⟩ := h.follows.counters r p (by rw [hc]; rfl)
    · rw [hnone] at hbefore
      cases hbefore
    · exact absurd hmakes (hnever call hallowed)

theorem Live.not_shows (hlive : m.Live) {r : Resource} {p : SubPool}
    (hnone : m.counter? r p = none) : ¬ m.telemetry.Shows p.row r := by
  intro hshows
  obtain ⟨-, q, hc, hq⟩ := hlive _ r hshows
  rw [SubPool.row_inj hq, hnone] at hc
  cases hc

/-! ## The first state -/

theorem eq_global_of_new {pollingMs : Nat} {telemetry : Telemetry} {r : Resource} {p : SubPool}
    (h : ((Monitor.new pollingMs telemetry).counter? r p).isSome) : p = .global := by
  rw [counter?_new] at h
  split at h
  · next hglobal => exact hglobal.2
  · cases h

/-- At start-up the telemetry is live if only the row of the whole switch had fields. -/
theorem live_new (pollingMs : Nat) {telemetry : Telemetry}
    (hold : ∀ row r, telemetry.Shows row r → row = SubPool.global.row) :
    (Monitor.new pollingMs telemetry).Live := by
  intro row r hshows
  have hrow : SubPool.global.row ≠ row := by
    rintro rfl
    simp [Telemetry.Shows, Monitor.new, Telemetry.field?_delete] at hshows
  have hbefore : telemetry.Shows row r := by
    simpa [Telemetry.Shows, Monitor.new, Telemetry.field?_delete, hrow] using hshows
  exact absurd (hold row r hbefore).symm hrow

/-! ## Dropped sub-pools -/

/-- Only resources that are counted by ACL table have a counter for one. -/
theorem Leads.perAclTable {pollingMs : Nat} {telemetry : Telemetry} {allowed : Call → Prop}
    (h : Leads allowed (.new pollingMs telemetry) m) {r : Resource} {table : ObjectId}
    (hc : (m.counter? r (.aclTable table)).isSome) : r.isPerAclTable = true := by
  obtain hbefore | ⟨call, -, hmakes⟩ := h.follows.counters r _ hc
  · cases eq_global_of_new hbefore
  · cases call <;> simp [Call.Makes, Call.Polled] at hmakes
    next => exact hmakes.2.1 ▸ hmakes.1

/-- What goes with a removed object leaves no sub-pool and no row. -/
theorem drops_of_removes? {call : Call} {c : Cascade} {answer : Except MonitorError UInt32}
    (h : call.removes? = some c) (hcall : call.accounted? m = some (answer, m')) :
    (∀ r ∈ c.resources, m'.counter? r c.subPool = none) ∧
      m'.telemetry.contains c.subPool.row = false := by
  rw [accounted?_eq] at hcall
  obtain ⟨posting, hposting, hperform⟩ := Option.map_eq_some_iff.1 hcall
  rw [removes?_of_posting? hposting] at h
  cases posting with
  | refused r use => cases h
  | up r p seed => cases h
  | down r p along =>
    cases h
    have hafter : m' = c.drop (m.countDown r p).2 := (congrArg Prod.snd hperform).symm
    rw [hafter]
    refine ⟨fun s hs => ?_, Telemetry.contains_delete ..⟩
    rw [(c.leaves_drop _).counters, if_pos ⟨hs, rfl⟩]

/-- A removed ACL table leaves no sub-pool and no row. -/
theorem decrementAcl_drops (m : Monitor) (stage : AclStage) (bindPoint : AclBindPoint)
    {table : ObjectId} (htable : table ≠ 0) :
    (∀ r, r.isPerAclTable = true →
      (m.decrementAcl .aclTable stage bindPoint table).2.counter? r (.aclTable table) = none) ∧
      (m.decrementAcl .aclTable stage bindPoint table).2.telemetry.contains
        (SubPool.aclTable table).row = false := by
  have hremoves : (Call.decrementAcl .aclTable stage bindPoint table).removes? =
      some ⟨[.aclEntry, .aclCounter], .aclTable table⟩ := if_pos ⟨rfl, htable⟩
  obtain ⟨hcounters, hrow⟩ := drops_of_removes? (m := m) hremoves rfl
  refine ⟨fun r hr => hcounters r ?_, hrow⟩
  cases r <;> first | (cases hr; done) | simp

/-- A removed DASH ACL group leaves no sub-pool of its rules. -/
theorem decrementDashAcl_drops (m : Monitor) {r rule : Resource} (hrule : r.ruleOf? = some rule)
    (group : ObjectId) :
    (m.decrementDashAcl r group).2.counter? rule (.dashAclGroup group) = none := by
  have hremoves : (Call.decrementDashAcl r group).removes? =
      some ⟨[rule], .dashAclGroup group⟩ := by
    rw [Call.removes?, hrule]
    rfl
  exact (drops_of_removes? (m := m) hremoves rfl).1 rule (List.mem_singleton_self _)

/-! ## After a tick -/

/-- A check moves neither count of a counter. -/
theorem check_counts (c : Counter) (t : Thresholds) :
    (c.check t).2.used = c.used ∧ (c.check t).2.available = c.available := by
  unfold Counter.check
  dsimp only
  split
  · exact ⟨rfl, rfl⟩
  · split <;> exact ⟨rfl, rfl⟩

/-- Checks keep the counts of every counter. -/
theorem counter?_checkThresholds {r : Resource} {p : SubPool} {c : Counter}
    (h : m.checkThresholds.counter? r p = some c) :
    ∃ c', m.counter? r p = some c' ∧ c'.used = c.used ∧ c'.available = c.available := by
  have hone : ∀ (m : Monitor) s c, (m.checkResource s).counter? r p = some c →
      ∃ c', m.counter? r p = some c' ∧ c'.used = c.used ∧ c'.available = c.available := by
    intro m s c hc
    unfold checkResource at hc
    dsimp only at hc
    split at hc
    · change ((m.modifyRecord s _).record r).counter? p = some c at hc
      by_cases hs : s = r
      · subst hs
        rw [record_modifyRecord_self, ResourceRecord.counter?, Table.get?_mapValues] at hc
        obtain ⟨c', hc', rfl⟩ := Option.map_eq_some_iff.1 hc
        obtain ⟨hused, havailable⟩ := check_counts c' (m.record s).thresholds
        exact ⟨c', hc', hused.symm, havailable.symm⟩
      · rw [record_modifyRecord_of_ne m _ hs] at hc
        exact ⟨c, hc, rfl, rfl⟩
    · exact ⟨c, hc, rfl, rfl⟩
  have hall : ∀ (rs : List Resource) (m : Monitor) c,
      (rs.foldl checkResource m).counter? r p = some c →
      ∃ c', m.counter? r p = some c' ∧ c'.used = c.used ∧ c'.available = c.available := by
    intro rs
    induction rs with
    | nil => exact fun m c hc => ⟨c, hc, rfl, rfl⟩
    | cons s rest ih =>
      intro m c hc
      obtain ⟨c', hc', hused', havailable'⟩ := ih _ c hc
      obtain ⟨c'', hc'', hused'', havailable''⟩ := hone m s c' hc'
      exact ⟨c'', hc'', hused''.trans hused', havailable''.trans havailable'⟩
  exact hall Resource.all m c h

/-- After a tick every counter of a supported resource is shown as it is. -/
theorem showsCounts_onTimer {δ : Type} [Driver δ] (m : Monitor) (d : δ) {r : Resource}
    {p : SubPool} {c : Counter} (hsupported : ((m.onTimer d).1.record r).supported = true)
    (hc : (m.onTimer d).1.counter? r p = some c) :
    (m.onTimer d).1.telemetry.ShowsCounts p.row r c := by
  rw [onTimer_eq] at hsupported hc ⊢
  generalize (pollEach Resource.all m.ticked d).1 = polled at hsupported hc ⊢
  have hgrows : Grows (fun _ _ => False) polled.publish polled.publish.checkThresholds :=
    grows_checkThresholds _
  obtain ⟨c', hc', hused, havailable⟩ := counter?_checkThresholds hc
  have hbefore : (polled.record r).supported = true := (hgrows.supported r).symm.trans hsupported
  have hshown := showsCounts_publish hbefore hc'
  rw [hgrows.telemetry]
  exact ⟨hused ▸ hshown.used, havailable ▸ hshown.available⟩

end Follows

/-- Along every sequence of calls, each answered by any driver, the telemetry shows only counts of
supported resources in the rows of their counters. What a resource showed is gone for good when the
driver stops answering for it; what a removed ACL table or DASH ACL group showed is gone until a
call makes its sub-pool again; and a tick leaves every counter of a supported resource shown as it
is. -/
theorem telemetry_live {pollingMs : Nat} {telemetry : Telemetry}
    (hold : ∀ row r, telemetry.Shows row r → row = SubPool.global.row) {m : Monitor}
    (hrun : Leads (fun _ => True) (.new pollingMs telemetry) m) :
    (∀ row r, m.telemetry.Shows row r →
      (m.record r).supported = true ∧ ∃ p, (m.counter? r p).isSome ∧ p.row = row) ∧
    (∀ r, (m.record r).supported = false → ∀ m', Leads (fun _ => True) m m' →
      (m'.record r).supported = false ∧ ∀ row, ¬ m'.telemetry.Shows row r) ∧
    (∀ stage bindPoint table, table ≠ 0 → ∀ m',
      Leads (fun call => ∀ r, r.isPerAclTable = true → call ≠ .incrementAclTable r table)
        (m.decrementAcl .aclTable stage bindPoint table).2 m' →
      m'.telemetry.contains (SubPool.aclTable table).row = false) ∧
    (∀ r rule group, r.ruleOf? = some rule → ∀ m',
      Leads (fun call => call ≠ .incrementDashAcl r group ∧ call ≠ .incrementDashAcl rule group)
        (m.decrementDashAcl r group).2 m' →
      ¬ m'.telemetry.Shows (SubPool.dashAclGroup group).row rule) ∧
    (∀ {δ : Type} [Driver δ] (d : δ) r p c, ((m.onTimer d).1.record r).supported = true →
      (m.onTimer d).1.counter? r p = some c →
      (m.onTimer d).1.telemetry.ShowsCounts p.row r c) := by
  have hlive : m.Live := hrun.follows.live (live_new pollingMs hold)
  refine ⟨hlive, ?_, ?_, ?_, fun d _ _ _ => showsCounts_onTimer m d⟩
  · intro r hunsupported m' hlater
    have hstill : (m'.record r).supported = false := by
      by_contra hsupported
      rw [hlater.follows.supported r (by simpa using hsupported)] at hunsupported
      cases hunsupported
    refine ⟨hstill, fun row hshows => ?_⟩
    rw [(hlater.follows.live hlive row r hshows).1] at hstill
    cases hstill
  · intro stage bindPoint table htable m' hlater
    obtain ⟨hcounters, hrow⟩ := decrementAcl_drops m stage bindPoint htable
    have hdropped : Follows (fun _ _ => False) m
        (m.decrementAcl .aclTable stage bindPoint table).2 := follows_decrementAcl ..
    by_contra hcontains
    obtain hbefore | ⟨r, p, hmade, hp⟩ := hlater.follows.rows _ (by simpa using hcontains)
    · rw [hrow] at hbefore
      cases hbefore
    · obtain rfl := SubPool.row_inj hp
      obtain hc | ⟨call, hallowed, hmakes⟩ := hmade
      · have hthere := (hdropped.counters r _ hc).resolve_right id
        rw [hcounters r (hrun.perAclTable hthere)] at hc
        cases hc
      · cases call <;> simp [Call.Makes, Call.Polled] at hmakes
        next s t =>
          obtain ⟨hs, rfl, rfl⟩ := hmakes
          exact hallowed _ hs rfl
  · intro r rule group hrule m' hlater
    have hfollows : Follows (fun _ _ => False) m (m.decrementDashAcl r group).2 :=
      follows_decrementDashAcl m r group
    have hdropped : (m.decrementDashAcl r group).2.Live := hfollows.live hlive
    refine (hlater.follows.live hdropped).not_shows
      (hlater.absent (decrementDashAcl_drops m hrule group) ?_)
    rintro call ⟨hgroup, hrules⟩ hmakes
    cases call <;> simp [Call.Makes, Call.Polled] at hmakes
    next s g =>
      obtain ⟨hs | ⟨-, rfl⟩, rfl⟩ := hmakes
      · exact hgroup (Resource.ruleOf?_inj hs hrule ▸ rfl)
      · exact hrules rfl

/-- A monitor that began with the telemetry of an earlier run, has counted a DASH ACL group with a
rule, and ticked. -/
def ruleCounted : Monitor :=
  let old := Telemetry.empty.publish .global .dashVnet (.new 0)
  let grouped := ((Monitor.new 1000 old).incrementDashAcl .dashIpv4AclGroup 7).2
  let ruled := (grouped.incrementDashAcl .dashIpv4AclRule 7).2
  (ruled.onTimer (Simulator.new 16)).1

/-- The rule is shown until its group is removed, and ticks do not bring it back. -/
theorem ruleCounted_live :
    (∀ row r, (Telemetry.empty.publish .global .dashVnet (.new 0)).Shows row r →
      row = SubPool.global.row) ∧
    Leads (fun _ => True) (.new 1000 (Telemetry.empty.publish .global .dashVnet (.new 0)))
      ruleCounted ∧
    ruleCounted.telemetry.field? "DASH_ACL_GROUP_STATS:0x7" "crm_stats_dash_ipv4_acl_rule_used" =
      some "1" ∧
    ¬ (((ruleCounted.decrementDashAcl .dashIpv4AclGroup 7).2.onTimer
      (Simulator.new 16)).1.telemetry).Shows "DASH_ACL_GROUP_STATS:0x7" .dashIpv4AclRule := by
  have hold : ∀ row r, (Telemetry.empty.publish .global .dashVnet (.new 0)).Shows row r →
      row = SubPool.global.row := by
    intro row r hshows
    by_contra hrow
    have hother := Telemetry.empty.field?_publish_of_row_ne .dashVnet (.new 0) (Ne.symm hrow)
    simp only [Telemetry.Shows, hother] at hshows
    exact hshows.elim nofun nofun
  have hrun : Leads (fun _ => True)
      (.new 1000 (Telemetry.empty.publish .global .dashVnet (.new 0))) ruleCounted :=
    .call .onTimer (Simulator.new 16) trivial
      (.call (.incrementDashAcl .dashIpv4AclRule 7) (Simulator.new 16) trivial
        (.call (.incrementDashAcl .dashIpv4AclGroup 7) (Simulator.new 16) trivial .refl))
  refine ⟨hold, hrun, by decide +kernel, ?_⟩
  exact (telemetry_live hold hrun).2.2.2.1 .dashIpv4AclGroup .dashIpv4AclRule 7 rfl _
    (.call .onTimer (Simulator.new 16) ⟨nofun, nofun⟩ .refl)

end DashAgent.Monitor
