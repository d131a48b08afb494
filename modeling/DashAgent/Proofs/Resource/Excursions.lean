import DashAgent.Proofs.Resource.Rearming

/-!
# Excursions

Every call to a monitor is a check, or a step that rearms. So along every sequence of calls, each
answered by any driver, the automaton of every sub-pool tells which events are published. Main
theorem: `excursions_exact`.
-/
namespace DashAgent.Monitor

/-! ## Calls -/

/-- The monitor that a call checks, if it checks one. -/
def Call.checkedAt? {δ : Type} [Driver δ] (m : Monitor) (d : δ) : Call → Option Monitor
  | checkThresholds => some m
  | onTimer => some (m.ticked.poll d).1.publish
  | _ => none

/-- A check comes after a poll at most. -/
theorem apply_of_checkedAt? {δ : Type} [Driver δ] {call : Call} {m seen : Monitor} {d : δ}
    (h : call.checkedAt? m d = some seen) :
    Calm m seen ∧ call.apply m d = seen.checkThresholds := by
  cases call with
  | checkThresholds =>
    cases h
    exact ⟨.refl m, rfl⟩
  | onTimer =>
    obtain rfl := Option.some.inj h
    have hstart : Calm m m.ticked := .of_records rfl rfl
    have hpoll : Calm m (m.ticked.poll d).1 :=
      hstart.trans (calm_of_polling (polling_pollEach ..))
    exact ⟨hpoll.trans (calm_publish _), onTimer_eq m d⟩
  | _ => cases h

/-- A call that does not check ends excursions by resets only. -/
theorem rearms_apply {δ : Type} [Driver δ] {call : Call} {m : Monitor} {d : δ}
    (h : call.checkedAt? m d = none) : Rearms m (call.apply m d) := by
  cases hposting : call.posting? with
  | some posting =>
    rw [apply_of_posting? hposting]
    exact posting.rearms m
  | none =>
    cases call with
    | setPollingMs ms =>
      have hsame : Calm m (m.setPollingMs ms) := .of_records rfl rfl
      exact hsame.rearms
    | setThresholds r low high => exact rearms_trySetThresholds m r _
    | setThresholdType r type => exact rearms_trySetThresholds m r _
    | configure fields => exact rearms_configure m fields
    | poll => exact (calm_of_polling (polling_pollEach Resource.all m d)).rearms
    | publish => exact (calm_publish m).rearms
    | checkThresholds => cases h
    | onTimer => cases h
    | _ => cases hposting

/-- A call together with the driver that answers it. -/
structure Driven where
  {δ : Type}
  [driver : Driver δ]
  call : Call
  state : δ

attribute [instance] Driven.driver

def Driven.apply (a : Driven) (m : Monitor) : Monitor := a.call.apply m a.state

/-- What a call means for a sub-pool: a check of what its resource and its counter are just then, or
else, if it changes the threshold type or drops the sub-pool, a reset. -/
def Driven.happening (a : Driven) (m : Monitor) (r : Resource) (p : SubPool) : Happening :=
  match a.call.checkedAt? m a.state with
  | some seen => seen.checked r p
  | none =>
    if ((a.apply m).record r).thresholds.type ≠ (m.record r).thresholds.type ∨
        (m.counter? r p).isSome ∧ (a.apply m).counter? r p = none then .reset
    else .pass

theorem Rearms.watched {m m' : Monitor} (h : Rearms m m') (hm : m.Watched) : m'.Watched where
  sound r := h.sound r (hm.sound r)
  limit r p := by
    by_cases htype : (m'.record r).thresholds.type = (m.record r).thresholds.type
    · cases hthere : m'.counter? r p with
      | none =>
        rw [reports_of_none hthere]
        exact Nat.zero_le _
      | some c =>
        rw [h.kept htype (by rw [hthere]; rfl)]
        exact hm.limit r p
    · rw [h.reset htype]
      exact Nat.zero_le _

/-- A call is a step of the automaton of each sub-pool. -/
theorem Driven.apply_step (a : Driven) {m : Monitor} (h : m.Watched) :
    (a.apply m).Watched ∧ ∃ new, (a.apply m).events = m.events ++ new ∧
      ∀ r p, (m.alarm r p).step r p (a.happening m r p) =
        ((a.apply m).alarm r p, eventsAt r p new) := by
  cases hseen : a.call.checkedAt? m a.state with
  | some seen =>
    obtain ⟨hcalm, hafter⟩ : Calm m seen ∧ a.apply m = seen.checkThresholds :=
      apply_of_checkedAt? hseen
    obtain ⟨hnext, new, hevents, hstep⟩ := checkThresholds_step (hcalm.watched h)
    rw [hafter]
    refine ⟨hnext, new, by rw [hevents, hcalm.events], fun r p => ?_⟩
    rw [happening, hseen, ← hcalm.alarm]
    exact hstep r p
  | none =>
    have hrearms : Rearms m (a.apply m) := rearms_apply hseen
    refine ⟨hrearms.watched h, [], by rw [hrearms.events, List.append_nil], fun r p => ?_⟩
    rw [happening, hseen]
    dsimp only
    by_cases htype : ((a.apply m).record r).thresholds.type = (m.record r).thresholds.type
    · cases hthere : (a.apply m).counter? r p with
      | some c =>
        rw [if_neg (by simp [htype]), alarm, alarm, hrearms.kept htype (by rw [hthere]; rfl)]
        rfl
      | none =>
        rw [alarm, alarm, reports_of_none hthere]
        cases hbefore : m.counter? r p with
        | some c =>
          rw [if_pos (.inr ⟨rfl, rfl⟩)]
          rfl
        | none =>
          rw [if_neg (by simp [htype]), reports_of_none hbefore]
          rfl
    · rw [if_pos (.inl htype), alarm, alarm, hrearms.reset htype]
      rfl

/-! ## Runs -/

def run (m : Monitor) (calls : List Driven) : Monitor := calls.foldl (fun m a => a.apply m) m

/-- What the calls of a run mean for a sub-pool. -/
def happenings (m : Monitor) (r : Resource) (p : SubPool) : List Driven → List Happening
  | [] => []
  | a :: rest => a.happening m r p :: happenings (a.apply m) r p rest

/-- A run walks the automaton of each sub-pool. -/
theorem run_walk (calls : List Driven) {m : Monitor} (h : m.Watched) :
    (m.run calls).Watched ∧ ∃ new, (m.run calls).events = m.events ++ new ∧
      ∀ r p, (m.alarm r p).walk r p (m.happenings r p calls) =
        ((m.run calls).alarm r p, eventsAt r p new) := by
  induction calls generalizing m with
  | nil => exact ⟨h, [], (List.append_nil _).symm, fun _ _ => rfl⟩
  | cons a rest ih =>
    obtain ⟨hnext, now, hevents, hstep⟩ := a.apply_step h
    obtain ⟨hend, later, hlater, hwalk⟩ := ih hnext
    refine ⟨hend, now ++ later, ?_, fun r p => ?_⟩
    · rw [← List.append_assoc, ← hevents]
      exact hlater
    · simp only [happenings, Alarm.walk, hstep, hwalk, eventsAt_append]
      rfl

theorem watched_new (pollingMs : Nat) (telemetry : Telemetry) :
    (Monitor.new pollingMs telemetry).Watched ∧
      ∀ r p, (Monitor.new pollingMs telemetry).alarm r p = .clear := by
  have hreports : ∀ r p, (Monitor.new pollingMs telemetry).reports r p = 0 := by
    intro r p
    have hcounter := counter?_new pollingMs telemetry r p
    split at hcounter
    · exact reports_of_some hcounter
    · exact reports_of_none hcounter
  refine ⟨⟨fun r => ?_, fun r p => ?_⟩, fun r p => ?_⟩
  · rw [record_new]
    exact Thresholds.sound_default
  · rw [hreports]
    exact Nat.zero_le _
  · rw [alarm, hreports]
    rfl

/-- Along every sequence of calls, each answered by any driver, the thresholds in force can be
watched, the reports of an excursion are limited, and the events of every sub-pool are those of its
automaton, which begins without an excursion. So are, from any point on, the events of further
calls; while there is no reset among these, they tell beginnings and ends of excursions in turn,
however often a lasting excursion is checked. -/
theorem excursions_exact (pollingMs : Nat) (telemetry : Telemetry) (calls later : List Driven) :
    let start := Monitor.new pollingMs telemetry
    let m := start.run calls
    (∀ r, (m.record r).thresholds.Sound) ∧
    (∀ r p c, m.counter? r p = some c → c.exceededCount ≤ Counter.maxReports) ∧
    (∀ r p, Alarm.clear.walk r p (start.happenings r p calls) =
      (m.alarm r p, eventsAt r p m.events)) ∧
    ∃ new, (m.run later).events = m.events ++ new ∧ ∀ r p,
      (m.alarm r p).walk r p (m.happenings r p later) =
        ((m.run later).alarm r p, eventsAt r p new) ∧
      (.reset ∉ m.happenings r p later →
        (m.alarm r p).Alternates ((eventsAt r p new).map ThresholdEvent.kind)) := by
  intro start m
  obtain ⟨hnew, hclear⟩ := watched_new pollingMs telemetry
  obtain ⟨hwatched, events, hevents, hwalk⟩ := run_walk calls hnew
  obtain ⟨-, new, hmore, hlater⟩ := run_walk later hwatched
  refine ⟨hwatched.sound, fun r p c hc => reports_of_some hc ▸ hwatched.limit r p, fun r p => ?_,
    new, hmore, fun r p => ⟨hlater r p, fun hreset => ?_⟩⟩
  · have hall : m.events = events := hevents
    rw [hall, ← hclear r p]
    exact hwalk r p
  · have halternates := Alarm.alternates_walk r p hreset (m.alarm r p)
    rwa [hlater] at halternates

/-- A switch that does not tell what is left of its virtual networks. -/
def silent : Simulator := (Simulator.new 16).setUnsupported .vnet

/-- One virtual network is all that is counted of them, and a poll gave them up. -/
def givenUp : List Driven := [⟨.incrementUsed .dashVnet, silent⟩, ⟨.poll, silent⟩]

/-- What was given up is not checked: without an excursion, at full use and above the high
threshold, a check tells nothing. -/
theorem givenUp_unchecked : ¬ ∀ (calls : List Driven) (r : Resource) (p : SubPool) (c : Counter),
    ((Monitor.new 1000 .empty).run calls).counter? r p = some c → c.exceededCount = 0 →
    (((Monitor.new 1000 .empty).run calls).record r).thresholds.high.toNat ≤
      c.utilization (((Monitor.new 1000 .empty).run calls).record r).thresholds.type →
    ∃ e ∈ ((Monitor.new 1000 .empty).run calls).checkThresholds.events,
      e.resource = r ∧ e.subPool = p ∧ e.kind = .exceeded := by
  intro hall
  obtain ⟨e, he, -⟩ := hall givenUp .dashVnet .global ⟨0, 0, 1, 0⟩ (by decide +kernel) rfl
    (by decide +kernel)
  have hnone : ((Monitor.new 1000 .empty).run givenUp).checkThresholds.events = [] := by
    decide +kernel
  rw [hnone] at he
  cases he

/-- Virtual networks in use up to a threshold of two, checked twice, and once more after a
remove. -/
def crossing : List Driven :=
  [⟨.setThresholdType .dashVnet .used, silent⟩, ⟨.setThresholds .dashVnet 1 2, silent⟩,
    ⟨.incrementUsed .dashVnet, silent⟩, ⟨.incrementUsed .dashVnet, silent⟩,
    ⟨.checkThresholds, silent⟩, ⟨.checkThresholds, silent⟩,
    ⟨.decrementUsed .dashVnet, silent⟩, ⟨.checkThresholds, silent⟩]

theorem crossing_told :
    (((Monitor.new 1000 .empty).run crossing).record .dashVnet).thresholds = ⟨.used, 1, 2⟩ ∧
    (eventsAt .dashVnet .global ((Monitor.new 1000 .empty).run crossing).events).map
      ThresholdEvent.kind = [.exceeded, .clear] ∧
    Alarm.clear.walk .dashVnet .global
        ((Monitor.new 1000 .empty).happenings .dashVnet .global crossing) =
      (((Monitor.new 1000 .empty).run crossing).alarm .dashVnet .global,
        eventsAt .dashVnet .global ((Monitor.new 1000 .empty).run crossing).events) := by
  refine ⟨by decide +kernel, by decide +kernel, ?_⟩
  exact (excursions_exact 1000 .empty crossing []).2.2.1 .dashVnet .global

end DashAgent.Monitor
