import DashAgent.Resource.Monitor.Polling
import DashAgent.Switch.FaultGate
import DashAgent.Switch.Simulator

/-!
# Queries

The queries of a switch leave it as it is, so what a tick of the timer makes of the monitor depends
on the answers alone. Two simulated switches of the same settings that hold the same number of
objects of every type answer alike. Main theorem: `Monitor.onTimer_of_sameAnswers`.
-/
namespace DashAgent

namespace Monitor

/-- The queries of a driver leave it as it is. -/
structure Quiet (δ : Type) [Driver δ] : Prop where
  readAttribute : ∀ id what (d : δ), (Driver.readAttribute id what d).2 = d
  availability : ∀ type qualifiers (d : δ), (Driver.availability type qualifiers d).2 = d

section Queries

variable {δ : Type} [Driver δ]

theorem snd_askCount (h : Quiet δ) (id : ObjectId) (what : AttributeId) (d : δ) :
    (askCount id what d).2 = d := h.readAttribute id what d

theorem snd_askObject (h : Quiet δ) (type : ObjectType) (qualifiers : List Qualifier)
    (fallback : Option CapacityAttribute) (d : δ) :
    (askObject type qualifiers fallback d).2 = d := by
  have havailability := h.availability type qualifiers d
  unfold askObject
  dsimp only
  split
  · next heq =>
    rw [heq] at havailability
    exact (snd_askCount h ..).trans havailability
  · exact havailability

theorem snd_askSubPool (h : Quiet δ) {query : CapacityQuery} {p : SubPool}
    {ask : δ → Except Status Nat × δ} (hask : askSubPool query p = some ask) (d : δ) :
    (ask d).2 = d := by
  unfold askSubPool at hask
  split at hask
  · cases hask
    exact snd_askCount h ..
  · cases hask
    exact h.availability ..
  · cases hask
    exact h.availability ..
  · cases hask

theorem snd_pollSubPools (h : Quiet δ) (r : Resource) (ps : List SubPool) (m : Monitor) (d : δ) :
    (pollSubPools r ps m d).2.2 = d := by
  induction ps generalizing m with
  | nil => rfl
  | cons p rest ih =>
    unfold pollSubPools
    split
    · exact ih m
    · next ask hask =>
      dsimp only
      rw [snd_askSubPool h hask]
      exact ih _

theorem snd_queryResource (h : Quiet δ) (r : Resource) (m : Monitor) (d : δ) :
    (queryResource r m d).2.2 = d := by
  unfold queryResource
  split
  · exact snd_askObject h ..
  · exact snd_askCount h ..
  · next what _ =>
    have hread := h.readAttribute (Driver.switchId d) what d
    split <;> next heq => rw [heq] at hread; exact hread
  all_goals exact snd_pollSubPools h ..

theorem snd_pollResource (h : Quiet δ) (r : Resource) (m : Monitor) (d : δ) :
    (pollResource r m d).2 = d := by
  have hquery := snd_queryResource h r m d
  unfold pollResource
  split
  · split <;> next heq => rw [heq] at hquery; exact hquery
  · rfl

theorem snd_pollEach (h : Quiet δ) (rs : List Resource) (m : Monitor) (d : δ) :
    (pollEach rs m d).2 = d := by
  induction rs generalizing m with
  | nil => rfl
  | cons r rest ih =>
    unfold pollEach
    dsimp only
    rw [snd_pollResource h]
    exact ih _

/-- A tick of the timer leaves a driver as it is whose queries do. -/
theorem snd_onTimer (h : Quiet δ) (m : Monitor) (d : δ) : (m.onTimer d).2 = d := by
  have hpoll := snd_pollEach h Resource.all { m with
    stats := { m.stats with timerExpirations := m.stats.timerExpirations + 1 } } d
  obtain ⟨m', d', heq⟩ : ∃ m' d', pollEach Resource.all { m with
    stats := { m.stats with timerExpirations := m.stats.timerExpirations + 1 } } d = (m', d') :=
    ⟨_, _, rfl⟩
  rw [heq] at hpoll
  simp only [onTimer, poll, heq]
  exact hpoll

/-! ## Drivers that answer alike -/

/-- Two drivers give the same answer to every query. -/
structure SameAnswers (d d' : δ) : Prop where
  switchId : Driver.switchId d = Driver.switchId d'
  readAttribute : ∀ id what,
    (Driver.readAttribute id what d).1 = (Driver.readAttribute id what d').1
  availability : ∀ type qualifiers,
    (Driver.availability type qualifiers d).1 = (Driver.availability type qualifiers d').1

variable {d d' : δ}

theorem fst_askCount (h : SameAnswers d d') (id : ObjectId) (what : AttributeId) :
    (askCount id what d).1 = (askCount id what d').1 := by
  simp only [askCount, h.readAttribute]

theorem fst_askObject (hquiet : Quiet δ) (h : SameAnswers d d') (type : ObjectType)
    (qualifiers : List Qualifier) (fallback : Option CapacityAttribute) :
    (askObject type qualifiers fallback d).1 = (askObject type qualifiers fallback d').1 := by
  obtain ⟨answer, hleft, hright⟩ : ∃ answer,
      Driver.availability type qualifiers d = (answer, d) ∧
      Driver.availability type qualifiers d' = (answer, d') :=
    ⟨_, Prod.ext (h.availability type qualifiers) (hquiet.availability ..),
      Prod.ext rfl (hquiet.availability ..)⟩
  simp only [askObject, hleft, hright, h.switchId]
  cases answer with
  | ok available => cases fallback <;> rfl
  | error status =>
    cases fallback with
    | none => rfl
    | some what => exact fst_askCount h ..

theorem fst_askSubPool (h : SameAnswers d d') {query : CapacityQuery} {p : SubPool}
    {ask : δ → Except Status Nat × δ} (hask : askSubPool query p = some ask) :
    (ask d).1 = (ask d').1 := by
  unfold askSubPool at hask
  split at hask
  · cases hask
    exact fst_askCount h ..
  · cases hask
    exact h.availability ..
  · cases hask
    exact h.availability ..
  · cases hask

theorem pollSubPools_of_sameAnswers (hquiet : Quiet δ) (h : SameAnswers d d') (r : Resource)
    (ps : List SubPool) (m : Monitor) :
    (pollSubPools r ps m d).1 = (pollSubPools r ps m d').1 ∧
      (pollSubPools r ps m d).2.1 = (pollSubPools r ps m d').2.1 := by
  induction ps generalizing m with
  | nil => exact ⟨rfl, rfl⟩
  | cons p rest ih =>
    unfold pollSubPools
    cases hask : askSubPool (δ := δ) r.query p with
    | none => exact ih m
    | some ask =>
      dsimp only
      rw [fst_askSubPool h hask, snd_askSubPool hquiet hask, snd_askSubPool hquiet hask]
      obtain ⟨hfailure, hmonitor⟩ := ih (m.storeAnswer r p (ask d').1).2
      exact ⟨congrArg _ hfailure, hmonitor⟩

theorem queryResource_of_sameAnswers (hquiet : Quiet δ) (h : SameAnswers d d') (r : Resource)
    (m : Monitor) :
    (queryResource r m d).1 = (queryResource r m d').1 ∧
      (queryResource r m d).2.1 = (queryResource r m d').2.1 := by
  unfold queryResource
  split
  · simp only [fst_askObject hquiet h, and_self]
  · simp only [h.switchId, fst_askCount h, and_self]
  · next what _ =>
    have hread := h.readAttribute (Driver.switchId d') what
    rw [h.switchId]
    rcases hleft : Driver.readAttribute (Driver.switchId d') what d with ⟨answer, d₁⟩
    rcases hright : Driver.readAttribute (Driver.switchId d') what d' with ⟨answer', d₂⟩
    rw [hleft, hright] at hread
    dsimp only at hread
    subst hread
    rcases answer with status | value
    · exact ⟨rfl, rfl⟩
    · cases value <;> exact ⟨rfl, rfl⟩
  all_goals exact pollSubPools_of_sameAnswers hquiet h ..

theorem pollEach_of_sameAnswers (hquiet : Quiet δ) (h : SameAnswers d d') (rs : List Resource)
    (m : Monitor) : (pollEach rs m d).1 = (pollEach rs m d').1 := by
  induction rs generalizing m with
  | nil => rfl
  | cons r rest ih =>
    have hpoll : (pollResource r m d).1 = (pollResource r m d').1 := by
      obtain ⟨hfailure, hmonitor⟩ := queryResource_of_sameAnswers hquiet h r m
      unfold pollResource
      split
      · rcases hleft : queryResource r m d with ⟨failure, m₁, d₁⟩
        rcases hright : queryResource r m d' with ⟨failure', m₂, d₂⟩
        rw [hleft, hright] at hfailure hmonitor
        dsimp only at hfailure hmonitor
        subst hfailure hmonitor
        cases failure <;> rfl
      · rfl
    unfold pollEach
    dsimp only
    rw [hpoll, snd_pollResource hquiet, snd_pollResource hquiet, ih]

/-- A tick of the timer does the same to a monitor before drivers that answer alike. -/
theorem onTimer_of_sameAnswers (hquiet : Quiet δ) (h : SameAnswers d d') (m : Monitor) :
    (m.onTimer d).1 = (m.onTimer d').1 := by
  have hpoll := pollEach_of_sameAnswers hquiet h Resource.all { m with
    stats := { m.stats with timerExpirations := m.stats.timerExpirations + 1 } }
  simp only [onTimer, poll]
  rw [hpoll]

end Queries

theorem quiet_simulator : Quiet Simulator := ⟨fun _ _ _ => rfl, fun _ _ _ => rfl⟩

theorem quiet_faultGate : Quiet FaultGate where
  readAttribute id what g := by
    simp only [Driver.readAttribute]
    split <;> rfl
  availability type qualifiers g := by
    simp only [Driver.availability]
    split <;> rfl

end Monitor

end DashAgent
