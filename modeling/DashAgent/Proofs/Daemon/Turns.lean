import DashAgent.Daemon

/-!
# Rounds

In a round the workers take their turns in order, and a lost driver ends the round early. What holds
of the workers that had their turn, the workers that still wait and the state they share is shown
for one turn and carried through a round. A round in which one worker alone has pending changes is
the turn of this worker.
-/
namespace DashAgent.Daemon

variable {ω δ : Type} [Worker ω] [Driver δ] {J : List ω → List ω → Context → δ → Prop}

/-- One turn and one worker passed over keep an assertion; so does a round, up to the worker with
which it ends. -/
theorem takeTurns_keeps
    (hturn : ∀ {before w after c s}, J before (w :: after) c s →
      J (before ++ [(Worker.work w c s).2.1]) after (Worker.work w c s).2.2.1
        (Worker.work w c s).2.2.2)
    (hskip : ∀ {before w after c s}, J before (w :: after) c s → J (before ++ [w]) after c s)
    {before after : List ω} {c : Context} {s : δ} (h : J before after c s) :
    ∃ had wait, before ++ (takeTurns after c s).2.1 = had ++ wait ∧
      J had wait (takeTurns after c s).2.2.1 (takeTurns after c s).2.2.2 := by
  induction after generalizing before c s with
  | nil => exact ⟨before, [], rfl, h⟩
  | cons w rest ih =>
    unfold takeTurns
    split
    · have hnext := hturn h
      split
      · next first w' c' s' heq =>
        rw [heq] at hnext
        obtain ⟨had, wait, hlist, hend⟩ := ih hnext
        exact ⟨had, wait, by simpa using hlist, hend⟩
      · next e w' c' s' heq =>
        rw [heq] at hnext
        split
        · exact ⟨before ++ [w'], rest, by simp, hnext⟩
        · obtain ⟨had, wait, hlist, hend⟩ := ih hnext
          exact ⟨had, wait, by simpa using hlist, hend⟩
    · obtain ⟨had, wait, hlist, hend⟩ := ih (hskip h)
      exact ⟨had, wait, by simpa using hlist, hend⟩

/-- Workers behind others that were served find what those left. -/
theorem takeTurns_append {before after before' : List ω} {c c' : Context} {s s' : δ}
    {first : Summary} (h : takeTurns before c s = (.ok first, before', c', s')) :
    (takeTurns (before ++ after) c s).2.2 = (takeTurns after c' s').2.2 := by
  induction before generalizing c s first before' with
  | nil =>
    cases h
    rfl
  | cons w rest ih =>
    cases hpending : Worker.hasPending w with
    | false =>
      rcases hrest : takeTurns rest c s with ⟨answer, rest', c₂, s₂⟩
      simp only [takeTurns, hpending, Bool.false_eq_true, if_false, hrest] at h
      cases h
      simp only [List.cons_append, takeTurns, hpending, Bool.false_eq_true, if_false]
      exact ih hrest
    | true =>
      rcases hwork : Worker.work w c s with ⟨answer, w', c₁, s₁⟩
      rcases hrest : takeTurns rest c₁ s₁ with ⟨answer', rest', c₂, s₂⟩
      cases answer with
      | ok summary =>
        cases answer' with
        | error e =>
          simp only [takeTurns, hpending, if_true, hwork, hrest] at h
          cases h
        | ok summary' =>
          simp only [takeTurns, hpending, if_true, hwork, hrest] at h
          cases h
          simp only [List.cons_append, takeTurns, hpending, if_true, hwork]
          exact ih hrest
      | error e =>
        by_cases hfatal : e.isFatal = true
        · simp only [takeTurns, hpending, if_true, hwork, hfatal] at h
          cases h
        · simp only [takeTurns, hpending, if_true, hwork, hfatal, Bool.false_eq_true, if_false,
            hrest] at h
          cases h
          simp only [List.cons_append, takeTurns, hpending, if_true, hwork, hfatal,
            Bool.false_eq_true, if_false]
          exact ih hrest

/-- A worker without pending changes is passed over. -/
theorem takeTurns_skip {w : ω} {rest rest' : List ω} {c c' : Context} {s s' : δ}
    {answer : Except DriverError Summary} (h : Worker.hasPending w = false)
    (hrest : takeTurns rest c s = (answer, rest', c', s')) :
    takeTurns (w :: rest) c s = (answer, w :: rest', c', s') := by
  simp only [takeTurns, h, Bool.false_eq_true, if_false, hrest]

/-- A turn that succeeds is followed by the other turns. A worker that has nothing pending may as
well take a turn that changes nothing. -/
theorem takeTurns_cons {w w' : ω} {rest rest' : List ω} {c c₁ c₂ : Context} {s s₁ s₂ : δ}
    {first second : Summary} (hwork : Worker.work w c s = (.ok first, w', c₁, s₁))
    (hidle : Worker.hasPending w = false → w' = w ∧ c₁ = c ∧ s₁ = s)
    (hrest : takeTurns rest c₁ s₁ = (.ok second, rest', c₂, s₂)) :
    ∃ summary, takeTurns (w :: rest) c s = (.ok summary, w' :: rest', c₂, s₂) := by
  cases hpending : Worker.hasPending w with
  | true =>
    refine ⟨first.merge second, ?_⟩
    simp only [takeTurns, hpending, if_true, hwork, hrest]
    rfl
  | false =>
    obtain ⟨rfl, rfl, rfl⟩ := hidle hpending
    exact ⟨second, takeTurns_skip hpending hrest⟩

/-! ## One worker with pending changes -/

/-- Workers without pending changes are passed over. -/
theorem takeTurns_idle {ws : List ω} (h : ∀ w ∈ ws, Worker.hasPending w = false) (c : Context)
    (s : δ) : takeTurns ws c s = (.ok .empty, ws, c, s) := by
  induction ws with
  | nil => rfl
  | cons w rest ih =>
    have hrest := ih fun v hv => h v (List.mem_cons_of_mem _ hv)
    have hw := h w (List.mem_cons_self ..)
    simp only [takeTurns, hw, Bool.false_eq_true, if_false, hrest]

theorem takeTurns_single {before after : List ω} {w w' : ω} {c c' : Context} {s s' : δ}
    {summary : Summary} (hbefore : ∀ v ∈ before, Worker.hasPending v = false)
    (hafter : ∀ v ∈ after, Worker.hasPending v = false) (hpending : Worker.hasPending w = true)
    (hwork : Worker.work w c s = (.ok summary, w', c', s')) :
    takeTurns (before ++ w :: after) c s = (.ok summary, before ++ w' :: after, c', s') := by
  induction before with
  | nil =>
    have hrest := takeTurns_idle hafter c' s'
    simp only [List.nil_append, takeTurns, hpending, if_true, hwork, hrest]
    rfl
  | cons v rest ih =>
    have hrest := ih fun u hu => hbefore u (List.mem_cons_of_mem _ hu)
    have hv := hbefore v (List.mem_cons_self ..)
    simp only [List.cons_append, takeTurns, hv, Bool.false_eq_true, if_false, hrest]

variable {d d' : Daemon ω δ}

theorem processOnce_of_takeTurns {summary : Summary} {workers : List ω} {c : Context} {s : δ}
    (h : takeTurns d.workers d.context d.switch = (.ok summary, workers, c, s)) :
    d.processOnce = (.ok summary, { d with workers, context := c, switch := s }) := by
  unfold processOnce
  rw [h]

/-! ## Rounds until nothing is pending -/

theorem processUntilIdle_idle (h : d.hasPending = false) (rounds : Nat) :
    d.processUntilIdle rounds = (.ok .empty, d) := by
  cases rounds with
  | zero => rfl
  | succ rounds => simp [processUntilIdle, h]

/-- A round that consumes something is followed by the other rounds. -/
theorem processUntilIdle_succ {first : Summary} (hpending : d.hasPending = true)
    (honce : d.processOnce = (.ok first, d')) (hconsumed : first.consumed ≠ 0) (rounds : Nat) :
    d.processUntilIdle (rounds + 1) =
      ((d'.processUntilIdle rounds).1.map first.merge, (d'.processUntilIdle rounds).2) := by
  simp only [processUntilIdle, hpending, if_true, honce, if_neg hconsumed]

end DashAgent.Daemon
