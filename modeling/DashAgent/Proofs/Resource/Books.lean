import DashAgent.Proofs.Resource.Excursions
import DashAgent.Proofs.Resource.Pools
import DashAgent.Proofs.Resource.Showing

/-!
# Books

Beside a run of the monitor stand its books: the accepted increments and decrements of every
sub-pool since it was last created, and of all calls together. `Moved` tells what a call does to a
used count by what it books there, and `Square` that counts and books agree, as they do after every
call.
-/
namespace DashAgent.Monitor

/-! ## The books -/

/-- Whether an entry is counted more or less. -/
inductive Way where
  | up
  | down
  deriving DecidableEq, Repr

/-- The sub-pool that a posting counts in, and which way. -/
def Posting.addresses? : Posting → Option (Way × Resource × SubPool)
  | refused .. => none
  | up r p _ => some (.up, r, p)
  | down r p _ => some (.down, r, p)

/-- The sub-pool that an accounting call counts in, and which way; none if its resource does not
suit it. -/
def Call.addresses? (call : Call) : Option (Way × Resource × SubPool) :=
  call.posting?.bind Posting.addresses?

/-- What a call counts, if it is accepted. -/
def Call.booked? (m : Monitor) (call : Call) : Option (Way × Resource × SubPool) :=
  match call.accounted? m with
  | some (.ok _, _) => call.addresses?
  | _ => none

structure Account where
  increments : Nat
  decrements : Nat
  deriving DecidableEq, Repr

def Account.nothing : Account := ⟨0, 0⟩

/-- The account with one call more, or as it is. -/
def Account.enter (a : Account) : Option Way → Account
  | some .up => { a with increments := a.increments + 1 }
  | some .down => { a with decrements := a.decrements + 1 }
  | none => a

/-- The accounts of a run. -/
structure Books where
  total : Account
  /-- What was counted in a sub-pool since it was last created. -/
  pool : Resource → SubPool → Account

def Books.blank : Books := ⟨.nothing, fun _ _ => .nothing⟩

/-- What is counted in one sub-pool. -/
def wayAt? (booked : Option (Way × Resource × SubPool)) (r : Resource) (p : SubPool) : Option Way :=
  booked.bind fun (way, address) => if address = (r, p) then some way else none

/-- The books after a call. The account of a sub-pool is closed when the sub-pool is gone. -/
def Books.after (b : Books) (m : Monitor) (a : Driven) : Books where
  total := b.total.enter ((a.call.booked? m).map Prod.fst)
  pool r p :=
    if (a.apply m).counter? r p = none then .nothing
    else (b.pool r p).enter (wayAt? (a.call.booked? m) r p)

/-- The books after the calls of a run. -/
def Books.keep (b : Books) (m : Monitor) : List Driven → Books
  | [] => b
  | a :: rest => (b.after m a).keep (a.apply m) rest

/-! ## Upkeep -/

section Effects

variable {m m' m'' : Monitor} {r : Resource} {p : SubPool} {call : Call}

/-- Every used count stays, and counters that appear have counted nothing. -/
def Idles (m m' : Monitor) : Prop :=
  ∀ r p, m'.used? r p = m.used? r p ∨ m.used? r p = none ∧ m'.used? r p = some 0

theorem Idles.trans (h : Idles m m') (h' : Idles m' m'') : Idles m m'' := by
  intro r p
  obtain hfirst | ⟨hnone, hzero⟩ := h r p
  · exact hfirst ▸ h' r p
  · obtain hlater | ⟨hlater, -⟩ := h' r p
    · exact .inr ⟨hnone, hlater.trans hzero⟩
    · rw [hzero] at hlater
      cases hlater

theorem used?_eq_none_iff : m.used? r p = none ↔ m.counter? r p = none := Option.map_eq_none_iff

/-- A sub-pool that is made sure of keeps its used count, or has counted nothing. -/
theorem idle_of_counterOrNew {n : Option UInt32}
    (h : n = some ((m.record r).counterOrNew p).used) :
    n = m.used? r p ∨ m.used? r p = none ∧ n = some 0 := by
  rw [used_counterOrNew] at h
  cases hused : m.used? r p with
  | some k => exact .inl (by rw [h, hused]; rfl)
  | none => exact .inr ⟨rfl, by rw [h, hused]; rfl⟩

/-- Routine steps move no used count and make no counter. -/
theorem used?_of_routines (h : Routines m m') (r : Resource) (p : SubPool) :
    m'.used? r p = m.used? r p := by
  cases hused : m.used? r p with
  | some n => exact (sameUse_of_routines h).used r p n hused
  | none =>
    have hfollows : Follows (fun _ _ => False) m m' := follows_of_routines h
    rw [used?_eq_none_iff] at hused ⊢
    by_contra hthere
    have hbefore := (hfollows.counters r p (Option.isSome_iff_ne_none.2 hthere)).resolve_right id
    rw [hused] at hbefore
    cases hbefore

theorem PollStep.idles (h : PollStep m m') : Idles m m' := by
  intro r p
  cases h with
  | @learn s q available _ _ =>
    rw [used?, counter?_setAvailable]
    split
    · next heq =>
      obtain ⟨rfl, rfl⟩ := heq
      exact idle_of_counterOrNew rfl
    · exact .inl rfl
  | giveUp s =>
    left
    by_cases hs : s = r
    · subst hs
      rw [used?, counter?, record_giveUp_self]
      rfl
    · rw [used?, counter?, record_giveUp_of_ne m hs]
      rfl

theorem idles_of_upkeep (h : Upkeep m m') : Idles m m' := by
  induction h with
  | refl => exact fun _ _ => .inl rfl
  | tail _ chore ih =>
    apply ih.trans
    cases chore with
    | poll step => exact step.idles
    | routine step => exact fun r p => .inl (used?_of_routines (.single step) r p)

/-! ## Postings -/

theorem booked?_of_none (h : call.posting? = none) : call.booked? m = none := by
  rw [Call.booked?, accounted?_eq, h]
  rfl

/-- What a posting counts, if it is accepted. -/
def Posting.booked? (m : Monitor) : Posting → Option (Way × Resource × SubPool)
  | refused .. => none
  | up r p _ => some (.up, r, p)
  | down r p _ =>
    match (m.countDown r p).1 with
    | .ok _ => some (.down, r, p)
    | .error _ => none

theorem addresses?_of_posting? {posting : Posting} (h : call.posting? = some posting) :
    call.addresses? = posting.addresses? := by
  rw [Call.addresses?, h]
  rfl

theorem booked?_of_posting? {posting : Posting} (h : call.posting? = some posting) :
    call.booked? m = posting.booked? m := by
  rw [Call.booked?, accounted?_eq, addresses?_of_posting? h, h]
  cases posting with
  | refused r use => rfl
  | up r p seed => rfl
  | down r p along =>
    simp only [Option.map_some, Posting.perform, Posting.booked?]
    cases (m.countDown r p).1 <;> rfl

theorem counter?_sow (m : Monitor) (seed : Option (Resource × SubPool)) (r : Resource)
    (p : SubPool) : (m.sow seed).counter? r p =
      if seed = some (r, p) then some ((m.record r).counterOrNew p) else m.counter? r p := by
  cases seed with
  | none => rfl
  | some seeded =>
    obtain ⟨s, q⟩ := seeded
    rw [sow, counter?_ensure]
    by_cases hseed : s = r ∧ q = p
    · obtain ⟨rfl, rfl⟩ := hseed
      simp
    · simp [hseed]

/-- Seeding makes a counter of nothing where there is none. -/
theorem idles_sow (m : Monitor) (seed : Option (Resource × SubPool)) : Idles m (m.sow seed) := by
  intro r p
  rw [used?, counter?_sow]
  split
  · exact idle_of_counterOrNew rfl
  · exact .inl rfl

theorem counter?_shed (m : Monitor) (along : Option Cascade) (r : Resource) (p : SubPool) :
    (m.shed along).counter? r p =
      if ∃ c, along = some c ∧ r ∈ c.resources ∧ p = c.subPool then none
      else m.counter? r p := by
  cases along with
  | none => simp [shed]
  | some c =>
    rw [shed, (c.leaves_drop m).counters]
    simp

/-- What a call does to the used count of one sub-pool, by what it counts there. -/
inductive Moved : Option Way → Option UInt32 → Option UInt32 → Prop where
  | gone {n : Option UInt32} : Moved none n none
  | kept {n : Option UInt32} : Moved none n n
  | fresh : Moved none none (some 0)
  | up {n : Option UInt32} (c : Counter) (h : c.used = n.getD 0) :
      Moved (some .up) n (some c.increment.used)
  | down {n : UInt32} (h : n ≠ 0) : Moved (some .down) (some n) (some (n - 1))

theorem Idles.moved (h : Idles m m') (r : Resource) (p : SubPool) :
    Moved none (m.used? r p) (m'.used? r p) := by
  obtain hsame | ⟨hnone, hzero⟩ := h r p
  · rw [hsame]
    exact .kept
  · rw [hnone, hzero]
    exact .fresh

theorem moved_shed (m : Monitor) (along : Option Cascade) (r : Resource) (p : SubPool) :
    Moved none (m.used? r p) ((m.shed along).used? r p) := by
  rw [used?, used?, counter?_shed]
  split
  · exact .gone
  · exact .kept

theorem used?_perform_up (m : Monitor) (r : Resource) (p : SubPool)
    (seed : Option (Resource × SubPool)) :
    ((Posting.up r p seed).perform m).2.used? r p =
      some ((m.record r).counterOrNew p).increment.used := by
  have hup := used?_countUp m r r p p
  rw [if_pos ⟨rfl, rfl⟩] at hup
  obtain hsame | ⟨hnone, -⟩ := idles_sow (m.countUp r p).2 seed r p
  · exact hsame.trans hup
  · rw [hup] at hnone
    cases hnone

/-- What a decrement takes along is not the sub-pool that it counts in. -/
theorem counter?_perform_down {along : Option Cascade} (hfits : (Posting.down r p along).Fits)
    (m : Monitor) :
    ((Posting.down r p along).perform m).2.counter? r p = (m.countDown r p).2.counter? r p := by
  rw [Posting.perform, counter?_shed, if_neg]
  rintro ⟨c, hc, -, rfl⟩
  exact (hfits.2 c hc).2 rfl

theorem Posting.moved {posting : Posting} (hfits : posting.Fits) (m : Monitor) (r : Resource)
    (p : SubPool) :
    Moved (wayAt? (posting.booked? m) r p) (m.used? r p) ((posting.perform m).2.used? r p) := by
  cases posting with
  | refused s use => exact .kept
  | up s q seed =>
    by_cases haddress : (s, q) = (r, p)
    · have hway : wayAt? (booked? m (.up s q seed)) r p = some .up := if_pos haddress
      cases haddress
      rw [hway, used?_perform_up]
      exact .up _ (used_counterOrNew m r p)
    · have hway : wayAt? (booked? m (.up s q seed)) r p = none := if_neg haddress
      have hother : (m.countUp s q).2.used? r p = m.used? r p := by
        rw [used?_countUp, if_neg (mt (fun h => Prod.ext h.1 h.2) haddress)]
      rw [hway, ← hother]
      exact (idles_sow (m.countUp s q).2 seed).moved r p
  | down s q along =>
    cases hanswer : (m.countDown s q).1 with
    | error e =>
      rw [perform, booked?, hanswer, countDown_of_error hanswer]
      exact moved_shed m along r p
    | ok n =>
      obtain ⟨c, hc, hused, -, hdown⟩ := countDown_of_ok hanswer
      by_cases haddress : (s, q) = (r, p)
      · have hway : wayAt? (some (.down, s, q)) r p = some .down := if_pos haddress
        cases haddress
        rw [booked?, hanswer, hway, used?, used?, hc, counter?_perform_down hfits, hdown,
          if_pos ⟨rfl, rfl⟩]
        exact .down hused
      · have hway : wayAt? (some (.down, s, q)) r p = none := if_neg haddress
        have hother : (m.countDown s q).2.used? r p = m.used? r p := by
          rw [used?, hdown, if_neg (mt (fun h => Prod.ext h.1 h.2) haddress)]
          rfl
        rw [booked?, hanswer, hway, ← hother]
        exact moved_shed _ along r p

/-- Every call moves the used counts by what it counts. -/
theorem moved_apply (a : Driven) (m : Monitor) (r : Resource) (p : SubPool) :
    Moved (wayAt? (a.call.booked? m) r p) (m.used? r p) ((a.apply m).used? r p) := by
  cases hposting : a.call.posting? with
  | none =>
    rw [booked?_of_none hposting]
    exact (idles_of_upkeep (upkeep_apply hposting m a.state)).moved r p
  | some posting =>
    have hafter : a.apply m = (posting.perform m).2 := apply_of_posting? hposting m a.state
    rw [booked?_of_posting? hposting, hafter]
    exact Posting.moved (fits_of_posting? hposting) m r p

/-- The accepted calls as the monitor has counted them. -/
def turnover (m : Monitor) : Account := ⟨m.stats.increments, m.stats.decrements⟩

theorem stats_sow (m : Monitor) (seed : Option (Resource × SubPool)) :
    (m.sow seed).stats = m.stats := by
  cases seed <;> rfl

theorem stats_shed (m : Monitor) (along : Option Cascade) : (m.shed along).stats = m.stats := by
  cases along with
  | none => rfl
  | some c => exact (c.leaves_drop m).stats

theorem turnover_apply (a : Driven) (m : Monitor) :
    (a.apply m).turnover = m.turnover.enter ((a.call.booked? m).map Prod.fst) := by
  cases hposting : a.call.posting? with
  | none =>
    have hsame := sameUse_of_upkeep (upkeep_apply hposting m a.state)
    rw [booked?_of_none hposting, turnover, Driven.apply, hsame.increments, hsame.decrements]
    rfl
  | some posting =>
    have hafter : a.apply m = (posting.perform m).2 := apply_of_posting? hposting m a.state
    rw [booked?_of_posting? hposting, hafter]
    cases posting with
    | refused s use => rfl
    | up s q seed =>
      rw [Posting.perform, turnover, stats_sow]
      rfl
    | down s q along =>
      rw [Posting.perform, Posting.booked?, turnover, stats_shed]
      obtain ⟨-, heq⟩ | ⟨c, -, -, heq⟩ | ⟨c, -, -, heq⟩ := countDown_cases m s q <;> rw [heq]
      all_goals rfl

/-! ## Square books -/

/-- The books agree with the monitor, as long as fewer increments were accepted than a count can
hold. -/
structure Square (m : Monitor) (b : Books) : Prop where
  total : m.turnover = b.total
  used : b.total.increments < 2 ^ 32 → ∀ r p n, m.used? r p = some n →
    n.toNat + (b.pool r p).decrements = (b.pool r p).increments
  bounded : ∀ r p, (b.pool r p).increments ≤ b.total.increments
  closed : ∀ r p, m.used? r p = none → b.pool r p = .nothing

theorem increments_le_enter (acc : Account) (way : Option Way) :
    acc.increments ≤ (acc.enter way).increments := by
  obtain _ | _ | _ := way <;> simp [Account.enter]

theorem eq_of_wayAt? {booked : Option (Way × Resource × SubPool)} {way : Way}
    (h : wayAt? booked r p = some way) : booked = some (way, r, p) := by
  obtain ⟨⟨w, address⟩, rfl, hsome⟩ := Option.bind_eq_some_iff.1 h
  dsimp only at hsome
  split at hsome
  · next haddress =>
    cases hsome
    rw [haddress]
  · cases hsome

/-- No account has more increments than all together. -/
theorem enter_le_enter {acc total : Account} {booked : Option (Way × Resource × SubPool)}
    (h : acc.increments ≤ total.increments) :
    (acc.enter (wayAt? booked r p)).increments ≤
      (total.enter (booked.map Prod.fst)).increments := by
  cases hway : wayAt? booked r p with
  | none => exact h.trans (increments_le_enter ..)
  | some way =>
    rw [eq_of_wayAt? hway]
    cases way with
    | up => exact Nat.succ_le_succ h
    | down => exact h

/-- A count moves as its account does, unless it is full. -/
theorem Moved.square {way : Option Way} {old new : Option UInt32} {acc : Account}
    (h : Moved way old new) (hold : ∀ n, old = some n → n.toNat + acc.decrements = acc.increments)
    (hclosed : old = none → acc = .nothing) (hroom : (acc.enter way).increments < 2 ^ 32) :
    ∀ n, new = some n → n.toNat + (acc.enter way).decrements = (acc.enter way).increments := by
  intro n hn
  cases h with
  | gone => cases hn
  | kept => exact hold n hn
  | fresh =>
    cases hn
    rw [hclosed rfl]
    rfl
  | up c hused =>
    cases hn
    have hbefore : c.used.toNat + acc.decrements = acc.increments := by
      rw [hused]
      cases old with
      | some k => exact hold k rfl
      | none =>
        rw [hclosed rfl]
        rfl
    have hless : c.used.toNat + 1 < 2 ^ 32 := by
      have hincrements : acc.increments + 1 < 2 ^ 32 := hroom
      omega
    rw [Counter.toNat_increment hless]
    simp only [Account.enter]
    omega
  | @down k hne =>
    cases hn
    have hbefore := hold k rfl
    have hpred := toNat_pred hne
    simp only [Account.enter]
    omega

theorem Square.after {b : Books} (h : Square m b) (a : Driven) :
    Square (a.apply m) (b.after m a) where
  total := (turnover_apply a m).trans (by rw [h.total]; rfl)
  used hfew r p n hn := by
    have hthere : (a.apply m).counter? r p ≠ none := by
      rw [Ne, ← used?_eq_none_iff, hn]
      exact Option.some_ne_none n
    have hbefore : b.total.increments < 2 ^ 32 :=
      Nat.lt_of_le_of_lt (increments_le_enter ..) hfew
    have hroom : ((b.pool r p).enter (wayAt? (a.call.booked? m) r p)).increments < 2 ^ 32 :=
      Nat.lt_of_le_of_lt (enter_le_enter (h.bounded r p)) hfew
    simp only [Books.after, if_neg hthere]
    exact (moved_apply a m r p).square (h.used hbefore r p) (h.closed r p) hroom n hn
  bounded r p := by
    simp only [Books.after]
    split
    · exact Nat.zero_le _
    · exact enter_le_enter (h.bounded r p)
  closed r p hnone := if_pos (used?_eq_none_iff.1 hnone)

theorem Square.keep {b : Books} (calls : List Driven) (h : Square m b) :
    Square (m.run calls) (b.keep m calls) := by
  induction calls generalizing m b with
  | nil => exact h
  | cons a rest ih => exact ih (h.after a)

theorem counter_new {pollingMs : Nat} {telemetry : Telemetry} {c : Counter}
    (h : (Monitor.new pollingMs telemetry).counter? r p = some c) :
    r.isGlobal = true ∧ p = .global ∧ c.used = 0 := by
  rw [counter?_new] at h
  split at h
  · next hglobal =>
    cases h
    exact ⟨hglobal.1, hglobal.2, rfl⟩
  · cases h

/-- At start-up the books are blank. -/
theorem square_new (pollingMs : Nat) (telemetry : Telemetry) :
    Square (.new pollingMs telemetry) .blank where
  total := rfl
  used _ r p n hn := by
    obtain ⟨c, hc, rfl⟩ := Option.map_eq_some_iff.1 hn
    rw [(counter_new hc).2.2]
    rfl
  bounded _ _ := Nat.le_refl 0
  closed _ _ _ := rfl

end Effects

end DashAgent.Monitor
