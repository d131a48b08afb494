import DashAgent.Proofs.Resource.Books
import DashAgent.Proofs.Resource.Polls

/-!
# Accounts

The used counts of a run are those of its books. Beside this stand how sub-pools come and go, and
how accounting calls are answered. Main theorem: `used_exact`.
-/
namespace DashAgent.Monitor

/-! ## What a call may do -/

/-- The driver lists a stage and bind point for a resource when it is polled. -/
def Told (m : Monitor) {δ : Type} [Driver δ] (d : δ) (r : Resource) (p : SubPool) : Prop :=
  ∃ log after, Interview m Resource.all d log after ∧
    ∃ resources, (r, .list (.ok (.aclResources resources))) ∈ log ∧
      ∃ a ∈ resources, p = .acl a.stage a.bindPoint

/-- The ways in which a call creates a sub-pool, and what is used of it then. -/
inductive Creates (m : Monitor) (a : Driven) (r : Resource) (p : SubPool) : UInt32 → Prop where
  | increment (h : a.call.addresses? = some (.up, r, p)) : Creates m a r p 1
  | seed (h : a.call.seeds? = some (r, p)) : Creates m a r p 0
  | list (hcall : a.call = .poll ∨ a.call = .onTimer) (h : Told m a.state r p) : Creates m a r p 0

/-- The calls that drop a sub-pool: the removal of an ACL table with an identifier, and of a DASH
ACL group. -/
inductive Drops : Call → Resource → SubPool → Prop where
  | table {r : Resource} (hr : r.isPerAclTable = true) (stage : AclStage)
      (bindPoint : AclBindPoint) {table : ObjectId} (htable : table ≠ 0) :
      Drops (.decrementAcl .aclTable stage bindPoint table) r (.aclTable table)
  | group {group rule : Resource} (hrule : group.ruleOf? = some rule) (id : ObjectId) :
      Drops (.decrementDashAcl group id) rule (.dashAclGroup id)

/-- How a decrement in a sub-pool is answered. -/
structure Debits (m : Monitor) (r : Resource) (p : SubPool) (answer : Except MonitorError UInt32)
    (m' : Monitor) : Prop where
  counted : ∀ n, answer = .ok n → m'.used? r p = some n
  notFound : answer = .error (.counterNotFound r p) ↔ m.counter? r p = none
  underflow : answer = .error (.counterUnderflow r p) ↔ m.used? r p = some 0
  /-- There are no other failures, and none touches the sub-pool. -/
  failed : ∀ e, answer = .error e →
    (m.counter? r p = none ∨ m.used? r p = some 0) ∧ m'.counter? r p = m.counter? r p

/-- How an accounting call is answered. A call counts nowhere just if it names a resource that does
not suit it. -/
def Settles (m : Monitor) (call : Call) (answer : Except MonitorError UInt32) (m' : Monitor) :
    Prop :=
  match call.addresses? with
  | none => ∃ r use, call.names? = some (r, use) ∧ use.admits r = false ∧
      answer = .error (.inadmissible r use)
  | some (way, r, p) => (∀ s use, call.names? = some (s, use) → use.admits s = true) ∧
      match way with
      | .up => ∃ n, answer = .ok n ∧ m'.used? r p = some n
      | .down => Debits m r p answer m'

section Calls

variable {m m' : Monitor} {r : Resource} {p : SubPool} {call : Call}

/-! ## Sub-pools that come and go -/

theorem seeds?_of_posting? {s : Resource} {q : SubPool} {seed : Option (Resource × SubPool)}
    (h : call.posting? = some (.up s q seed)) : call.seeds? = seed := by
  cases call
  case incrementExtTable | decrementExtTable => cases h <;> rfl
  case incrementUsed | decrementUsed | incrementAcl | decrementAcl | incrementAclTable
    | decrementAclTable | incrementDashAcl | decrementDashAcl =>
    obtain ⟨-, heq⟩ | ⟨-, heq⟩ := Posting.of_checked (Option.some.inj h) <;> cases heq <;> rfl
  all_goals cases h

theorem told_of_fresh {δ : Type} [Driver δ] (h : m.Tidy) (d : δ) (hnone : m.counter? r p = none)
    (hsome : (pollEach Resource.all m d).1.counter? r p ≠ none) : Told m d r p := by
  have hnodup : Resource.all.Nodup := by decide
  obtain ⟨log, hinterview, hinformed⟩ := pollEach_interview hnodup h d
  by_cases hr : r ∈ log.map Prod.fst
  · obtain ⟨⟨_, report⟩, hmem, rfl⟩ := List.mem_map.1 hr
    obtain ⟨resources, rfl, hlisted⟩ :=
      (hinformed.asked _ _ hmem).fresh p hnone (Option.isSome_iff_ne_none.2 hsome)
    exact ⟨log, _, hinterview, resources, hmem, hlisted⟩
  · rw [counter?, hinformed.passed r hr] at hsome
    exact absurd hnone hsome

/-- What is there after routine steps was there before. -/
theorem counter?_of_routines (h : Routines m m') :
    m'.counter? r p = none ↔ m.counter? r p = none := by
  rw [← used?_eq_none_iff, ← used?_eq_none_iff, used?_of_routines h]

/-- Without accounting, counters come from lists only. -/
theorem told_of_upkeep (h : m.Tidy) (a : Driven) (hposting : a.call.posting? = none)
    (hnone : m.counter? r p = none) (hsome : (a.apply m).counter? r p ≠ none) :
    (a.call = .poll ∨ a.call = .onTimer) ∧ Told m a.state r p := by
  obtain ⟨call, d⟩ := a
  cases call with
  | poll => exact ⟨.inl rfl, told_of_fresh h d hnone hsome⟩
  | onTimer =>
    have hpolled : (pollEach Resource.all m.ticked d).1.counter? r p ≠ none := by
      change (m.onTimer d).1.counter? r p ≠ none at hsome
      rwa [onTimer_eq, Ne,
        counter?_of_routines (.head .publish (routines_checkThresholds _))] at hsome
    have hticked : m.ticked.Tidy := h.of_records rfl
    obtain ⟨log, after, hinterview, htold⟩ := told_of_fresh hticked d hnone hpolled
    exact ⟨.inr rfl, log, after, hinterview.congr fun _ _ => rfl, htold⟩
  | setPollingMs _ | setThresholds _ _ _ | setThresholdType _ _ | configure _ | publish
  | checkThresholds =>
    exact absurd ((counter?_of_routines (routines_apply rfl m d)).2 hnone) hsome
  | _ => cases hposting

theorem Moved.of_none {way : Option Way} {n : UInt32} (h : Moved way none (some n)) :
    way = some .up ∧ n = 1 ∨ way = none ∧ n = 0 := by
  cases h with
  | fresh => exact .inr ⟨rfl, rfl⟩
  | up c hused =>
    have hfree : c.used ≠ 0xffffffff := by
      rw [hused]
      decide
    rw [Counter.increment, if_neg hfree, hused]
    exact .inl ⟨rfl, rfl⟩

theorem addresses?_of_booked? {e : Way × Resource × SubPool} (h : call.booked? m = some e) :
    call.addresses? = some e := by
  unfold Call.booked? at h
  split at h
  · exact h
  · cases h

/-- A sub-pool that appears was created in one of three ways. -/
theorem creates_of_fresh (h : m.Tidy) (a : Driven) {c : Counter} (hnone : m.counter? r p = none)
    (hc : (a.apply m).counter? r p = some c) : Creates m a r p c.used := by
  have hmoved := moved_apply a m r p
  have hnew : (a.apply m).used? r p = some c.used := congrArg (Option.map Counter.used) hc
  rw [used?_eq_none_iff.2 hnone, hnew] at hmoved
  obtain ⟨hway, hone⟩ | ⟨hway, hzero⟩ := hmoved.of_none
  · rw [hone]
    exact .increment (addresses?_of_booked? (eq_of_wayAt? hway))
  · rw [hzero]
    cases hposting : a.call.posting? with
    | none =>
      obtain ⟨hcall, htold⟩ := told_of_upkeep h a hposting hnone (by simp [hc])
      exact .list hcall htold
    | some posting =>
      have hafter : a.apply m = (posting.perform m).2 := apply_of_posting? hposting m a.state
      rw [booked?_of_posting? hposting] at hway
      rw [hafter] at hc
      cases posting with
      | refused s use =>
        rw [Posting.perform, refuse, hnone] at hc
        cases hc
      | up s q seed =>
        have haddress : (s, q) ≠ (r, p) := by
          intro heq
          have hup : wayAt? (Posting.booked? m (.up s q seed)) r p = some .up := if_pos heq
          rw [hway] at hup
          cases hup
        have hother : (m.countUp s q).2.counter? r p = none := by
          rw [counter?_countUp, if_neg (mt (fun h => Prod.ext h.1 h.2) haddress), hnone]
        rw [Posting.perform, counter?_sow, hother] at hc
        split at hc
        · next hseed => exact .seed ((seeds?_of_posting? hposting).trans hseed)
        · cases hc
      | down s q along =>
        have hother : (m.countDown s q).2.counter? r p = none :=
          counter?_countDown_eq_none_iff.2 hnone
        rw [Posting.perform, counter?_shed, hother] at hc
        split at hc <;> cases hc

theorem removes?_of_none (h : call.posting? = none) : call.removes? = none := by
  cases call <;> first | rfl | cases h

theorem drops_iff : Drops call r p ↔
    ∃ c, call.removes? = some c ∧ r ∈ c.resources ∧ p = c.subPool := by
  constructor
  · rintro (⟨hr, stage, bindPoint, htable⟩ | ⟨hrule, id⟩)
    · refine ⟨_, if_pos ⟨rfl, htable⟩, ?_, rfl⟩
      cases r <;> first | (cases hr; done) | simp
    · exact ⟨_, by rw [Call.removes?, hrule]; rfl, List.mem_singleton_self _, rfl⟩
  · rintro ⟨c, hc, hr, rfl⟩
    cases call with
    | decrementAcl s stage bindPoint table =>
      simp only [Call.removes?] at hc
      split at hc
      · next htable =>
        cases hc
        obtain ⟨rfl, htable⟩ := htable
        have hper : r.isPerAclTable = true := by
          obtain rfl | rfl : r = .aclEntry ∨ r = .aclCounter := by simpa using hr
          all_goals rfl
        exact .table hper stage bindPoint htable
      · cases hc
    | decrementDashAcl group id =>
      obtain ⟨rule, hrule, rfl⟩ := Option.map_eq_some_iff.1 hc
      obtain rfl := List.mem_singleton.1 hr
      exact .group hrule id
    | _ => cases hc

/-- What a posting does not take along stays. -/
theorem counter?_perform_eq_none_iff {posting : Posting} (hthere : m.counter? r p ≠ none) :
    (posting.perform m).2.counter? r p = none ↔
      ∃ c, posting.along? = some c ∧ r ∈ c.resources ∧ p = c.subPool := by
  cases posting with
  | refused s use => simpa [Posting.perform, refuse, Posting.along?] using hthere
  | up s q seed =>
    have hstill : ((m.countUp s q).2.sow seed).counter? r p ≠ none := by
      rw [counter?_sow]
      split
      · exact Option.some_ne_none _
      · rw [counter?_countUp]
        split
        · exact Option.some_ne_none _
        · exact hthere
    simpa [Posting.perform, Posting.along?] using hstill
  | down s q along =>
    rw [Posting.perform, counter?_shed, Posting.along?]
    split
    · next htaken => exact iff_of_true rfl htaken
    · next hkept => exact iff_of_false (mt counter?_countDown_eq_none_iff.1 hthere) hkept

/-- A sub-pool goes just with the object that it belongs to. -/
theorem dropped_iff (a : Driven) (hthere : (m.counter? r p).isSome) :
    (a.apply m).counter? r p = none ↔ Drops a.call r p := by
  rw [Option.isSome_iff_ne_none] at hthere
  rw [drops_iff]
  cases hposting : a.call.posting? with
  | none =>
    have hnothing : a.call.removes? = none := removes?_of_none hposting
    have hstays : (a.apply m).counter? r p ≠ none := by
      rw [Ne, ← used?_eq_none_iff] at hthere ⊢
      obtain hsame | ⟨hnone, -⟩ := idles_of_upkeep (upkeep_apply hposting m a.state) r p
      · exact hsame ▸ hthere
      · exact absurd hnone hthere
    simpa [hnothing] using hstays
  | some posting =>
    have hafter : a.apply m = (posting.perform m).2 := apply_of_posting? hposting m a.state
    rw [hafter, removes?_of_posting? hposting]
    exact counter?_perform_eq_none_iff hthere

/-! ## Answers -/

/-- A posting is refused just where the call names a resource that does not suit it. -/
theorem refused_iff {posting : Posting} (h : call.posting? = some posting) {s : Resource}
    {use : AccountingUse} :
    posting = .refused s use ↔ call.names? = some (s, use) ∧ use.admits s = false := by
  cases call
  case incrementExtTable | decrementExtTable => cases h; simp [Call.names?]
  case incrementUsed | decrementUsed | incrementAcl | decrementAcl | incrementAclTable
    | decrementAclTable | incrementDashAcl | decrementDashAcl =>
    obtain ⟨hadmits, rfl⟩ | ⟨hadmits, rfl⟩ := Posting.of_checked (Option.some.inj h)
    · constructor
      · intro heq
        cases heq
      · rintro ⟨hnames, hrefuses⟩
        cases hnames
        rw [hadmits] at hrefuses
        cases hrefuses
    · constructor
      · intro heq
        cases heq
        exact ⟨rfl, hadmits⟩
      · rintro ⟨hnames, -⟩
        cases hnames
        rfl
  all_goals cases h

theorem debits_countDown (m : Monitor) (r : Resource) (p : SubPool) :
    Debits m r p (m.countDown r p).1 (m.countDown r p).2 := by
  obtain ⟨hc, heq⟩ | ⟨c, hc, hused, heq⟩ | ⟨c, hc, hused, heq⟩ := countDown_cases m r p
  · rw [heq]
    exact ⟨by simp, by simp [hc], by simp [used?, hc], by simp [hc]⟩
  · rw [heq]
    exact ⟨by simp, by simp [hc], by simp [used?, hc, hused], by simp [used?, hc, hused]⟩
  · refine ⟨fun n hn => ?_, ?_, ?_, ?_⟩
    · obtain ⟨c', -, -, rfl, hdown⟩ := countDown_of_ok hn
      rw [used?, hdown, if_pos ⟨rfl, rfl⟩]
      rfl
    all_goals simp [heq, used?, hc, hused]

theorem settles {answer : Except MonitorError UInt32} (h : call.accounted? m = some (answer, m')) :
    Settles m call answer m' := by
  rw [accounted?_eq] at h
  obtain ⟨posting, hposting, hperform⟩ := Option.map_eq_some_iff.1 h
  have hanswer : answer = (posting.perform m).1 := (congrArg Prod.fst hperform).symm
  have hafter : m' = (posting.perform m).2 := (congrArg Prod.snd hperform).symm
  have hsuits : (∀ s use, posting ≠ .refused s use) →
      ∀ s use, call.names? = some (s, use) → use.admits s = true := by
    intro hnone s use hnames
    by_contra hadmits
    exact hnone s use ((refused_iff hposting).2 ⟨hnames, Bool.eq_false_iff.2 hadmits⟩)
  rw [Settles, addresses?_of_posting? hposting, hanswer, hafter]
  cases posting with
  | refused s use =>
    obtain ⟨hnames, hadmits⟩ := (refused_iff hposting).1 rfl
    exact ⟨s, use, hnames, hadmits, rfl⟩
  | up r p seed =>
    exact ⟨hsuits fun _ _ => Posting.noConfusion, _, rfl, used?_perform_up m r p seed⟩
  | down r p along =>
    have hkept := counter?_perform_down (fits_of_posting? hposting) m
    have hcount := debits_countDown m r p
    refine ⟨hsuits fun _ _ => Posting.noConfusion, fun n hn => ?_, hcount.notFound,
      hcount.underflow, fun e he => ?_⟩
    · rw [used?, hkept]
      exact hcount.counted n hn
    · obtain ⟨hwhy, hsame⟩ := hcount.failed e he
      exact ⟨hwhy, hkept.trans hsame⟩

end Calls

theorem tidy_run (calls : List Driven) {m : Monitor} (h : m.Tidy) : (m.run calls).Tidy := by
  induction calls generalizing m with
  | nil => exact h
  | cons a rest ih => exact ih (tidy_apply a.call h a.state)

/-- Along every sequence of calls, each answered by any driver, the used count of a sub-pool is what
the books have for it since it was last created, and the statistics are the books' totals. The
sub-pools of the whole switch are there at the start, with nothing used; others are created by an
increment, by seeding or by a list, and each goes just with the object that it belongs to. A
decrement fails just if its sub-pool is not there or has nothing used, and a call whose resource
does not suit it is refused. -/
theorem used_exact (pollingMs : Nat) (telemetry : Telemetry) (calls : List Driven) :
    let start := Monitor.new pollingMs telemetry
    let m := start.run calls
    let books := Books.blank.keep start calls
    (books.total.increments < 2 ^ 32 → ∀ r p c, m.counter? r p = some c →
      c.used.toNat + (books.pool r p).decrements = (books.pool r p).increments) ∧
    m.stats.increments = books.total.increments ∧
    m.stats.decrements = books.total.decrements ∧
    (∀ r p c, start.counter? r p = some c → r.isGlobal = true ∧ p = .global ∧ c.used = 0) ∧
    ∀ a : Driven,
      (∀ r p c, m.counter? r p = none → (a.apply m).counter? r p = some c →
        Creates m a r p c.used) ∧
      (∀ r p, (m.counter? r p).isSome →
        ((a.apply m).counter? r p = none ↔ Drops a.call r p)) ∧
      ∀ answer m', a.call.accounted? m = some (answer, m') →
        a.apply m = m' ∧ Settles m a.call answer m' := by
  intro start m books
  have hsquare : Square m books := (square_new pollingMs telemetry).keep calls
  have htidy : m.Tidy := tidy_run calls (tidy_new pollingMs telemetry)
  refine ⟨fun hfew r p c hc => hsquare.used hfew r p c.used ?_,
    congrArg Account.increments hsquare.total, congrArg Account.decrements hsquare.total,
    fun r p c => counter_new, fun a => ⟨fun r p c => creates_of_fresh htidy a,
      fun r p => dropped_iff a, fun answer m' h => ⟨apply_of_accounted? h a.state, settles h⟩⟩⟩
  rw [used?, hc]
  rfl

/-- A group of access rules that is removed while it has two rules, and a rule that comes late. -/
def lateRule : List Driven :=
  [⟨.incrementDashAcl .dashIpv4AclGroup 5, silent⟩, ⟨.incrementDashAcl .dashIpv4AclRule 5, silent⟩,
    ⟨.incrementDashAcl .dashIpv4AclRule 5, silent⟩, ⟨.decrementDashAcl .dashIpv4AclGroup 5, silent⟩,
    ⟨.incrementDashAcl .dashIpv4AclRule 5, silent⟩]

/-- Of three rules that were accepted, the late one is in use. -/
theorem lateRule_used :
    let start := Monitor.new 1000 .empty
    let books := Books.blank.keep start lateRule
    books.total = ⟨4, 1⟩ ∧ books.pool .dashIpv4AclRule (.dashAclGroup 5) = ⟨1, 0⟩ ∧
    (start.run lateRule).stats.increments = 4 ∧
    ∃ c, (start.run lateRule).counter? .dashIpv4AclRule (.dashAclGroup 5) = some c ∧
      c.used.toNat = 1 := by
  intro start books
  have htotal : books.total = ⟨4, 1⟩ := by decide +kernel
  have hpool : books.pool .dashIpv4AclRule (.dashAclGroup 5) = ⟨1, 0⟩ := by decide +kernel
  obtain ⟨hused, hincrements, -⟩ := used_exact 1000 .empty lateRule
  have hfew : books.total.increments < 2 ^ 32 := by
    rw [htotal]
    decide
  have hthere : (start.run lateRule).counter? .dashIpv4AclRule (.dashAclGroup 5) =
      some ⟨5, 0, 1, 0⟩ := by decide +kernel
  have hcount := hused hfew _ _ _ hthere
  rw [hpool] at hcount
  exact ⟨htotal, hpool, hincrements.trans (congrArg Account.increments htotal), _, hthere, hcount⟩

end DashAgent.Monitor
