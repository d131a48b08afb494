import DashAgent.Proofs.Resource.Calls
import DashAgent.Proofs.Resource.Rows
import DashAgent.Switch.Simulator

/-!
# Postings

The ten accounting calls come down to three forms: a refusal of a resource that does not suit the
call, one entry more in a sub-pool, and one entry less. An increment may seed a sub-pool of another
resource, and a decrement may take sub-pools of others along, whatever its answer. Main theorem:
`refusal_exact`, on what a call that is refused leaves as it was.
-/
namespace DashAgent

/-- The resources that suit a use. -/
def AccountingUse.admits : AccountingUse → Resource → Bool
  | global, r => r.isGlobal
  | acl, r => r.isAcl
  | aclTable, r => r.isPerAclTable
  | dashAcl, r => r.isDashAclGroup || r.isDashAclRule

namespace Monitor

/-- What goes with a removed object: a sub-pool of some resources, and its telemetry row. -/
structure Cascade where
  resources : List Resource
  subPool : SubPool
  deriving DecidableEq, Repr

def Cascade.drop (c : Cascade) (m : Monitor) : Monitor :=
  (c.resources.foldl (fun m r => m.dropSubPool r c.subPool) m).dropRow c.subPool

/-- What an accounting call comes down to. -/
inductive Posting where
  /-- The resource does not suit the call. -/
  | refused (r : Resource) (use : AccountingUse)
  /-- One entry more, and a sub-pool of another resource that is seeded with it. -/
  | up (r : Resource) (p : SubPool) (seed : Option (Resource × SubPool))
  /-- One entry less, and what it takes along. -/
  | down (r : Resource) (p : SubPool) (along : Option Cascade)
  deriving DecidableEq, Repr

/-- The monitor in which a sub-pool is seeded. -/
def sow (m : Monitor) : Option (Resource × SubPool) → Monitor
  | none => m
  | some (r, p) => m.modifyRecord r (·.ensure p)

def shed (m : Monitor) : Option Cascade → Monitor
  | none => m
  | some c => c.drop m

/-- Carries a posting out. -/
def Posting.perform (m : Monitor) : Posting → Accounted
  | refused r use => m.refuse r use
  | up r p seed => ((m.countUp r p).1, (m.countUp r p).2.sow seed)
  | down r p along => ((m.countDown r p).1, (m.countDown r p).2.shed along)

/-- A posting to a resource, if it suits the use. -/
def Posting.checked (use : AccountingUse) (r : Resource) (posting : Posting) : Posting :=
  if use.admits r then posting else refused r use

namespace Call

/-- The resource that an accounting call names, and what for. Extension tables need not be named. -/
def names? : Call → Option (Resource × AccountingUse)
  | incrementUsed r | decrementUsed r => some (r, .global)
  | incrementAcl r .. | decrementAcl r .. => some (r, .acl)
  | incrementAclTable r _ | decrementAclTable r _ => some (r, .aclTable)
  | incrementDashAcl r _ | decrementDashAcl r _ => some (r, .dashAcl)
  | _ => none

/-- What goes with the object that a call says is removed: the entries and counters of an ACL table,
the rules of a DASH ACL group. -/
def removes? : Call → Option Cascade
  | decrementAcl r _ _ table =>
    if r = .aclTable ∧ table ≠ 0 then some ⟨[.aclEntry, .aclCounter], .aclTable table⟩ else none
  | decrementDashAcl r group => r.ruleOf?.map fun rule => ⟨[rule], .dashAclGroup group⟩
  | _ => none

/-- The sub-pool that a call seeds: the rules of a new DASH ACL group. -/
def seeds? : Call → Option (Resource × SubPool)
  | incrementDashAcl r group => r.ruleOf?.map fun rule => (rule, .dashAclGroup group)
  | _ => none

/-- The sub-pool that a DASH ACL group or rule is counted in. -/
def dashAclPool (r : Resource) (group : ObjectId) : SubPool :=
  if r.isDashAclGroup then .global else .dashAclGroup group

/-- What a call comes down to, if it is one of accounting. -/
def posting? : Call → Option Posting
  | incrementUsed r => some (.checked .global r (.up r .global none))
  | decrementUsed r => some (.checked .global r (.down r .global none))
  | incrementAcl r stage bindPoint => some (.checked .acl r (.up r (.acl stage bindPoint) none))
  | decrementAcl r stage bindPoint table =>
    some (.checked .acl r
      (.down r (.acl stage bindPoint) (decrementAcl r stage bindPoint table).removes?))
  | incrementAclTable r table => some (.checked .aclTable r (.up r (.aclTable table) none))
  | decrementAclTable r table => some (.checked .aclTable r (.down r (.aclTable table) none))
  | incrementExtTable name => some (.up .extTable (.extTable name) none)
  | decrementExtTable name => some (.down .extTable (.extTable name) none)
  | incrementDashAcl r group =>
    some (.checked .dashAcl r (.up r (dashAclPool r group) (incrementDashAcl r group).seeds?))
  | decrementDashAcl r group =>
    some (.checked .dashAcl r (.down r (dashAclPool r group) (decrementDashAcl r group).removes?))
  | _ => none

/-- The answer to a call and the monitor after it, if the call is one of accounting. -/
def accounted? (m : Monitor) : Call → Option Accounted
  | incrementUsed r => some (m.incrementUsed r)
  | decrementUsed r => some (m.decrementUsed r)
  | incrementAcl r stage bindPoint => some (m.incrementAcl r stage bindPoint)
  | decrementAcl r stage bindPoint table => some (m.decrementAcl r stage bindPoint table)
  | incrementAclTable r table => some (m.incrementAclTable r table)
  | decrementAclTable r table => some (m.decrementAclTable r table)
  | incrementExtTable name => some (m.incrementExtTable name)
  | decrementExtTable name => some (m.decrementExtTable name)
  | incrementDashAcl r group => some (m.incrementDashAcl r group)
  | decrementDashAcl r group => some (m.decrementDashAcl r group)
  | _ => none

end Call

/-! ## Calls as postings -/

/-- Every accounting call does what its posting says. -/
theorem accounted?_eq (m : Monitor) (call : Call) :
    call.accounted? m = call.posting?.map (Posting.perform m) := by
  cases call with
  | incrementUsed r => cases r <;> rfl
  | decrementUsed r => cases r <;> rfl
  | incrementAcl r stage bindPoint => cases r <;> rfl
  | decrementAcl r stage bindPoint table =>
    by_cases htable : table = 0 <;> cases r <;>
      simp [Call.accounted?, decrementAcl, Call.posting?, Call.removes?, Posting.checked,
        Posting.perform, AccountingUse.admits, Resource.isAcl, shed, Cascade.drop, htable]
  | incrementAclTable r table => cases r <;> rfl
  | decrementAclTable r table => cases r <;> rfl
  | incrementExtTable name => rfl
  | decrementExtTable name => rfl
  | incrementDashAcl r group => cases r <;> rfl
  | decrementDashAcl r group => cases r <;> rfl
  | _ => rfl

theorem apply_of_accounted? {δ : Type} [Driver δ] {m : Monitor} {call : Call} {a : Accounted}
    (h : call.accounted? m = some a) (d : δ) : call.apply m d = a.2 := by
  cases call <;> cases h <;> rfl

theorem apply_of_posting? {δ : Type} [Driver δ] {call : Call} {posting : Posting}
    (h : call.posting? = some posting) (m : Monitor) (d : δ) :
    call.apply m d = (posting.perform m).2 := by
  have hanswer : call.accounted? m = some (posting.perform m) := by
    rw [accounted?_eq, h]
    rfl
  exact apply_of_accounted? hanswer d

/-- What is not accounting is upkeep. -/
theorem upkeep_apply {δ : Type} [Driver δ] {call : Call} (h : call.posting? = none) (m : Monitor)
    (d : δ) : Upkeep m (call.apply m d) := by
  cases call with
  | poll => exact upkeep_of_polling (polling_pollEach Resource.all m d)
  | onTimer => exact upkeep_onTimer m d
  | setPollingMs _ | setThresholds _ _ _ | setThresholdType _ _ | configure _ | publish
  | checkThresholds => exact upkeep_of_routines (routines_apply rfl m d)
  | _ => cases h

variable {m m' : Monitor} {r : Resource} {p : SubPool}

theorem Posting.of_checked {use : AccountingUse} {body posting : Posting}
    (h : checked use r body = posting) :
    use.admits r = true ∧ posting = body ∨ use.admits r = false ∧ posting = .refused r use := by
  unfold checked at h
  split at h
  · next hadmits => exact .inl ⟨hadmits, h.symm⟩
  · next hadmits => exact .inr ⟨Bool.eq_false_iff.2 hadmits, h.symm⟩

/-- A call makes the sub-pools of its increment. -/
theorem makes_of_posting? {call : Call} {seed : Option (Resource × SubPool)}
    (h : call.posting? = some (.up r p seed)) :
    call.Makes r p ∧ ∀ s q, seed = some (s, q) → call.Makes s q := by
  cases call
  case incrementExtTable name =>
    cases h
    exact ⟨rfl, fun _ _ hseed => nomatch hseed⟩
  case decrementExtTable name => cases h
  case incrementDashAcl s group =>
    obtain ⟨hadmits, heq⟩ | ⟨-, heq⟩ := Posting.of_checked (Option.some.inj h) <;> cases heq
    refine ⟨?_, fun rule q hseed => ?_⟩
    · cases r <;> first | (cases hadmits; done) | exact .inl rfl | exact .inr ⟨.inr ⟨rfl, rfl⟩, rfl⟩
    · obtain ⟨rule, hrule, heq⟩ := Option.map_eq_some_iff.1 hseed
      cases heq
      exact .inr ⟨.inl hrule, rfl⟩
  case incrementUsed | incrementAcl =>
    obtain ⟨-, heq⟩ | ⟨-, heq⟩ := Posting.of_checked (Option.some.inj h) <;> cases heq
    exact ⟨rfl, fun _ _ hseed => nomatch hseed⟩
  case incrementAclTable =>
    obtain ⟨hadmits, heq⟩ | ⟨-, heq⟩ := Posting.of_checked (Option.some.inj h) <;> cases heq
    exact ⟨⟨hadmits, rfl, rfl⟩, fun _ _ hseed => nomatch hseed⟩
  case decrementUsed | decrementAcl | decrementAclTable | decrementDashAcl =>
    obtain ⟨-, heq⟩ | ⟨-, heq⟩ := Posting.of_checked (Option.some.inj h) <;> cases heq
  all_goals cases h

/-! ## What goes with a removed object -/

theorem counter?_foldl_dropSubPool (rs : List Resource) (m : Monitor) (s : Resource)
    (p q : SubPool) :
    (rs.foldl (fun m r => m.dropSubPool r p) m).counter? s q =
      if s ∈ rs ∧ q = p then none else m.counter? s q := by
  induction rs generalizing m with
  | nil => simp
  | cons r rest ih =>
    rw [List.foldl_cons, ih, counter?_dropSubPool]
    by_cases hq : q = p
    · by_cases hs : s = r <;> simp [hq, hs, eq_comm]
    · simp [hq, Ne.symm hq]

/-- Everything but the counters and the telemetry is the same. -/
structure SameFrame (m m' : Monitor) : Prop where
  pollingMs : m'.pollingMs = m.pollingMs
  events : m'.events = m.events
  stats : m'.stats = m.stats
  thresholds : ∀ r, (m'.record r).thresholds = (m.record r).thresholds
  supported : ∀ r, (m'.record r).supported = (m.record r).supported

/-- What is left is what there was without a sub-pool of some resources and without its row. -/
structure Cascade.Leaves (c : Cascade) (m m' : Monitor) : Prop extends SameFrame m m' where
  counters : ∀ r p, m'.counter? r p =
    if r ∈ c.resources ∧ p = c.subPool then none else m.counter? r p
  rows : ∀ row, m'.telemetry.row? row =
    if c.subPool.row = row then none else m.telemetry.row? row

theorem sameFrame_foldl_dropSubPool (rs : List Resource) (m : Monitor) (p : SubPool) :
    SameFrame m (rs.foldl (fun m r => m.dropSubPool r p) m) := by
  induction rs generalizing m with
  | nil => exact ⟨rfl, rfl, rfl, fun _ => rfl, fun _ => rfl⟩
  | cons r rest ih =>
    have htail := ih (m.dropSubPool r p)
    exact ⟨htail.pollingMs, htail.events, htail.stats,
      fun s => (htail.thresholds s).trans (thresholds_dropSubPool ..),
      fun s => (htail.supported s).trans (supported_dropSubPool ..)⟩

theorem telemetry_foldl_dropSubPool (rs : List Resource) (m : Monitor) (p : SubPool) :
    (rs.foldl (fun m r => m.dropSubPool r p) m).telemetry = m.telemetry := by
  induction rs generalizing m with
  | nil => rfl
  | cons r rest ih => exact ih _

theorem Cascade.leaves_drop (c : Cascade) (m : Monitor) : c.Leaves m (c.drop m) := by
  have hframe := sameFrame_foldl_dropSubPool c.resources m c.subPool
  refine ⟨⟨hframe.pollingMs, hframe.events, hframe.stats, hframe.thresholds, hframe.supported⟩,
    fun r p => counter?_foldl_dropSubPool .., fun row => ?_⟩
  rw [drop, dropRow, telemetry_foldl_dropSubPool]
  exact Telemetry.row?_delete ..

/-! ## Refusals -/

/-- What a posting takes along. -/
def Posting.along? : Posting → Option Cascade
  | down _ _ along => along
  | up .. | refused .. => none

theorem removes?_of_posting? {call : Call} {posting : Posting}
    (h : call.posting? = some posting) : call.removes? = posting.along? := by
  cases call with
  | decrementAcl r stage bindPoint table =>
    cases h
    cases r <;> rfl
  | decrementDashAcl r group =>
    cases h
    cases r <;> rfl
  | incrementExtTable name | decrementExtTable name =>
    cases h
    rfl
  | incrementUsed r | decrementUsed r | incrementAcl r _ _ | incrementAclTable r _
  | decrementAclTable r _ | incrementDashAcl r _ =>
    cases h
    unfold Posting.checked
    split <;> rfl
  | _ => cases h

/-- A refusal takes nothing along but what goes with the object that was said to be removed. -/
theorem Posting.perform_of_error {posting : Posting} {e : MonitorError}
    (h : posting.perform m = (.error e, m')) : m' = m.shed posting.along? := by
  cases posting with
  | refused r use =>
    cases h
    rfl
  | up r p seed => cases h
  | down r p along =>
    obtain ⟨herror, rfl⟩ := Prod.mk.inj h
    rw [countDown_of_error herror]
    rfl

/-- A refused call changes nothing, except that with the removal of an ACL table or of a DASH ACL
group go the sub-pools that belong to it and their row. -/
theorem refusal_exact {m m' : Monitor} {call : Call} {e : MonitorError}
    (h : call.accounted? m = some (.error e, m')) :
    (call.removes? = none → m' = m) ∧ ∀ c, call.removes? = some c → c.Leaves m m' := by
  rw [accounted?_eq] at h
  obtain ⟨posting, hposting, hperform⟩ := Option.map_eq_some_iff.1 h
  have hafter := Posting.perform_of_error hperform
  rw [← removes?_of_posting? hposting] at hafter
  subst hafter
  constructor
  · intro hnone
    rw [hnone]
    rfl
  · intro c hc
    rw [hc]
    exact c.leaves_drop m

/-- A monitor that has counted an entry of an ACL table whose creation was not counted. -/
def entryCounted : Monitor := ((Monitor.new 1000 .empty).incrementAclTable .aclEntry 7).2

/-- The removal of such a table is refused, and takes the entry along. -/
theorem refused_removal_drops : ¬ ∀ (m m' : Monitor) (call : Call) (e : MonitorError),
    Leads (fun _ => True) (.new 1000 .empty) m → call.accounted? m = some (.error e, m') →
    ∀ r p, m'.counter? r p = m.counter? r p := by
  intro hall
  have hrefused : (entryCounted.decrementAcl .aclTable .ingress .port 7).1 =
      .error (.counterNotFound .aclTable (.acl .ingress .port)) := by decide +kernel
  have hsame := hall entryCounted _ (.decrementAcl .aclTable .ingress .port 7) _
    (.call (.incrementAclTable .aclEntry 7) (Simulator.new 16) trivial .refl)
    (congrArg some (Prod.ext hrefused rfl)) .aclEntry (.aclTable 7)
  have hgone : (entryCounted.decrementAcl .aclTable .ingress .port 7).2.counter? .aclEntry
      (.aclTable 7) ≠ entryCounted.counter? .aclEntry (.aclTable 7) := by decide +kernel
  exact hgone hsame

theorem entryCounted_refuses :
    (entryCounted.decrementAcl .aclTable .ingress .port 7).1 =
      .error (.counterNotFound .aclTable (.acl .ingress .port)) ∧
    (Call.decrementAcl .aclTable .ingress .port 7).removes? =
      some ⟨[.aclEntry, .aclCounter], .aclTable 7⟩ ∧
    Cascade.Leaves ⟨[.aclEntry, .aclCounter], .aclTable 7⟩ entryCounted
      (entryCounted.decrementAcl .aclTable .ingress .port 7).2 := by
  have hrefused : (entryCounted.decrementAcl .aclTable .ingress .port 7).1 =
      .error (.counterNotFound .aclTable (.acl .ingress .port)) := by decide +kernel
  have hanswer : (Call.decrementAcl .aclTable .ingress .port 7).accounted? entryCounted =
      some (.error (.counterNotFound .aclTable (.acl .ingress .port)),
        (entryCounted.decrementAcl .aclTable .ingress .port 7).2) :=
    congrArg some (Prod.ext hrefused rfl)
  exact ⟨hrefused, rfl, (refusal_exact hanswer).2 _ rfl⟩

end Monitor

end DashAgent
