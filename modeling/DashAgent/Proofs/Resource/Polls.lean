import DashAgent.Proofs.Resource.Pools

/-!
# Polls

A poll interviews the driver about each supported resource in turn. For every tracked sub-pool, in
order, it gets a count or a status; for a resource that is listed by stage and bind point it gets
one attribute. `Interview` is the transcript of this, told by the driver alone, and `Refreshed` says
what becomes of a record that was asked about. Main theorem: `poll_exact`.
-/
namespace DashAgent

def statusOf? {α : Type} : Except Status α → Option Status
  | .ok _ => none
  | .error status => some status

namespace Monitor

/-! ## What the driver replies -/

/-- An attribute as a count; any other value is a failure. -/
def asCount : Except Status AttributeValue → Except Status Nat
  | .ok value =>
    match value.count? with
    | some n => .ok n
    | none => .error .failure
  | .error status => .error status

section Driver

variable {δ : Type} [Driver δ]

/-- The driver's reply to a query about one sub-pool. -/
inductive Replies : CapacityQuery → SubPool → δ → Except Status Nat → δ → Prop where
  | object {type : ObjectType} {qualifiers : List Qualifier} {fallback : Option CapacityAttribute}
      {n : Nat} {d d' : δ} (hasked : Driver.availability type qualifiers d = (.ok n, d')) :
      Replies (.object type qualifiers fallback) .global d (.ok n) d'
  | objectAlone {type : ObjectType} {qualifiers : List Qualifier} {status : Status} {d d' : δ}
      (hasked : Driver.availability type qualifiers d = (.error status, d')) :
      Replies (.object type qualifiers none) .global d (.error status) d'
  /-- Where the query by object type fails, the answer is that of the switch attribute. -/
  | fallback {type : ObjectType} {qualifiers : List Qualifier} {what : CapacityAttribute}
      {status : Status} {answer : Except Status AttributeValue} {d d' d'' : δ}
      (hasked : Driver.availability type qualifiers d = (.error status, d'))
      (hread : Driver.readAttribute (Driver.switchId d) (.capacity what) d' = (answer, d'')) :
      Replies (.object type qualifiers (some what)) .global d (asCount answer) d''
  | switch {what : CapacityAttribute} {answer : Except Status AttributeValue} {d d' : δ}
      (hread : Driver.readAttribute (Driver.switchId d) (.capacity what) d = (answer, d')) :
      Replies (.switch what) .global d (asCount answer) d'
  | aclTable {what : AttributeId} {id : ObjectId} {answer : Except Status AttributeValue} {d d' : δ}
      (hread : Driver.readAttribute id what d = (answer, d')) :
      Replies (.aclTable what) (.aclTable id) d (asCount answer) d'
  | extensionTable {name : String} {answer : Except Status Nat} {d d' : δ}
      (hasked : Driver.availability .genericProgrammable [.objectName name] d = (answer, d')) :
      Replies .extensionTable (.extTable name) d answer d'
  | dashAclRule {id : ObjectId} {answer : Except Status Nat} {d d' : δ}
      (hasked : Driver.availability .dashAclRule [.dashAclGroup id] d = (answer, d')) :
      Replies .dashAclRule (.dashAclGroup id) d answer d'

/-- The replies about sub-pools that are asked for one after another. -/
inductive RepliesAll (query : CapacityQuery) :
    List SubPool → δ → List (SubPool × Except Status Nat) → δ → Prop where
  | nil {d : δ} : RepliesAll query [] d [] d
  | cons {p : SubPool} {rest : List SubPool} {answer : Except Status Nat}
      {answers : List (SubPool × Except Status Nat)} {d d' d'' : δ}
      (hfirst : Replies query p d answer d') (hrest : RepliesAll query rest d' answers d'') :
      RepliesAll query (p :: rest) d ((p, answer) :: answers) d''

/-- What a poll hears of one resource. -/
inductive Report where
  /-- A reply for each of its sub-pools. -/
  | counts (answers : List (SubPool × Except Status Nat))
  /-- The attribute that lists its sub-pools. -/
  | list (answer : Except Status AttributeValue)

/-- What a poll hears of a resource that tracks the given sub-pools. -/
inductive Reports (r : Resource) (pools : List SubPool) (d : δ) : Report → δ → Prop where
  | counts {answers : List (SubPool × Except Status Nat)} {d' : δ}
      (hquery : ∀ what, r.query ≠ .aclList what) (hall : RepliesAll r.query pools d answers d') :
      Reports r pools d (.counts answers) d'
  | list {what : AttributeId} {answer : Except Status AttributeValue} {d' : δ}
      (hquery : r.query = .aclList what)
      (hread : Driver.readAttribute (Driver.switchId d) what d = (answer, d')) :
      Reports r pools d (.list answer) d'

/-- What a poll hears of resources in turn; the ones that are not supported are passed over. -/
inductive Interview (m : Monitor) : List Resource → δ → List (Resource × Report) → δ → Prop where
  | nil {d : δ} : Interview m [] d [] d
  | pass {r : Resource} {rest : List Resource} {log : List (Resource × Report)} {d d' : δ}
      (hunsupported : (m.record r).supported = false) (hrest : Interview m rest d log d') :
      Interview m (r :: rest) d log d'
  | ask {r : Resource} {rest : List Resource} {report : Report} {log : List (Resource × Report)}
      {d d' d'' : δ} (hsupported : (m.record r).supported = true)
      (hreport : Reports r (m.record r).counters.keys d report d')
      (hrest : Interview m rest d' log d'') : Interview m (r :: rest) d ((r, report) :: log) d''

end Driver

namespace Report

/-- The count of an answer, up to the largest count. -/
def countOf? : Except Status Nat → Option UInt32
  | .ok n => some (UInt32.ofNat (min n 0xffffffff))
  | .error _ => none

/-- What is available in a sub-pool. Where a list names a stage and bind point more than once, the
last mention counts. -/
def available? : Report → SubPool → Option UInt32
  | counts answers, p => (answers.lookup p).bind countOf?
  | list (.ok (.aclResources resources)), p =>
    (resources.reverse.find? fun a => p = .acl a.stage a.bindPoint).map AclResource.available
  | list _, _ => none

/-- The first failure. -/
def failure? : Report → Option Status
  | counts answers => answers.findSome? fun e => statusOf? e.2
  | list answer => statusOf? answer

end Report

/-- What becomes of a record that was asked about: available counts are replaced where there is a
new one, counters are added where a list names new sub-pools, and the resource stays supported
unless the first failure says that the driver does not know it. -/
structure Refreshed (report : Report) (old new : ResourceRecord) : Prop where
  thresholds : new.thresholds = old.thresholds
  kept : ∀ p c, old.counter? p = some c →
    new.counter? p = some { c with available := (report.available? p).getD c.available }
  listed : ∀ p, old.counter? p = none →
    new.counter? p = (report.available? p).map fun n => ⟨p.objectId?.getD 0, n, 0, 0⟩
  fresh : ∀ p, old.counter? p = none → (new.counter? p).isSome → ∃ resources,
    report = .list (.ok (.aclResources resources)) ∧ ∃ a ∈ resources, p = .acl a.stage a.bindPoint
  supported : new.supported = false ↔ ∃ status, report.failure? = some status ∧
    (status = .notSupported ∨ status = .notImplemented ∨ (∃ i, status = .attrNotImplemented i) ∨
      ∃ i, status = .attrNotSupported i)

/-! ## Questions -/

section Questions

variable {δ : Type} [Driver δ]

theorem askCount_eq (id : ObjectId) (what : AttributeId) (d : δ) :
    askCount id what d =
      (asCount (Driver.readAttribute id what d).1, (Driver.readAttribute id what d).2) := by
  unfold askCount
  generalize Driver.readAttribute id what d = answered
  obtain ⟨answer, d'⟩ := answered
  cases answer with
  | ok value => rfl
  | error status => rfl

theorem replies_askObject (type : ObjectType) (qualifiers : List Qualifier)
    (fallback : Option CapacityAttribute) (d : δ) :
    Replies (.object type qualifiers fallback) .global d
      (askObject type qualifiers fallback d).1 (askObject type qualifiers fallback d).2 := by
  unfold askObject
  cases hasked : Driver.availability type qualifiers d with
  | mk answer d' =>
    cases answer with
    | ok n => exact .object hasked
    | error status =>
      cases fallback with
      | none => exact .objectAlone hasked
      | some what =>
        dsimp only
        rw [askCount_eq]
        exact .fallback hasked rfl

theorem replies_askSubPool {query : CapacityQuery} {p : SubPool}
    {ask : δ → Except Status Nat × δ} (h : askSubPool query p = some ask) (d : δ) :
    Replies query p d (ask d).1 (ask d).2 := by
  unfold askSubPool at h
  split at h
  · cases h
    rw [askCount_eq]
    exact .aclTable rfl
  · cases h
    exact .extensionTable rfl
  · cases h
    exact .dashAclRule rfl
  · cases h

/-- Every sub-pool of a resource that is neither counted for the whole switch nor listed is asked
for. -/
theorem exists_askSubPool {r : Resource} {p : SubPool} (hp : r.suits p = true)
    (hglobal : r.isGlobal = false) (hacl : r.isAcl = false) :
    ∃ ask : δ → Except Status Nat × δ, askSubPool r.query p = some ask := by
  cases p with
  | global => rw [Resource.suits, hglobal] at hp; cases hp
  | acl stage bindPoint => rw [Resource.suits, hacl] at hp; cases hp
  | aclTable id => cases r <;> first | exact ⟨_, rfl⟩ | cases hp
  | extTable name => cases r <;> first | exact ⟨_, rfl⟩ | cases hp
  | dashAclGroup id => cases r <;> first | exact ⟨_, rfl⟩ | cases hp

theorem RepliesAll.pools {query : CapacityQuery} {pools : List SubPool} {d d' : δ}
    {answers : List (SubPool × Except Status Nat)} (h : RepliesAll query pools d answers d') :
    answers.map Prod.fst = pools := by
  induction h with
  | nil => rfl
  | cons _ _ ih => rw [List.map_cons, ih]

end Questions

/-! ## What is heard -/

/-- Other resources, and what is not about resources, are left alone. -/
structure Apart (r : Resource) (m m' : Monitor) : Prop where
  others : ∀ s, s ≠ r → m'.record s = m.record s
  pollingMs : m'.pollingMs = m.pollingMs
  events : m'.events = m.events
  stats : m'.stats = m.stats

/-- Counts that are heard of a resource are stored, and nothing else changes. -/
structure Heard (r : Resource) (heard? : SubPool → Option UInt32) (m m' : Monitor) : Prop
    extends Apart r m m' where
  thresholds : (m'.record r).thresholds = (m.record r).thresholds
  supported : (m'.record r).supported = (m.record r).supported
  counters : ∀ p, m'.counter? r p =
    match heard? p with
    | some n => some { (m.record r).counterOrNew p with available := n }
    | none => m.counter? r p

section Heard

variable {r : Resource} {p : SubPool} {heard? later? : SubPool → Option UInt32}
  {m m' m'' : Monitor}

theorem Heard.refl (r : Resource) (m : Monitor) : Heard r (fun _ => none) m m :=
  ⟨⟨fun _ _ => rfl, rfl, rfl, rfl⟩, rfl, rfl, fun _ => rfl⟩

theorem Heard.trans (h : Heard r heard? m m') (h' : Heard r later? m' m'') :
    Heard r (fun p => (later? p).or (heard? p)) m m'' where
  others s hs := (h'.others s hs).trans (h.others s hs)
  pollingMs := h'.pollingMs.trans h.pollingMs
  events := h'.events.trans h.events
  stats := h'.stats.trans h.stats
  thresholds := h'.thresholds.trans h.thresholds
  supported := h'.supported.trans h.supported
  counters p := by
    have hfirst := h.counters p
    have hsecond := h'.counters p
    cases hlater : later? p with
    | none =>
      rw [hlater] at hsecond
      exact hsecond.trans hfirst
    | some n =>
      rw [hlater] at hsecond
      refine hsecond.trans ?_
      have hnew : ∀ m : Monitor, (m.record r).counterOrNew p =
          (m.counter? r p).getD (.new (p.objectId?.getD 0)) := fun _ => rfl
      rw [hnew, hfirst]
      cases heard? p <;> rfl

theorem Heard.congr (h : Heard r heard? m m') (heq : ∀ p, later? p = heard? p) :
    Heard r later? m m' := by
  rw [funext heq]
  exact h

theorem heard_setAvailable (m : Monitor) (r : Resource) (p : SubPool) (available : Nat) :
    Heard r (fun q => if p = q then some (UInt32.ofNat (min available 0xffffffff)) else none) m
      (m.setAvailable r p available) where
  others s hs := record_modifyRecord_of_ne m _ (Ne.symm hs)
  pollingMs := rfl
  events := rfl
  stats := rfl
  thresholds := by
    rw [setAvailable, record_modifyRecord_self]
    rfl
  supported := by
    rw [setAvailable, record_modifyRecord_self]
    rfl
  counters q := by
    rw [counter?_setAvailable]
    by_cases hq : p = q <;> simp [hq]

theorem clipped_toNat (n : UInt32) : UInt32.ofNat (min n.toNat 0xffffffff) = n := by
  have hlt := n.toNat_lt
  have hmin : min n.toNat 0xffffffff = n.toNat := by omega
  rw [hmin, UInt32.ofNat_toNat]

theorem heard_setAclResources (r : Resource) (resources : List AclResource) (m : Monitor) :
    Heard r (Report.available? (.list (.ok (.aclResources resources)))) m
      (m.setAclResources r resources) := by
  induction resources generalizing m with
  | nil => exact .refl r m
  | cons a rest ih =>
    have hhead := heard_setAvailable m r (.acl a.stage a.bindPoint) a.available.toNat
    rw [clipped_toNat] at hhead
    refine (hhead.trans (ih _)).congr fun p => ?_
    simp only [Report.available?, List.reverse_cons, List.find?_append, Option.map_or]
    by_cases hp : p = .acl a.stage a.bindPoint <;> simp [hp, Ne.symm]

theorem available?_cons_self (p : SubPool) (answer : Except Status Nat)
    (answers : List (SubPool × Except Status Nat)) :
    Report.available? (.counts ((p, answer) :: answers)) p = Report.countOf? answer := by
  rw [Report.available?, List.lookup_cons, beq_self_eq_true]
  rfl

theorem available?_cons_of_ne {q : SubPool} (h : p ≠ q) (answer : Except Status Nat)
    (answers : List (SubPool × Except Status Nat)) :
    Report.available? (.counts ((q, answer) :: answers)) p =
      Report.available? (.counts answers) p := by
  rw [Report.available?, List.lookup_cons, beq_eq_false_iff_ne.2 h]
  rfl

theorem available?_of_notMem {answers : List (SubPool × Except Status Nat)}
    (h : p ∉ answers.map Prod.fst) : Report.available? (.counts answers) p = none := by
  induction answers with
  | nil => rfl
  | cons e rest ih =>
    rw [List.map_cons, List.mem_cons, not_or] at h
    exact (available?_cons_of_ne h.1 e.2 rest).trans (ih h.2)

/-- An answer is stored, or handed back as a failure. -/
theorem heard_storeAnswer (m : Monitor) (r : Resource) (p : SubPool) (answer : Except Status Nat) :
    Heard r (Report.available? (.counts [(p, answer)])) m (m.storeAnswer r p answer).2 ∧
      (m.storeAnswer r p answer).1 = Report.failure? (.counts [(p, answer)]) := by
  have hone : ∀ q, Report.available? (.counts [(p, answer)]) q =
      if p = q then Report.countOf? answer else none := by
    intro q
    by_cases hq : p = q
    · subst hq
      rw [available?_cons_self, if_pos rfl]
    · rw [available?_cons_of_ne (Ne.symm hq), if_neg hq]
      rfl
  cases answer with
  | ok available => exact ⟨(heard_setAvailable m r p available).congr hone, rfl⟩
  | error status => exact ⟨(Heard.refl r m).congr fun q => (hone q).trans (ite_self _), rfl⟩

/-- The answers about different sub-pools tell what each tells alone. -/
theorem available?_cons {answer : Except Status Nat} {answers : List (SubPool × Except Status Nat)}
    {q : SubPool} (h : q ∉ answers.map Prod.fst) (p : SubPool) :
    Report.available? (.counts ((q, answer) :: answers)) p =
      (Report.available? (.counts answers) p).or (Report.available? (.counts [(q, answer)]) p) := by
  by_cases hp : p = q
  · subst hp
    rw [available?_of_notMem h, available?_cons_self, available?_cons_self, Option.none_or]
  · rw [available?_cons_of_ne hp, available?_cons_of_ne hp]
    exact Option.or_none.symm

end Heard

section Polls

variable {δ : Type} [Driver δ] {m : Monitor} {r : Resource}

/-- Every sub-pool is asked for, whatever the answers about the ones before it. -/
theorem pollSubPools_report (hglobal : r.isGlobal = false) (hacl : r.isAcl = false)
    {pools : List SubPool} (hnodup : pools.Nodup) (hsuits : ∀ p ∈ pools, r.suits p = true)
    (m : Monitor) (d : δ) :
    ∃ answers, RepliesAll r.query pools d answers (pollSubPools r pools m d).2.2 ∧
      (pollSubPools r pools m d).1 = Report.failure? (.counts answers) ∧
      Heard r (Report.available? (.counts answers)) m (pollSubPools r pools m d).2.1 := by
  induction pools generalizing m d with
  | nil => exact ⟨[], .nil, rfl, .refl r m⟩
  | cons p rest ih =>
    rw [List.nodup_cons] at hnodup
    rw [List.forall_mem_cons] at hsuits
    obtain ⟨ask, hask⟩ : ∃ ask : δ → Except Status Nat × δ, askSubPool r.query p = some ask :=
      exists_askSubPool hsuits.1 hglobal hacl
    obtain ⟨hfirst, hstatus⟩ := heard_storeAnswer m r p (ask d).1
    obtain ⟨answers, hreplies, hfailure, hheard⟩ :=
      ih hnodup.2 hsuits.2 (m.storeAnswer r p (ask d).1).2 (ask d).2
    have habsent : p ∉ answers.map Prod.fst := by
      rw [hreplies.pools]
      exact hnodup.1
    refine ⟨(p, (ask d).1) :: answers, ?_, ?_, ?_⟩ <;> simp only [pollSubPools, hask]
    · exact .cons (replies_askSubPool hask d) hreplies
    · rw [hstatus, hfailure]
      cases (ask d).1 <;> rfl
    · exact (hfirst.trans hheard).congr (available?_cons habsent)

/-- A resource of the whole switch is asked for once. -/
theorem storeAnswer_report (h : m.Tidy) (hr : r.isGlobal = true) {answer : Except Status Nat}
    {d d' : δ} (hreplies : Replies r.query .global d answer d') :
    ∃ report, Reports r (m.record r).counters.keys d report d' ∧
      (m.storeAnswer r .global answer).1 = report.failure? ∧
      Heard r report.available? m (m.storeAnswer r .global answer).2 := by
  have hquery : ∀ what, r.query ≠ .aclList what := by
    intro what hlist
    simp [Resource.isGlobal, hlist] at hr
  obtain ⟨hheard, hstatus⟩ := heard_storeAnswer m r .global answer
  refine ⟨.counts [(.global, answer)], ?_, hstatus, hheard⟩
  rw [h.keys_of_isGlobal hr]
  exact .counts hquery (.cons hreplies .nil)

/-- Asking for what is left of a resource is hearing what the driver replies, and storing it. -/
theorem queryResource_report (h : m.Tidy) (r : Resource) (d : δ) :
    ∃ report, Reports r (m.record r).counters.keys d report (queryResource r m d).2.2 ∧
      (queryResource r m d).1 = report.failure? ∧
      Heard r report.available? m (queryResource r m d).2.1 := by
  have hpools : r.isGlobal = false → (∀ what, r.query ≠ .aclList what) →
      ∃ report, Reports r (m.record r).counters.keys d report
          (pollSubPools r (m.record r).counters.keys m d).2.2 ∧
        (pollSubPools r (m.record r).counters.keys m d).1 = report.failure? ∧
        Heard r report.available? m (pollSubPools r (m.record r).counters.keys m d).2.1 := by
    intro hglobal hlist
    have hacl : r.isAcl = false := by cases r <;> first | rfl | exact absurd rfl (hlist _)
    obtain ⟨answers, hreplies, hfailure, hheard⟩ := pollSubPools_report hglobal hacl
      (m.record r).counters.nodup (fun p hp => (h r).suits p (isSome_of_mem_keys hp)) m d
    exact ⟨.counts answers, .counts hlist hreplies, hfailure, hheard⟩
  unfold queryResource
  split
  · next type qualifiers fallback hquery =>
    apply storeAnswer_report h
    · simp only [Resource.isGlobal, hquery]
    · rw [hquery]
      exact replies_askObject type qualifiers fallback d
  · next what hquery =>
    apply storeAnswer_report h
    · simp only [Resource.isGlobal, hquery]
    · rw [hquery, askCount_eq]
      exact .switch rfl
  · next what hquery =>
    split
    · next resources d' hread =>
      exact ⟨.list (.ok (.aclResources resources)), .list hquery hread, rfl,
        heard_setAclResources r resources m⟩
    · next value d' hother hread =>
      refine ⟨.list (.ok value), .list hquery hread, rfl, (Heard.refl r m).congr fun p => ?_⟩
      cases value with
      | aclResources resources => exact absurd rfl (hother resources)
      | _ => rfl
    · next status d' hread =>
      exact ⟨.list (.error status), .list hquery hread, rfl, .refl r m⟩
  all_goals
    next hquery =>
      apply hpools
      · simp only [Resource.isGlobal, hquery]
      · rw [hquery]
        exact fun _ => CapacityQuery.noConfusion

/-! ## What becomes of a record -/

theorem isNotSupported_iff (status : Status) : status.isNotSupported = true ↔
    status = .notSupported ∨ status = .notImplemented ∨ (∃ i, status = .attrNotImplemented i) ∨
      ∃ i, status = .attrNotSupported i := by
  cases status <;> simp [Status.isNotSupported]

theorem Reports.tracked {pools : List SubPool} {report : Report} {p : SubPool} {d d' : δ}
    (h : Reports r pools d report d') (hp : (report.available? p).isSome) :
    p ∈ pools ∨ ∃ resources, report = .list (.ok (.aclResources resources)) ∧
      ∃ a ∈ resources, p = .acl a.stage a.bindPoint := by
  cases h with
  | counts _ hall =>
    left
    by_contra hnot
    rw [available?_of_notMem (hall.pools ▸ hnot)] at hp
    cases hp
  | @list _ answer _ _ _ =>
    right
    cases answer with
    | error status => cases hp
    | ok value =>
      cases value with
      | aclResources resources =>
        rw [Report.available?, Option.isSome_map, List.find?_isSome] at hp
        obtain ⟨a, ha, heq⟩ := hp
        exact ⟨resources, rfl, a, List.mem_reverse.1 ha, of_decide_eq_true heq⟩
      | _ => cases hp

theorem refreshed_of_heard {m' : Monitor} {report : Report} {new : ResourceRecord} {d d' : δ}
    (hreport : Reports r (m.record r).counters.keys d report d')
    (hheard : Heard r report.available? m m')
    (hthresholds : new.thresholds = (m'.record r).thresholds)
    (hcounters : ∀ p, new.counter? p = m'.counter? r p)
    (hnew : new.supported = !(report.failure?.any Status.isNotSupported)) :
    Refreshed report (m.record r) new where
  thresholds := hthresholds.trans hheard.thresholds
  kept p c hc := by
    have hcounter : m.counter? r p = some c := hc
    rw [hcounters, hheard.counters]
    cases report.available? p with
    | none => exact hcounter
    | some n =>
      rw [ResourceRecord.counterOrNew, hc]
      rfl
  listed p hnone := by
    have hcounter : m.counter? r p = none := hnone
    rw [hcounters, hheard.counters]
    cases report.available? p with
    | none => exact hcounter
    | some n =>
      rw [ResourceRecord.counterOrNew, hnone]
      rfl
  fresh p hnone hsome := by
    have hcounter : m.counter? r p = none := hnone
    rw [hcounters, hheard.counters] at hsome
    refine (hreport.tracked (p := p) ?_).resolve_left (Table.get?_eq_none_iff.1 hnone)
    cases havailable : report.available? p with
    | some n => rfl
    | none =>
      rw [havailable] at hsome
      simp only [hcounter] at hsome
      cases hsome
  supported := by
    simp only [← isNotSupported_iff]
    rw [hnew]
    cases report.failure? with
    | none => simp
    | some status => simp

/-- A supported resource is asked about, and its record refreshed. -/
theorem pollResource_report (h : m.Tidy) (hsupported : (m.record r).supported = true) (d : δ) :
    ∃ report, Reports r (m.record r).counters.keys d report (pollResource r m d).2 ∧
      Refreshed report (m.record r) ((pollResource r m d).1.record r) ∧
      Apart r m (pollResource r m d).1 := by
  obtain ⟨report, hreport, hfailure, hheard⟩ := queryResource_report h r d
  refine ⟨report, ?_⟩
  unfold pollResource
  rw [if_pos hsupported]
  cases hqueried : queryResource r m d with
  | mk failure rest =>
    obtain ⟨m', d'⟩ := rest
    rw [hqueried] at hreport hfailure hheard
    dsimp only at hreport hfailure hheard
    have hstill : (m'.record r).supported = true := hheard.supported.trans hsupported
    cases failure with
    | none =>
      exact ⟨hreport, refreshed_of_heard hreport hheard rfl (fun _ => rfl)
        (by rw [hstill, ← hfailure]; rfl), hheard.toApart⟩
    | some status =>
      refine ⟨hreport, ?_⟩
      dsimp only
      split
      · next hgiveUp =>
        refine ⟨refreshed_of_heard hreport hheard ?_ (fun p => ?_) ?_, ?_⟩
        · rw [record_giveUp_self]
        · rw [record_giveUp_self]
          rfl
        · rw [record_giveUp_self, ← hfailure, Option.any_some, hgiveUp]
          rfl
        · exact ⟨fun s hs => (record_giveUp_of_ne m' (Ne.symm hs)).trans (hheard.others s hs),
            hheard.pollingMs, hheard.events, hheard.stats⟩
      · next hkeep =>
        exact ⟨refreshed_of_heard hreport hheard rfl (fun _ => rfl)
          (by rw [hstill, ← hfailure, Option.any_some, Bool.eq_false_iff.2 hkeep]; rfl),
          hheard.toApart⟩

/-! ## All resources -/

theorem Interview.congr {m' : Monitor} {rs : List Resource} {log : List (Resource × Report)}
    {d d' : δ} (h : Interview m rs d log d') (heq : ∀ r ∈ rs, m'.record r = m.record r) :
    Interview m' rs d log d' := by
  induction h with
  | nil => exact .nil
  | pass hunsupported _ ih =>
    rw [List.forall_mem_cons] at heq
    exact .pass (by rw [heq.1, hunsupported]) (ih heq.2)
  | ask hsupported hreport _ ih =>
    rw [List.forall_mem_cons] at heq
    exact .ask (by rw [heq.1, hsupported]) (by rwa [heq.1]) (ih heq.2)

/-- The transcript has the supported resources in order. -/
theorem Interview.asked {rs : List Resource} {log : List (Resource × Report)} {d d' : δ}
    (h : Interview m rs d log d') :
    log.map Prod.fst = rs.filter fun r => (m.record r).supported := by
  induction h with
  | nil => rfl
  | pass hunsupported _ ih => rw [List.filter_cons_of_neg (by simp [hunsupported]), ih]
  | ask hsupported _ _ ih => rw [List.filter_cons_of_pos (by simp [hsupported]), List.map_cons, ih]

/-- Every report of the transcript was given by the driver at some time. -/
theorem Interview.reports {rs : List Resource} {log : List (Resource × Report)} {report : Report}
    {d d' : δ} (h : Interview m rs d log d') (hmem : (r, report) ∈ log) :
    ∃ before after : δ, Reports r (m.record r).counters.keys before report after := by
  induction h with
  | nil => cases hmem
  | pass _ _ ih => exact ih hmem
  | ask _ hreport _ ih =>
    rcases List.mem_cons.1 hmem with heq | hrest
    · cases heq
      exact ⟨_, _, hreport⟩
    · exact ih hrest

/-- What a poll of some resources makes of the monitor, told by its transcript. -/
structure Informed (m : Monitor) (log : List (Resource × Report)) (m' : Monitor) : Prop where
  asked : ∀ r report, (r, report) ∈ log → Refreshed report (m.record r) (m'.record r)
  passed : ∀ r, r ∉ log.map Prod.fst → m'.record r = m.record r
  pollingMs : m'.pollingMs = m.pollingMs
  events : m'.events = m.events
  stats : m'.stats = m.stats

theorem pollEach_interview {rs : List Resource} (hnodup : rs.Nodup) (h : m.Tidy) (d : δ) :
    ∃ log, Interview m rs d log (pollEach rs m d).2 ∧ Informed m log (pollEach rs m d).1 := by
  induction rs generalizing m d with
  | nil =>
    have hempty : Informed m [] m :=
      ⟨fun _ _ hmem => absurd hmem List.not_mem_nil, fun _ _ => rfl, rfl, rfl, rfl⟩
    exact ⟨[], .nil, hempty⟩
  | cons r rest ih =>
    rw [List.nodup_cons] at hnodup
    by_cases hsupported : (m.record r).supported = true
    · obtain ⟨report, hreport, hrefreshed, hapart⟩ := pollResource_report h hsupported d
      have htidy : (pollResource r m d).1.Tidy :=
        tidy_of_upkeep (upkeep_of_polling (polling_pollResource r m d)) h
      obtain ⟨log, hinterview, hlater⟩ := ih hnodup.2 htidy (pollResource r m d).2
      have hothers : ∀ s ∈ rest, m.record s = (pollResource r m d).1.record s := by
        intro s hs
        exact (hapart.others s fun heq => hnodup.1 (heq ▸ hs)).symm
      have hrest : ∀ s ∈ log.map Prod.fst, s ∈ rest := by
        intro s hs
        rw [hinterview.asked] at hs
        exact List.mem_of_mem_filter hs
      refine ⟨(r, report) :: log, .ask hsupported hreport (hinterview.congr hothers), ?_, ?_,
        hlater.pollingMs.trans hapart.pollingMs, hlater.events.trans hapart.events,
        hlater.stats.trans hapart.stats⟩
      · intro s told hs
        rcases List.mem_cons.1 hs with heq | hs
        · cases heq
          have hdone := hlater.passed r fun hr => hnodup.1 (hrest r hr)
          exact hdone ▸ hrefreshed
        · rw [hothers s (hrest s (List.mem_map_of_mem hs))]
          exact hlater.asked s told hs
      · intro s hs
        rw [List.map_cons, List.mem_cons, not_or] at hs
        exact (hlater.passed s hs.2).trans (hapart.others s hs.1)
    · have hpass : pollResource r m d = (m, d) := if_neg hsupported
      have hpoll : pollEach (r :: rest) m d = pollEach rest m d := by
        simp only [pollEach, hpass]
      obtain ⟨log, hinterview, hlater⟩ := ih hnodup.2 h d
      rw [hpoll]
      exact ⟨log, .pass (by simpa using hsupported) hinterview, hlater⟩

end Polls

end Monitor

end DashAgent
