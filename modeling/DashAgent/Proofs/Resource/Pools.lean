import DashAgent.Proofs.Resource.Postings

/-!
# Tracked sub-pools

Along every sequence of calls a resource tracks only sub-pools that suit it, in their order, and a
resource of the whole switch tracks the whole switch. `Tidy` says so, and is kept by every step.
-/
namespace DashAgent

/-! ## The order of sub-pools -/

namespace SubPool

/-- The place of a kind of sub-pool among the others. -/
def kindRank : SubPool → Nat
  | global => 0
  | acl .. => 1
  | aclTable _ => 2
  | extTable _ => 3
  | dashAclGroup _ => 4

/-- The place of a sub-pool that goes by a number among those of its kind. -/
def numberRank : SubPool → UInt64
  | acl stage bindPoint => UInt64.ofNat (5 * stage.ctorIdx + bindPoint.ctorIdx)
  | aclTable id | dashAclGroup id => id
  | global | extTable _ => 0

/-- The place of a sub-pool that goes by a name among those of its kind. -/
def nameRank : SubPool → String
  | extTable name => name
  | _ => ""

/-- Sub-pools are ordered by kind, then by number or name. -/
theorem compare_eq : (compare : SubPool → SubPool → Ordering) =
    compareLex (compareOn kindRank) (compareLex (compareOn numberRank) (compareOn nameRank)) := by
  funext p q
  have hnumbers : ∀ a b : ObjectId, compare (aclTable a) (aclTable b) = compare a b ∧
      compare (dashAclGroup a) (dashAclGroup b) = compare a b := by
    simp [compare, instOrdSubPool.ord]
  have hnames : ∀ a b : String, compare (extTable a) (extTable b) = compare a b := by
    simp [compare, instOrdSubPool.ord]
  cases p <;> cases q
  case acl.acl s b s' b' => cases s <;> cases s' <;> cases b <;> cases b' <;> rfl
  case aclTable.aclTable a b =>
    simp [hnumbers, compareLex, compareOn, kindRank, numberRank, nameRank]
  case extTable.extTable a b =>
    simp [hnames, compareLex, compareOn, kindRank, numberRank, nameRank]
  case dashAclGroup.dashAclGroup a b =>
    simp [hnumbers, compareLex, compareOn, kindRank, numberRank, nameRank]
  all_goals rfl

instance : Std.TransOrd SubPool := by
  unfold Std.TransOrd
  rw [compare_eq]
  infer_instance

theorem eq_of_ranks {p q : SubPool} (hkind : p.kindRank = q.kindRank)
    (hnumber : p.numberRank = q.numberRank) (hname : p.nameRank = q.nameRank) : p = q := by
  cases p <;> cases q <;> try cases hkind
  case global.global => rfl
  case acl.acl s b s' b' =>
    cases s <;> cases s' <;> cases b <;> cases b' <;>
      first
      | rfl
      | exact absurd hnumber (by decide)
  case aclTable.aclTable a b => exact congrArg aclTable hnumber
  case extTable.extTable a b => exact congrArg extTable hname
  case dashAclGroup.dashAclGroup a b => exact congrArg dashAclGroup hnumber

instance : Std.LawfulEqOrd SubPool where
  eq_of_compare {p q} h := by
    rw [compare_eq] at h
    simp only [compareLex, compareOn, Ordering.then_eq_eq, Std.LawfulEqOrd.compare_eq_iff_eq] at h
    exact eq_of_ranks h.1 h.2.1 h.2.2

end SubPool

/-- A resource of the whole switch is counted nowhere else. -/
theorem Resource.eq_global_of_suits {r : Resource} {p : SubPool} (hr : r.isGlobal = true)
    (hp : r.suits p = true) : p = .global := by
  cases p with
  | global => rfl
  | _ => cases r <;> first | (cases hr; done) | cases hp

/-! ## Tidy records -/

/-- The sub-pools of a record suit its resource and stand in their order, and the whole switch is
among them if it does. -/
structure ResourceRecord.Tidy (r : Resource) (x : ResourceRecord) : Prop where
  suits : ∀ p, (x.counter? p).isSome → r.suits p = true
  whole : r.isGlobal = true → (x.counter? .global).isSome
  ascending : x.counters.Ascending

namespace ResourceRecord

variable {r : Resource} {p : SubPool} {x y : ResourceRecord}

theorem tidy_new (r : Resource) : (ResourceRecord.new r).Tidy r where
  suits p hp := by
    rw [counter?_new] at hp
    split at hp
    · next h => exact h.2 ▸ h.1
    · cases hp
  whole hr := by
    rw [counter?_new, if_pos ⟨hr, rfl⟩]
    rfl
  ascending := by
    unfold ResourceRecord.new
    split
    · exact Table.ascending_empty.insert ..
    · exact Table.ascending_empty

theorem Tidy.setCounter (h : x.Tidy r) (hp : r.suits p = true) (c : Counter) :
    (x.setCounter p c).Tidy r := by
  refine ⟨fun q hq => ?_, fun hr => ?_, h.ascending.insert p c⟩ <;>
    simp only [counter?, ResourceRecord.setCounter] at *
  · by_cases heq : p = q
    · exact heq ▸ hp
    · rw [Table.get?_insert_of_ne _ heq] at hq
      exact h.suits q hq
  · by_cases heq : p = .global
    · rw [heq, Table.get?_insert_self]
      rfl
    · rw [Table.get?_insert_of_ne _ heq]
      exact h.whole hr

theorem Tidy.ensure (h : x.Tidy r) (hp : r.suits p = true) : (x.ensure p).Tidy r := by
  obtain ⟨-, hsame⟩ | hset := x.ensure_cases p
  · rwa [hsame]
  · rw [hset]
    exact h.setCounter hp _

theorem Tidy.dropCounter (h : x.Tidy r) (hp : p ≠ .global) : (x.dropCounter p).Tidy r := by
  refine ⟨fun q hq => ?_, fun hr => ?_, h.ascending.erase p⟩ <;>
    simp only [counter?, ResourceRecord.dropCounter] at *
  · by_cases heq : p = q
    · rw [heq, Table.get?_erase_self] at hq
      cases hq
    · rw [Table.get?_erase_of_ne heq] at hq
      exact h.suits q hq
  · rw [Table.get?_erase_of_ne hp]
    exact h.whole hr

/-- Counters that are changed where they are stay tidy. -/
theorem Tidy.mapValues (h : x.Tidy r) {f : Counter → Counter}
    (hy : y.counters = x.counters ∨ y.counters = x.counters.mapValues f) : y.Tidy r := by
  have hsame : ∀ p, (y.counter? p).isSome = (x.counter? p).isSome := by
    intro p
    obtain hy | hy := hy
    · rw [counter?, hy]
      rfl
    · rw [counter?, hy, Table.get?_mapValues, Option.isSome_map]
      rfl
  refine ⟨fun p hp => h.suits p (hsame p ▸ hp), fun hr => (hsame .global).trans (h.whole hr), ?_⟩
  obtain hy | hy := hy
  · exact hy ▸ h.ascending
  · exact hy ▸ (Table.ascending_mapValues ..).2 h.ascending

end ResourceRecord

namespace Monitor

/-- All records are tidy. -/
def Tidy (m : Monitor) : Prop := ∀ r, (m.record r).Tidy r

variable {m m' : Monitor} {r : Resource} {p : SubPool}

theorem Tidy.of_records (h : m.Tidy) (hrecords : m'.records = m.records) : m'.Tidy :=
  fun r => record_congr hrecords r ▸ h r

theorem Tidy.of_modify {f : ResourceRecord → ResourceRecord} (h : m.Tidy)
    (hrecords : m'.records = m.records.modify r f) (hf : (f (m.record r)).Tidy r) : m'.Tidy := by
  obtain ⟨hself, hother⟩ := record_of_modify hrecords
  intro s
  by_cases hs : r = s
  · subst hs
    rw [hself]
    exact hf
  · rw [hother hs]
    exact h s

/-! ## Upkeep -/

theorem Chore.tidy (hchore : Chore m m') (h : m.Tidy) : m'.Tidy := by
  cases hchore with
  | poll step =>
    cases step with
    | @learn r p available hsuits _ =>
      exact h.of_modify (r := r) (f := fun x => x.setCounter p _) rfl ((h r).setCounter hsuits _)
    | giveUp r =>
      exact h.of_modify (f := fun x => { x with supported := false }) rfl
        ((h r).mapValues (f := id) (.inl rfl))
  | routine step =>
    cases step with
    | install r t =>
      refine h.of_modify (f := applyThresholds t) rfl ((h r).mapValues (f := fun c =>
        { c with exceededCount := 0 }) ?_)
      unfold applyThresholds
      dsimp only
      split
      · exact .inl rfl
      · exact .inr rfl
    | setPollingMs ms => exact h.of_records rfl
    | publish => exact h.of_records rfl
    | check r =>
      unfold checkResource
      dsimp only
      split
      · let checked : Counter → Counter := fun c => (c.check (m.record r).thresholds).2
        exact h.of_modify (f := fun x => { x with counters := x.counters.mapValues checked }) rfl
          ((h r).mapValues (f := checked) (.inr rfl))
      · exact h
    | tick => exact h.of_records rfl

theorem tidy_of_upkeep (hupkeep : Upkeep m m') (h : m.Tidy) : m'.Tidy := by
  induction hupkeep with
  | refl => exact h
  | tail _ chore ih => exact chore.tidy ih

/-! ## Accounting -/

theorem tidy_countUp (h : m.Tidy) (hp : r.suits p = true) : (m.countUp r p).2.Tidy :=
  h.of_modify (f := fun x => x.setCounter p _) rfl ((h r).setCounter hp _)

theorem tidy_countDown (h : m.Tidy) (hp : r.suits p = true) : (m.countDown r p).2.Tidy := by
  obtain ⟨-, heq⟩ | ⟨c, -, -, heq⟩ | ⟨c, -, -, heq⟩ := countDown_cases m r p <;> rw [heq]
  · exact h
  · exact h
  · exact h.of_modify (f := fun x => x.setCounter p _) rfl ((h r).setCounter hp _)

theorem tidy_dropSubPool (h : m.Tidy) (hp : p ≠ .global) : (m.dropSubPool r p).Tidy :=
  h.of_modify (f := fun x => x.dropCounter p) rfl ((h r).dropCounter hp)

theorem Cascade.tidy_drop {c : Cascade} (h : m.Tidy) (hp : c.subPool ≠ .global) :
    (c.drop m).Tidy := by
  have hdropped : (c.resources.foldl (fun m r => m.dropSubPool r c.subPool) m).Tidy := by
    generalize c.resources = rs
    induction rs generalizing m with
    | nil => exact h
    | cons r rest ih => exact ih (tidy_dropSubPool h hp)
  exact hdropped.of_records rfl

/-- The sub-pools of a posting suit their resources, and what is taken along is neither the whole
switch nor the sub-pool that is counted in. -/
def Posting.Fits : Posting → Prop
  | refused .. => True
  | up r p seed => r.suits p = true ∧ ∀ s q, seed = some (s, q) → s.suits q = true
  | down r p along =>
    r.suits p = true ∧ ∀ c, along = some c → c.subPool ≠ .global ∧ c.subPool ≠ p

theorem Posting.Fits.checked {use : AccountingUse} {posting : Posting}
    (h : use.admits r = true → posting.Fits) : (Posting.checked use r posting).Fits := by
  unfold Posting.checked
  split
  · next hadmits => exact h hadmits
  · trivial

theorem suits_dashAclPool (hr : AccountingUse.dashAcl.admits r = true) (group : ObjectId) :
    r.suits (Call.dashAclPool r group) = true := by
  cases r <;> first | rfl | cases hr

theorem suits_of_seeds? {call : Call} {s : Resource} {q : SubPool}
    (h : call.seeds? = some (s, q)) : s.suits q = true := by
  cases call with
  | incrementDashAcl r group =>
    obtain ⟨rule, hrule, heq⟩ := Option.map_eq_some_iff.1 h
    cases heq
    cases r <;> cases hrule <;> rfl
  | _ => cases h

theorem fits_of_posting? {call : Call} {posting : Posting} (h : call.posting? = some posting) :
    posting.Fits := by
  cases call <;> cases h
  case incrementUsed | incrementAcl | incrementAclTable =>
    exact .checked fun hr => ⟨hr, fun _ _ h => nomatch h⟩
  case decrementUsed | decrementAclTable => exact .checked fun hr => ⟨hr, fun _ h => nomatch h⟩
  case decrementAcl r stage bindPoint table =>
    refine .checked fun hr => ⟨hr, fun c hc => ?_⟩
    simp only [Call.removes?] at hc
    split at hc <;> cases hc
    exact ⟨SubPool.noConfusion, SubPool.noConfusion⟩
  case incrementExtTable => exact ⟨rfl, fun _ _ h => nomatch h⟩
  case decrementExtTable => exact ⟨rfl, fun _ h => nomatch h⟩
  case incrementDashAcl =>
    exact .checked fun hr => ⟨suits_dashAclPool hr _, fun _ _ => suits_of_seeds?⟩
  case decrementDashAcl r group =>
    refine .checked fun hr => ⟨suits_dashAclPool hr _, fun c hc => ?_⟩
    obtain ⟨rule, hrule, rfl⟩ := Option.map_eq_some_iff.1 hc
    have hpool : Call.dashAclPool r group = .global := by
      cases r <;> first | rfl | cases hrule
    rw [hpool]
    exact ⟨SubPool.noConfusion, SubPool.noConfusion⟩

theorem Posting.tidy_perform {posting : Posting} (hfits : posting.Fits) (h : m.Tidy) :
    (posting.perform m).2.Tidy := by
  cases posting with
  | refused r use => exact h
  | up r p seed =>
    have hup : (m.countUp r p).2.Tidy := tidy_countUp h hfits.1
    cases seed with
    | none => exact hup
    | some seeded =>
      obtain ⟨s, q⟩ := seeded
      exact hup.of_modify (f := fun x => x.ensure q) rfl ((hup s).ensure (hfits.2 s q rfl))
  | down r p along =>
    have hdown : (m.countDown r p).2.Tidy := tidy_countDown h hfits.1
    cases along with
    | none => exact hdown
    | some c => exact Cascade.tidy_drop hdown (hfits.2 c rfl).1

theorem tidy_apply {δ : Type} [Driver δ] (call : Call) (h : m.Tidy) (d : δ) :
    (call.apply m d).Tidy := by
  cases hposting : call.posting? with
  | none => exact tidy_of_upkeep (upkeep_apply hposting m d) h
  | some posting =>
    rw [apply_of_posting? hposting]
    exact Posting.tidy_perform (fits_of_posting? hposting) h

theorem tidy_new (pollingMs : Nat) (telemetry : Telemetry) :
    (Monitor.new pollingMs telemetry).Tidy := by
  intro r
  rw [record_new]
  exact ResourceRecord.tidy_new r

theorem Leads.tidy {allowed : Call → Prop} (hleads : Leads allowed m m') (h : m.Tidy) :
    m'.Tidy := by
  induction hleads with
  | refl => exact h
  | call call d _ _ ih => exact tidy_apply call ih d

/-- A resource of the whole switch tracks nothing else. -/
theorem Tidy.keys_of_isGlobal (h : m.Tidy) (hr : r.isGlobal = true) :
    (m.record r).counters.keys = [.global] := by
  have hall : ∀ p ∈ (m.record r).counters.keys, p = .global := by
    intro p hp
    exact Resource.eq_global_of_suits hr ((h r).suits p (isSome_of_mem_keys hp))
  have hmem : SubPool.global ∈ (m.record r).counters.keys := by
    by_contra hnone
    have hwhole := (h r).whole hr
    rw [ResourceRecord.counter?, Table.get?_eq_none_iff.2 hnone] at hwhole
    cases hwhole
  have hnodup : (m.record r).counters.keys.Nodup := (m.record r).counters.nodup
  cases hkeys : (m.record r).counters.keys with
  | nil => simp [hkeys] at hmem
  | cons p rest =>
    rw [hkeys] at hall hnodup
    obtain rfl := hall p (List.mem_cons_self ..)
    cases rest with
    | nil => rfl
    | cons q rest =>
      obtain rfl := hall q (by simp)
      simp at hnodup

end Monitor

end DashAgent
