import DashAgent.Proofs.Switch.History
import DashAgent.Proofs.Switch.Settings
import DashAgent.Proofs.Switch.Watch

/-!
# A switch is what its history tells

A simulated switch holds of every type the keys that were created with success and not removed with
success since, each once, and answers every request as the law of its history has it. Identifiers
are given exactly with the successful creates that leave them to the switch, and never twice: every
number is used once, and stands in an identifier beside that of the type. Main theorem:
`history_sound`.
-/
namespace DashAgent

/-! ## Tables -/

namespace Pool

variable {p : Pool} {size : Nat} {key key' : ObjectKey}

def next (p : Pool) : Pool := { p with forced := p.forced.tail }

/-- The first queued status is taken, and a failure is the answer. -/
theorem takeForced_eq (p : Pool) :
    p.takeForced = (p.forced.head?.filter fun status => !status.isSuccess, p.next) := by
  obtain ⟨objects, capacity, forced, supported, availability⟩ := p
  cases forced with
  | nil => rfl
  | cons status rest =>
    cases hsuccess : status.isSuccess <;> simp [takeForced, next, Option.filter, hsuccess]

theorem add_eq_success_iff :
    (p.add size key).1 = .success ↔ key ∉ p.objects ∧ p.objects.length < size := by
  unfold add
  split
  · next hmem => simp [hmem]
  · next hnew =>
    split
    · next hfull => simp [hfull]
    · next hroom => simp [hnew, Nat.lt_of_not_le hroom]

theorem mem_objects_add_iff : key' ∈ (p.add size key).2.objects ↔
    (p.add size key).1 = .success ∧ key' = key ∨ key' ∈ p.objects := by
  unfold add
  repeat' split
  all_goals simp

theorem take_eq_success_iff : (p.take key).1 = .success ↔ key ∈ p.objects := by
  unfold take
  split <;> simp [*]

theorem mem_objects_take_iff (h : p.objects.Nodup) : key' ∈ (p.take key).2.objects ↔
    key' ∈ p.objects ∧ ¬((p.take key).1 = .success ∧ key' = key) := by
  unfold take
  split
  · simp [h.mem_erase_iff, and_comm]
  · simp

end Pool

namespace Simulator

/-! ## One exchange more -/

/-- The switch is as its history tells. -/
structure Records (size : Nat) (log : List Exchange) (s : Simulator) : Prop where
  lawful : ∀ before x after, log = before ++ x :: after → Law size before x
  nodup : ∀ type, (s.objects type).Nodup
  objects : ∀ type key, key ∈ s.objects type ↔ Held type log key
  sizes : ∀ type, s.capacityOf type = sizeIn size type log
  queues : ∀ type, (s.pools.get type).forced = queueIn type log
  numbers : s.nextId.toNat ≤ creates log + 1
  issued : ∀ id ∈ given log, ∃ type m, m.toNat < s.nextId.toNat ∧ id = issuedId type m

section Records

variable {size : Nat} {log : List Exchange} {s : Simulator} {type : ObjectType}

theorem records_new (size : Nat) : Records size [] (new size) where
  lawful before x after heq := by simp at heq
  nodup type := by simp [new, objects, Pool.unused]
  objects type key := by simp [new, objects, Pool.unused, not_held_nil]
  sizes type := by simp [new, capacityOf, Pool.unused, sizeIn, about]
  queues type := by simp [new, Pool.unused, queueIn, about]
  numbers := by simp [new, creates]
  issued id hid := by simp [given] at hid

theorem Records.called (h : Records size log s) : Records size log s.called :=
  ⟨h.lawful, h.nodup, h.objects, h.sizes, h.queues, h.numbers, h.issued⟩

theorem Records.heldBelow_iff (h : Records size log s) {n : Nat} :
    HeldBelow type log n ↔ (s.objects type).length < n := by
  constructor
  · rintro ⟨keys, hnodup, hmem, hlt⟩
    have hsame : ∀ key, key ∈ keys ↔ key ∈ s.objects type := fun key =>
      (hmem key).trans (h.objects type key).symm
    have hperm := (List.perm_ext_iff_of_nodup hnodup (h.nodup type)).2 hsame
    rwa [← hperm.length_eq]
  · intro hlt
    exact ⟨s.objects type, h.nodup type, h.objects type, hlt⟩

/-- The history tells which failure a request is answered with. -/
theorem Records.takeForced (h : Records size log s) (type : ObjectType) :
    (s.pools.get type).takeForced = (failureIn type log, (s.pools.get type).next) := by
  rw [Pool.takeForced_eq, h.queues, failureIn]

/-- The history tells what is queued for later requests. -/
theorem Records.forced_next (h : Records size log s) (type : ObjectType) :
    (s.pools.get type).next.forced = (queueIn type log).tail := by
  rw [Pool.next, h.queues]

/-- The pool `p` of its type and the next number are what an exchange leaves of a switch. -/
structure Leaves (log : List Exchange) (s : Simulator) (x : Exchange) (p : Pool)
    (nextId : ObjectId) : Prop where
  nodup : p.objects.Nodup
  objects : ∀ key, key ∈ p.objects ↔
    x.made? = some key ∨ key ∈ s.objects x.type ∧ x.unmade? ≠ some key
  size : p.capacity.getD s.defaultCapacity = x.size?.getD (s.capacityOf x.type)
  queue : p.forced = x.queued (queueIn x.type log)
  numbers : s.nextId.toNat ≤ nextId.toNat ∧
    nextId.toNat ≤ s.nextId.toNat + if x.isCreate then 1 else 0
  issued : ∀ id, x.id? = some id → ∃ m : UInt64, m.toNat < nextId.toNat ∧ id = issuedId x.type m

/-- One exchange more, and what it leaves. -/
theorem Records.concat (h : Records size log s) {x : Exchange} {p : Pool} {nextId : ObjectId}
    (hlaw : Law size log x) (hleaves : Leaves log s x p nextId) :
    Records size (log ++ [x]) (s.replaced x.type p nextId) where
  lawful := lawful_concat h.lawful hlaw
  nodup type := by
    by_cases hne : x.type = type
    · subst hne
      rw [objects_replaced_self]
      exact hleaves.nodup
    · rw [objects_replaced_of_ne hne]
      exact h.nodup type
  objects type key := by
    rw [held_concat_iff, ← h.objects]
    by_cases hne : x.type = type
    · subst hne
      simp [objects_replaced_self, hleaves.objects]
    · simp [objects_replaced_of_ne hne, hne]
  sizes type := by
    by_cases hne : x.type = type
    · subst hne
      rw [sizeIn_concat_self, ← h.sizes, ← hleaves.size]
      simp [capacityOf, Simulator.replaced]
    · rw [sizeIn, about_concat_of_ne hne, ← sizeIn, ← h.sizes]
      simp [capacityOf, Simulator.replaced, Roster.get_set_of_ne _ _ hne]
  queues type := by
    by_cases hne : x.type = type
    · subst hne
      rw [queueIn_concat_self, ← hleaves.queue]
      simp [Simulator.replaced]
    · rw [queueIn, about_concat_of_ne hne, ← queueIn, ← h.queues]
      simp [Simulator.replaced, Roster.get_set_of_ne _ _ hne]
  numbers := by
    have hbefore := h.numbers
    have hgrows := hleaves.numbers
    rw [nextId_replaced, creates_concat]
    omega
  issued id hid := by
    rw [nextId_replaced]
    obtain hid | hid := mem_given_concat_iff.1 hid
    · obtain ⟨type, m, hm, rfl⟩ := h.issued id hid
      exact ⟨type, m, Nat.lt_of_lt_of_le hm hleaves.numbers.1, rfl⟩
    · obtain ⟨m, hm, rfl⟩ := hleaves.issued id hid
      exact ⟨x.type, m, hm, rfl⟩

/-- An exchange that makes, unmakes and gives nothing leaves the objects and the next number. -/
theorem Records.leaves_of_none (h : Records size log s) {x : Exchange} {p : Pool}
    (hobjects : p.objects = s.objects x.type) (hmade : x.made? = none) (hunmade : x.unmade? = none)
    (hid : x.id? = none)
    (hsize : p.capacity.getD s.defaultCapacity = x.size?.getD (s.capacityOf x.type))
    (hqueue : p.forced = x.queued (queueIn x.type log)) : Leaves log s x p s.nextId where
  nodup := hobjects ▸ h.nodup x.type
  objects := by simp [hobjects, hmade, hunmade]
  size := hsize
  queue := hqueue
  numbers := ⟨Nat.le_refl _, Nat.le_add_right ..⟩
  issued := by simp [hid]

end Records

/-! ## Requests -/

section Requests

variable {size : Nat} {log : List Exchange} {s : Simulator} {type : ObjectType}
  {request : CreateRequest} {answer : CreateAnswer} {key : ObjectKey} {nextId : ObjectId}

/-- A failure is taken from the queue. -/
theorem ne_success_of_failureIn {status : Status} (h : failureIn type log = some status) :
    status ≠ .success := by
  rintro rfl
  have hsuccess := (Option.filter_eq_some_iff.1 h).2
  simp [Status.isSuccess] at hsuccess

/-- A create request is answered with a queued failure. -/
theorem Records.refuseCreate (h : Records size log s) {status : Status}
    (hfailure : failureIn type log = some status) :
    Records size (log ++ [.create type request (.failed status)])
      (s.replaced type (s.pools.get type).next s.nextId) := by
  have hfails := ne_success_of_failureIn hfailure
  have hmade : (Exchange.create type request (.failed status)).made? = none := by
    simp [Exchange.made?, CreateAnswer.failed, hfails]
  have hlaw : CreateLaw size log type request (.failed status) := by
    refine ⟨?_, ?_, fun hsuccess => absurd hsuccess hfails, fun status' hstatus' => ?_,
      fun hnone => ?_⟩
    · simp [CreateAnswer.failed, hfails]
    · simp [CreateAnswer.failed]
    · rw [hfailure] at hstatus'
      cases hstatus'
      exact ⟨rfl, idle_of_none hmade rfl⟩
    · rw [hfailure] at hnone
      cases hnone
  exact h.concat (x := .create type request (.failed status)) hlaw
    (h.leaves_of_none rfl hmade rfl rfl rfl (h.forced_next type))

/-- A create request that is let through is answered by its table. -/
theorem Records.admitCreate (h : Records size log s) (hfailure : failureIn type log = none)
    (hnew : key ∉ s.objects type ↔
      ∀ name, request.entry = some name → ¬Held type log (.entry name))
    (hstatus : answer.status = ((s.pools.get type).next.add (s.capacityOf type) key).1)
    (hgives : answer.objectId ≠ none ↔ request.entry = none ∧ answer.status = .success)
    (hmade : (Exchange.create type request answer).made? =
      if answer.status = .success then some key else none)
    (hfresh : ∀ id, answer.objectId = some id → id ≠ 0 ∧ id ∉ given log)
    (hnext : s.nextId.toNat ≤ nextId.toNat ∧ nextId.toNat ≤ s.nextId.toNat + 1)
    (hissued : ∀ id, answer.objectId = some id → ∃ m : UInt64, m.toNat < nextId.toNat ∧
      id = issuedId type m) :
    Records size (log ++ [.create type request answer])
      (s.replaced type ((s.pools.get type).next.add (s.capacityOf type) key).2 nextId) := by
  have hsuccess : answer.status = .success ↔
      key ∉ s.objects type ∧ (s.objects type).length < s.capacityOf type := by
    rw [hstatus, Pool.add_eq_success_iff]
    rfl
  have hlaw : CreateLaw size log type request answer := by
    rw [h.sizes, ← h.heldBelow_iff] at hsuccess
    refine ⟨hgives, hfresh, fun hdone => (hsuccess.1 hdone).2, ?_, fun _ => ?_⟩
    · simp [hfailure]
    · rw [hsuccess, hnew]
  refine h.concat (x := .create type request answer) hlaw
    { nodup := nodup_add _ (h.nodup type), objects := fun key' => ?_, size := ?_, queue := ?_,
      numbers := hnext, issued := hissued }
  · rw [Pool.mem_objects_add_iff, hmade, ← hstatus]
    change _ ∨ key' ∈ s.objects type ↔ _ ∨ key' ∈ s.objects type ∧ _
    by_cases hdone : answer.status = .success <;> simp [hdone, Exchange.unmade?, eq_comm]
  · exact congrArg (fun settings => settings.1.getD s.defaultCapacity) (Pool.settings_add ..)
  · rw [forced_add]
    exact h.forced_next type

theorem Records.createOne (h : Records size log s) (hcreates : creates log + 1 < 2 ^ 48)
    (type : ObjectType) (request : CreateRequest) :
    Records size (log ++ [.create type request (s.createOne type request).1])
      (s.createOne type request).2 := by
  have htake := h.takeForced type
  cases hfailure : failureIn type log with
  | some status =>
    rw [hfailure] at htake
    rw [createOne_forced htake]
    exact h.refuseCreate hfailure
  | none =>
    rw [hfailure] at htake
    cases hentry : request.entry with
    | some name =>
      rw [createOne_entry_sized htake hentry rfl]
      refine h.admitCreate hfailure ?_ rfl ?_ ?_ (by simp) (by simp) (by simp)
      · simp [hentry, h.objects]
      · simp [hentry]
      · simp [Exchange.made?, hentry]
    | none =>
      have hnumbers := h.numbers
      have hsucc : (s.nextId + 1).toNat = s.nextId.toNat + 1 := by
        rw [UInt64.toNat_add, UInt64.toNat_one]
        omega
      have hunused : s.freshId type ∉ given log := by
        intro hid
        obtain ⟨type', m, hm, heq⟩ := h.issued _ hid
        have hsame := issuedId_inj (show s.nextId.toNat < 2 ^ 48 by omega) (by omega) heq
        omega
      rw [createOne_oid_sized htake hentry rfl]
      refine h.admitCreate hfailure ?_ rfl ?_ ?_ ?_ (by rw [hsucc]; omega) ?_
      · simp only [hentry, reduceCtorEq, false_implies, implies_true, iff_true, h.objects]
        exact fun hheld => hunused (mem_given_of_held hheld)
      · simp [hentry, Status.isSuccess]
      · simp only [Exchange.made?, hentry]
        split <;> simp [*, Status.isSuccess]
      · intro id hid
        simp only [Option.ite_none_right_eq_some, Option.some.injEq] at hid
        obtain ⟨-, rfl⟩ := hid
        exact ⟨issuedId_ne_zero type (by omega), hunused⟩
      · intro id hid
        simp only [Option.ite_none_right_eq_some, Option.some.injEq] at hid
        obtain ⟨-, rfl⟩ := hid
        exact ⟨s.nextId, by omega, rfl⟩

/-- A remove request is answered with a queued failure. -/
theorem Records.refuseRemove (h : Records size log s) {status : Status}
    (hfailure : failureIn type log = some status) :
    Records size (log ++ [.remove type key status])
      (s.replaced type (s.pools.get type).next s.nextId) := by
  have hfails := ne_success_of_failureIn hfailure
  have hunmade : (Exchange.remove type key status).unmade? = none := by
    simp [Exchange.unmade?, hfails]
  have hlaw : RemoveLaw log type key status := by
    refine ⟨fun status' hstatus' => ?_, fun hnone => ?_⟩
    · rw [hfailure] at hstatus'
      cases hstatus'
      exact ⟨rfl, idle_of_none rfl hunmade⟩
    · rw [hfailure] at hnone
      cases hnone
  exact h.concat (x := .remove type key status) hlaw
    (h.leaves_of_none rfl rfl hunmade rfl rfl (h.forced_next type))

/-- A remove request that is let through is answered by its table. -/
theorem Records.admitRemove (h : Records size log s) (hfailure : failureIn type log = none)
    {status : Status} (hstatus : status = ((s.pools.get type).next.take key).1) :
    Records size (log ++ [.remove type key status])
      (s.replaced type ((s.pools.get type).next.take key).2 s.nextId) := by
  have hnodup : (s.pools.get type).next.objects.Nodup := h.nodup type
  have hlaw : RemoveLaw log type key status := by
    refine ⟨by simp [hfailure], fun _ => ?_⟩
    rw [hstatus, Pool.take_eq_success_iff, ← h.objects]
    rfl
  refine h.concat (x := .remove type key status) hlaw
    { nodup := nodup_take _ hnodup, objects := fun key' => ?_, size := ?_, queue := ?_,
      numbers := ⟨Nat.le_refl _, Nat.le_refl _⟩, issued := by simp [Exchange.id?] }
  · rw [Pool.mem_objects_take_iff hnodup, ← hstatus]
    change key' ∈ s.objects type ∧ _ ↔ _ ∨ key' ∈ s.objects type ∧ _
    simp [Exchange.made?, Exchange.unmade?, eq_comm]
  · exact congrArg (fun settings => settings.1.getD s.defaultCapacity) (Pool.settings_take ..)
  · rw [forced_take]
    exact h.forced_next type

theorem Records.removeOne (h : Records size log s) (type : ObjectType) (key : ObjectKey) :
    Records size (log ++ [.remove type key (s.removeOne type key).1])
      (s.removeOne type key).2 := by
  have htake := h.takeForced type
  cases hfailure : failureIn type log with
  | some status =>
    rw [hfailure] at htake
    simp only [Simulator.removeOne, htake]
    exact h.refuseRemove hfailure
  | none =>
    rw [hfailure] at htake
    simp only [Simulator.removeOne, htake]
    exact h.admitRemove hfailure rfl

end Requests

/-! ## Calls -/

section Calls

variable {size : Nat} {log : List Exchange} {s : Simulator} {type : ObjectType}

theorem creates_append (log later : List Exchange) :
    creates (log ++ later) = creates log + creates later := List.countP_append

theorem length_createAll (requests : List CreateRequest) (s : Simulator) :
    (createAll type requests s).1.length = requests.length := by
  induction requests generalizing s with
  | nil => rfl
  | cons request rest ih => exact congrArg (· + 1) (ih _)

theorem length_removeAll (keys : List ObjectKey) (s : Simulator) :
    (removeAll type keys s).1.length = keys.length := by
  induction keys generalizing s with
  | nil => rfl
  | cons key rest ih => exact congrArg (· + 1) (ih _)

theorem Records.createAll {requests : List CreateRequest} (h : Records size log s)
    (hcreates : creates (log ++
      List.zipWith (.create type) requests (createAll type requests s).1) < 2 ^ 48) :
    Records size (log ++ List.zipWith (.create type) requests (createAll type requests s).1)
      (createAll type requests s).2 := by
  induction requests generalizing log s with
  | nil => simpa [Simulator.createAll] using h
  | cons request rest ih =>
    rw [Simulator.createAll, List.zipWith_cons_cons, List.append_cons] at hcreates ⊢
    refine ih (h.createOne ?_ type request) hcreates
    rw [creates_append, creates_concat] at hcreates
    exact Nat.lt_of_le_of_lt (Nat.le_add_right ..) hcreates

theorem Records.removeAll {keys : List ObjectKey} (h : Records size log s) :
    Records size (log ++ List.zipWith (.remove type) keys (removeAll type keys s).1)
      (removeAll type keys s).2 := by
  induction keys generalizing log s with
  | nil => simpa [Simulator.removeAll] using h
  | cons key rest ih =>
    rw [Simulator.removeAll, List.zipWith_cons_cons, List.append_cons]
    exact ih (h.removeOne type key)

theorem Records.perform (h : Records size log s) (call : Call)
    (hcreates : creates (log ++ (s.perform call).1) < 2 ^ 48) :
    Records size (log ++ (s.perform call).1) (s.perform call).2 := by
  cases call with
  | create type requests =>
    cases hlost : s.channelLost with
    | true => simpa [Simulator.perform, Driver.bulkCreate, hlost] using h
    | false =>
      rw [Simulator.perform, bulkCreate_eq hlost] at hcreates ⊢
      exact h.called.createAll hcreates
  | remove type keys =>
    cases hlost : s.channelLost with
    | true => simpa [Simulator.perform, Driver.bulkRemove, hlost] using h
    | false =>
      rw [Simulator.perform, bulkRemove_eq hlost]
      exact h.called.removeAll
  | resize type n =>
    exact h.concat (x := .resize type n) trivial
      (h.leaves_of_none rfl rfl rfl rfl rfl (h.queues type))
  | queue type status =>
    exact h.concat (x := .queue type status) trivial
      (h.leaves_of_none rfl rfl rfl rfl rfl (congrArg (· ++ [status]) (h.queues type)))
  | cut lost =>
    rw [Simulator.perform, List.append_nil]
    exact ⟨h.lawful, h.nodup, h.objects, h.sizes, h.queues, h.numbers, h.issued⟩

theorem Records.performAll {calls : List Call} (h : Records size log s)
    (hcreates : creates (log ++ (performAll calls s).1) < 2 ^ 48) :
    Records size (log ++ (performAll calls s).1) (performAll calls s).2 := by
  induction calls generalizing log s with
  | nil => simpa [Simulator.performAll] using h
  | cons call rest ih =>
    simp only [Simulator.performAll] at hcreates ⊢
    rw [← List.append_assoc] at hcreates ⊢
    refine ih (h.perform call ?_) hcreates
    rw [creates_append] at hcreates
    exact Nat.lt_of_le_of_lt (Nat.le_add_right ..) hcreates

/-! ### The channel -/

theorem channelLost_perform (s : Simulator) (call : Call) :
    (s.perform call).2.channelLost = call.cut?.getD s.channelLost := by
  cases call with
  | create type requests =>
    cases hlost : s.channelLost with
    | true => simp [perform, Driver.bulkCreate, hlost, Call.cut?]
    | false =>
      rw [perform, bulkCreate_eq hlost]
      exact (within_createAll type requests s.called).channelLost.trans hlost
  | remove type keys =>
    cases hlost : s.channelLost with
    | true => simp [perform, Driver.bulkRemove, hlost, Call.cut?]
    | false =>
      rw [perform, bulkRemove_eq hlost]
      exact (within_removeAll type keys s.called).channelLost.trans hlost
  | resize | queue | cut => rfl

theorem channelLost_performAll (calls : List Call) (s : Simulator) :
    (performAll calls s).2.channelLost =
      (calls.filterMap Call.cut?).getLastD s.channelLost := by
  induction calls generalizing s with
  | nil => rfl
  | cons call rest ih =>
    have hnext := channelLost_perform s call
    rw [performAll, ih, hnext, List.filterMap_cons]
    cases hcut : call.cut? with
    | none => rfl
    | some lost => exact (List.getLastD_cons ..).symm

end Calls

/-- All that a history tells of the switch it ends with. -/
structure Sums (size : Nat) (calls : List Call) (log : List Exchange) (s : Simulator) : Prop where
  lawful : ∀ before x after, log = before ++ x :: after → Law size before x
  nodup : ∀ type, (s.objects type).Nodup
  objects : ∀ type key, key ∈ s.objects type ↔ Held type log key
  /-- While the channel is down a bulk call fails and leaves the switch as it is. -/
  down : lostAfter calls = true → ∀ type requests keys,
    Driver.bulkCreate type requests s = (.error channelDown, s) ∧
      Driver.bulkRemove type keys s = (.error channelDown, s)
  /-- While it is up every request is answered. -/
  up : lostAfter calls = false → ∀ type requests keys,
    (∃ answers, (Driver.bulkCreate type requests s).1 = .ok answers ∧
      answers.length = requests.length) ∧
    ∃ statuses, (Driver.bulkRemove type keys s).1 = .ok statuses ∧ statuses.length = keys.length

/-- Whatever was called on a new switch, its history tells what it holds, how every request was
answered and whether it answers now. -/
theorem history_sound (size : Nat) (calls : List Call)
    (hcreates : creates (performAll calls (new size)).1 < 2 ^ 48) :
    Sums size calls (performAll calls (new size)).1 (performAll calls (new size)).2 := by
  have hrecords : Records size (performAll calls (new size)).1 (performAll calls (new size)).2 :=
    (records_new size).performAll hcreates
  have hchannel := channelLost_performAll calls (new size)
  refine ⟨hrecords.lawful, hrecords.nodup, hrecords.objects, ?_, ?_⟩
  · intro hlost type requests keys
    have hdown := hchannel.trans hlost
    simp [Driver.bulkCreate, Driver.bulkRemove, hdown]
  · intro hlost type requests keys
    have hup := hchannel.trans hlost
    rw [bulkCreate_eq hup, bulkRemove_eq hup]
    exact ⟨⟨_, rfl, length_createAll ..⟩, _, rfl, length_removeAll ..⟩

/-- VNETs are created in a table of one, in a batch of which a queued status takes the first
request. While the channel is down nothing arrives. The VNET is removed, and the next one is given
another identifier. -/
def crowdedVnets : List Call :=
  [.resize .vnet 1, .queue .vnet .noMemory,
    .create .vnet [⟨none, []⟩, ⟨none, []⟩, ⟨none, []⟩],
    .cut true, .remove .vnet [.oid (issuedId .vnet 1)], .cut false,
    .remove .vnet [.oid (issuedId .vnet 1)], .create .vnet [⟨none, []⟩]]

theorem crowdedVnets_sound :
    (performAll crowdedVnets (new 4096)).1 =
      [.resize .vnet 1, .queue .vnet .noMemory,
        .create .vnet ⟨none, []⟩ ⟨.noMemory, none⟩,
        .create .vnet ⟨none, []⟩ ⟨.success, some (issuedId .vnet 1)⟩,
        .create .vnet ⟨none, []⟩ ⟨.tableFull, none⟩,
        .remove .vnet (.oid (issuedId .vnet 1)) .success,
        .create .vnet ⟨none, []⟩ ⟨.success, some (issuedId .vnet 3)⟩] ∧
      creates (performAll crowdedVnets (new 4096)).1 < 2 ^ 48 ∧
      Sums 4096 crowdedVnets (performAll crowdedVnets (new 4096)).1
        (performAll crowdedVnets (new 4096)).2 := by
  have hcreates : creates (performAll crowdedVnets (new 4096)).1 < 2 ^ 48 := by decide +kernel
  exact ⟨by decide +kernel, hcreates, history_sound 4096 crowdedVnets hcreates⟩

end Simulator

end DashAgent
