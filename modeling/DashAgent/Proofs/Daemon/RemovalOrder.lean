import DashAgent.Proofs.Daemon.Tidiness
import DashAgent.Proofs.Daemon.Views
import DashAgent.Proofs.Overlay.Removals

/-!
# The order of removals

Workers take their turns parents before children, whether objects come or go. So where a VNET, its
ENIs and all that belongs to them are told to go at the same time, the VNET leaves the switch before
any mapping, ENI, route or rule, and an ENI before any route or rule. Main theorem:
`parents_leave_first`.
-/
namespace DashAgent

open WatchedSwitch

/-! ## Removals -/

/-- A removal of an object reaches the switch when only objects of the given types have been
touched. -/
def WatchedSwitch.Removes (touched : ObjectType → Prop) (w w' : WatchedSwitch) (type : ObjectType)
    (key : ObjectKey) : Prop :=
  ∃ before removal after, w'.removals = w.removals ++ before ++ removal :: after ∧
    removal.type = type ∧ key ∈ removal.keys ∧ (∀ r ∈ before, touched r.type) ∧
    ∀ other, ¬touched other → removal.held.objects other = w.switch.objects other

namespace WatchedSwitch

variable {touched touched' : ObjectType → Prop} {w w₁ w₂ : WatchedSwitch} {noted : List Removal}
  {type : ObjectType} {key : ObjectKey}

theorem removes_of_watches (h : Watches touched w w₁ noted)
    (hnoted : ∃ r ∈ noted, r.type = type ∧ key ∈ r.keys) : Removes touched w w₁ type key := by
  obtain ⟨r, hr, htype, hkey⟩ := hnoted
  obtain ⟨before, after, rfl⟩ := List.append_of_mem hr
  refine ⟨before, r, after, ?_, htype, hkey, fun x hx => ?_, (h.held r hr).objects⟩
  · rw [h.removals]
    simp
  · exact h.types x (List.mem_append_left _ hx)

/-- What happens afterwards does not matter. -/
theorem Removes.before (h : Removes touched w w₁ type key) (hlater : Watches touched' w₁ w₂ noted) :
    Removes touched w w₂ type key := by
  obtain ⟨before, r, after, hremovals, hrest⟩ := h
  refine ⟨before, r, after ++ noted, ?_, hrest⟩
  rw [hlater.removals, hremovals]
  simp

/-- What happened before may only touch objects of the given types. -/
theorem Removes.after (hfirst : Watches touched w w₁ noted) (h : Removes touched w₁ w₂ type key) :
    Removes touched w w₂ type key := by
  obtain ⟨before, r, after, hremovals, htype, hkey, hbefore, hheld⟩ := h
  refine ⟨noted ++ before, r, after, ?_, htype, hkey, fun x hx => ?_, fun other hother => ?_⟩
  · rw [hremovals, hfirst.removals]
    simp
  · exact (List.mem_append.1 hx).elim (hfirst.types x) (hbefore x)
  · exact (hheld other hother).trans (hfirst.within.objects other hother)

theorem Removes.mono (h : Removes touched w w₁ type key)
    (hle : ∀ type, touched type → touched' type) : Removes touched' w w₁ type key := by
  obtain ⟨before, r, after, hremovals, htype, hkey, hbefore, hheld⟩ := h
  exact ⟨before, r, after, hremovals, htype, hkey, fun x hx => hle _ (hbefore x hx),
    fun other hother => hheld other fun htouched => hother (hle other htouched)⟩

end WatchedSwitch

/-! ## Turns -/

namespace AgentWorker

/-- The types of the objects that a worker makes requests about. -/
def touches : AgentWorker → ObjectType → Prop
  | configuration _ => fun _ => False
  | vnet _ => fun type =>
    type = .vnet ∨ type = .outboundCaToPaEntry ∨ type = .paValidationEntry
  | eni _ => (· = .eni)
  | route _ => fun type => type = .outboundRoutingEntry ∨ type = .inboundRoutingEntry

variable {c : Context} {s : WatchedSwitch}

/-- A turn on a switch with its channel up succeeds. -/
theorem work_watches {w : AgentWorker} (htidy : w.Tidy) (hup : s.switch.channelLost = false) :
    ∃ summary noted, (Worker.work w c s).1 = .ok summary ∧
      Watches w.touches s (Worker.work w c s).2.2.2 noted := by
  cases w with
  | configuration w => exact ⟨_, [], rfl, .refl⟩
  | vnet w =>
    obtain ⟨first, noted₁, hfirst, hwatches₁, -⟩ :=
      (NamedTable.noted VnetTable.kind).reconcile (p := ⟨w.vnetQueue, w.vnets, c, s⟩) htidy.1.1 hup
    obtain ⟨second, noted₂, hsecond, hwatches₂, -⟩ := MappingTable.noted.reconcile
      (p := ⟨w.mappingQueue, w.mappings, _, _⟩) ⟨htidy.2.caToPa, htidy.2.pa⟩ (hwatches₁.up hup)
    have hwork := VnetWorker.work_of_passes (Prod.ext hfirst rfl) (Prod.ext hsecond rfl)
    simp only [Worker.work, hwork]
    exact ⟨_, noted₁ ++ noted₂, rfl,
      (hwatches₁.mono fun _ => .inl).trans (hwatches₂.mono fun _ => .inr)⟩
  | eni w =>
    obtain ⟨summary, noted, hanswer, hwatches, -⟩ :=
      (NamedTable.noted EniTable.kind).reconcile (p := ⟨w.queue, w.enis, c, s⟩) htidy.1 hup
    exact ⟨summary, noted, hanswer, hwatches⟩
  | route w =>
    obtain ⟨first, noted₁, hfirst, hwatches₁, -⟩ :=
      (RoutingTable.noted RouteTable.kind).reconcile (p := ⟨w.routeQueue, w.routes, c, s⟩)
        htidy.1.1 hup
    obtain ⟨second, noted₂, hsecond, hwatches₂, -⟩ := (RoutingTable.noted RuleTable.kind).reconcile
      (p := ⟨w.ruleQueue, w.rules, _, _⟩) htidy.2.1 (hwatches₁.up hup)
    have hwork := RouteWorker.work_of_passes (Prod.ext hfirst rfl) (Prod.ext hsecond rfl)
    simp only [Worker.work, hwork]
    exact ⟨_, noted₁ ++ noted₂, rfl,
      (hwatches₁.mono fun _ => .inl).trans (hwatches₂.mono fun _ => .inr)⟩

/-- The removal of a VNET reaches the switch before anything else of the turn does. -/
theorem work_removes_vnet {w : VnetWorker} {e : Entry} {r : VnetRecord} (htidy : (vnet w).Tidy)
    (hup : s.switch.channelLost = false) (he : e ∈ w.vnetQueue.entries.take w.vnetQueue.batchSize)
    (hop : e.op = .del) (hrecord : w.vnets.vnets.get? e.key = some r) :
    s.Removes (· = .vnet) (Worker.work (vnet w) c s).2.2.2 .vnet (.oid r.id.raw) := by
  obtain ⟨first, noted₁, hfirst, hwatches₁, hnoted⟩ :=
    NamedTable.reconcile_removes VnetTable.kind (p := ⟨w.vnetQueue, w.vnets, c, s⟩) htidy.1.1 hup
      he hop hrecord
  obtain ⟨second, noted₂, hsecond, hwatches₂, -⟩ := MappingTable.noted.reconcile
    (p := ⟨w.mappingQueue, w.mappings, _, _⟩) ⟨htidy.2.caToPa, htidy.2.pa⟩ (hwatches₁.up hup)
  have hwork := VnetWorker.work_of_passes (Prod.ext hfirst rfl) (Prod.ext hsecond rfl)
  simp only [Worker.work, hwork]
  exact (removes_of_watches hwatches₁ hnoted).before hwatches₂

theorem work_removes_eni {w : EniWorker} {e : Entry} {r : EniRecord} (htidy : (eni w).Tidy)
    (hup : s.switch.channelLost = false) (he : e ∈ w.queue.entries.take w.queue.batchSize)
    (hop : e.op = .del) (hrecord : w.enis.enis.get? e.key = some r) :
    s.Removes (· = .eni) (Worker.work (eni w) c s).2.2.2 .eni (.oid r.id.raw) := by
  obtain ⟨summary, noted, hanswer, hwatches, hnoted⟩ :=
    NamedTable.reconcile_removes EniTable.kind (p := ⟨w.queue, w.enis, c, s⟩) htidy.1 hup he hop
      hrecord
  exact removes_of_watches hwatches hnoted

end AgentWorker

/-! ## Rounds -/

namespace Daemon

/-- On a switch with its channel up all turns succeed. -/
theorem takeTurns_watches {ws : List AgentWorker} {c : Context} {s : WatchedSwitch}
    (htidy : ∀ w ∈ ws, w.Tidy) (hup : s.switch.channelLost = false) :
    ∃ summary noted, (takeTurns ws c s).1 = .ok summary ∧
      Watches (fun type => ∃ w ∈ ws, w.touches type) s (takeTurns ws c s).2.2.2 noted := by
  induction ws generalizing c s with
  | nil => exact ⟨.empty, [], rfl, .refl⟩
  | cons w rest ih =>
    obtain ⟨hw, hrest⟩ := List.forall_mem_cons.1 htidy
    have hlater : ∀ type, (∃ v ∈ rest, v.touches type) → ∃ v ∈ w :: rest, v.touches type :=
      fun type ⟨v, hv, htouches⟩ => ⟨v, List.mem_cons_of_mem _ hv, htouches⟩
    cases hpending : Worker.hasPending w with
    | false =>
      obtain ⟨summary, noted, hanswer, hwatches⟩ := ih (c := c) hrest hup
      simp only [takeTurns, hpending, Bool.false_eq_true, if_false]
      exact ⟨summary, noted, hanswer, hwatches.mono hlater⟩
    | true =>
      obtain ⟨first, noted₁, hfirst, hwatches₁⟩ := AgentWorker.work_watches (c := c) hw hup
      rcases hwork : Worker.work w c s with ⟨answer, w', c₁, s₁⟩
      rw [hwork] at hfirst hwatches₁
      obtain rfl : answer = .ok first := hfirst
      obtain ⟨summary, noted₂, hanswer, hwatches₂⟩ := ih (c := c₁) hrest (hwatches₁.up hup)
      simp only [takeTurns, hpending, if_true, hwork, hanswer]
      exact ⟨first.merge summary, noted₁ ++ noted₂, rfl, (hwatches₁.mono fun type htouches =>
        ⟨w, List.mem_cons_self .., htouches⟩).trans (hwatches₂.mono hlater)⟩

/-- What the turn of a worker removes is removed by the round, after what the workers before it
touch. -/
theorem removes_takeTurns {touched : ObjectType → Prop} {type : ObjectType} {key : ObjectKey}
    (before : List AgentWorker) (w : AgentWorker) {after : List AgentWorker} {c : Context}
    {s : WatchedSwitch}
    (htidy : ∀ v ∈ before ++ w :: after, v.Tidy) (hup : s.switch.channelLost = false)
    (hbefore : ∀ v ∈ before, ∀ type, v.touches type → touched type)
    (hpending : Worker.hasPending w = true)
    (hturn : ∀ {c₁ : Context} {s₁ : WatchedSwitch}, s₁.switch.channelLost = false →
      s₁.Removes touched (Worker.work w c₁ s₁).2.2.2 type key) :
    s.Removes touched (takeTurns (before ++ w :: after) c s).2.2.2 type key := by
  simp only [List.forall_mem_append, List.forall_mem_cons] at htidy
  obtain ⟨hbeforeTidy, hw, hafter⟩ := htidy
  obtain ⟨summary₀, noted₀, hserved, hwatches₀⟩ := takeTurns_watches (c := c) hbeforeTidy hup
  rcases hfirst : takeTurns before c s with ⟨answer, before', c₁, s₁⟩
  rw [hfirst] at hserved hwatches₀
  obtain rfl : answer = .ok summary₀ := hserved
  have hup₁ := hwatches₀.up hup
  obtain ⟨summary₁, noted₁, hanswer, hwatches₁⟩ := AgentWorker.work_watches (c := c₁) hw hup₁
  have hremoves : s₁.Removes touched (Worker.work w c₁ s₁).2.2.2 type key := hturn hup₁
  rcases hwork : Worker.work w c₁ s₁ with ⟨answer, w', c₂, s₂⟩
  rw [hwork] at hanswer hwatches₁ hremoves
  obtain rfl : answer = .ok summary₁ := hanswer
  obtain ⟨_, noted₂, -, hwatches₂⟩ := takeTurns_watches (c := c₂) hafter (hwatches₁.up hup₁)
  rw [takeTurns_append hfirst]
  simp only [takeTurns, hpending, if_true, hwork]
  refine .after (hwatches₀.mono ?_) (hremoves.before hwatches₂)
  rintro other ⟨v, hv, htouches⟩
  exact hbefore v hv other htouches

variable {d : Daemon AgentWorker WatchedSwitch}

theorem processOnce_watches (h : InOrder d.workers) (hup : d.switch.switch.channelLost = false) :
    ∃ summary d' noted, d.processOnce = (.ok summary, d') ∧ InOrder d'.workers ∧
      d'.switch = (takeTurns d.workers d.context d.switch).2.2.2 ∧
      Watches (fun _ => True) d.switch d'.switch noted := by
  obtain ⟨summary, noted, hanswer, hwatches⟩ := takeTurns_watches (c := d.context) h.tidy hup
  have hinOrder := h.takeTurns d.context d.switch
  exact ⟨summary, _, noted, processOnce_of_takeTurns (Prod.ext hanswer rfl), hinOrder, rfl,
    hwatches.mono fun _ _ => trivial⟩

theorem processUntilIdle_watches (rounds : Nat) (h : InOrder d.workers)
    (hup : d.switch.switch.channelLost = false) :
    ∃ noted, Watches (fun _ => True) d.switch (d.processUntilIdle rounds).2.switch noted := by
  induction rounds generalizing d with
  | zero => exact ⟨[], .refl⟩
  | succ rounds ih =>
    cases hpending : d.hasPending with
    | false =>
      rw [processUntilIdle_idle hpending]
      exact ⟨[], .refl⟩
    | true =>
      obtain ⟨first, d₁, noted₁, honce, hinOrder, -, hwatches₁⟩ := processOnce_watches h hup
      by_cases hzero : first.consumed = 0
      · simp only [processUntilIdle, hpending, if_true, honce, hzero]
        exact ⟨noted₁, hwatches₁⟩
      · obtain ⟨noted₂, hwatches₂⟩ := ih hinOrder (hwatches₁.up hup)
        rw [processUntilIdle_succ hpending honce hzero]
        exact ⟨noted₁ ++ noted₂, hwatches₁.trans hwatches₂⟩

/-- What the first round removes is removed while the changes are worked off. -/
theorem removes_processUntilIdle {touched : ObjectType → Prop} {type : ObjectType}
    {key : ObjectKey} {rounds : Nat} (h : InOrder d.workers)
    (hup : d.switch.switch.channelLost = false) (hpending : d.hasPending = true)
    (hround : d.switch.Removes touched (takeTurns d.workers d.context d.switch).2.2.2 type key) :
    d.switch.Removes touched (d.processUntilIdle (rounds + 1)).2.switch type key := by
  obtain ⟨first, d₁, noted₁, honce, hinOrder, hswitch, hwatches₁⟩ := processOnce_watches h hup
  rw [← hswitch] at hround
  by_cases hzero : first.consumed = 0
  · simp only [processUntilIdle, hpending, if_true, honce, hzero]
    exact hround
  · obtain ⟨noted₂, hwatches₂⟩ := processUntilIdle_watches rounds hinOrder (hwatches₁.up hup)
    rw [processUntilIdle_succ hpending honce hzero]
    exact hround.before hwatches₂

/-! ## The main theorem -/

def watched (d : Daemon AgentWorker Simulator) : Daemon AgentWorker WatchedSwitch :=
  ⟨d.config, d.workers, d.context, ⟨d.switch, []⟩, d.running⟩

theorem view_watched : Driver.View WatchedSwitch.switch := ⟨fun _ _ _ => rfl, fun _ _ _ => rfl,
  fun _ => rfl⟩

/-- Let the next batch of an agent on a switch with its channel up tell a VNET or an ENI to go.
Watching the switch changes nothing. The removal of the VNET reaches it when at most VNETs have been
removed: all mappings, ENIs, routes and rules are as they were. The removal of the ENI reaches it
when all routes and rules are as they were. -/
theorem parents_leave_first {d : Daemon AgentWorker Simulator} (harises : Arises d)
    (hup : d.switch.channelLost = false) (rounds : Nat) :
    (d.watched.processUntilIdle (rounds + 1)).1 = (d.processUntilIdle (rounds + 1)).1 ∧
    (d.watched.processUntilIdle (rounds + 1)).2.seen WatchedSwitch.switch =
      (d.processUntilIdle (rounds + 1)).2 ∧
    (∀ w e r, .vnet w ∈ d.workers → e ∈ w.vnetQueue.entries.take w.vnetQueue.batchSize →
      e.op = .del → w.vnets.vnets.get? e.key = some r →
      d.watched.switch.Removes (· = .vnet) (d.watched.processUntilIdle (rounds + 1)).2.switch
        .vnet (.oid r.id.raw)) ∧
    ∀ w e r, .eni w ∈ d.workers → e ∈ w.queue.entries.take w.queue.batchSize →
      e.op = .del → w.enis.enis.get? e.key = some r →
      d.watched.switch.Removes
        (fun type => type ≠ .outboundRoutingEntry ∧ type ≠ .inboundRoutingEntry)
        (d.watched.processUntilIdle (rounds + 1)).2.switch .eni (.oid r.id.raw) := by
  have hseen := processUntilIdle_seen view_watched (rounds + 1) d.watched
  change d.processUntilIdle (rounds + 1) = _ at hseen
  have hinOrder : InOrder d.watched.workers := harises.inOrder
  have hpending : ∀ {w : AgentWorker}, w ∈ d.workers → Worker.hasPending w = true →
      d.watched.hasPending = true := fun hw hidle => List.any_eq_true.2 ⟨_, hw, hidle⟩
  have hqueue : ∀ {q : ChangeQueue} {e : Entry}, e ∈ q.entries.take q.batchSize →
      q.hasPending = true := fun he =>
    ChangeQueue.hasPending_eq_true_iff.2 (List.ne_nil_of_mem (List.mem_of_mem_take he))
  obtain ⟨w₀, v, n, r₀, hlist⟩ := harises.workers
  have htidy := harises.tidy
  rw [hlist] at htidy
  refine ⟨by rw [hseen], by rw [hseen], ?_, ?_⟩
  · intro w e r hw he hop hrecord
    obtain rfl : w = v := by simpa [hlist] using hw
    refine removes_processUntilIdle hinOrder hup
      (hpending hw (Bool.or_eq_true_iff.2 (.inl (hqueue he)))) ?_
    change d.watched.switch.Removes _ (takeTurns d.workers _ _).2.2.2 _ _
    rw [hlist]
    refine removes_takeTurns [.configuration w₀] (.vnet w) htidy hup ?_
      (Bool.or_eq_true_iff.2 (.inl (hqueue he))) fun hup₁ => ?_
    · simp [AgentWorker.touches]
    · exact AgentWorker.work_removes_vnet (htidy (.vnet w) (by simp)) hup₁ he hop hrecord
  · intro w e r hw he hop hrecord
    obtain rfl : w = n := by simpa [hlist] using hw
    refine removes_processUntilIdle hinOrder hup (hpending hw (hqueue he)) ?_
    change d.watched.switch.Removes _ (takeTurns d.workers _ _).2.2.2 _ _
    rw [hlist]
    refine removes_takeTurns [.configuration w₀, .vnet v] (.eni w) htidy hup ?_ (hqueue he)
      fun hup₁ => ?_
    · intro other hother type htouches
      rcases List.mem_cons.1 hother with rfl | hother
      · cases htouches
      · obtain rfl := List.mem_singleton.1 hother
        rcases htouches with rfl | rfl | rfl <;> decide
    · refine Removes.mono (AgentWorker.work_removes_eni (htidy (.eni w) (by simp)) hup₁ he hop
        hrecord) ?_
      rintro _ rfl
      decide

/-- An agent with a VNET, a mapping, an ENI, a route and a rule is told to remove all of them,
children before parents. -/
def dismantled : Daemon AgentWorker Simulator :=
  ((((((((((starting ⟨1000, 8, true⟩ Monitor.defaultPollingMs .empty (Simulator.new 16)).routeChange
    ⟨VnetTable.name, [⟨"red", .set, [("vni", "100")]⟩]⟩).routeChange
    ⟨MappingTable.name, [⟨"red:10.0.0.1", .set,
      [("underlay_ip", "192.0.2.1"), ("mac_address", "00:00:00:00:00:01")]⟩]⟩).routeChange
    ⟨EniTable.name, [⟨"eni0", .set, [("vnet", "red"), ("mac_address", "00:00:00:00:00:02"),
      ("underlay_ip", "192.0.2.2")]⟩]⟩).routeChange
    ⟨RouteTable.name, [⟨"eni0:10.0.0.0/8", .set,
      [("action_type", "vnet"), ("vnet", "red")]⟩]⟩).routeChange
    ⟨RuleTable.name, [⟨"eni0:100:10.0.0.0/8", .set,
      [("priority", "1"), ("vnet", "red")]⟩]⟩).processOnce.2.routeChange
    ⟨RuleTable.name, [⟨"eni0:100:10.0.0.0/8", .del, []⟩]⟩).routeChange
    ⟨RouteTable.name, [⟨"eni0:10.0.0.0/8", .del, []⟩]⟩).routeChange
    ⟨MappingTable.name, [⟨"red:10.0.0.1", .del, []⟩]⟩).routeChange
    ⟨EniTable.name, [⟨"eni0", .del, []⟩]⟩).routeChange
    ⟨VnetTable.name, [⟨"red", .del, []⟩]⟩

theorem arises_dismantled : Arises dismantled :=
  .routeChange _ <| .routeChange _ <| .routeChange _ <| .routeChange _ <| .routeChange _ <|
    .processOnce <| .routeChange _ <| .routeChange _ <| .routeChange _ <| .routeChange _ <|
      .routeChange _ <| .start ..

theorem channelLost_dismantled : dismantled.switch.channelLost = false := by decide +kernel

/-- The removal of the VNET is in the next batch of its table. -/
theorem dismantled_vnet_told : (dismantled.workers.any fun w => w.vnet?.any fun w =>
    (w.vnetQueue.entries.take w.vnetQueue.batchSize).any fun e =>
      e.op = .del && (w.vnets.vnets.get? e.key).any fun r =>
        r.id.raw = 0x000b000000000001) = true := by
  decide +kernel

/-- So is the removal of the ENI. -/
theorem dismantled_eni_told : (dismantled.workers.any fun w => w.eni?.any fun w =>
    (w.queue.entries.take w.queue.batchSize).any fun e =>
      e.op = .del && (w.enis.enis.get? e.key).any fun r =>
        r.id.raw = 0x000c000000000002) = true := by
  decide +kernel

theorem dismantled_parents_first : Arises dismantled ∧ dismantled.switch.channelLost = false ∧
    dismantled.watched.switch.Removes (· = .vnet) (dismantled.watched.processUntilIdle 8).2.switch
      .vnet (.oid 0x000b000000000001) ∧
    dismantled.watched.switch.Removes
      (fun type => type ≠ .outboundRoutingEntry ∧ type ≠ .inboundRoutingEntry)
      (dismantled.watched.processUntilIdle 8).2.switch .eni (.oid 0x000c000000000002) := by
  have harises := arises_dismantled
  have hup := channelLost_dismantled
  have hvnet := dismantled_vnet_told
  have heni := dismantled_eni_told
  -- from here on nothing may look into the run itself
  generalize dismantled = d at harises hup hvnet heni ⊢
  obtain ⟨-, -, hvnets, henis⟩ := parents_leave_first harises hup 7
  refine ⟨harises, hup, ?_, ?_⟩
  · obtain ⟨w, hw, hany⟩ := List.any_eq_true.1 hvnet
    cases w with
    | vnet w =>
      obtain ⟨e, he, hdel⟩ := List.any_eq_true.1 hany
      simp only [Bool.and_eq_true, decide_eq_true_eq, Option.any_eq_true] at hdel
      obtain ⟨hop, r, hrecord, hid⟩ := hdel
      exact hid ▸ hvnets w e r hw he hop hrecord
    | configuration w | eni w | route w => cases hany
  · obtain ⟨w, hw, hany⟩ := List.any_eq_true.1 heni
    cases w with
    | eni w =>
      obtain ⟨e, he, hdel⟩ := List.any_eq_true.1 hany
      simp only [Bool.and_eq_true, decide_eq_true_eq, Option.any_eq_true] at hdel
      obtain ⟨hop, r, hrecord, hid⟩ := hdel
      exact hid ▸ henis w e r hw he hop hrecord
    | configuration w | vnet w | route w => cases hany

/-- The mapping, the ENI, the route and the rule are still there when the VNET goes, and the route
and the rule when the ENI does. -/
theorem dismantled_children_stay : Arises dismantled ∧ dismantled.switch.channelLost = false ∧
    (∃ r ∈ (dismantled.watched.processUntilIdle 8).2.switch.removals, r.type = .vnet ∧
      .oid 0x000b000000000001 ∈ r.keys ∧
      r.held.holds .outboundCaToPaEntry (.entry "0x000b000000000001:10.0.0.1") = true ∧
      r.held.holds .eni (.oid 0x000c000000000002) = true ∧
      r.held.holds .outboundRoutingEntry (.entry "0x000c000000000002:10.0.0.0/8") = true ∧
      r.held.holds .inboundRoutingEntry (.entry "0x000c000000000002:100:10.0.0.0/8") = true) ∧
    ∃ r ∈ (dismantled.watched.processUntilIdle 8).2.switch.removals, r.type = .eni ∧
      .oid 0x000c000000000002 ∈ r.keys ∧
      r.held.holds .outboundRoutingEntry (.entry "0x000c000000000002:10.0.0.0/8") = true ∧
      r.held.holds .inboundRoutingEntry (.entry "0x000c000000000002:100:10.0.0.0/8") = true :=
  ⟨arises_dismantled, channelLost_dismantled, by decide +kernel, by decide +kernel⟩

end Daemon

end DashAgent
