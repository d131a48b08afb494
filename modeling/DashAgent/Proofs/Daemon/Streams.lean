import DashAgent.Proofs.Daemon.Conservation
import DashAgent.Proofs.Daemon.Lane

/-!
# Streams of changes to one table

A client sends a table its changes, in groups, while rounds go on. On a switch that grants
everything the same keys are programmed in the end, however the rounds fall. The configurations may
differ: of the changes of a key only the newest is pending, and a SET of a key that is programmed is
done, so a DEL and a SET between two rounds leave the old configuration in place. A SET that finds
its key cleared is the one that counts.
-/
namespace DashAgent

namespace OverlayTable

/-- A valid SET asks for a configuration. -/
theorem isSome_read? {table : OverlayTable} {c : Context} {e : Entry} (h : table.Valid c e)
    (hop : e.op = .set) : (table.read? e).isSome = true := by
  cases table with
  | vnet =>
    obtain ⟨config, hconfig⟩ := h hop
    simp [read?, VnetTable.read?, hconfig, Except.toOption]
  | mapping =>
    obtain ⟨key, config, vnetId, -, hconfig, -⟩ := h hop
    simp [read?, MappingTable.read?, hconfig, Except.toOption]
  | eni =>
    obtain ⟨config, vnetId, hconfig, -⟩ := h hop
    simp [read?, EniTable.read?, hconfig, Except.toOption]
  | route =>
    obtain ⟨key, config, r, -, hconfig, -⟩ := h hop
    simp [read?, RouteTable.read?, hconfig, Except.toOption]
  | rule =>
    obtain ⟨key, config, r, -, hconfig, -⟩ := h hop
    simp [read?, RuleTable.read?, hconfig, Except.toOption]

section Parts

variable (v : VnetWorker) (e : EniWorker) (r : RouteWorker)

def queue : OverlayTable → ChangeQueue
  | vnet => v.vnetQueue
  | mapping => v.mappingQueue
  | eni => e.queue
  | route => r.routeQueue
  | rule => r.ruleQueue

def IsNew : OverlayTable → Prop
  | vnet => ∃ size, v.vnets = .new size
  | mapping => ∃ size, v.mappings = .new size
  | eni => ∃ size, e.enis = .new size
  | route => ∃ size, r.routes = .new size
  | rule => ∃ size, r.rules = .new size

end Parts

/-- An agent before a stream of changes to a new table. Nothing is pending, the changes are valid
and fit into one batch, and the switch supplies an object for each of them. -/
structure Expects (table : OverlayTable) (stream : List Entry)
    (d : Daemon AgentWorker Simulator) : Prop where
  workers : ∃ w v e r, d.workers = [.configuration w, .vnet v, .eni e, .route r] ∧
    table.IsNew v e r ∧ stream.length < (table.queue v e r).batchSize
  idle : d.hasPending = false
  valid : ∀ e ∈ stream, table.Valid d.context e
  supplied : ∀ type ∈ table.types, d.switch.Supplies type stream.length

/-- What is programmed in the table of an agent `d` when everything was applied that it was sent. -/
structure Settled (table : OverlayTable) (events : List StreamEvent)
    (d d' : Daemon AgentWorker Simulator) : Prop where
  idle : d'.hasPending = false
  /-- The keys are those whose last change is a SET. -/
  keys : ∀ key, (d'.config? table key).isSome = true ↔
    ∃ e, lastChange? key (changesOf events) = some e ∧ e.op = .set
  /-- A key that is still programmed when its last SET arrives keeps its configuration, any other
  key gets the one that the SET asks for. -/
  met : ∀ {earlier es later key e}, events = earlier ++ .arrive es :: later →
    lastChange? key es = some e → lastChange? key (changesOf later) = none → e.op = .set →
    d'.config? table key = ((d.follow table.name earlier).config? table key).or (table.read? e)
  /-- A SET that finds its key cleared is the one that counts. -/
  separated : ∀ {key e}, Separated key events → lastChange? key (changesOf events) = some e →
    e.op = .set → d'.config? table key = table.read? e

end OverlayTable

section Seats

variable {τ κ : Type} {ops : BulkTable τ κ Context Simulator} {C : Conduct ops OverlayConfig}
  {table : OverlayTable} {worker : Pass τ Context Simulator → AgentWorker}
  {p : Pass τ Context Simulator}

theorem changesOf_replicate (passes : Nat) : changesOf (List.replicate passes .pass) = [] := by
  induction passes with
  | zero => rfl
  | succ passes ih => rw [List.replicate_succ, changesOf_pass, ih]

/-- Passes after a stream bring no changes. -/
theorem changesOf_append_replicate (events : List StreamEvent) (passes : Nat) :
    changesOf (events ++ List.replicate passes .pass) = changesOf events := by
  rw [changesOf_append, changesOf_replicate, List.append_nil]

section Rest

variable {events : List StreamEvent} {passes : Nat} {key : String}

/-- The last change of a key decides, whatever group it is in. -/
theorem Conduct.config_of_last (hready : C.Ready (changesOf events ++ []) p)
    (hidle : (ops.follow (events ++ List.replicate passes .pass) p).queue.entries = [])
    {earlier later : List StreamEvent} {es : List Entry} {e : Entry}
    (hevents : events = earlier ++ .arrive es :: later) (hgroup : lastChange? key es = some e)
    (hlater : lastChange? key (changesOf later) = none) :
    C.config? (ops.follow (events ++ List.replicate passes .pass) p).table key =
      C.target (some e) (C.config? (ops.follow earlier p).table key) := by
  subst hevents
  rw [List.append_assoc, List.cons_append] at hidle ⊢
  have hall : C.Ready
      (changesOf (earlier ++ .arrive es :: (later ++ List.replicate passes .pass)) ++ []) p := by
    rw [← List.cons_append, ← List.append_assoc, changesOf_append_replicate]
    exact hready
  exact C.config_of_group hall hgroup
    ((congrArg (lastChange? key) (changesOf_append_replicate later passes)).trans hlater) hidle

/-- The keys in the end are those whose last change is a SET. -/
theorem Conduct.isSome_config_iff (hready : C.Ready (changesOf events ++ []) p)
    (hidle : (ops.follow (events ++ List.replicate passes .pass) p).queue.entries = [])
    (hnew : C.Traced p key none none)
    (hreads : ∀ e ∈ changesOf events, e.op = .set → (C.read? e).isSome = true) :
    (C.config? (ops.follow (events ++ List.replicate passes .pass) p).table key).isSome = true ↔
      ∃ e, lastChange? key (changesOf events) = some e ∧ e.op = .set := by
  cases hkey : lastChange? key (changesOf events) with
  | none =>
    have hall : C.Ready (changesOf (events ++ List.replicate passes .pass) ++ []) p := by
      rw [changesOf_append_replicate]
      exact hready
    have htraced := hnew.follow C hall
      ((congrArg (lastChange? key) (changesOf_append_replicate events passes)).trans hkey)
    rw [htraced.config_of_idle C hidle]
    simp [Conduct.target]
  | some e =>
    obtain ⟨earlier, es, later, hevents, hgroup, hlater⟩ := exists_group_of_lastChange? hkey
    rw [C.config_of_last hready hidle hevents hgroup hlater]
    cases hop : e.op with
    | set =>
      have hread := hreads e (mem_of_lastChange? hkey) hop
      simp [Conduct.target, hop, hread]
    | del => simp [Conduct.target, hop]

/-- The last SET of a key is applied in the end if it finds the key cleared. -/
theorem Conduct.config_of_separated (hready : C.Ready (changesOf events ++ []) p)
    (hidle : (ops.follow (events ++ List.replicate passes .pass) p).queue.entries = [])
    (hnew : C.Traced p key none none) {e : Entry} (hseparated : Separated key events)
    (hkey : lastChange? key (changesOf events) = some e) (hop : e.op = .set) :
    C.config? (ops.follow (events ++ List.replicate passes .pass) p).table key = C.read? e := by
  obtain ⟨earlier, es, later, hevents, hgroup, hlater, hcleared⟩ := hseparated
  have hsame : lastChange? key es = some e := by
    rw [hevents, changesOf_append, lastChange?_append, changesOf_arrive, lastChange?_append,
      hlater, Option.none_or] at hkey
    obtain ⟨e', he'⟩ := Option.isSome_iff_exists.1 hgroup
    rw [he'] at hkey ⊢
    exact hkey
  have hearlier : C.Ready (changesOf earlier ++ (changesOf (.arrive es :: later) ++ [])) p := by
    rw [← List.append_assoc, ← changesOf_append, ← hevents]
    exact hready
  have hbase : C.config? (ops.follow earlier p).table key = none := by
    obtain ⟨-, hconfig⟩ | ⟨-, hconfig⟩ := hnew.cleared C hearlier hcleared
    · exact hconfig
    · exact hconfig
  rw [C.config_of_last hready hidle hevents hsame hlater, hbase]
  simp [Conduct.target, hop]

end Rest

/-- What a table in its seat ends with, when nothing was programmed in it before. -/
theorem Seat.settled (h : Seat C table worker) (s : Surroundings table)
    {events : List StreamEvent} (hready : C.Ready (changesOf events) p)
    (hnew : ∀ key, C.Traced p key none none)
    (hsome : ∀ e ∈ changesOf events, e.op = .set → (table.read? e).isSome = true) {rounds : Nat}
    (hrounds : 2 ≤ rounds) :
    ∃ summary d', ((s.place worker p).follow table.name events).processUntilIdle rounds =
        (.ok summary, d') ∧ table.Settled events (s.place worker p) d' := by
  have hready' : C.Ready (changesOf events ++ []) p := by
    rw [List.append_nil]
    exact hready
  obtain ⟨summary, passes, hend, hidle⟩ := h.processUntilIdle s (hready'.follow C) hrounds
  rw [← BulkTable.follow_append] at hend hidle
  rw [← h.read] at hsome
  refine ⟨summary, _, (congrArg (Daemon.processUntilIdle rounds) (h.follow s hready')).trans hend,
    ?_⟩
  constructor
  case idle => rw [h.hasPending, ChangeQueue.hasPending_eq_false_iff.2 hidle]
  case keys =>
    intro key
    rw [h.config?]
    exact C.isSome_config_iff hready' hidle (hnew key) hsome
  case met =>
    intro earlier es later key e hevents hgroup hlater hop
    have hearlier : C.Ready (changesOf earlier ++ changesOf (.arrive es :: later)) p := by
      rw [← changesOf_append, ← hevents]
      exact hready
    rw [h.config?, C.config_of_last hready' hidle hevents hgroup hlater, h.follow s hearlier,
      h.config?, ← h.read]
    simp [Conduct.target, hop]
  case separated =>
    intro key e hseparated hkey hop
    rw [h.config?, ← h.read]
    exact C.config_of_separated hready' hidle (hnew key) hseparated hkey hop

/-- Two streams with the same changes end with the same keys, and with the same configurations of
keys that are separated in both. -/
theorem OverlayTable.Settled.agree {events events' : List StreamEvent}
    {d d₁ d₂ : Daemon AgentWorker Simulator} (h₁ : table.Settled events d d₁)
    (h₂ : table.Settled events' d d₂) (hsame : changesOf events' = changesOf events)
    (key : String) :
    (d₁.config? table key).isSome = (d₂.config? table key).isSome ∧
      (Separated key events → Separated key events' →
        d₁.config? table key = d₂.config? table key) := by
  have hkeys : (d₁.config? table key).isSome = (d₂.config? table key).isSome := by
    rw [Bool.eq_iff_iff, h₁.keys, h₂.keys, hsame]
  refine ⟨hkeys, ?_⟩
  intro hseparated hseparated'
  cases hprogrammed : (d₁.config? table key).isSome with
  | true =>
    obtain ⟨e, hlast, hop⟩ := (h₁.keys key).1 hprogrammed
    rw [h₁.separated hseparated hlast hop,
      h₂.separated hseparated' ((congrArg (lastChange? key) hsame).trans hlast) hop]
  | false =>
    have hnone : d₁.config? table key = none := by simpa using hprogrammed
    have hnone' : d₂.config? table key = none := by simpa [hnone] using hkeys
    rw [hnone, hnone']

end Seats

/-! ## An agent -/

namespace OverlayTable

variable {table : OverlayTable} {stream : List Entry} {d : Daemon AgentWorker Simulator}

def surroundings {w : AgentWorker} {before after : List AgentWorker}
    (hworkers : d.workers = before ++ w :: after) (hidle : d.hasPending = false)
    (hholds : ∀ v ∈ before ++ after, v.holds table = false) : Surroundings table where
  config := d.config
  running := d.running
  before
  after
  bystanders_before v hv := by
    refine ⟨?_, hholds v (List.mem_append_left _ hv)⟩
    have hmem : v ∈ d.workers := by
      rw [hworkers]
      exact List.mem_append_left _ hv
    simpa using List.any_eq_false.1 hidle v hmem
  bystanders_after v hv := by
    refine ⟨?_, hholds v (List.mem_append_right _ hv)⟩
    have hmem : v ∈ d.workers := by
      rw [hworkers]
      exact List.mem_append_right _ (List.mem_cons_of_mem _ hv)
    simpa using List.any_eq_false.1 hidle v hmem

/-- A table in its seat, as an agent expects a stream for it. -/
theorem Expects.seated {τ κ : Type} {ops : BulkTable τ κ Context Simulator}
    {C : Conduct ops OverlayConfig} {worker : Pass τ Context Simulator → AgentWorker}
    (h : table.Expects stream d) (hseat : Seat C table worker) (queue : ChangeQueue) (t : τ)
    (before after : List AgentWorker)
    (hworkers : d.workers = before ++ worker ⟨queue, t, d.context, d.switch⟩ :: after)
    (hholds : ∀ v ∈ before ++ after, v.holds table = false) (htidy : C.Tidy t)
    (hconfig : ∀ key, C.config? t key = none) (hqueue : queue.entries = [])
    (hbatch : stream.length < queue.batchSize) {events : List StreamEvent}
    (hevents : changesOf events = stream) {rounds : Nat} (hrounds : 2 ≤ rounds) :
    ∃ summary d', (d.follow table.name events).processUntilIdle rounds = (.ok summary, d') ∧
      table.Settled events d d' := by
  subst hevents
  let s : Surroundings table := surroundings hworkers h.idle hholds
  have hplace : s.place worker ⟨queue, t, d.context, d.switch⟩ = d := by
    simp only [s, surroundings, Surroundings.place, ← hworkers]
  have hvalid : ∀ e ∈ changesOf events, C.Valid d.context e := by
    rw [hseat.valid]
    exact h.valid
  have hsupplied : ∀ type ∈ C.types, d.switch.Supplies type (changesOf events).length := by
    rw [hseat.types]
    exact h.supplied
  have hready : C.Ready (changesOf events) ⟨queue, t, d.context, d.switch⟩ :=
    C.ready_of_idle htidy hqueue hvalid hsupplied (Nat.le_of_lt hbatch)
  have hnew : ∀ key, C.Traced ⟨queue, t, d.context, d.switch⟩ key none none :=
    fun key => C.traced_of_idle hqueue (hconfig key)
  have hsettled := hseat.settled s hready hnew
    (fun e he hop => isSome_read? (h.valid e he) hop) hrounds
  rw [hplace] at hsettled
  exact hsettled

theorem Expects.settled (h : table.Expects stream d) {events : List StreamEvent}
    (hevents : changesOf events = stream) {rounds : Nat} (hrounds : 2 ≤ rounds) :
    ∃ summary d', (d.follow table.name events).processUntilIdle rounds = (.ok summary, d') ∧
      table.Settled events d d' := by
  obtain ⟨w, v, e, r, hworkers, hnew, hbatch⟩ := h.workers
  have hidle := h.idle
  simp only [Daemon.hasPending, hworkers, List.any_cons, List.any_nil, Worker.hasPending,
    VnetWorker.hasPending, RouteWorker.hasPending, Bool.or_eq_false_iff,
    ChangeQueue.hasPending_eq_false_iff] at hidle
  obtain ⟨-, ⟨hvnets, hmappings⟩, henis, ⟨hroutes, hrules⟩, -⟩ := hidle
  cases table with
  | vnet =>
    obtain ⟨size, hnew⟩ := hnew
    refine h.seated (VnetWorker.seat_vnets hmappings) v.vnetQueue v.vnets [.configuration w]
      [.eni e, .route r] hworkers (by simp [AgentWorker.holds]) ?_ ?_ hvnets hbatch hevents hrounds
    · rw [hnew]
      exact ⟨rfl, rfl⟩
    · rw [hnew]
      exact fun _ => rfl
  | mapping =>
    obtain ⟨size, hnew⟩ := hnew
    refine h.seated (VnetWorker.seat_mappings hvnets) v.mappingQueue v.mappings [.configuration w]
      [.eni e, .route r] hworkers (by simp [AgentWorker.holds]) ?_ ?_ hmappings hbatch hevents
      hrounds
    · rw [hnew]
      exact ⟨⟨MappingTable.whole_empty, rfl, rfl⟩, rfl, rfl, rfl⟩
    · rw [hnew]
      exact fun _ => rfl
  | eni =>
    obtain ⟨size, hnew⟩ := hnew
    refine h.seated EniWorker.seat e.queue e.enis [.configuration w, .vnet v] [.route r] hworkers
      (by simp [AgentWorker.holds]) ?_ ?_ henis hbatch hevents hrounds
    · rw [hnew]
      exact ⟨rfl, rfl⟩
    · rw [hnew]
      exact fun _ => rfl
  | route =>
    obtain ⟨size, hnew⟩ := hnew
    refine h.seated (RouteWorker.seat_routes hrules) r.routeQueue r.routes
      [.configuration w, .vnet v, .eni e] [] hworkers (by simp [AgentWorker.holds]) ?_ ?_ hroutes
      hbatch hevents hrounds
    · rw [hnew]
      exact ⟨rfl, rfl⟩
    · rw [hnew]
      exact fun _ => rfl
  | rule =>
    obtain ⟨size, hnew⟩ := hnew
    refine h.seated (RouteWorker.seat_rules hroutes) r.ruleQueue r.rules
      [.configuration w, .vnet v, .eni e] [] hworkers (by simp [AgentWorker.holds]) ?_ ?_ hrules
      hbatch hevents hrounds
    · rw [hnew]
      exact ⟨rfl, rfl⟩
    · rw [hnew]
      exact fun _ => rfl

/-- However the rounds fall between the changes of a stream, nothing is pending in the end, the same
keys are programmed, and two ways of placing the rounds agree on every key that they separate. -/
theorem interleavings_agree (h : table.Expects stream d) {events events' : List StreamEvent}
    (hevents : changesOf events = stream) (hevents' : changesOf events' = stream) {rounds : Nat}
    (hrounds : 2 ≤ rounds) :
    ∃ summary d₁ summary' d₂,
      (d.follow table.name events).processUntilIdle rounds = (.ok summary, d₁) ∧
      (d.follow table.name events').processUntilIdle rounds = (.ok summary', d₂) ∧
      table.Settled events d d₁ ∧ table.Settled events' d d₂ ∧
      ∀ key, (d₁.config? table key).isSome = (d₂.config? table key).isSome ∧
        (Separated key events → Separated key events' →
          d₁.config? table key = d₂.config? table key) := by
  obtain ⟨summary, d₁, hend, hsettled⟩ := h.settled hevents hrounds
  obtain ⟨summary', d₂, hend', hsettled'⟩ := h.settled hevents' hrounds
  exact ⟨summary, d₁, summary', d₂, hend, hend', hsettled, hsettled',
    hsettled.agree hsettled' (hevents'.trans hevents.symm)⟩

/-! ## A replaced VNET -/

def idleAgent : Daemon AgentWorker Simulator :=
  .starting ⟨1000, 4, true⟩ Monitor.defaultPollingMs .empty (Simulator.new 16)

/-- A client replaces a VNET. -/
def replacement : List Entry :=
  [⟨"blue", .set, [("vni", "1")]⟩, ⟨"blue", .del, []⟩, ⟨"blue", .set, [("vni", "2")]⟩]

/-- The replacement with a round after every change. -/
def patient : List StreamEvent :=
  [.arrive [⟨"blue", .set, [("vni", "1")]⟩], .pass, .arrive [⟨"blue", .del, []⟩], .pass,
    .arrive [⟨"blue", .set, [("vni", "2")]⟩]]

/-- The replacement without a round between its last two changes. -/
def hurried : List StreamEvent :=
  [.arrive [⟨"blue", .set, [("vni", "1")]⟩], .pass, .arrive [⟨"blue", .del, []⟩],
    .arrive [⟨"blue", .set, [("vni", "2")]⟩]]

theorem expects_replacement : vnet.Expects replacement idleAgent where
  workers := ⟨_, _, _, _, rfl, ⟨_, rfl⟩, by decide⟩
  idle := by decide
  valid := by
    intro e he hop
    simp only [replacement, List.mem_cons, List.not_mem_nil, or_false] at he
    rcases he with rfl | rfl | rfl
    · exact ⟨⟨1, none⟩, by decide⟩
    · cases hop
    · exact ⟨⟨2, none⟩, by decide⟩
  supplied := by
    intro type htype
    simp only [types, List.mem_singleton] at htype
    rw [htype]
    exact ⟨by decide, by decide, by decide, by decide, Simulator.issuing_new 16 .vnet⟩

/-- With a round in between the replacement is programmed. -/
theorem patient_replaces :
    vnet.Expects replacement idleAgent ∧ Separated "blue" patient ∧
      ∃ summary d', (idleAgent.follow VnetTable.name patient).processUntilIdle 2 =
        (.ok summary, d') ∧ d'.config? vnet "blue" = some (.vnet ⟨2, none⟩) := by
  have hpatient : changesOf patient = replacement := by decide
  have hhurried : changesOf hurried = replacement := by decide
  have hseparated : Separated "blue" patient := by
    refine ⟨[.arrive [⟨"blue", .set, [("vni", "1")]⟩], .pass, .arrive [⟨"blue", .del, []⟩], .pass],
      _, [], rfl, by decide, by decide, .inr ?_⟩
    exact ⟨[.arrive [⟨"blue", .set, [("vni", "1")]⟩], .pass, .arrive [⟨"blue", .del, []⟩]], [],
      ⟨"blue", .del, []⟩, rfl, by decide, by decide, by decide⟩
  obtain ⟨summary, d', -, -, hend, -, hsettled, -⟩ :=
    interleavings_agree expects_replacement hpatient hhurried (Nat.le_refl 2)
  have hlast : lastChange? "blue" (changesOf patient) =
      some ⟨"blue", .set, [("vni", "2")]⟩ := by decide
  refine ⟨expects_replacement, hseparated, summary, d', hend, ?_⟩
  rw [hsettled.separated hseparated hlast rfl]
  decide

/-- The operations on every key alternate, beginning with a SET. -/
def Alternates (stream : List Entry) : Prop :=
  ∀ key i e, (stream.filter fun e => decide (e.key = key))[i]? = some e →
    e.op = if i % 2 = 0 then .set else .del

theorem hurried_keeps :
    vnet.Expects replacement idleAgent ∧ Alternates replacement ∧
      changesOf hurried = replacement ∧ changesOf patient = replacement ∧
      lastChange? "blue" replacement = some ⟨"blue", .set, [("vni", "2")]⟩ ∧
      ((idleAgent.follow VnetTable.name hurried).processUntilIdle 2).2.config? vnet "blue" =
        some (.vnet ⟨1, none⟩) ∧
      ((idleAgent.follow VnetTable.name patient).processUntilIdle 2).2.config? vnet "blue" =
        some (.vnet ⟨2, none⟩) := by
  refine ⟨expects_replacement, ?_, by decide, by decide, by decide, by decide +kernel,
    by decide +kernel⟩
  intro key i e he
  by_cases hkey : "blue" = key
  · rw [← hkey] at he
    rcases i with _ | _ | _ | i <;> simp [replacement] at he <;> rw [← he] <;> rfl
  · simp [replacement, hkey] at he

end OverlayTable

end DashAgent
