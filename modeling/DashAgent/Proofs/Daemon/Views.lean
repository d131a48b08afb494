import DashAgent.Daemon
import DashAgent.Daemon.AgentWorker
import DashAgent.Proofs.Reconcile.Settlement

/-!
# Views of a driver

A driver may be seen through a map to another one that answers every call alike. Whatever an agent
does with the first one, it does with the second one, and what it leaves is seen through the map.
Main theorem: `Daemon.processUntilIdle_seen`.
-/
namespace DashAgent

variable {δ δ' : Type} [Driver δ] [Driver δ']

/-- Calls that change something are answered alike, and what they leave is seen through the map. -/
structure Driver.View (f : δ → δ') : Prop where
  bulkCreate : ∀ type requests d, Driver.bulkCreate type requests (f d) =
    ((Driver.bulkCreate type requests d).1, f (Driver.bulkCreate type requests d).2)
  bulkRemove : ∀ type keys d, Driver.bulkRemove type keys (f d) =
    ((Driver.bulkRemove type keys d).1, f (Driver.bulkRemove type keys d).2)
  dump : ∀ d, Driver.dump (f d) = ((Driver.dump d).1, f (Driver.dump d).2)

variable {f : δ → δ'}

/-! ## Flushes -/

namespace BulkStager

omit [Driver δ] [Driver δ'] in
theorem sendChunks_seen {α β : Type} (call : BulkCall δ α β) (call' : BulkCall δ' α β)
    (hupdates : call'.updates = call.updates)
    (hsend : ∀ type xs d, call'.send type xs (f d) =
      ((call.send type xs d).1, f (call.send type xs d).2))
    (parts : List (List (Nat × α))) (s : BulkStager) (d : δ) :
    sendChunks call' parts s (f d) = ((sendChunks call parts s d).1,
      (sendChunks call parts s d).2.1, f (sendChunks call parts s d).2.2) := by
  induction parts generalizing s d with
  | nil => rfl
  | cons chunk rest ih =>
    have hseen := hsend s.type (chunk.map Prod.snd) d
    rcases hcall : call.send s.type (chunk.map Prod.snd) d with ⟨answer, d₁⟩
    rw [hcall] at hseen
    cases answer with
    | error e => simp only [sendChunks, hcall, hseen]
    | ok answers => simp only [sendChunks, hcall, hseen, hupdates, ih]

theorem flush_seen (hview : Driver.View f) (s : BulkStager) (d : δ) :
    s.flush (f d) = ((s.flush d).1, (s.flush d).2.1, f (s.flush d).2.2) := by
  have hremoves : sendAll removes s (f d) = ((sendAll removes s d).1, (sendAll removes s d).2.1,
      f (sendAll removes s d).2.2) :=
    sendChunks_seen (f := f) removes removes rfl hview.bulkRemove _ s d
  rcases hsent : sendAll removes s d with ⟨answer, s₁, d₁⟩
  rw [hsent] at hremoves
  cases answer with
  | error e => simp only [flush, hsent, hremoves]
  | ok answer =>
    simp only [flush, hsent, hremoves]
    exact sendChunks_seen (f := f) creates creates rfl hview.bulkCreate _ s₁ d₁

end BulkStager

/-! ## Passes -/

def Pass.seen {τ ε : Type} (f : δ → δ') (p : Pass τ ε δ) : Pass τ ε δ' :=
  ⟨p.queue, p.table, p.env, f p.switch⟩

omit [Driver δ] [Driver δ'] in
/-- Two tables that differ in their driver only make the same passes. -/
theorem BulkTable.reconcile_seen {τ κ ε : Type} (ops : BulkTable τ κ ε δ)
    (ops' : BulkTable τ κ ε δ') (hstage : ops'.stage = ops.stage)
    (hcommit : ops'.commit = ops.commit) (hend : ops'.endPass = ops.endPass)
    (hflush : ∀ t d, ops'.flush t (f d) =
      ((ops.flush t d).1, (ops.flush t d).2.1, f (ops.flush t d).2.2)) (p : Pass τ ε δ) :
    ops'.reconcile (p.seen f) = ((ops.reconcile p).1, (ops.reconcile p).2.seen f) := by
  have hstageAll : ∀ es t, ops'.stageAll p.env es t = ops.stageAll p.env es t := by
    intro es t
    induction es generalizing t with
    | nil => rfl
    | cons e rest ih => simp only [stageAll, hstage, ih]
  have hcommitAll : ∀ outcomes env t,
      ops'.commitAll outcomes env t = ops.commitAll outcomes env t := by
    intro outcomes env t
    induction outcomes generalizing env t with
    | nil => rfl
    | cons o rest ih =>
      obtain ⟨e, outcome⟩ := o
      cases outcome <;> simp only [commitAll, hcommit, ih]
  by_cases hne : p.queue.entries = []
  · rw [reconcile_idle hne, reconcile_idle (p := p.seen f) hne]
  · rcases hs : ops.stageAll p.env (p.queue.entries.take p.queue.batchSize) p.table
      with ⟨outcomes, t⟩
    have hs' : ops'.stageAll (p.seen f).env
        ((p.seen f).queue.entries.take (p.seen f).queue.batchSize) (p.seen f).table =
        (outcomes, t) := (hstageAll ..).trans hs
    have hsent : ops'.flushStaged outcomes t (p.seen f).switch =
        ((ops.flushStaged outcomes t p.switch).1, (ops.flushStaged outcomes t p.switch).2.1,
          f (ops.flushStaged outcomes t p.switch).2.2) := by
      unfold flushStaged
      split
      · exact hflush t p.switch
      · rfl
    rcases hf : ops.flushStaged outcomes t p.switch with ⟨answer, t', d'⟩
    rw [hf] at hsent
    cases answer with
    | error e =>
      rw [reconcile_failed hne hs hf, reconcile_failed (p := p.seen f) hne hs' hsent, hend]
      rfl
    | ok answer =>
      rw [reconcile_answered hne hs hf, reconcile_answered (p := p.seen f) hne hs' hsent, hend,
        hcommitAll]
      rfl

section Tables

variable (hview : Driver.View f)

include hview

theorem NamedTable.reconcile_seen {kind : OidKind} {α β ρ : Type} (K : NamedKind kind α β ρ)
    (p : Pass (NamedTable ρ) Context δ) :
    (NamedTable.bulk K).reconcile (p.seen f) =
      (((NamedTable.bulk K).reconcile p).1, ((NamedTable.bulk K).reconcile p).2.seen f) := by
  refine BulkTable.reconcile_seen (f := f) (bulk K) (bulk K) rfl rfl rfl (fun t d => ?_) p
  simp only [NamedTable.bulk, BulkStager.flush_seen hview]

theorem RoutingTable.reconcile_seen {α ρ : Type} (K : RoutingKind α ρ)
    (p : Pass (RoutingTable ρ) Context δ) :
    (RoutingTable.bulk K).reconcile (p.seen f) =
      (((RoutingTable.bulk K).reconcile p).1, ((RoutingTable.bulk K).reconcile p).2.seen f) := by
  refine BulkTable.reconcile_seen (f := f) (bulk K) (bulk K) rfl rfl rfl (fun t d => ?_) p
  simp only [RoutingTable.bulk, BulkStager.flush_seen hview]

theorem MappingTable.reconcile_seen (p : Pass MappingTable Context δ) :
    MappingTable.bulk.reconcile (p.seen f) =
      ((MappingTable.bulk.reconcile p).1, (MappingTable.bulk.reconcile p).2.seen f) := by
  refine BulkTable.reconcile_seen (f := f) bulk bulk rfl rfl rfl (fun t d => ?_) p
  have hca := BulkStager.flush_seen hview t.caToPaStager d
  simp only [MappingTable.bulk, MappingTable.flush, hca]
  rcases t.caToPaStager.flush d with ⟨answer, s₁, d₁⟩
  cases answer with
  | error e => rfl
  | ok answer => simp only [BulkStager.flush_seen hview]

/-! ## Turns and rounds -/

theorem AgentWorker.work_seen (w : AgentWorker) (c : Context) (d : δ) :
    Worker.work w c (f d) = ((Worker.work w c d).1, (Worker.work w c d).2.1,
      (Worker.work w c d).2.2.1, f (Worker.work w c d).2.2.2) := by
  cases w with
  | configuration w => rfl
  | vnet w =>
    have hvnets := NamedTable.reconcile_seen hview VnetTable.kind ⟨w.vnetQueue, w.vnets, c, d⟩
    simp only [Pass.seen] at hvnets
    simp only [Worker.work, VnetWorker.work, VnetWorker.workVnets, VnetWorker.workMappings, hvnets]
    rcases VnetTable.bulk.reconcile ⟨w.vnetQueue, w.vnets, c, d⟩ with ⟨answer, p⟩
    cases answer with
    | error e => rfl
    | ok first =>
      have hmappings := MappingTable.reconcile_seen hview
        ⟨w.mappingQueue, w.mappings, p.env, p.switch⟩
      simp only [Pass.seen] at hmappings
      simp only [hmappings]
  | eni w =>
    have henis := NamedTable.reconcile_seen hview EniTable.kind ⟨w.queue, w.enis, c, d⟩
    simp only [Pass.seen] at henis
    simp only [Worker.work, EniWorker.work, henis]
  | route w =>
    have hroutes := RoutingTable.reconcile_seen hview RouteTable.kind
      ⟨w.routeQueue, w.routes, c, d⟩
    simp only [Pass.seen] at hroutes
    simp only [Worker.work, RouteWorker.work, RouteWorker.workRoutes, RouteWorker.workRules,
      hroutes]
    rcases RouteTable.bulk.reconcile ⟨w.routeQueue, w.routes, c, d⟩ with ⟨answer, p⟩
    cases answer with
    | error e => rfl
    | ok first =>
      have hrules := RoutingTable.reconcile_seen hview RuleTable.kind
        ⟨w.ruleQueue, w.rules, p.env, p.switch⟩
      simp only [Pass.seen] at hrules
      simp only [hrules]

end Tables

namespace Daemon

def seen (f : δ → δ') (d : Daemon AgentWorker δ) : Daemon AgentWorker δ' :=
  ⟨d.config, d.workers, d.context, f d.switch, d.running⟩

theorem takeTurns_seen (hview : Driver.View f) (ws : List AgentWorker) (c : Context) (s : δ) :
    takeTurns ws c (f s) = ((takeTurns ws c s).1, (takeTurns ws c s).2.1, (takeTurns ws c s).2.2.1,
      f (takeTurns ws c s).2.2.2) := by
  induction ws generalizing c s with
  | nil => rfl
  | cons w rest ih =>
    have hwork := AgentWorker.work_seen hview w c s
    cases hpending : Worker.hasPending w with
    | false => simp only [takeTurns, hpending, Bool.false_eq_true, if_false, ih]
    | true =>
      simp only [takeTurns, hpending, if_true, hwork]
      rcases Worker.work w c s with ⟨answer, w', c₁, s₁⟩
      cases answer with
      | ok summary => simp only [ih]
      | error e =>
        by_cases hfatal : e.isFatal = true
        · simp only [hfatal, if_true]
        · simp only [hfatal, Bool.false_eq_true, if_false, ih]

theorem processOnce_seen (hview : Driver.View f) (d : Daemon AgentWorker δ) :
    (d.seen f).processOnce = (d.processOnce.1, d.processOnce.2.seen f) := by
  have hturns := takeTurns_seen hview d.workers d.context d.switch
  change takeTurns (d.seen f).workers (d.seen f).context (d.seen f).switch = _ at hturns
  simp only [processOnce, hturns]
  rcases takeTurns d.workers d.context d.switch with ⟨answer, ws, c, s⟩
  cases answer with
  | ok summary => rfl
  | error e =>
    simp only [reportFailure, hview.dump]
    rfl

/-- Working changes off leaves, seen through the map, what it leaves there. -/
theorem processUntilIdle_seen (hview : Driver.View f) (rounds : Nat) (d : Daemon AgentWorker δ) :
    (d.seen f).processUntilIdle rounds =
      ((d.processUntilIdle rounds).1, (d.processUntilIdle rounds).2.seen f) := by
  induction rounds generalizing d with
  | zero => rfl
  | succ rounds ih =>
    have honce := processOnce_seen hview d
    have hpending : (d.seen f).hasPending = d.hasPending := rfl
    simp only [processUntilIdle, hpending, honce]
    rcases d.processOnce with ⟨answer, d₁⟩
    split
    · cases answer with
      | error e => rfl
      | ok first =>
        dsimp only
        split
        · rfl
        · rw [ih]
    · rfl

end Daemon

end DashAgent
