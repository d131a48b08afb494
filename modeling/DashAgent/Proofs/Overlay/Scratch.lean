import DashAgent.Overlay.Eni
import DashAgent.Overlay.Route
import DashAgent.Overlay.RouteRule
import DashAgent.Overlay.Vnet
import DashAgent.Proofs.Overlay.MappingStaging
import DashAgent.Proofs.Reconcile.Scratch
import DashAgent.Proofs.Switch.Interruption

/-!
# What the tables write for a pass only

All five tables keep their requests apart from their records. A failed pass leaves their records,
the shared state and the changes that still ask for something, and no request. It consumes the
changes of its batch that ask for nothing or cannot be read, although nothing was flushed.
Main theorem: `failed_pass_restores`.
-/
namespace DashAgent

open BulkTable

variable {δ : Type} [Driver δ]

/-- What a failed pass puts back: the shared state, and in front of the rest of the queue the
changes of its batch that were staged or wait. That is the whole batch if there were no others. -/
structure BulkTable.PutsBack {τ κ ε δ : Type} (ops : BulkTable τ κ ε δ) (p : Pass τ ε δ) :
    Prop where
  env : (ops.reconcile p).2.env = p.env
  queue : (ops.reconcile p).2.queue.entries =
    unanswered (ops.stageAll p.env (p.queue.entries.take p.queue.batchSize) p.table).1 ++
      p.queue.entries.drop p.queue.batchSize
  whole : (ops.reconcile p).2.queue.entries = p.queue.entries ↔
    ∀ o ∈ (ops.stageAll p.env (p.queue.entries.take p.queue.batchSize) p.table).1,
      o.2.isStaged = true ∨ o.2.isNotReady = true

/-- Every failed pass puts back what it can, and leaves its table emptied of requests. -/
def BulkTable.RestoresOnFailure {τ κ ε δ : Type} (ops : BulkTable τ κ ε δ)
    (Emptied : τ → τ → Prop) : Prop :=
  ∀ (p : Pass τ ε δ) (error : DriverError), (ops.reconcile p).1 = .error error →
    Emptied p.table (ops.reconcile p).2.table ∧ ops.PutsBack p

theorem Scratch.restoresOnFailure {τ κ ε δ : Type} {ops : BulkTable τ κ ε δ} (h : Scratch ops)
    {Emptied : τ → τ → Prop} (hend : ∀ t, Emptied t (ops.endPass t)) :
    ops.RestoresOnFailure Emptied := by
  intro p error herror
  obtain ⟨htable, henv, hqueue⟩ := h.reconcile_error herror
  have hbatch := stageAll_entries ops p.env (p.queue.entries.take p.queue.batchSize) p.table
  refine ⟨by rw [htable]; exact hend _, henv, hqueue, ?_⟩
  rw [hqueue]
  exact append_drop_eq_iff hbatch

namespace NamedTable

variable {kind : OidKind} {α β ρ : Type} (K : NamedKind kind α β ρ)

def Emptied (t t' : NamedTable ρ) : Prop := t'.records = t.records ∧ t'.stager.slots = []

theorem scratch : Scratch (bulk (δ := δ) K) where
  unstaged {e c t} h := by
    have hstage := stage_spec K t e c
    simp only [bulk] at h ⊢
    generalize stage K t e c = result at hstage h ⊢
    cases hstage with
    | done | invalid | notReady => rfl
    | create | remove => cases h
  endPass_stage e c t := by
    have hstage := stage_spec K t e c
    simp only [bulk]
    generalize stage K t e c = result at hstage ⊢
    cases hstage <;> rfl
  endPass_flush t d := by simp only [bulk, BulkStager.clear_flush]
  endPass_endPass _ := rfl

end NamedTable

namespace RoutingTable

variable {α ρ : Type} (K : RoutingKind α ρ)

def Emptied (t t' : RoutingTable ρ) : Prop := t'.records = t.records ∧ t'.stager.slots = []

theorem scratch : Scratch (bulk (δ := δ) K) where
  unstaged {e c t} h := by
    have hstage := stage_spec K t e c
    simp only [bulk] at h ⊢
    generalize stage K t e c = result at hstage h ⊢
    cases hstage with
    | done | invalid | notReady => rfl
    | create | remove => cases h
  endPass_stage e c t := by
    have hstage := stage_spec K t e c
    simp only [bulk]
    generalize stage K t e c = result at hstage ⊢
    cases hstage <;> rfl
  endPass_flush t d := by simp only [bulk, BulkStager.clear_flush]
  endPass_endPass _ := rfl

end RoutingTable

namespace MappingTable

/-- The same mappings and PA validation entries, no request, and nothing kept of a pass. -/
structure Emptied (t t' : MappingTable) : Prop where
  mappings : t'.mappings = t.mappings
  paEntries : t'.paEntries = t.paEntries
  caToPa : t'.caToPaStager.slots = []
  pa : t'.paStager.slots = []
  pass : t'.pass = .empty

theorem scratch : Scratch (bulk (δ := δ)) where
  unstaged {e c t} h := by
    obtain ⟨-, hsame⟩ | ⟨op, _, hop, -⟩ := t.stage_cases e c
    · exact hsame
    · simp only [bulk, hop] at h
      cases h
  endPass_stage e c t := by
    obtain ⟨-, hsame⟩ | ⟨op, s, -, -, hca, hpa⟩ := t.stage_cases e c
    · exact congrArg (bulk (δ := δ)).endPass hsame
    · have hframe := hpa.frame
      simp only [bulk, hca.clear, hpa.clear, hframe.1, hframe.2]
  endPass_flush t d := by
    have hca := t.caToPaStager.clear_flush d
    simp only [bulk, flush]
    generalize t.caToPaStager.flush d = sent at hca ⊢
    obtain ⟨answer, s, d'⟩ := sent
    cases answer with
    | error error => simp only [hca]
    | ok => simp only [hca, BulkStager.clear_flush]
  endPass_endPass _ := rfl

end MappingTable

/-! ## The main theorem -/

/-- A failed pass over any of the tables, with any driver, leaves the programmed records, the
identifiers of the parents and all counts as they were, and nothing staged. The changes of its batch
that were staged or wait go back to the head of the queue, in their order; the others do not. -/
theorem failed_pass_restores :
    (VnetTable.bulk (δ := δ)).RestoresOnFailure NamedTable.Emptied ∧
    (EniTable.bulk (δ := δ)).RestoresOnFailure NamedTable.Emptied ∧
    (RouteTable.bulk (δ := δ)).RestoresOnFailure RoutingTable.Emptied ∧
    (RuleTable.bulk (δ := δ)).RestoresOnFailure RoutingTable.Emptied ∧
    (MappingTable.bulk (δ := δ)).RestoresOnFailure MappingTable.Emptied :=
  ⟨(NamedTable.scratch _).restoresOnFailure fun _ => ⟨rfl, rfl⟩,
    (NamedTable.scratch _).restoresOnFailure fun _ => ⟨rfl, rfl⟩,
    (RoutingTable.scratch _).restoresOnFailure fun _ => ⟨rfl, rfl⟩,
    (RoutingTable.scratch _).restoresOnFailure fun _ => ⟨rfl, rfl⟩,
    MappingTable.scratch.restoresOnFailure fun _ => ⟨rfl, rfl, rfl, rfl, rfl⟩⟩

/-- A pass over new changes of a table, while a VNET and an ENI are programmed. -/
def firstPass {τ : Type} (table : τ) (changes : List Entry) : Pass τ Context Simulator where
  queue := (ChangeQueue.new "" 0 128).addAll changes
  table
  env := ((Context.new (.new 1000 .empty)).addVnet "red" ⟨5⟩).addEni "eni0" ⟨7⟩
  switch := .new 16

/-- The pass on a switch whose channel is down. -/
def Pass.stranded {τ : Type} (p : Pass τ Context Simulator) : Pass τ Context Simulator :=
  { p with switch := p.switch.setChannelLost true }

/-- Three VNET changes: one asks for nothing, one cannot be read, and one is staged. -/
def mixedVnets : Pass VnetTable Context Simulator :=
  firstPass (.new 1)
    [⟨"red", .del, []⟩, ⟨"blue", .set, [("vni", "abc")]⟩, ⟨"green", .set, [("vni", "1")]⟩]

/-- Stranded, the pass over them is answered nothing, and yet it consumes the first two. -/
theorem mixedVnets_consumed :
    mixedVnets.stranded.queue.entries =
      [⟨"red", .del, []⟩, ⟨"blue", .set, [("vni", "abc")]⟩, ⟨"green", .set, [("vni", "1")]⟩] ∧
    (VnetTable.bulk.reconcile mixedVnets.stranded).1 = .error Simulator.channelDown ∧
    (VnetTable.bulk.reconcile mixedVnets.stranded).2.queue.entries =
      [⟨"green", .set, [("vni", "1")]⟩] := by
  refine ⟨?_, ?_, ?_⟩ <;> decide +kernel

def firstEni : Pass EniTable Context Simulator :=
  firstPass (.new 1) [⟨"eni1", .set,
    [("vnet", "red"), ("mac_address", "00:00:00:00:00:01"), ("underlay_ip", "1.1.1.1")]⟩]

def firstRoute : Pass RouteTable Context Simulator :=
  firstPass (.new 1) [⟨"eni0:10.0.0.0/16", .set, [("action_type", "drop")]⟩]

def firstRule : Pass RuleTable Context Simulator :=
  firstPass (.new 1)
    [⟨"eni0:100:10.0.0.0/16", .set, [("action_type", "decap"), ("priority", "1")]⟩]

def firstMapping : Pass MappingTable Context Simulator :=
  firstPass (.new 1) [⟨"red:10.0.0.1", .set,
    [("underlay_ip", "1.1.1.1"), ("mac_address", "00:00:00:00:00:01")]⟩]

theorem stranded_passes_restored :
    ((VnetTable.bulk.reconcile mixedVnets.stranded).1 = .error Simulator.channelDown ∧
      VnetTable.bulk.PutsBack mixedVnets.stranded) ∧
    ((EniTable.bulk.reconcile firstEni.stranded).1 = .error Simulator.channelDown ∧
      EniTable.bulk.PutsBack firstEni.stranded) ∧
    ((RouteTable.bulk.reconcile firstRoute.stranded).1 = .error Simulator.channelDown ∧
      RouteTable.bulk.PutsBack firstRoute.stranded) ∧
    ((RuleTable.bulk.reconcile firstRule.stranded).1 = .error Simulator.channelDown ∧
      RuleTable.bulk.PutsBack firstRule.stranded) ∧
    (MappingTable.bulk.reconcile firstMapping.stranded).1 = .error Simulator.channelDown ∧
      MappingTable.bulk.PutsBack firstMapping.stranded := by
  obtain ⟨hvnets, henis, hroutes, hrules, hmappings⟩ := failed_pass_restores (δ := Simulator)
  have hvnet : (VnetTable.bulk.reconcile mixedVnets.stranded).1 =
      .error Simulator.channelDown := by
    decide +kernel
  have heni : (EniTable.bulk.reconcile firstEni.stranded).1 = .error Simulator.channelDown := by
    decide +kernel
  have hroute : (RouteTable.bulk.reconcile firstRoute.stranded).1 =
      .error Simulator.channelDown := by
    decide +kernel
  have hrule : (RuleTable.bulk.reconcile firstRule.stranded).1 = .error Simulator.channelDown := by
    decide +kernel
  have hmapping : (MappingTable.bulk.reconcile firstMapping.stranded).1 =
      .error Simulator.channelDown := by
    decide +kernel
  exact ⟨⟨hvnet, (hvnets _ _ hvnet).2⟩, ⟨heni, (henis _ _ heni).2⟩,
    ⟨hroute, (hroutes _ _ hroute).2⟩, ⟨hrule, (hrules _ _ hrule).2⟩,
    hmapping, (hmappings _ _ hmapping).2⟩

end DashAgent
