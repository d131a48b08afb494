import DashAgent.Daemon.AgentWorker
import DashAgent.Proofs.Overlay.PaPass
import DashAgent.Switch.Simulator

/-!
# Shared entries over all histories

A VNET worker is given changes of both of its tables in any order and runs passes over them in any
order, each with whatever context the other workers left and whatever driver answers. In every state
between passes the PA validation entries are those that some mapping holds, with exact counts.
-/
namespace DashAgent.VnetWorker

/-- The mappings have room for the next batch of their queue. -/
def HasRoom (w : VnetWorker) : Prop := w.mappingQueue.FitsInto w.mappings.mappings

instance (w : VnetWorker) : Decidable w.HasRoom :=
  inferInstanceAs (Decidable (w.mappingQueue.FitsInto w.mappings.mappings))

theorem mappings_enqueue (w : VnetWorker) (table : String) (es : List Entry) :
    (w.enqueue table es).mappings = w.mappings := by
  unfold enqueue
  split
  · rfl
  · split <;> rfl

/-- The states of a worker between passes. Context and driver are not its own: every pass may find
any of them. -/
inductive Reachable (batchSize : Nat) : VnetWorker → Prop where
  | start : Reachable batchSize (.new batchSize)
  | enqueue {w : VnetWorker} (table : String) (es : List Entry) :
    Reachable batchSize w → Reachable batchSize (w.enqueue table es)
  | vnetPass {δ : Type} [Driver δ] {w : VnetWorker} (c : Context) (d : δ) :
    Reachable batchSize w → Reachable batchSize (w.workVnets c d).2.1
  | mappingPass {δ : Type} [Driver δ] {w : VnetWorker} (c : Context) (d : δ) :
    w.HasRoom → Reachable batchSize w → Reachable batchSize (w.workMappings c d).2.1

variable {batchSize : Nat} {w : VnetWorker}

/-- A turn of the worker is made of the two passes. -/
theorem Reachable.work {δ : Type} [Driver δ] (c : Context) (d : δ) (hroom : w.HasRoom)
    (h : Reachable batchSize w) : Reachable batchSize (w.work c d).2.1 := by
  have hvnets := h.vnetPass c d
  have hroom' : (w.workVnets c d).2.1.HasRoom := hroom
  unfold VnetWorker.work
  split
  · next heq =>
    rw [heq] at hvnets
    exact hvnets
  · next first w' c' d' heq =>
    rw [heq] at hvnets hroom'
    exact hvnets.mappingPass c' d' hroom'

/-- Between passes the counts are exact. -/
theorem Reachable.settled (h : Reachable batchSize w) : w.mappings.Settled := by
  induction h with
  | start => exact ⟨MappingTable.exact_empty, rfl⟩
  | @enqueue w table es _ ih =>
    rw [mappings_enqueue]
    exact ih
  | vnetPass c d _ ih => exact ih
  | mappingPass c d hroom _ ih => exact MappingTable.settled_reconcile ih hroom

/-- In every state between passes, a PA validation entry is there if and only if a stored mapping
holds it, its count is the number of the mappings that do, and no stored mapping is without both of
its objects. -/
theorem pa_references_exact (h : Reachable batchSize w) :
    (∀ pa, w.mappings.paEntries.contains pa = true ↔
      ∃ key m, w.mappings.mappings.get? key = some m ∧ m.paValidation = true ∧
        (MappingKey.vnetOf? key).map m.paKey = some pa) ∧
    (∀ pa p, w.mappings.paEntries.get? pa = some p →
      p.references.toNat = w.mappings.mappings.entries.countP (fun (key, m) =>
        m.paValidation && decide ((MappingKey.vnetOf? key).map m.paKey = some pa)) ∧
      1 ≤ p.references.toNat) ∧
    ∀ key m, w.mappings.mappings.get? key = some m → m.caToPa = true ∨ m.paValidation = true := by
  have hexact := h.settled.exact
  refine ⟨?_, ?_, ?_⟩
  · intro pa
    rw [hexact.present pa, MappingTable.holders, Table.tally_eq_countP, List.countP_pos_iff]
    constructor
    · rintro ⟨⟨key, m⟩, hmem, hholds⟩
      simp only [MappingTable.holds, Bool.and_eq_true, decide_eq_true_eq] at hholds
      exact ⟨key, m, Table.get?_eq_some_iff.2 hmem, hholds⟩
    · rintro ⟨key, m, hget, hholds⟩
      refine ⟨(key, m), Table.get?_eq_some_iff.1 hget, ?_⟩
      simpa only [MappingTable.holds, Bool.and_eq_true, decide_eq_true_eq] using hholds
  · intro pa p hget
    have hcounted := hexact.counted pa
    rw [MappingTable.references_of_get? hget, MappingTable.holders, Table.tally_eq_countP]
      at hcounted
    refine ⟨hcounted, ?_⟩
    have hcontains : w.mappings.paEntries.contains pa = true := by
      rw [Table.contains_eq_isSome, hget]
      rfl
    have hpos := (hexact.present pa).1 hcontains
    rw [MappingTable.holders, Table.tally_eq_countP] at hpos
    omega
  · intro key m hget
    have hnonempty := hexact.nonempty hget
    cases hca : m.caToPa <;> cases hpa : m.paValidation <;> simp_all [MappingRecord.isEmpty]

/-- A worker that programs its first VNET, with the context and the switch after that. -/
def oneVnet : Except DriverError Summary × VnetWorker × Context × Simulator :=
  ((new 4).enqueue VnetTable.name [⟨"red", .set, [("vni", "100")]⟩]).workVnets
    (.new (.new Monitor.defaultPollingMs .empty)) (Simulator.new 16)

/-- Two changes that place addresses of the VNET behind one address. -/
def twoPending : VnetWorker :=
  oneVnet.2.1.enqueue MappingTable.name
    [⟨"red:10.0.0.1", .set, [("underlay_ip", "1.1.1.1"), ("mac_address", "00:00:00:00:00:01")]⟩,
      ⟨"red:10.0.0.2", .set, [("underlay_ip", "1.1.1.1"), ("mac_address", "00:00:00:00:00:02")]⟩]

def twoMappings : VnetWorker := (twoPending.workMappings oneVnet.2.2.1 oneVnet.2.2.2).2.1

theorem twoMappings_share :
    twoPending.HasRoom ∧ Reachable 4 twoMappings ∧
      (twoMappings.mappings.paEntries.references? "red:1.1.1.1").map UInt32.toNat = some 2 ∧
      twoMappings.mappings.mappings.entries.countP (fun (key, m) =>
        m.paValidation &&
          decide ((MappingKey.vnetOf? key).map m.paKey = some "red:1.1.1.1")) = 2 := by
  have hroom : twoPending.HasRoom := by decide
  have hpending : Reachable 4 twoPending := .enqueue _ _ (.vnetPass _ _ (.enqueue _ _ .start))
  have hreach : Reachable 4 twoMappings := hpending.work oneVnet.2.2.1 oneVnet.2.2.2 hroom
  have hget : twoMappings.mappings.paEntries.get? "red:1.1.1.1" =
      some ⟨⟨0xb000000000001⟩, .v4 1 1 1 1, 2⟩ := rfl
  refine ⟨hroom, hreach, ?_, ?_⟩
  · rw [Table.references?, hget]
    rfl
  · exact ((pa_references_exact hreach).2.1 _ _ hget).1.symm

end DashAgent.VnetWorker
