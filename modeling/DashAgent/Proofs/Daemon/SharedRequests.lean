import DashAgent.Proofs.Daemon.SharedEntries
import DashAgent.Proofs.Overlay.PaWords
import DashAgent.Proofs.Overlay.Shapes

/-!
# Requests for shared entries over all histories

A VNET worker that went through any history meets a batch of mapping changes. In every such state
the batch makes one request at most for a PA validation entry, and which one it is follows from the
stored mappings. Main theorem: `VnetWorker.pa_requests_shared`.
-/
namespace DashAgent.VnetWorker

open BulkTable MappingTable

variable {batchSize : Nat} {w : VnetWorker}

/-- Between passes nothing is staged. -/
theorem Reachable.betweenPasses (h : Reachable batchSize w) : w.mappings.BetweenPasses := by
  induction h with
  | start => exact ⟨rfl, rfl, rfl, rfl, rfl⟩
  | @enqueue w table es _ ih =>
    rw [mappings_enqueue]
    exact ih
  | vnetPass c d _ ih => exact ih
  | mappingPass c d _ _ ih => exact ih.reconcile

/-- Whatever batch of changes with distinct keys a worker meets between passes, staging it makes one
request at most for a PA validation entry, as `SharedBy` says, and every request that it makes is
for some entry. -/
theorem pa_requests_shared {δ : Type} [Driver δ] (h : Reachable batchSize w) (c : Context)
    {es : List Entry} (hkeys : (es.map Entry.key).Nodup) :
    (∀ pa, SharedBy w.mappings c pa ((bulk (δ := δ)).stageAll c es w.mappings).1
      ((bulk (δ := δ)).stageAll c es w.mappings).2.paStager) ∧
    ∀ {position slot},
      ((bulk (δ := δ)).stageAll c es w.mappings).2.paStager.slots[position]? = some slot →
      slot.isOpen = true →
      ∃ pa, Pending ((bulk (δ := δ)).stageAll c es w.mappings).2.paStager pa
        ((bulk (δ := δ)).stageAll c es w.mappings).1 position slot := by
  have hbatch := stagedBatch (δ := δ) h.settled h.betweenPasses.paSlots hkeys c
  exact ⟨hbatch.sharedBy, hbatch.pending⟩

/-- At every moment of a pass with room for its batch, the references that it has staged may be
counted in words. -/
theorem pass_countedInWords {δ : Type} [Driver δ] (h : Reachable batchSize w) (hroom : w.HasRoom)
    (c : Context) {front back : List Entry} {e : Entry}
    (hbatch : w.mappingQueue.entries.take w.mappingQueue.batchSize = front ++ e :: back)
    (pa : String) :
    ∃ words, CountedInWords ((bulk (δ := δ)).stageAll c front w.mappings).2 pa words := by
  have hkeys := w.mappingQueue.nodup_batch
  rw [ChangeQueue.popBatch_fst, hbatch, List.map_append, List.nodup_append] at hkeys
  have hstaged := stagedBatch (δ := δ) h.settled h.betweenPasses.paSlots hkeys.1 c
  have hlength := congrArg List.length ((bulk (δ := δ)).stageAll_entries c front w.mappings)
  have hsize := congrArg List.length hbatch
  rw [HasRoom, ChangeQueue.FitsInto] at hroom
  rw [List.length_map] at hlength
  rw [List.length_take, List.length_append, List.length_cons] at hsize
  exact hstaged.whole.countedInWords (by omega) pa

/-- Changes that delete both mappings of an address and place a third one behind it. -/
def turnover : List Entry :=
  [⟨"red:10.0.0.1", .del, []⟩, ⟨"red:10.0.0.2", .del, []⟩,
    ⟨"red:10.0.0.3", .set, [("underlay_ip", "1.1.1.1"), ("mac_address", "00:00:00:00:00:03")]⟩]

/-- The outcomes of staging these changes, and the table with their requests. -/
def turnedOver : List (Entry × StageOutcome MappingOp) × MappingTable :=
  (bulk (δ := Simulator)).stageAll oneVnet.2.2.1 turnover twoMappings.mappings

theorem twoMappings_turnedOver :
    Reachable 4 twoMappings ∧ (turnover.map Entry.key).Nodup ∧
      turnedOver.1.map (actionOn "red:1.1.1.1") = [some (.release, 0), some (.remove, 1), none] ∧
      ∃ front o back, turnedOver.1 = front ++ o :: back ∧
        twoMappings.mappings.DropsLast "red:1.1.1.1" front o back := by
  have hreach : Reachable 4 twoMappings := .mappingPass _ _ (by decide)
    (.enqueue _ _ (.vnetPass _ _ (.enqueue _ _ .start)))
  have hkeys : (turnover.map Entry.key).Nodup := by decide
  obtain ⟨hshared, -⟩ := pa_requests_shared (δ := Simulator) hreach oneVnet.2.2.1 hkeys
  refine ⟨hreach, hkeys, rfl, ((hshared "red:1.1.1.1").removed.1 ⟨1,
    .entry (paValidationEntryKey ⟨0xb000000000001⟩ (.v4 1 1 1 1)), ?_⟩).2⟩
  exact ⟨rfl, rfl, _, .tail _ (.head _), .remove, rfl⟩

end DashAgent.VnetWorker
