import DashAgent.Daemon.AgentWorker
import DashAgent.Proofs.Overlay.Configuration
import DashAgent.Proofs.Overlay.MappingCounts
import DashAgent.Proofs.Overlay.Register

/-!
# The census of all tables

Every overlay resource is owned by one of five tables, and each of the five passes of the workers
moves the counts with the objects of its own table. A worker's turn is made of such passes, so it
keeps the counts equal to the census of all five, however its passes end.
-/
namespace DashAgent

open MappingTable (caCensus paResource Keyed)

/-- The table whose objects are counted as a resource. -/
def Resource.owner? : Resource → Option OverlayTable
  | dashVnet => some .vnet
  | dashEni => some .eni
  | dashIpv4OutboundCaToPa | dashIpv6OutboundCaToPa | dashIpv4PaValidation
  | dashIpv6PaValidation => some .mapping
  | dashIpv4OutboundRouting | dashIpv6OutboundRouting => some .route
  | dashIpv4InboundRouting | dashIpv6InboundRouting => some .rule
  | _ => none

section Owners

variable (f : AddressFamily)

@[simp] theorem owner?_dashVnet : Resource.dashVnet.owner? = some .vnet := rfl

@[simp] theorem owner?_dashEni : Resource.dashEni.owner? = some .eni := rfl

@[simp] theorem owner?_outboundRouting : (Resource.outboundRouting f).owner? = some .route := by
  cases f <;> rfl

@[simp] theorem owner?_inboundRouting : (Resource.inboundRouting f).owner? = some .rule := by
  cases f <;> rfl

@[simp] theorem owner?_outboundCaToPa : (Resource.outboundCaToPa f).owner? = some .mapping := by
  cases f <;> rfl

@[simp] theorem owner?_paValidation : (Resource.paValidation f).owner? = some .mapping := by
  cases f <;> rfl

end Owners

def OverlayTable.part (v : VnetWorker) (e : EniWorker) (r : RouteWorker) (s : Resource) :
    OverlayTable → Nat
  | vnet => objectsOf (fun _ => .dashVnet) v.vnets.vnets s
  | mapping => caCensus v.mappings.mappings s + objectsOf paResource v.mappings.paEntries s
  | eni => objectsOf (fun _ => .dashEni) e.enis.enis s
  | route => objectsOf (fun route => .outboundRouting route.net.family) r.routes.routes s
  | rule => objectsOf (fun rule => .inboundRouting rule.net.family) r.rules.rules s

/-- The objects in the tables of the workers by resource. -/
def overlayCensus (v : VnetWorker) (e : EniWorker) (r : RouteWorker) (s : Resource) : Nat :=
  (OverlayTable.all.map (OverlayTable.part v e r s)).sum

def overlayRest (v : VnetWorker) (e : EniWorker) (r : RouteWorker) (table : OverlayTable)
    (s : Resource) : Nat :=
  ((OverlayTable.all.erase table).map (OverlayTable.part v e r s)).sum

section Parts

variable {v : VnetWorker} {e : EniWorker} {r : RouteWorker} {s : Resource} {table : OverlayTable}

/-- A table has no objects of the resources of other tables. -/
theorem part_eq_zero (h : s.owner? ≠ some table) : OverlayTable.part v e r s table = 0 := by
  cases table with
  | mapping =>
    have hca : caCensus v.mappings.mappings s = 0 := by
      apply Table.tally_eq_zero
      intro _ m
      apply if_neg
      rintro ⟨-, rfl⟩
      simp at h
    have hpa : objectsOf paResource v.mappings.paEntries s = 0 := by
      apply objectsOf_eq_zero
      rintro p rfl
      simp [paResource] at h
    rw [OverlayTable.part, hca, hpa]
  | vnet | eni | route | rule =>
    apply objectsOf_eq_zero
    rintro x rfl
    simp at h

/-- The other tables have nothing of the resources of a table. -/
theorem overlayRest_eq_zero (h : s.owner? = some table) : overlayRest v e r table s = 0 := by
  apply List.sum_eq_zero
  intro n hn
  obtain ⟨other, hother, rfl⟩ := List.mem_map.1 hn
  apply part_eq_zero
  rw [h]
  intro heq
  exact (OverlayTable.nodup_all.mem_erase_iff.1 hother).1 (Option.some.inj heq).symm

/-- The census is what a table has and what the others have. -/
theorem overlayCensus_split (table : OverlayTable) :
    overlayCensus v e r s = overlayRest v e r table s + OverlayTable.part v e r s table := by
  have h := List.sum_map_erase (OverlayTable.part v e r s) table.mem_all
  rw [overlayCensus, overlayRest]
  omega

/-- The census of a resource is what its table has. -/
theorem overlayCensus_eq_part (h : s.owner? = some table) :
    overlayCensus v e r s = OverlayTable.part v e r s table := by
  rw [overlayCensus_split table, overlayRest_eq_zero h, Nat.zero_add]

end Parts

/-! ## Passes -/

/-- The counts are those of the census, and PA validation entries are under their own keys. -/
structure Booked (c : Context) (v : VnetWorker) (e : EniWorker) (r : RouteWorker) : Prop where
  balanced : c.Balanced (overlayCensus v e r)
  keyed : Keyed v.mappings.paEntries

namespace Booked

variable {δ : Type} [Driver δ] {v : VnetWorker} {e : EniWorker} {r : RouteWorker} {c : Context}

omit [Driver δ] in
/-- A pass over a register keeps the counts equal to what it has and what the other tables have. -/
theorem pass {τ κ ν : Type} {ops : BulkTable τ κ Context δ} {R : Register ops ν}
    {table : OverlayTable} (h : Booked c v e r) (howner : ∀ x, (R.resource x).owner? = some table)
    {q : ChangeQueue} {t : τ}
    (hpart : ∀ s, OverlayTable.part v e r s table = objectsOf R.resource (R.objects t) s)
    (hroom : q.FitsInto (R.objects t)) (d : δ) :
    (ops.reconcile ⟨q, t, c, d⟩).2.env.Balanced
      (R.census (overlayRest v e r table) (R.objects (ops.reconcile ⟨q, t, c, d⟩).2.table)) := by
  have hothers : ∀ x, overlayRest v e r table (R.resource x) = 0 :=
    fun x => overlayRest_eq_zero (howner x)
  have hstart : c.Balanced (R.census (overlayRest v e r table) (R.objects t)) := by
    refine h.balanced.congr ?_
    intro s
    rw [Register.census, ← hpart, ← overlayCensus_split]
  exact R.balanced_reconcile hothers hstart hroom

theorem workVnets (h : Booked c v e r) (hroom : v.vnetQueue.FitsInto v.vnets.vnets) (d : δ) :
    Booked (v.workVnets c d).2.2.1 (v.workVnets c d).2.1 e r := by
  have hend := h.pass (R := VnetTable.register) (fun _ => owner?_dashVnet) (fun _ => rfl) hroom d
  exact ⟨hend.congr fun s => overlayCensus_split .vnet, h.keyed⟩

theorem workMappings (h : Booked c v e r) (hroom : v.mappingQueue.FitsInto v.mappings.mappings)
    (hroom' : v.mappingQueue.FitsInto v.mappings.paEntries) (d : δ) :
    Booked (v.workMappings c d).2.2.1 (v.workMappings c d).2.1 e r := by
  have hca : ∀ f, overlayRest v e r .mapping (.outboundCaToPa f) = 0 :=
    fun f => overlayRest_eq_zero (owner?_outboundCaToPa f)
  have hpa : ∀ f, overlayRest v e r .mapping (.paValidation f) = 0 :=
    fun f => overlayRest_eq_zero (owner?_paValidation f)
  have hstart : c.Balanced (MappingTable.census (overlayRest v e r .mapping) v.mappings) :=
    h.balanced.congr fun s => by
      rw [overlayCensus_split .mapping, MappingTable.census, OverlayTable.part, Nat.add_assoc]
  obtain ⟨hend, hkeyed⟩ := MappingTable.balanced_reconcile hca hpa
    (p := ⟨v.mappingQueue, v.mappings, c, d⟩) hstart h.keyed hroom hroom'
  refine ⟨hend.congr fun s => ?_, hkeyed⟩
  rw [overlayCensus_split .mapping, MappingTable.census, OverlayTable.part, Nat.add_assoc]
  rfl

theorem workEnis (h : Booked c v e r) (hroom : e.queue.FitsInto e.enis.enis) (d : δ) :
    Booked (e.work c d).2.2.1 v (e.work c d).2.1 r := by
  have hend := h.pass (R := EniTable.register) (fun _ => owner?_dashEni) (fun _ => rfl) hroom d
  exact ⟨hend.congr fun s => overlayCensus_split .eni, h.keyed⟩

theorem workRoutes (h : Booked c v e r) (hroom : r.routeQueue.FitsInto r.routes.routes) (d : δ) :
    Booked (r.workRoutes c d).2.2.1 v e (r.workRoutes c d).2.1 := by
  have hend := h.pass (R := RouteTable.register)
    (fun route => owner?_outboundRouting route.net.family) (fun _ => rfl) hroom d
  exact ⟨hend.congr fun s => overlayCensus_split .route, h.keyed⟩

theorem workRules (h : Booked c v e r) (hroom : r.ruleQueue.FitsInto r.rules.rules) (d : δ) :
    Booked (r.workRules c d).2.2.1 v e (r.workRules c d).2.1 := by
  have hend := h.pass (R := RuleTable.register)
    (fun rule => owner?_inboundRouting rule.net.family) (fun _ => rfl) hroom d
  exact ⟨hend.congr fun s => overlayCensus_split .rule, h.keyed⟩

/-! ## Turns -/

/-- Configuration is not counted. -/
theorem apply (h : Booked c v e r) (entry : Entry) :
    Booked (ConfigurationWorker.apply entry c).2 v e r := by
  unfold ConfigurationWorker.apply
  split
  · have hsame := Monitor.sameUse_of_routines (Monitor.routines_configure c.monitor entry.fields)
    exact ⟨⟨h.balanced.counts.sameUse hsame, h.balanced.accepted⟩, h.keyed⟩
  · exact h

theorem applyAll (h : Booked c v e r) (es : List Entry) :
    Booked (ConfigurationWorker.applyAll es c).2 v e r := by
  induction es generalizing c with
  | nil => exact h
  | cons entry rest ih => exact ih (h.apply entry)

/-- A turn over VNETs and mappings. -/
theorem workVnet (h : Booked c v e r) (hvnets : v.vnetQueue.FitsInto v.vnets.vnets)
    (hmappings : v.mappingQueue.FitsInto v.mappings.mappings)
    (hentries : v.mappingQueue.FitsInto v.mappings.paEntries) (d : δ) :
    Booked (v.work c d).2.2.1 (v.work c d).2.1 e r := by
  have hfirst := h.workVnets hvnets d
  have hmappings' : (v.workVnets c d).2.1.mappingQueue.FitsInto
    (v.workVnets c d).2.1.mappings.mappings := hmappings
  have hentries' : (v.workVnets c d).2.1.mappingQueue.FitsInto
    (v.workVnets c d).2.1.mappings.paEntries := hentries
  unfold VnetWorker.work
  split
  · next heq =>
    rw [heq] at hfirst
    exact hfirst
  · next heq =>
    rw [heq] at hfirst hmappings' hentries'
    exact hfirst.workMappings hmappings' hentries' _

/-- A turn over routes and rules. -/
theorem workRoute (h : Booked c v e r) (hroutes : r.routeQueue.FitsInto r.routes.routes)
    (hrules : r.ruleQueue.FitsInto r.rules.rules) (d : δ) :
    Booked (r.work c d).2.2.1 v e (r.work c d).2.1 := by
  have hfirst := h.workRoutes hroutes d
  have hrules' : (r.workRoutes c d).2.1.ruleQueue.FitsInto
    (r.workRoutes c d).2.1.rules.rules := hrules
  unfold RouteWorker.work
  split
  · next heq =>
    rw [heq] at hfirst
    exact hfirst
  · next heq =>
    rw [heq] at hfirst hrules'
    exact hfirst.workRules hrules' _

end Booked

end DashAgent
