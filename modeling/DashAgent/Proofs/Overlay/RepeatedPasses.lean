import DashAgent.Proofs.Overlay.Scratch
import DashAgent.Proofs.Reconcile.Repetition

/-!
# Passes of keyed tables can be repeated

Routes, rules and mappings are entries whose keys the agent chooses. A pass over them that loses its
channel can therefore be repeated. A mapping makes requests for two tables of the switch, one after
the other; the channel may be lost in either. Main theorem: `interrupted_pass_recovers`.
-/
namespace DashAgent

open BulkStager FaultGate

/-- A plain gate stands, and still does when its channel is going to be cut. -/
theorem FaultGate.Plain.stands {g : FaultGate} (h : g.Plain) :
    g.Stands True g.switch g.switch.objects ∧
      ∀ calls, (g.cutAfter calls).Stands False g.switch g.switch.objects := by
  have hholds : g.switch.Holds g.switch.objects g.switch := Simulator.holds_self h.up
  have hclear : g.Clear := by constructor <;> rw [h.faults] <;> rfl
  refine ⟨⟨hclear, fun _ => by rw [h.faults]; rfl, hholds⟩, fun calls => ?_⟩
  exact ⟨⟨hclear.whole, hclear.visible⟩, False.elim, hholds⟩

/-- A stager of named entries takes one more. -/
theorem BulkStager.namesEntries_push {s : BulkStager} (h : s.NamesEntries) {slot : Slot}
    (hslot : slot.Keyed) : (s.push slot).2.NamesEntries :=
  (HoldsEntries.push ⟨rfl, Nat.le_refl _, h⟩ hslot).keyed

/-! ## Routing tables -/

namespace RoutingTable

variable {α ρ : Type} (K : RoutingKind α ρ)

def repeatable : Repeatable (bulk (δ := FaultGate) K) where
  Tidy t := t.stager.slots = []
  Staging t := t.stager.NamesEntries
  Awaits t op := t.stager.Awaits (opKind op) false (opPosition op)
  Distinct t := t.stager.keys.Nodup
  Alike t t₁ t₂ := t₁.records = t₂.records ∧ BulkStager.Alike t.stager t₁.stager t₂.stager
  start := by
    intro t h
    refine ⟨(holdsEntries_of_nil rfl h).keyed, ?_⟩
    obtain ⟨⟨type, size, slots, hpos⟩, records⟩ := t
    cases h
    rfl
  endPass_stage := (scratch K).endPass_stage
  endPass_flush := (scratch K).endPass_flush
  unstaged := (scratch K).unstaged
  stage {e env t} h := by
    have hstage := stage_spec K t e env
    simp only [bulk]
    generalize stage K t e env = result at hstage ⊢
    cases hstage with
    | done | invalid | notReady => exact ⟨h, fun _ => id, nofun⟩
    | create asked r =>
      refine ⟨namesEntries_push h Slot.keyed_create, fun _ hop => hop.push _, ?_⟩
      rintro op ⟨⟩
      exact awaits_push ⟨rfl, nofun⟩
    | remove r =>
      refine ⟨namesEntries_push h Slot.keyed_remove, fun _ hop => hop.push _, ?_⟩
      rintro op ⟨⟩
      exact awaits_push ⟨rfl, rfl⟩
  flush := by
    intro t g hkeyed hdistinct hplain
    have hunforced := hplain.unforced t.stager.type
    have hapart := apart_of_nodup hkeyed hdistinct
    obtain ⟨hstands, hcutting⟩ := hplain.stands
    obtain ⟨s₁, g₁, hflush, hend, hdecided⟩ := flush_lasting hkeyed hunforced hstands
    refine ⟨{ t with stager := s₁ }, g₁, by simp only [bulk, hflush], ?_⟩
    intro calls error t₂ g₂ hfailed
    obtain ⟨_, _, hanswered, -⟩ | ⟨left, s₂, g₂', hcut, hhalfway, hstopped⟩ :=
      flush_cases hkeyed hunforced (hcutting calls)
    · simp only [bulk, hanswered] at hfailed
      cases hfailed
    · simp only [bulk, hcut] at hfailed
      cases hfailed
      obtain ⟨s₃, g₃, hagain, hend', hdecided'⟩ :=
        flush_lasting hkeyed hunforced hstopped.restored
      rw [after_of_halfway (hplain.nodup _) hapart hhalfway] at hend' hdecided'
      refine ⟨rfl, { t with stager := s₃ }, g₃, by simp only [bulk, hagain],
        ⟨rfl, alike_of_flush hflush hdecided hagain hdecided'⟩, fun type => ?_⟩
      rw [hend'.holds.objects_eq, hend.holds.objects_eq]
  commit := by
    rintro ⟨s, _⟩ ⟨s₁, records⟩ ⟨s₂, _⟩ e op env ⟨rfl, halike⟩ hawaits
    have hdecision := halike.decision hawaits
    cases op with
    | create position r =>
      simp only [opKind, opPosition] at hdecision
      simp only [bulk, commit, hdecision]
      cases Decision.ofStatus .create (s₂.outcome position) <;> exact ⟨rfl, rfl, rfl, halike⟩
    | remove position =>
      simp only [opKind, opPosition] at hdecision
      simp only [bulk, commit, hdecision]
      cases Decision.ofStatus .remove (s₂.outcome position) with
      | commit => cases records.get? e.key <;> exact ⟨rfl, rfl, rfl, halike⟩
      | retry | drop => exact ⟨rfl, rfl, rfl, halike⟩
  finish := by
    rintro t t₁ t₂ ⟨hrecords, halike⟩
    simp only [bulk, hrecords, halike.clear]

end RoutingTable

/-! ## Mappings -/

namespace MappingTable

/-! ### Flushing -/

/-- Both flushes of a table run through while the channel lasts. -/
theorem flush_lasting {t : MappingTable} {g : FaultGate} {d₀ : Simulator}
    {objects : ObjectType → List ObjectKey} (hca : t.caToPaStager.NamesEntries)
    (hpa : t.paStager.NamesEntries) (hunforced : ∀ type, (d₀.pools.get type).forced = [])
    (h : g.Stands True d₀ objects) :
    ∃ s₁ s₂ g₁ g₂, t.flush g = (.ok (), { t with caToPaStager := s₁, paStager := s₂ }, g₂) ∧
      t.caToPaStager.flush g = (.ok (), s₁, g₁) ∧ t.paStager.flush g₁ = (.ok (), s₂, g₂) ∧
      g₂.Stands True d₀ (t.paStager.after d₀ (t.caToPaStager.after d₀ objects)) ∧
      t.caToPaStager.DecidedAs (t.caToPaStager.after d₀ objects t.caToPaStager.type) s₁ ∧
      t.paStager.DecidedAs
        (t.paStager.after d₀ (t.caToPaStager.after d₀ objects) t.paStager.type) s₂ := by
  obtain ⟨s₁, g₁, hflush₁, hstands₁, hdecided₁⟩ :=
    BulkStager.flush_lasting hca (hunforced _) h
  obtain ⟨s₂, g₂, hflush₂, hstands₂, hdecided₂⟩ :=
    BulkStager.flush_lasting hpa (hunforced _) hstands₁
  refine ⟨s₁, s₂, g₁, g₂, ?_, hflush₁, hflush₂, hstands₂, hdecided₁, hdecided₂⟩
  simp only [flush, hflush₁, hflush₂]

/-- A flush that was cut off left a switch on which another one leaves what a whole one leaves. -/
theorem flush_cut {t t' : MappingTable} {g g' : FaultGate} {d₀ : Simulator}
    {objects : ObjectType → List ObjectKey} {error : DriverError}
    (hca : t.caToPaStager.NamesEntries) (hpa : t.paStager.NamesEntries)
    (hcaApart : t.caToPaStager.Apart) (hpaApart : t.paStager.Apart)
    (hne : t.caToPaStager.type ≠ t.paStager.type)
    (hunforced : ∀ type, (d₀.pools.get type).forced = []) (hnodup : ∀ type, (objects type).Nodup)
    (h : g.Stands False d₀ objects) (hflush : t.flush g = (.error error, t', g')) :
    error = Simulator.channelDown ∧ ∃ objects', g'.restored.Stands True d₀ objects' ∧
      t.caToPaStager.after d₀ objects' t.caToPaStager.type =
        t.caToPaStager.after d₀ objects t.caToPaStager.type ∧
      t.paStager.after d₀ (t.caToPaStager.after d₀ objects') =
        t.paStager.after d₀ (t.caToPaStager.after d₀ objects) := by
  obtain ⟨s₁, g₁, hflush₁, hstands₁, -⟩ | ⟨left, s₁, g₁, hflush₁, hhalfway, hcut⟩ :=
    flush_cases hca (hunforced _) h
  · obtain ⟨s₂, g₂, hflush₂, -, -⟩ | ⟨left, s₂, g₂, hflush₂, hhalfway, hcut⟩ :=
      flush_cases hpa (hunforced _) hstands₁
    · simp only [flush, hflush₁, hflush₂] at hflush
      cases hflush
    · simp only [flush, hflush₁, hflush₂] at hflush
      cases hflush
      have hrest : (t.caToPaStager.after d₀ objects t.paStager.type).Nodup := by
        rw [after_of_ne hne]
        exact hnodup _
      refine ⟨rfl, _, hcut.restored, ?_, ?_⟩
      · rw [after_update hne, after_after (hnodup _) hcaApart, Function.update_of_ne hne]
      · rw [after_update hne, after_after (hnodup _) hcaApart,
          after_of_halfway hrest hpaApart hhalfway]
  · simp only [flush, hflush₁] at hflush
    cases hflush
    refine ⟨rfl, _, hcut.restored, ?_, ?_⟩ <;>
      rw [after_of_halfway (hnodup _) hcaApart hhalfway]

/-! ### Committing -/

/-- Two tables that one table may become, the same but for answers that are decided alike. -/
structure Alike (t t₁ t₂ : MappingTable) : Prop where
  mappings : t₁.mappings = t₂.mappings
  paEntries : t₁.paEntries = t₂.paEntries
  caToPa : BulkStager.Alike t.caToPaStager t₁.caToPaStager t₂.caToPaStager
  pa : BulkStager.Alike t.paStager t₁.paStager t₂.paStager

theorem Alike.commit {t t₁ t₂ : MappingTable} (h : Alike t t₁ t₂) {op : MappingOp}
    (hop : Asked Waits t op) (e : Entry) (c : Context) :
    (t₁.commit e op c).1 = (t₂.commit e op c).1 ∧
      (t₁.commit e op c).2.1 = (t₂.commit e op c).2.1 ∧
      Alike t (t₁.commit e op c).2.2 (t₂.commit e op c).2.2 := by
  have hca : ∀ {position}, op.caToPa = some position →
      Decision.ofStatus op.kind (t₁.caToPaStager.outcome position) =
        Decision.ofStatus op.kind (t₂.caToPaStager.outcome position) :=
    fun hposition => h.caToPa.decision (hop.caToPa hposition)
  have hpa : ∀ {action position}, op.pa = some (action, position) → action.kind = op.kind ∧
      Decision.ofStatus op.kind (t₁.paStager.outcome position) =
        Decision.ofStatus op.kind (t₂.paStager.outcome position) :=
    fun haction => ⟨(hop.pa haction).1, h.pa.decision (hop.pa haction).2⟩
  have hcaAccepted : t₁.caAccepted op = t₂.caAccepted op := by
    unfold caAccepted
    cases hposition : op.caToPa with
    | none => rfl
    | some position => simp only [Option.any_some, hca hposition]
  have hpaAccepted : t₁.paAccepted? op = t₂.paAccepted? op := by
    unfold paAccepted?
    cases haction : op.pa with
    | none => rfl
    | some action =>
      obtain ⟨hkind, hdecision⟩ := hpa haction
      simp only [Option.filter_some, hkind, hdecision]
  have hsettled : t₁.settled op = t₂.settled op := by
    simp only [settled, hcaAccepted, hpaAccepted]
  have hcounted : t₁.caCounted op c = t₂.caCounted op c := by simp only [caCounted, hcaAccepted]
  refine ⟨?_, ?_, ?_⟩
  · simp only [MappingTable.commit, statuses]
    cases hposition : op.caToPa with
    | none =>
      cases haction : op.pa with
      | none => rfl
      | some action => simp [Decision.ofStatuses, (hpa haction).2]
    | some position =>
      cases haction : op.pa with
      | none => simp [Decision.ofStatuses, hca hposition]
      | some action => simp [Decision.ofStatuses, hca hposition, (hpa haction).2]
  · rw [commit_eq, commit_eq, hpaAccepted, hcounted, h.paEntries]
  · rw [commit_eq, commit_eq, hpaAccepted, hsettled, h.mappings, h.paEntries]
    exact ⟨rfl, rfl, h.caToPa, h.pa⟩

/-! ### Repetition -/

def repeatable : Repeatable (bulk (δ := FaultGate)) where
  Tidy := BetweenPasses
  Staging t := ∃ n, StagingBoth n t
  Awaits := Asked Waits
  Distinct t := t.caToPaStager.keys.Nodup ∧ t.paStager.keys.Nodup
  Alike := Alike
  start := by
    rintro ⟨⟨_, _, _, _⟩, ⟨_, _, _, _⟩, _, _, _⟩ h
    refine ⟨⟨0, h.staging⟩, ?_⟩
    obtain ⟨-, -, ⟨⟩, ⟨⟩, ⟨⟩⟩ := h
    rfl
  endPass_stage := scratch.endPass_stage
  endPass_flush := scratch.endPass_flush
  unstaged := scratch.unstaged
  stage := by
    rintro e env t ⟨n, h⟩
    simp only [bulk]
    obtain ⟨hunstaged, hsame⟩ | ⟨op, t', hstage, hstaging, hasked, hkept⟩ := h.stage e env
    · rw [hsame]
      refine ⟨⟨n, h⟩, fun _ => id, fun op hop => ?_⟩
      rw [hop] at hunstaged
      cases hunstaged
    · rw [hstage]
      refine ⟨⟨_, hstaging⟩, fun _ => hkept, ?_⟩
      rintro _ ⟨⟩
      exact hasked
  flush := by
    rintro t g ⟨n, hca, hpa⟩ ⟨hcaDistinct, hpaDistinct⟩ hplain
    have hcaApart := apart_of_nodup hca.keyed hcaDistinct
    have hpaApart := apart_of_nodup hpa.holds.keyed hpaDistinct
    have hne : t.caToPaStager.type ≠ t.paStager.type := by
      rw [hca.type, hpa.holds.type]
      decide
    obtain ⟨hstands, hcutting⟩ := hplain.stands
    obtain ⟨s₁, s₂, g₁, g₂, hflush, hfirst, hsecond, hend, hdecided₁, hdecided₂⟩ :=
      flush_lasting hca.keyed hpa.holds.keyed hplain.unforced hstands
    refine ⟨_, g₂, hflush, fun calls error t' g' hfailed => ?_⟩
    obtain ⟨rfl, objects', hstopped, hcaSame, hpaSame⟩ := flush_cut hca.keyed hpa.holds.keyed
      hcaApart hpaApart hne hplain.unforced hplain.nodup (hcutting calls) hfailed
    obtain ⟨s₃, s₄, g₃, g₄, hflush', hfirst', hsecond', hend', hdecided₃, hdecided₄⟩ :=
      flush_lasting hca.keyed hpa.holds.keyed hplain.unforced hstopped
    rw [hcaSame] at hdecided₃
    rw [hpaSame] at hdecided₄ hend'
    refine ⟨rfl, _, g₄, hflush', ⟨rfl, rfl, alike_of_flush hfirst hdecided₁ hfirst' hdecided₃,
      alike_of_flush hsecond hdecided₂ hsecond' hdecided₄⟩, fun type => ?_⟩
    rw [hend'.holds.objects_eq, hend.holds.objects_eq]
  commit h hop := h.commit hop _ _
  finish h := by
    simp only [bulk, h.mappings, h.paEntries, h.caToPa.clear, h.pa.clear]

end MappingTable

/-! ## The main theorem -/

/-- A pass over routes, rules or mappings whose whole queue fits its batch, and whose staged
requests are about different entries, can lose its channel after any number of bulk calls: repeated
on the restored channel it ends as it would have ended. -/
theorem interrupted_pass_recovers :
    (∀ p : Pass RouteTable Context FaultGate, p.table.stager.slots = [] →
      p.queue.entries.length ≤ p.queue.batchSize →
      (RouteTable.bulk.stageAll (δ := FaultGate) p.env p.queue.entries
        p.table).2.stager.keys.Nodup →
      p.switch.Plain → RouteTable.bulk.Recovers p) ∧
    (∀ p : Pass RuleTable Context FaultGate, p.table.stager.slots = [] →
      p.queue.entries.length ≤ p.queue.batchSize →
      (RuleTable.bulk.stageAll (δ := FaultGate) p.env p.queue.entries
        p.table).2.stager.keys.Nodup →
      p.switch.Plain → RuleTable.bulk.Recovers p) ∧
    ∀ p : Pass MappingTable Context FaultGate, p.table.BetweenPasses →
      p.queue.entries.length ≤ p.queue.batchSize →
      (MappingTable.bulk.stageAll (δ := FaultGate) p.env p.queue.entries
        p.table).2.caToPaStager.keys.Nodup →
      (MappingTable.bulk.stageAll (δ := FaultGate) p.env p.queue.entries
        p.table).2.paStager.keys.Nodup →
      p.switch.Plain → MappingTable.bulk.Recovers p :=
  ⟨fun _ htidy hbatch hkeys hplain =>
      (RoutingTable.repeatable RouteTable.kind).recovers htidy hbatch hkeys hplain,
    fun _ htidy hbatch hkeys hplain =>
      (RoutingTable.repeatable RuleTable.kind).recovers htidy hbatch hkeys hplain,
    fun _ htidy hbatch hcaKeys hpaKeys hplain =>
      MappingTable.repeatable.recovers htidy hbatch ⟨hcaKeys, hpaKeys⟩ hplain⟩

/-- A new gate is plain. -/
theorem FaultGate.plain_new (capacity : Nat) : (FaultGate.new capacity).Plain := by
  refine ⟨rfl, rfl, fun type => ?_, fun type => ?_⟩
  · simp [FaultGate.new, Simulator.new, Pool.unused]
  · simp [FaultGate.new, Simulator.new, Simulator.objects, Pool.unused]

/-- A pass over new changes of a table, while a VNET and an ENI are programmed. -/
def passOver {τ : Type} (table : τ) (changes : List Entry) : Pass τ Context FaultGate where
  queue := (ChangeQueue.new "" 0 128).addAll changes
  table
  env := ((Context.new (.new 1000 .empty)).addVnet "red" ⟨5⟩).addEni "eni0" ⟨7⟩
  switch := .new 16

def routePass : Pass RouteTable Context FaultGate :=
  passOver (.new 1) [⟨"eni0:10.0.0.0/16", .set, [("action_type", "drop")]⟩]

def rulePass : Pass RuleTable Context FaultGate :=
  passOver (.new 1) [⟨"eni0:100:10.0.0.0/16", .set, [("action_type", "decap"), ("priority", "1")]⟩]

def mappingPass : Pass MappingTable Context FaultGate :=
  passOver (.new 1) (["red:10.0.0.1", "red:10.0.0.2"].map fun key =>
    ⟨key, .set, [("underlay_ip", "1.1.1.1"), ("mac_address", "00:00:00:00:00:01")]⟩)

/-- The pass over mappings is cut off between its CA-to-PA and its PA validation requests. -/
theorem cutPasses_recover :
    ((RouteTable.bulk.reconcile (routePass.cutAfter 0)).1.toOption = none ∧
      RouteTable.bulk.Recovers routePass) ∧
    ((RuleTable.bulk.reconcile (rulePass.cutAfter 0)).1.toOption = none ∧
      RuleTable.bulk.Recovers rulePass) ∧
    (MappingTable.bulk.reconcile (mappingPass.cutAfter 2)).1.toOption = none ∧
      (MappingTable.bulk.reconcile (mappingPass.cutAfter 2)).2.switch.switch.objectCount
        .outboundCaToPaEntry = 2 ∧
      MappingTable.bulk.Recovers mappingPass := by
  obtain ⟨hroutes, hrules, hmappings⟩ := interrupted_pass_recovers
  refine ⟨⟨by decide +kernel, ?_⟩, ⟨by decide +kernel, ?_⟩, by decide +kernel,
    by decide +kernel, ?_⟩
  · exact hroutes _ rfl (by decide +kernel) (by decide +kernel) (FaultGate.plain_new 16)
  · exact hrules _ rfl (by decide +kernel) (by decide +kernel) (FaultGate.plain_new 16)
  · exact hmappings _ ⟨rfl, rfl, rfl, rfl, rfl⟩ (by decide +kernel) (by decide +kernel)
      (by decide +kernel) (FaultGate.plain_new 16)

end DashAgent
