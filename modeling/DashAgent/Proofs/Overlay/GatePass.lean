import DashAgent.Proofs.Overlay.Shapes
import DashAgent.Proofs.Overlay.SoleTables
import DashAgent.Proofs.Switch.Gate

/-!
# Passes behind a gate

A table whose driver is an open gate always has its flushes answered, and a pass over it touches
objects of its own types only. If its changes make one request each, the table holds after the pass
what the switch holds of its type.
-/
namespace DashAgent

open FaultGate (Served)

variable {τ κ ρ ν : Type} {queued : Status → Prop}

/-! ## What a pass touches -/

/-- A table that sends requests about objects of some types through a gate. -/
structure GateTable (queued : Status → Prop) (ops : BulkTable τ κ Context FaultGate) extends
    Shaped ops where
  flush_served : ∀ {t g}, Typed t → g.Open →
    (ops.flush t g).1 = .ok () ∧ Served queued touched g (ops.flush t g).2.2

namespace GateTable

variable {ops : BulkTable τ κ Context FaultGate} (G : GateTable queued ops)

def invariant (g₀ : FaultGate) : PassInvariant ops where
  staging _ _ _ t g := G.Typed t ∧ g₀.Open ∧ g = g₀
  committing _ _ _ t g := G.Typed t ∧ Served queued G.touched g₀ g
  answered _ _ t g := G.Rests t ∧ Served queued G.touched g₀ g
  unanswered _ _ _ := False
  stage h := ⟨G.stage_typed _ _ h.1, h.2⟩
  idle h _ := by
    obtain ⟨htyped, hopen, rfl⟩ := h
    exact ⟨htyped, .refl hopen⟩
  flush {_ _ _ g _ _} h hflush := by
    obtain ⟨htyped, hopen, rfl⟩ := h
    have hserved := (G.flush_served htyped hopen).2
    have htyped' := G.flush_typed g htyped
    rw [hflush] at hserved htyped'
    exact ⟨htyped', hserved⟩
  failure h hflush := by
    obtain ⟨htyped, hopen, rfl⟩ := h
    have hanswer := (G.flush_served htyped hopen).1
    rw [hflush] at hanswer
    cases hanswer
  commit h := ⟨G.commit_typed _ _ _ h.1, h.2⟩
  skip _ h := h
  finish h := ⟨⟨G.endPass_typed h.1, G.endPass_idle _⟩, h.2⟩

theorem served_reconcile {p : Pass τ Context FaultGate} (hrests : G.Rests p.table)
    (hopen : p.switch.Open) :
    G.Rests (ops.reconcile p).2.table ∧
      Served queued G.touched p.switch (ops.reconcile p).2.switch :=
  (G.invariant p.switch).keeps (B := fun _ t g => G.Rests t ∧ Served queued G.touched p.switch g)
    ⟨hrests, .refl hopen⟩ ⟨hrests.typed, hopen, rfl⟩ id False.elim

end GateTable

/-! ## What a pass leaves -/

/-- A table whose changes make one request each and whose flushes through a gate are told by their
answers. -/
structure GateRequests (queued : Status → Prop) (ops : BulkTable τ κ Context FaultGate)
    (ρ ν : Type) extends SoleRequests ops ρ ν, GateTable queued ops where
  /-- Nothing that is staged was answered yet. -/
  Blank : τ → Prop
  typed_type : ∀ {t}, Typed t → (stager t).type = type
  idle_slots : ∀ {t}, Idle t → (stager t).slots = []
  idle_blank : ∀ {t}, Idle t → Blank t
  stage_blank : ∀ {t} e c, Blank t → Blank (ops.stage e c t).2
  flush_answered : ∀ {t g}, Typed t → Blank t → (stager t).Unanswered → g.Open → g.Sound queued →
    (ops.flush t g).2.2.creates < 2 ^ 48 →
    toSoleRequests.Answered t g.switch (ops.flush t g).2.1 (ops.flush t g).2.2.switch

namespace GateRequests

open SoleRequests (Mirrors)

variable {ops : BulkTable τ κ Context FaultGate} (A : GateRequests queued ops ρ ν)

/-- What a pass over some changes, staged in context `c`, was told for a table `t₀` on the switch
`d₀`: the outcomes of staging, the table when all was staged, the table when all was answered, and
the switch then. -/
structure Report (changes : List Entry) (c : Context) (t₀ : τ) (d₀ : Simulator)
    (outcomes : List (Entry × StageOutcome κ)) (staged answered : τ) (d : Simulator) : Prop where
  changes : ∀ o ∈ outcomes, o.1 ∈ changes
  staging : A.WhileStaging c outcomes [] staged
  cells : A.cells staged = A.cells t₀
  told : A.toSoleRequests.Answered staged d₀ answered d
  numbers : d.nextId.toNat ≤ 2 ^ 48

/-- A pass on a sound switch ends with what its report says. -/
def reporting (changes : List Entry) {c₀ : Context} {t₀ : τ} {g₀ : FaultGate}
    (hsound : g₀.Sound queued) : PassInvariant ops where
  staging outcomes rest c t g := A.Typed t ∧ A.Blank t ∧ g.Open ∧ c = c₀ ∧ g = g₀ ∧
    A.cells t = A.cells t₀ ∧ ((∀ o ∈ outcomes, o.1 ∈ changes) ∧ ∀ e ∈ rest, e ∈ changes) ∧
    A.WhileStaging c outcomes rest t
  committing _ rest _ t g := g.creates < 2 ^ 48 → ∃ outcomes staged answered,
    A.Report changes c₀ t₀ g₀.switch outcomes staged answered g.switch ∧
      A.WhileCommitting (A.ends outcomes answered) rest t
  answered _ _ t g := g.creates < 2 ^ 48 → ∃ outcomes staged answered,
    A.Report changes c₀ t₀ g₀.switch outcomes staged answered g.switch ∧
      A.look t = A.ends outcomes answered
  unanswered _ _ _ := False
  stage {outcomes e rest c t g} h := by
    obtain ⟨htyped, hblank, hopen, hc, hg, hcells, ⟨hout, hrest⟩, hstaging⟩ := h
    have hout' : ∀ o ∈ outcomes ++ [(e, (ops.stage e c t).1)], o.1 ∈ changes := by
      intro o ho
      rcases List.mem_append.1 ho with ho | ho
      · exact hout o ho
      · rw [List.mem_singleton.1 ho]
        exact hrest e (List.mem_cons_self ..)
    exact ⟨A.stage_typed _ _ htyped, A.stage_blank _ _ hblank, hopen, hc, hg,
      (A.stage_cells _ _ _).trans hcells,
      ⟨hout', fun e' he' => hrest e' (List.mem_cons_of_mem _ he')⟩, hstaging.stage⟩
  idle {outcomes c t g} h _ := by
    obtain ⟨-, -, -, rfl, rfl, hcells, ⟨hout, -⟩, hstaging⟩ := h
    intro hcreates
    have hnumbers := hsound.numbers
    have htold := BulkStager.Told.start hstaging.unanswered g.switch
    have hanswered : A.toSoleRequests.Answered t g.switch t g.switch :=
      ⟨rfl, htold, htold.nonnull (by omega)⟩
    exact ⟨outcomes, t, t, ⟨hout, hstaging, hcells, hanswered, by omega⟩,
      hstaging.turn A.toSoleRequests hanswered⟩
  flush {outcomes c t g t' g'} h hflush := by
    obtain ⟨htyped, hblank, hopen, rfl, rfl, hcells, ⟨hout, -⟩, hstaging⟩ := h
    intro hcreates
    have hserved := (A.flush_served htyped hopen).2
    have hanswered := A.flush_answered htyped hblank hstaging.unanswered hopen hsound
    rw [hflush] at hserved hanswered
    have hnumbers : g'.switch.nextId.toNat ≤ g'.creates + 1 :=
      (hserved.sound hcreates hsound).numbers
    exact ⟨outcomes, t, t', ⟨hout, hstaging, hcells, hanswered hcreates, by omega⟩,
      hstaging.turn A.toSoleRequests (hanswered hcreates)⟩
  failure h hflush := by
    obtain ⟨htyped, -, hopen, -⟩ := h
    have hanswer := (A.flush_served htyped hopen).1
    rw [hflush] at hanswer
    cases hanswer
  commit h hcreates := by
    obtain ⟨outcomes, staged, answered, hreport, hcommitting⟩ := h hcreates
    exact ⟨outcomes, staged, answered, hreport, hcommitting.commit⟩
  skip hunstaged h hcreates := by
    obtain ⟨outcomes, staged, answered, hreport, hcommitting⟩ := h hcreates
    exact ⟨outcomes, staged, answered, hreport, hcommitting.skip A.toSoleRequests hunstaged⟩
  finish h hcreates := by
    obtain ⟨outcomes, staged, answered, hreport, hcommitting⟩ := h hcreates
    exact ⟨outcomes, staged, answered, hreport, hcommitting.look_endPass⟩

section Report

variable {p : Pass τ Context FaultGate}

/-- Every pass on a sound switch, with fewer than `2 ^ 48` creates, ends with what its report
says. -/
theorem report_reconcile (hrests : A.toGateTable.Rests p.table) (hopen : p.switch.Open)
    (hsound : p.switch.Sound queued) (hcreates : (ops.reconcile p).2.switch.creates < 2 ^ 48) :
    ∃ outcomes staged answered, A.Report p.queue.entries p.env p.table p.switch.switch outcomes
        staged answered (ops.reconcile p).2.switch.switch ∧
      A.look (ops.reconcile p).2.table = A.ends outcomes answered := by
  have hkeys := p.queue.nodup_batch
  rw [ChangeQueue.popBatch_fst] at hkeys
  have hstart : ∀ {rest : List Entry}, (rest.map Entry.key).Nodup →
      A.WhileStaging p.env [] rest p.table := fun hkeys =>
    .start A.toSoleRequests hkeys (A.typed_type hrests.typed) (A.idle_slots hrests.idle)
  have hbegin : p.switch.creates < 2 ^ 48 → ∃ outcomes staged answered,
      A.Report p.queue.entries p.env p.table p.switch.switch outcomes staged answered
        p.switch.switch ∧ A.look p.table = A.ends outcomes answered := by
    intro hcreates
    have hnumbers := hsound.numbers
    have hnone : A.WhileStaging p.env [] [] p.table := hstart List.nodup_nil
    have htold := BulkStager.Told.start hnone.unanswered p.switch.switch
    exact ⟨[], p.table, p.table, ⟨by simp, hnone, rfl, ⟨rfl, htold, htold.nonnull (by omega)⟩,
      by omega⟩, rfl⟩
  refine (A.reporting p.queue.entries hsound).keeps (B := fun _ t g => g.creates < 2 ^ 48 →
    ∃ outcomes staged answered, A.Report p.queue.entries p.env p.table p.switch.switch outcomes
      staged answered g.switch ∧ A.look t = A.ends outcomes answered)
    hbegin ?_ id False.elim hcreates
  exact ⟨hrests.typed, A.idle_blank hrests.idle, hopen, rfl, rfl, rfl,
    ⟨by simp, fun e he => List.mem_of_mem_take he⟩, hstart hkeys⟩

end Report

namespace Report

variable {A} {changes : List Entry} {c : Context} {t₀ staged answered : τ} {d₀ d : Simulator}
  {outcomes : List (Entry × StageOutcome κ)} {name : String} {v : ν}

theorem look (h : A.Report changes c t₀ d₀ outcomes staged answered d) :
    A.look staged = A.look t₀ := by
  funext name
  rw [SoleRequests.look, SoleRequests.look, h.cells]

/-- An object at the end was there before or arrives. -/
theorem cases (h : A.Report changes c t₀ d₀ outcomes staged answered d)
    (hend : A.ends outcomes answered name = some v) :
    A.look t₀ name = some v ∨ A.Arrives outcomes (A.stager answered) name v := by
  rw [← h.look]
  exact (A.ends_cases h.staging h.told hend).imp_left And.left

/-- Where an object arrives there was none before the pass. -/
theorem absent (h : A.Report changes c t₀ d₀ outcomes staged answered d)
    (harrives : A.Arrives outcomes (A.stager answered) name v) : A.look t₀ name = none := by
  rw [← h.look]
  exact A.absent_of_arrives h.staging h.told harrives

/-- A table that mirrors the switch does so at the end, if what it ends with has different keys. -/
theorem mirrors (h : A.Report changes c t₀ d₀ outcomes staged answered d)
    (hmirrors : Mirrors (A.look t₀) A.key (d₀.objects A.type))
    (hdistinct : ∀ {name name' v v'}, A.ends outcomes answered name = some v →
      A.ends outcomes answered name' = some v' → A.key v = A.key v' → name = name') :
    Mirrors (A.ends outcomes answered) A.key (d.objects A.type) :=
  A.mirrors_ends h.staging h.told (h.look ▸ hmirrors) hdistinct

end Report

end GateRequests

/-! ## The tables -/

section Tables

/-- A stager that is flushed through an open gate, as the table with it sees it. -/
theorem answered_of_flush {ops : BulkTable τ κ Context FaultGate} (S : SoleRequests ops ρ ν)
    {t t' : τ} {g : FaultGate} (hcells : S.cells t' = S.cells t)
    (hstager : S.stager t' = ((S.stager t).flush g).2.1) (hopen : g.Open)
    (hsound : g.Sound queued) (hblank : (S.stager t).Unanswered)
    (hcreates : ((S.stager t).flush g).2.2.creates < 2 ^ 48) (hgone : ¬queued .itemNotFound)
    (hthere : ∀ request, .create request none ∈ (S.stager t).slots → request.entry ≠ none →
      ¬queued .itemAlreadyExists) :
    S.Answered t g.switch t' ((S.stager t).flush g).2.2.switch := by
  have hbooks := hopen.books_flush hsound hblank hcreates hgone hthere
  have hnumbers := ((hopen.served_flush queued (S.stager t)).sound hcreates hsound).numbers
  rw [← hstager] at hbooks
  exact ⟨hcells, hbooks.toTold, hbooks.toTold.nonnull (by omega)⟩

namespace NamedTable

variable {kind : OidKind} {α β : Type} (K : NamedKind kind α β ρ)

def gateTable (queued : Status → Prop) : GateTable queued (bulk (δ := FaultGate) K) where
  toShaped := shaped K
  flush_served {t g} h hopen := by
    have htype : t.stager.type = K.type := h
    obtain ⟨_, _, hflush, -, -⟩ := hopen.flush t.stager
    refine ⟨?_, ?_⟩
    · simp only [bulk, hflush]
    · change Served queued (· = K.type) g _
      rw [← htype]
      exact hopen.served_flush queued t.stager

/-- Named objects behind a gate, whose queued statuses do not pretend that an object is gone. -/
def gateRequests (hid : ∀ id asked, K.id (K.record id asked) = id)
    (hgone : ¬queued .itemNotFound) : GateRequests queued (bulk (δ := FaultGate) K) ρ ρ where
  toSoleRequests := soleRequests K hid
  toGateTable := gateTable K queued
  Blank t := ∀ slot ∈ t.stager.slots, ∀ request answer, slot = .create request answer →
    request.entry = none
  typed_type h := h
  idle_slots h := h
  idle_blank {t} h := by
    have hslots : t.stager.slots = [] := h
    simp [hslots]
  stage_blank {t} e c h := by
    have hstage := stage_spec K t e c
    simp only [bulk]
    generalize stage K t e c = result at hstage ⊢
    cases hstage with
    | done | invalid | notReady => exact h
    | create asked found =>
      intro slot hslot request answer heq
      rcases List.mem_append.1 hslot with hslot | hslot
      · exact h slot hslot request answer heq
      · rw [List.mem_singleton.1 hslot] at heq
        cases heq
        rfl
    | remove r =>
      intro slot hslot request answer heq
      rcases List.mem_append.1 hslot with hslot | hslot
      · exact h slot hslot request answer heq
      · rw [List.mem_singleton.1 hslot] at heq
        cases heq
  flush_answered {t g} _ hblank hunanswered hopen hsound hcreates :=
    answered_of_flush (soleRequests K hid) rfl rfl hopen hsound hunanswered hcreates hgone
      fun request hmem hentry => absurd (hblank _ hmem request none rfl) hentry

end NamedTable

namespace RoutingTable

variable {α : Type} (K : RoutingKind α ρ)

def gateTable (queued : Status → Prop) : GateTable queued (bulk (δ := FaultGate) K) where
  toShaped := shaped K
  flush_served {t g} h hopen := by
    have htype : t.stager.type = K.type := h
    obtain ⟨_, _, hflush, -, -⟩ := hopen.flush t.stager
    refine ⟨?_, ?_⟩
    · simp only [bulk, hflush]
    · change Served queued (· = K.type) g _
      rw [← htype]
      exact hopen.served_flush queued t.stager

def gateRequests (hgone : ¬queued .itemNotFound) (hthere : ¬queued .itemAlreadyExists) :
    GateRequests queued (bulk (δ := FaultGate) K) ρ ρ where
  toSoleRequests := soleRequests K
  toGateTable := gateTable K queued
  Blank _ := True
  typed_type h := h
  idle_slots h := h
  idle_blank _ := trivial
  stage_blank _ _ _ := trivial
  flush_answered _ _ hunanswered hopen hsound hcreates :=
    answered_of_flush (soleRequests K) rfl rfl hopen hsound hunanswered hcreates hgone
      fun _ _ _ => hthere

end RoutingTable

namespace MappingTable

/-- Both flushes of mappings through an open gate are answered. -/
theorem flush_eq {g : FaultGate} (hopen : g.Open) (t : MappingTable) :
    ∃ s₁ g₁ s₂ g₂, t.caToPaStager.flush g = (.ok (), s₁, g₁) ∧ g₁.Open ∧
      t.paStager.flush g₁ = (.ok (), s₂, g₂) ∧ g₂.Open ∧
      t.flush g = (.ok (), { t with caToPaStager := s₁, paStager := s₂ }, g₂) := by
  obtain ⟨s₁, g₁, hfirst, hopen₁, -⟩ := hopen.flush t.caToPaStager
  obtain ⟨s₂, g₂, hsecond, hopen₂, -⟩ := hopen₁.flush t.paStager
  exact ⟨s₁, g₁, s₂, g₂, hfirst, hopen₁, hsecond, hopen₂, by simp only [flush, hfirst, hsecond]⟩

def gateTable (queued : Status → Prop) : GateTable queued (bulk (δ := FaultGate)) where
  toShaped := shaped
  flush_served {t g} h hopen := by
    obtain ⟨s₁, g₁, s₂, g₂, hfirst, hopen₁, hsecond, hopen₂, hflush⟩ := flush_eq hopen t
    have hserved₁ := hopen.served_flush queued t.caToPaStager
    have hserved₂ := hopen₁.served_flush queued t.paStager
    rw [hfirst, h.1] at hserved₁
    rw [hsecond, h.2] at hserved₂
    refine ⟨?_, ?_⟩
    · simp only [bulk, hflush]
    · simp only [bulk, hflush]
      exact hserved₁.trans hserved₂

/-- The CA-to-PA entries of mappings behind a gate, whose queued statuses do not pretend that an
entry is gone or there. -/
def caGateRequests (hgone : ¬queued .itemNotFound) (hthere : ¬queued .itemAlreadyExists) :
    GateRequests queued (bulk (δ := FaultGate)) MappingRecord (Oid .vnet × IpAddress) where
  toSoleRequests := caRequests
  toGateTable := gateTable queued
  Blank _ := True
  typed_type h := h.1
  idle_slots h := h.1
  idle_blank _ := trivial
  stage_blank _ _ _ := trivial
  flush_answered {t g} htyped _ hunanswered hopen hsound hcreates := by
    obtain ⟨s₁, g₁, s₂, g₂, hfirst, hopen₁, hsecond, hopen₂, hflush⟩ := flush_eq hopen t
    have hserved₁ := hopen.served_flush queued t.caToPaStager
    have hserved₂ := hopen₁.served_flush queued t.paStager
    rw [hfirst] at hserved₁
    rw [hsecond, htyped.2] at hserved₂
    simp only [bulk, hflush] at hcreates ⊢
    have hasked := hserved₂.asked
    have hsound₁ := hserved₁.sound (by dsimp only at hasked ⊢; omega) hsound
    have hcreates₁ : (t.caToPaStager.flush g).2.2.creates < 2 ^ 48 := by
      rw [hfirst]
      dsimp only at hasked ⊢
      omega
    have hbooks := hopen.books_flush hsound hunanswered hcreates₁ hgone fun _ _ _ => hthere
    change BulkStager.Books queued t.caToPaStager g.switch (t.caToPaStager.flush g).2.1
      (t.caToPaStager.flush g).2.2.switch at hbooks
    rw [hfirst] at hbooks
    have hnumbers : g₂.switch.nextId.toNat ≤ g₂.creates + 1 :=
      (hserved₂.sound hcreates hsound₁).numbers
    have htold : BulkStager.Told t.caToPaStager g.switch s₁ g₂.switch := by
      refine hbooks.toTold.later ?_ (hserved₂.next hcreates hsound₁)
      exact hserved₂.others hcreates hsound₁ _ (by rw [htyped.1]; decide)
    exact ⟨rfl, htold, htold.nonnull (by omega)⟩

end MappingTable

end Tables

end DashAgent
