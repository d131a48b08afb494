import DashAgent.Overlay.Eni
import DashAgent.Overlay.RouteRule
import DashAgent.Overlay.Vnet
import DashAgent.Proofs.Context
import DashAgent.Proofs.Overlay.TableSteps
import DashAgent.Proofs.Reconcile.Invariant

/-!
# Registers

VNETs, ENIs, routes and rules are kept alike: a table of objects by key, each counted as one
resource, where a pass creates what is absent and removes what is present. A `Register` says of such
a table what its calls do to the objects and to the counts. A pass then keeps the counts equal to a
census of the objects, whatever the driver answers, as no key is twice in a batch.
-/
namespace DashAgent

variable {τ κ δ ν : Type}

/-- What a commit did: nothing, or it made or took away the object of a key and counted that. -/
inductive RegisterEffect (resource : ν → Resource) (key : String) (t : Table String ν)
    (c : Context) : Table String ν → Context → Prop where
  | nothing {c' : Context} : c'.accounts = c.accounts → RegisterEffect resource key t c t c'
  | created {c' : Context} (v : ν) : t.get? key = none →
    c'.accounts = (c.count (resource v)).accounts →
    RegisterEffect resource key t c (t.insert key v) c'
  | removed {c' : Context} (v : ν) : t.get? key = some v →
    c'.accounts = (c.uncount (resource v)).accounts →
    RegisterEffect resource key t c (t.erase key) c'

/-- A table whose objects are independent of each other. -/
structure Register (ops : BulkTable τ κ Context δ) (ν : Type) where
  objects : τ → Table String ν
  resource : ν → Resource
  /-- The operation creates its object. -/
  creates : κ → Bool
  overlay : ∀ v, resource v ∈ Resource.overlay
  stage_objects : ∀ e c t, objects (ops.stage e c t).2 = objects t
  /-- Creates are staged for what is absent, removes for what is present. -/
  stage_creates : ∀ {e c t op}, (ops.stage e c t).1 = .staged op →
    creates op = !(objects t).contains e.key
  flush_objects : ∀ t d, objects (ops.flush t d).2.1 = objects t
  endPass_objects : ∀ t, objects (ops.endPass t) = objects t
  commit : ∀ {e op c t}, creates op = !(objects t).contains e.key →
    RegisterEffect resource e.key (objects t) c (objects (ops.commit e op c t).2.2)
      (ops.commit e op c t).2.1

namespace Register

variable {ops : BulkTable τ κ Context δ} (R : Register ops ν)

/-- The objects of a resource, with those that other tables have. -/
def census (others : Resource → Nat) (t : Table String ν) (r : Resource) : Nat :=
  others r + objectsOf R.resource t r

/-- A commit keeps counts and census together while the table has room. -/
theorem balanced_effect {others : Resource → Nat} (hothers : ∀ v, others (R.resource v) = 0)
    {key : String} {t t' : Table String ν} {c c' : Context}
    (h : RegisterEffect R.resource key t c t' c') (hroom : t.size + 1 < 2 ^ 32)
    (hc : c.Balanced (R.census others t)) : c'.Balanced (R.census others t') := by
  cases h with
  | nothing hsame => exact hc.of_accounts hsame
  | created v habsent hcount =>
    refine (hc.count (R.overlay v) ?_ ?_).of_accounts hcount
    · have hle := objectsOf_le_size R.resource t (R.resource v)
      have hzero := hothers v
      simp only [census]
      omega
    · intro s
      simp only [census, objectsOf_insert v habsent]
      omega
  | removed v hpresent huncount =>
    refine (hc.uncount (R.overlay v) ?_).of_accounts huncount
    intro s
    simp only [census, objectsOf_erase hpresent]
    omega

theorem size_effect {key : String} {t t' : Table String ν} {c c' : Context}
    (h : RegisterEffect R.resource key t c t' c') : t'.size ≤ t.size + 1 := by
  cases h with
  | nothing => omega
  | created v habsent =>
    have herase := t.size_erase key
    rw [Table.size_insert]
    omega
  | removed v hpresent =>
    have herase := t.size_erase key
    omega

theorem contains_effect {key l : String} {t t' : Table String ν} {c c' : Context}
    (h : RegisterEffect R.resource key t c t' c') (hne : key ≠ l) :
    t'.contains l = t.contains l := by
  rw [Table.contains_eq_isSome, Table.contains_eq_isSome]
  cases h with
  | nothing => rfl
  | created v habsent => rw [Table.get?_insert_of_ne _ hne]
  | removed v hpresent => rw [Table.get?_erase_of_ne hne]

/-- The staged operations suit the table, and no key is there twice. -/
structure Suited (t : Table String ν) (outcomes : List (Entry × StageOutcome κ)) : Prop where
  nodup : (outcomes.map fun o => o.1.key).Nodup
  creates : ∀ o ∈ outcomes, ∀ op, o.2 = .staged op → R.creates op = !t.contains o.1.key

theorem Suited.tail {t : Table String ν} {o : Entry × StageOutcome κ}
    {rest : List (Entry × StageOutcome κ)} (h : R.Suited t (o :: rest)) : R.Suited t rest :=
  ⟨(List.nodup_cons.1 h.nodup).2, fun o ho => h.creates o (List.mem_cons_of_mem _ ho)⟩

/-- A commit leaves the operations on other keys as they were. -/
theorem Suited.effect {t t' : Table String ν} {c c' : Context} {o : Entry × StageOutcome κ}
    {rest : List (Entry × StageOutcome κ)} (h : R.Suited t (o :: rest))
    (heffect : RegisterEffect R.resource o.1.key t c t' c') : R.Suited t' rest := by
  refine ⟨h.tail.nodup, ?_⟩
  intro o' ho' op hop
  have hne : o.1.key ≠ o'.1.key := by
    intro heq
    apply (List.nodup_cons.1 h.nodup).1
    exact List.mem_map.2 ⟨o', ho', heq.symm⟩
  rw [R.contains_effect heffect hne]
  exact h.creates o' (List.mem_cons_of_mem _ ho') op hop

/-- The assertion while changes are staged. The counts are those of the census, and what is staged
suits the table, which has room for all changes. -/
structure WhileStaging (others : Resource → Nat) (outcomes : List (Entry × StageOutcome κ))
    (rest : List Entry) (c : Context) (t : τ) : Prop where
  balanced : c.Balanced (R.census others (R.objects t))
  keys : ((outcomes.map Prod.fst ++ rest).map Entry.key).Nodup
  creates : ∀ o ∈ outcomes, ∀ op, o.2 = .staged op → R.creates op = !(R.objects t).contains o.1.key
  room : (R.objects t).size + (outcomes.length + rest.length) < 2 ^ 32

structure WhileCommitting (others : Resource → Nat) (rest : List (Entry × StageOutcome κ))
    (c : Context) (t : τ) : Prop where
  balanced : c.Balanced (R.census others (R.objects t))
  suited : R.Suited (R.objects t) rest
  room : (R.objects t).size + rest.length < 2 ^ 32

section Pass

variable {others : Resource → Nat} {outcomes rest' : List (Entry × StageOutcome κ)} {e : Entry}
  {rest : List Entry} {c : Context} {t t' : τ}

theorem WhileStaging.stage (h : R.WhileStaging others outcomes (e :: rest) c t) :
    R.WhileStaging others (outcomes ++ [(e, (ops.stage e c t).1)]) rest c (ops.stage e c t).2 := by
  obtain ⟨hm, hkeys, hcreates, hroom⟩ := h
  rw [List.length_cons] at hroom
  constructor
  · rw [R.stage_objects]
    exact hm
  · simpa using hkeys
  · rw [R.stage_objects]
    intro o ho op hop
    rcases List.mem_append.1 ho with ho | ho
    · exact hcreates o ho op hop
    · rw [List.mem_singleton.1 ho] at hop ⊢
      exact R.stage_creates hop
  · rw [R.stage_objects, List.length_append, List.length_singleton]
    omega

/-- Between staging and committing the objects stay the same. -/
theorem WhileStaging.turn (h : R.WhileStaging others outcomes [] c t)
    (hobjects : R.objects t' = R.objects t) : R.WhileCommitting others outcomes c t' := by
  obtain ⟨hm, hkeys, hcreates, hroom⟩ := h
  constructor
  · rw [hobjects]
    exact hm
  · rw [hobjects]
    exact ⟨by simpa [Function.comp_def] using hkeys, hcreates⟩
  · rw [hobjects]
    exact hroom

theorem WhileCommitting.commit {op : κ} (hothers : ∀ v, others (R.resource v) = 0)
    (h : R.WhileCommitting others ((e, .staged op) :: rest') c t) :
    R.WhileCommitting others rest' (ops.commit e op c t).2.1 (ops.commit e op c t).2.2 := by
  obtain ⟨hm, hsuited, hroom⟩ := h
  have heffect := R.commit (e := e) (c := c) (hsuited.creates _ (List.mem_cons_self ..) op rfl)
  have hsize := R.size_effect heffect
  rw [List.length_cons] at hroom
  exact ⟨R.balanced_effect hothers heffect (by omega) hm, hsuited.effect R heffect, by omega⟩

theorem WhileCommitting.skip {o : Entry × StageOutcome κ}
    (h : R.WhileCommitting others (o :: rest') c t) : R.WhileCommitting others rest' c t := by
  obtain ⟨hm, hsuited, hroom⟩ := h
  rw [List.length_cons] at hroom
  exact ⟨hm, hsuited.tail, by omega⟩

theorem objects_of_flush {d d' : δ} {answer : Except DriverError Unit}
    (h : ops.flush t d = (answer, t', d')) : R.objects t' = R.objects t := by
  have hobjects := R.flush_objects t d
  rw [h] at hobjects
  exact hobjects

end Pass

def invariant {others : Resource → Nat} (hothers : ∀ v, others (R.resource v) = 0) :
    PassInvariant ops where
  staging outcomes rest c t _ := R.WhileStaging others outcomes rest c t
  committing _ rest c t _ := R.WhileCommitting others rest c t
  answered _ c t _ := c.Balanced (R.census others (R.objects t))
  unanswered c t _ := c.Balanced (R.census others (R.objects t))
  stage h := h.stage R
  idle h _ := h.turn R rfl
  flush h hflush := h.turn R (R.objects_of_flush hflush)
  failure h hflush := by
    rw [R.endPass_objects, R.objects_of_flush hflush]
    exact h.balanced
  commit h := h.commit R hothers
  skip _ h := h.skip R
  finish h := by
    rw [R.endPass_objects]
    exact h.balanced

/-- A pass keeps the counts equal to the census, if the table has room for its batch, and no
accounting is skipped. -/
theorem balanced_reconcile {others : Resource → Nat} (hothers : ∀ v, others (R.resource v) = 0)
    {p : Pass τ Context δ} (hc : p.env.Balanced (R.census others (R.objects p.table)))
    (hroom : p.queue.FitsInto (R.objects p.table)) :
    (ops.reconcile p).2.env.Balanced
      (R.census others (R.objects (ops.reconcile p).2.table)) := by
  have hkeys := p.queue.nodup_batch
  rw [ChangeQueue.popBatch_fst] at hkeys
  refine (R.invariant hothers).keeps (B := fun c t _ =>
    c.Balanced (R.census others (R.objects t))) hc ?_ id id
  exact ⟨hc, hkeys, by simp, by simpa [ChangeQueue.FitsInto] using hroom⟩

end Register

/-! ## The registers -/

section Registers

variable [Driver δ]

def NamedTable.register {kind : OidKind} {α β ρ : Type} (K : NamedKind kind α β ρ)
    (hoverlay : K.resource ∈ Resource.overlay) : Register (NamedTable.bulk (δ := δ) K) ρ where
  objects t := t.records
  resource _ := K.resource
  creates
    | .create .. => true
    | .remove _ => false
  overlay _ := hoverlay
  stage_objects := records_stage K
  stage_creates {e c t op} h := by
    have hstage := stage_spec K t e c
    simp only [bulk] at h
    generalize stage K t e c = result at hstage h
    cases hstage with
    | done | invalid | notReady => cases h
    | create asked found _ habsent =>
      cases h
      simp [Table.contains_eq_isSome, habsent]
    | remove r _ hpresent =>
      cases h
      simp [Table.contains_eq_isSome, hpresent]
  flush_objects _ _ := rfl
  endPass_objects _ := rfl
  commit {e op c t} hop := by
    have hcommit := commit_spec K t e op c
    rw [Table.contains_eq_isSome] at hop
    simp only [bulk]
    generalize commit K t e op c = result at hcommit ⊢
    cases hcommit with
    | kept | stays => exact .nothing rfl
    | created position asked id _ =>
      exact .created _ (by simpa using hop)
        (Context.accounts_count (K.enter_accounts e.key id c) K.resource)
    | removed position _ =>
      obtain ⟨r, hpresent⟩ : ∃ r, t.records.get? e.key = some r := by
        simpa [Option.isSome_iff_exists] using hop
      exact .removed r hpresent
        (Context.accounts_uncount (K.leave_accounts e.key c) K.resource)

def VnetTable.register : Register (VnetTable.bulk (δ := δ)) VnetRecord :=
  NamedTable.register kind (by decide)

def EniTable.register : Register (EniTable.bulk (δ := δ)) EniRecord :=
  NamedTable.register kind (by decide)

def RoutingTable.register {α ρ : Type} (K : RoutingKind α ρ)
    (hoverlay : ∀ r, K.resource r ∈ Resource.overlay) :
    Register (RoutingTable.bulk (δ := δ) K) ρ where
  objects t := t.records
  resource := K.resource
  creates
    | .create .. => true
    | .remove _ => false
  overlay := hoverlay
  stage_objects := records_stage K
  stage_creates {e c t op} h := by
    have hstage := stage_spec K t e c
    simp only [bulk] at h
    generalize stage K t e c = result at hstage h
    cases hstage with
    | done | invalid | notReady => cases h
    | create asked r _ habsent =>
      cases h
      simp [Table.contains_eq_isSome, habsent]
    | remove r _ hpresent =>
      cases h
      simp [Table.contains_eq_isSome, hpresent]
  flush_objects _ _ := rfl
  endPass_objects _ := rfl
  commit {e op c t} hop := by
    have hcommit := commit_spec K t e op c
    rw [Table.contains_eq_isSome] at hop
    simp only [bulk]
    generalize commit K t e op c = result at hcommit ⊢
    cases hcommit with
    | kept | stays | absent => exact .nothing rfl
    | created position r _ => exact .created r (by simpa using hop) rfl
    | removed position r _ hpresent => exact .removed r hpresent rfl

theorem outboundRouting_overlay (f : AddressFamily) :
    Resource.outboundRouting f ∈ Resource.overlay := by
  cases f <;> decide

theorem inboundRouting_overlay (f : AddressFamily) :
    Resource.inboundRouting f ∈ Resource.overlay := by
  cases f <;> decide

def RouteTable.register : Register (RouteTable.bulk (δ := δ)) RouteRecord :=
  RoutingTable.register kind fun r => outboundRouting_overlay r.net.family

def RuleTable.register : Register (RuleTable.bulk (δ := δ)) RuleRecord :=
  RoutingTable.register kind fun r => inboundRouting_overlay r.net.family

end Registers

end DashAgent
