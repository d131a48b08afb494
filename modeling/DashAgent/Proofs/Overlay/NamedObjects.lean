import DashAgent.Proofs.Overlay.GatePass

/-!
# Named objects and the switch

A table of named objects, the index of their identifiers in the context and the switch say the same:
a pass keeps the index whatever the driver answers, and keeps the table equal to what a gated switch
holds, where new names come with identifiers that were never issued before.
-/
namespace DashAgent

/-- A pass keeps what every commit keeps of the shared state. -/
theorem BulkTable.env_reconcile {τ κ ε δ γ : Type} {ops : BulkTable τ κ ε δ} {f : ε → γ}
    (hcommit : ∀ e op env t, f (ops.commit e op env t).2.1 = f env) (p : Pass τ ε δ) :
    f (ops.reconcile p).2.env = f p.env := by
  let kept : PassInvariant ops :=
    { staging := fun _ _ env _ _ => f env = f p.env
      committing := fun _ _ env _ _ => f env = f p.env
      answered := fun _ env _ _ => f env = f p.env
      unanswered := fun env _ _ => f env = f p.env
      stage := id
      idle := fun h _ => h
      flush := fun h _ => h
      failure := fun h _ => h
      commit := fun h => (hcommit ..).trans h
      skip := fun _ h => h
      finish := id }
  exact kept.keeps (B := fun env _ _ => f env = f p.env) rfl rfl id id

namespace NamedTable

variable {kind : OidKind} {α β ρ : Type} {K : NamedKind kind α β ρ}
  {ids : Context → Table String (Oid kind)}

/-- The context indexes the identifiers of a kind by name. -/
structure Indexed (K : NamedKind kind α β ρ) (ids : Context → Table String (Oid kind)) :
    Prop where
  id_record : ∀ id asked, K.id (K.record id asked) = id
  enter : ∀ name id c, ids (K.enter name id c) = (ids c).insert name id
  leave : ∀ name c, ids (K.leave name c) = (ids c).erase name
  count : ∀ r c, ids (c.count r) = ids c
  uncount : ∀ r c, ids (c.uncount r) = ids c

/-- The index gives every name the identifier of its record. -/
def Known (K : NamedKind kind α β ρ) (ids : Context → Table String (Oid kind)) (c : Context)
    (t : NamedTable ρ) : Prop :=
  ∀ name, (ids c).get? name = (t.records.get? name).map K.id

/-- A commit moves index and table together. -/
theorem Known.commit (hindexed : Indexed K ids) {t : NamedTable ρ} {c : Context}
    (h : Known K ids c t) (e : Entry) (op : NamedOp β) :
    Known K ids (commit K t e op c).2.1 (commit K t e op c).2.2 := by
  have hcommit := commit_spec K t e op c
  generalize NamedTable.commit K t e op c = result at hcommit ⊢
  cases hcommit with
  | kept | stays => exact h
  | created position asked id =>
    intro name
    dsimp only
    rw [hindexed.count, hindexed.enter]
    by_cases hname : e.key = name
    · subst hname
      rw [Table.get?_insert_self, Table.get?_insert_self, Option.map_some, hindexed.id_record]
    · rw [Table.get?_insert_of_ne _ hname, Table.get?_insert_of_ne _ hname]
      exact h name
  | removed position =>
    intro name
    dsimp only
    rw [hindexed.uncount, hindexed.leave]
    by_cases hname : e.key = name
    · subst hname
      rw [Table.get?_erase_self, Table.get?_erase_self, Option.map_none]
    · rw [Table.get?_erase_of_ne hname, Table.get?_erase_of_ne hname]
      exact h name

/-- A pass keeps index and table together, whatever the driver answers. -/
theorem known_reconcile {δ : Type} [Driver δ] (hindexed : Indexed K ids)
    {p : Pass (NamedTable ρ) Context δ} (h : Known K ids p.env p.table) :
    Known K ids ((bulk K).reconcile p).2.env ((bulk K).reconcile p).2.table := by
  let known : PassInvariant (bulk (δ := δ) K) :=
    { staging := fun _ _ c t _ => Known K ids c t
      committing := fun _ _ c t _ => Known K ids c t
      answered := fun _ c t _ => Known K ids c t
      unanswered := fun c t _ => Known K ids c t
      stage := fun {_ e _ c t _} h => by
        have hstage := stage_spec K t e c
        simp only [bulk]
        generalize stage K t e c = result at hstage ⊢
        cases hstage <;> exact h
      idle := fun h _ => h
      flush := fun {_ _ t _ t' _} h hflush => by
        have hrecords : t'.records = t.records := congrArg (·.2.1.records) hflush.symm
        rw [Known, hrecords]
        exact h
      failure := fun {_ _ t _ _ t' _} h hflush => by
        have hrecords : t'.records = t.records := congrArg (·.2.1.records) hflush.symm
        rw [Known]
        change ∀ name, _ = (t'.records.get? name).map K.id
        rw [hrecords]
        exact h
      commit := fun h => h.commit hindexed _ _
      skip := fun _ h => h
      finish := id }
  exact known.keeps (B := fun c t _ => Known K ids c t) h h id id

section Gate

open SoleRequests (Mirrors)

variable {queued : Status → Prop} {c : Context} {t : NamedTable ρ}

/-- The names of the table are those of the objects of its type, one each. -/
def Agrees (K : NamedKind kind α β ρ) (t : NamedTable ρ) (s : Simulator) : Prop :=
  Mirrors t.records.get? (fun r => .oid (K.id r).raw) (s.objects K.type)

theorem look_eq (hid : ∀ id asked, K.id (K.record id asked) = id) (hgone : ¬queued .itemNotFound)
    (t : NamedTable ρ) :
    (gateRequests K hid hgone).toSoleRequests.look t = t.records.get? := by
  funext name
  change (t.records.get? name).bind some = _
  exact Option.bind_fun_some _

section Report

variable {hid : ∀ id asked, K.id (K.record id asked) = id} {hgone : ¬queued .itemNotFound}
  {changes : List Entry} {staged answered : NamedTable ρ} {d₀ d : Simulator}
  {outcomes : List (Entry × StageOutcome (NamedOp β))}

/-- An object that arrives has an identifier that is issued in the pass. -/
theorem issued_of_arrives
    (h : (gateRequests K hid hgone).Report changes c t d₀ outcomes staged answered d)
    {name : String} {r : ρ}
    (harrives : (gateRequests K hid hgone).Arrives outcomes answered.stager name r) :
    ∃ n : UInt64, d₀.nextId.toNat ≤ n.toNat ∧ n.toNat < d.nextId.toNat ∧
      (K.id r).raw = Simulator.issuedId K.type n := by
  obtain ⟨_, _, i, _, _, _, _, _, _, hgiven⟩ := harrives
  have htype : staged.stager.type = K.type := h.staging.type
  rw [← htype]
  exact h.told.told.fresh i _ hgiven

/-- Objects that a pass ends with have different identifiers. -/
theorem distinct_of_report
    (h : (gateRequests K hid hgone).Report changes c t d₀ outcomes staged answered d)
    (hissued : d₀.Issuing) (hagrees : Agrees K t d₀) {name name' : String} {r r' : ρ}
    (hend : (gateRequests K hid hgone).ends outcomes answered name = some r)
    (hend' : (gateRequests K hid hgone).ends outcomes answered name' = some r')
    (hkey : ObjectKey.oid (K.id r).raw = .oid (K.id r').raw) : name = name' := by
  have hnumbers := h.numbers
  -- An identifier of before was issued before, one that arrives is issued in the pass.
  have hapart : ∀ {name r name' r'}, t.records.get? name = some r →
      (gateRequests K hid hgone).Arrives outcomes answered.stager name' r' →
      ObjectKey.oid (K.id r).raw ≠ .oid (K.id r').raw := by
    intro name r name' r' hget harrives heq
    obtain ⟨m, hm, hold⟩ := hissued K.type _ ((hagrees.held _).2 ⟨name, r, hget, rfl⟩)
    obtain ⟨n, hlow, hhigh, hnew⟩ := issued_of_arrives h harrives
    rw [← ObjectKey.oid.inj heq, hold] at hnew
    have hinj := Simulator.issuedId_inj (by omega) (by omega) hnew
    omega
  obtain hlook | harrives := h.cases hend <;> obtain hlook' | harrives' := h.cases hend'
  · rw [look_eq] at hlook hlook'
    exact hagrees.distinct hlook hlook' hkey
  · rw [look_eq] at hlook
    exact absurd hkey (hapart hlook harrives')
  · rw [look_eq] at hlook'
    exact absurd hkey.symm (hapart hlook' harrives)
  · obtain ⟨e, op, i, _, hmem, rfl, hi, -, -, hgiven⟩ := harrives
    obtain ⟨e', op', j, _, hmem', rfl, hj, -, -, hgiven'⟩ := harrives'
    have hij : i = j := h.told.told.distinct i j _ hgiven (hgiven'.trans (congrArg some hkey.symm))
    subst hij
    rw [(h.staging.own _ hmem hmem' hi hj).1]

end Report

section Pass

variable {p : Pass (NamedTable ρ) Context FaultGate}

/-- A pass keeps the table equal to what the switch holds. -/
theorem agrees_reconcile (hid : ∀ id asked, K.id (K.record id asked) = id)
    (hgone : ¬queued .itemNotFound) (hrests : (gateTable K queued).Rests p.table)
    (hopen : p.switch.Open) (hsound : p.switch.Sound queued)
    (hagrees : Agrees K p.table p.switch.switch)
    (hcreates : ((bulk K).reconcile p).2.switch.creates < 2 ^ 48) :
    Agrees K ((bulk K).reconcile p).2.table ((bulk K).reconcile p).2.switch.switch := by
  obtain ⟨outcomes, staged, answered, hreport, hend⟩ :=
    (gateRequests K hid hgone).report_reconcile hrests hopen hsound hcreates
  have hmirrors := hreport.mirrors (by rw [look_eq]; exact hagrees)
    (distinct_of_report hreport hsound.switch.issued hagrees)
  rw [← hend, look_eq] at hmirrors
  exact hmirrors

/-- What is recorded after a pass was recorded before, or nothing was and it has a new
identifier. -/
theorem issued_reconcile (hid : ∀ id asked, K.id (K.record id asked) = id)
    (hgone : ¬queued .itemNotFound) (hrests : (gateTable K queued).Rests p.table)
    (hopen : p.switch.Open) (hsound : p.switch.Sound queued)
    (hcreates : ((bulk K).reconcile p).2.switch.creates < 2 ^ 48) {name : String} {r : ρ}
    (hget : ((bulk K).reconcile p).2.table.records.get? name = some r) :
    p.table.records.get? name = some r ∨ p.table.records.get? name = none ∧ ∃ n : UInt64,
      p.switch.switch.nextId.toNat ≤ n.toNat ∧
      n.toNat < ((bulk K).reconcile p).2.switch.switch.nextId.toNat ∧
      (K.id r).raw = Simulator.issuedId K.type n := by
  obtain ⟨outcomes, staged, answered, hreport, hend⟩ :=
    (gateRequests K hid hgone).report_reconcile hrests hopen hsound hcreates
  rw [← look_eq hid hgone, hend] at hget
  rw [← look_eq hid hgone]
  exact (hreport.cases hget).imp_right fun harrives =>
    ⟨hreport.absent harrives, issued_of_arrives hreport harrives⟩

end Pass

end Gate

/-! ## Identifiers under names -/

/-- Identifiers of a type that stand under names: each was issued and stands under one name. -/
structure Apart (type : ObjectType) (names : String → Oid kind → Prop) (s : Simulator) : Prop where
  sole : ∀ {name name' id}, names name id → names name' id → name = name'
  issued : ∀ {name id}, names name id →
    ∃ n : UInt64, n.toNat < s.nextId.toNat ∧ id.raw = Simulator.issuedId type n

section Apart

variable {names names' : String → Oid kind → Prop}

/-- What moves on without a new name for an identifier. -/
theorem Apart.mono {type : ObjectType} {s s' : Simulator} (h : Apart type names s)
    (hnames : ∀ {name id}, names' name id → names name id)
    (hnext : s.nextId.toNat ≤ s'.nextId.toNat) : Apart type names' s' where
  sole hname hname' := h.sole (hnames hname) (hnames hname')
  issued hname := by
    obtain ⟨n, hn, hid⟩ := h.issued (hnames hname)
    exact ⟨n, by omega, hid⟩

/-- A pass over named objects brings identifiers that no name had before. -/
theorem Apart.reconcile {queued : Status → Prop} {p : Pass (NamedTable ρ) Context FaultGate}
    (h : Apart K.type names p.switch.switch) (hid : ∀ id asked, K.id (K.record id asked) = id)
    (hgone : ¬queued .itemNotFound) (hrests : (gateTable K queued).Rests p.table)
    (hopen : p.switch.Open) (hsound : p.switch.Sound queued)
    (hcreates : ((bulk K).reconcile p).2.switch.creates < 2 ^ 48)
    (hagrees : Agrees K ((bulk K).reconcile p).2.table ((bulk K).reconcile p).2.switch.switch)
    (hold : ∀ {name r}, p.table.records.get? name = some r → names name (K.id r))
    (hnames : ∀ {name id}, names' name id → names name id ∨
      ∃ r, ((bulk K).reconcile p).2.table.records.get? name = some r ∧ K.id r = id) :
    Apart K.type names' ((bulk K).reconcile p).2.switch.switch := by
  have hserved := ((gateTable K queued).served_reconcile hrests hopen).2
  have hnext := hserved.next hcreates hsound
  have hnumbers := (hserved.sound hcreates hsound).numbers
  have hcases : ∀ {name id}, names' name id → names name id ∨
      (∃ r, ((bulk K).reconcile p).2.table.records.get? name = some r ∧ K.id r = id) ∧
      ∃ n : UInt64, p.switch.switch.nextId.toNat ≤ n.toNat ∧
        n.toNat < ((bulk K).reconcile p).2.switch.switch.nextId.toNat ∧
        id.raw = Simulator.issuedId K.type n := by
    intro name id hname
    obtain hname | ⟨r, hget, rfl⟩ := hnames hname
    · exact .inl hname
    · exact (issued_reconcile hid hgone hrests hopen hsound hcreates hget).imp hold
        fun hnew => ⟨⟨r, hget, rfl⟩, hnew.2⟩
  constructor
  case sole =>
    -- An identifier of before was issued before the pass, a new one in it.
    have hapart : ∀ {name id}, names name id → ¬∃ n : UInt64,
        p.switch.switch.nextId.toNat ≤ n.toNat ∧
        n.toNat < ((bulk K).reconcile p).2.switch.switch.nextId.toNat ∧
        id.raw = Simulator.issuedId K.type n := by
      rintro name id hname ⟨n, hlow, hhigh, hnew⟩
      obtain ⟨m, hm, hissued⟩ := h.issued hname
      have hinj := Simulator.issuedId_inj (by omega) (by omega) (hissued.symm.trans hnew)
      omega
    intro name name' id hname hname'
    obtain hname | ⟨⟨r, hget, hr⟩, hnew⟩ := hcases hname <;>
      obtain hname' | ⟨⟨r', hget', hr'⟩, hnew'⟩ := hcases hname'
    · exact h.sole hname hname'
    · exact absurd hnew' (hapart hname)
    · exact absurd hnew (hapart hname')
    · exact hagrees.distinct hget hget' (by rw [hr, hr'])
  case issued =>
    intro name id hname
    obtain hname | ⟨-, n, -, hn, hraw⟩ := hcases hname
    · obtain ⟨n, hn, hraw⟩ := h.issued hname
      exact ⟨n, by omega, hraw⟩
    · exact ⟨n, hn, hraw⟩

end Apart

end NamedTable

/-! ## Indices that a pass leaves alone -/

section Indices

variable {δ : Type} [Driver δ]

theorem VnetTable.indexed : NamedTable.Indexed VnetTable.kind Context.vnetIds :=
  ⟨fun _ _ => rfl, fun _ _ _ => rfl, fun _ _ => rfl, fun _ _ => rfl, fun _ _ => rfl⟩

theorem EniTable.indexed : NamedTable.Indexed EniTable.kind Context.eniIds :=
  ⟨fun _ _ => rfl, fun _ _ _ => rfl, fun _ _ => rfl, fun _ _ => rfl, fun _ _ => rfl⟩

theorem VnetTable.eniIds_reconcile (p : Pass VnetTable Context δ) :
    (VnetTable.bulk.reconcile p).2.env.eniIds = p.env.eniIds := by
  refine BulkTable.env_reconcile (f := Context.eniIds) (fun e op c t => ?_) p
  have hcommit := NamedTable.commit_spec VnetTable.kind t e op c
  change (NamedTable.commit VnetTable.kind t e op c).2.1.eniIds = c.eniIds
  generalize NamedTable.commit VnetTable.kind t e op c = result at hcommit ⊢
  cases hcommit <;> rfl

theorem EniTable.vnetIds_reconcile (p : Pass EniTable Context δ) :
    (EniTable.bulk.reconcile p).2.env.vnetIds = p.env.vnetIds := by
  refine BulkTable.env_reconcile (f := Context.vnetIds) (fun e op c t => ?_) p
  have hcommit := NamedTable.commit_spec EniTable.kind t e op c
  change (NamedTable.commit EniTable.kind t e op c).2.1.vnetIds = c.vnetIds
  generalize NamedTable.commit EniTable.kind t e op c = result at hcommit ⊢
  cases hcommit <;> rfl

def Context.indices (c : Context) : Table String (Oid .vnet) × Table String (Oid .eni) :=
  (c.vnetIds, c.eniIds)

theorem RoutingTable.indices_reconcile {α ρ : Type} (K : RoutingKind α ρ)
    (p : Pass (RoutingTable ρ) Context δ) :
    ((RoutingTable.bulk K).reconcile p).2.env.indices = p.env.indices := by
  refine BulkTable.env_reconcile (f := Context.indices) (fun e op c t => ?_) p
  have hcommit := RoutingTable.commit_spec K t e op c
  change (RoutingTable.commit K t e op c).2.1.indices = c.indices
  generalize RoutingTable.commit K t e op c = result at hcommit ⊢
  cases hcommit <;> rfl

theorem MappingTable.indices_reconcile (p : Pass MappingTable Context δ) :
    (MappingTable.bulk.reconcile p).2.env.indices = p.env.indices := by
  refine BulkTable.env_reconcile (f := Context.indices) (fun e op c t => ?_) p
  change (t.commit e op c).2.1.indices = c.indices
  have hca : (t.caCounted op c).indices = c.indices := by
    unfold caCounted
    split
    · cases op.kind <;> rfl
    · rfl
  rw [commit_eq]
  cases t.paAccepted? op with
  | none => exact hca
  | some action =>
    rw [Option.elim_some, ← hca]
    cases action with
    | acquire | remove =>
      simp only [paCount]
      split <;> rfl
    | release => rfl

end Indices

end DashAgent
