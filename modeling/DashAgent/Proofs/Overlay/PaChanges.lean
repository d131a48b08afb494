import DashAgent.Proofs.Overlay.MappingStaging
import DashAgent.Proofs.Overlay.PaPass

/-!
# Changes of PA validation entries

What staging one change does to one PA validation entry, told by the stored mappings. A SET whose
mapping needs a reference acquires it, or waits for a removal that is staged. A DEL of a mapping
that holds the entry drops a reference, and removes the entry if none is left.
-/
namespace DashAgent.MappingTable

/-! ## The changes of an entry -/

def HeldBy (t : MappingTable) (pa key : String) : Prop :=
  ∃ m, t.mappings.get? key = some m ∧ holds pa key m = true

/-- The change is the DEL of a mapping that holds the entry. -/
def Drops (t : MappingTable) (pa : String) (e : Entry) : Prop :=
  e.op = .del ∧ t.HeldBy pa e.key

/-- The change is a SET whose mapping needs a reference on the entry. -/
def Needs (t : MappingTable) (c : Context) (pa : String) (e : Entry) : Prop :=
  e.op = .set ∧ ∃ key m, MappingKey.parse e.key = .ok key ∧ t.mappingOf e key c = .ok m ∧
    m.paValidation = false ∧ m.paKey key.vnet = pa

section Changes

variable {t t' : MappingTable} {c : Context} {pa : String} {e : Entry}

theorem drops_congr (h : t'.mappings = t.mappings) : t'.Drops pa e ↔ t.Drops pa e := by
  rw [Drops, Drops, HeldBy, HeldBy, h]

theorem needs_congr (h : t'.mappings = t.mappings) : t'.Needs c pa e ↔ t.Needs c pa e := by
  simp only [Needs, mappingOf, h]

theorem not_drops_of_set (h : e.op = .set) : ¬t.Drops pa e := by
  rintro ⟨hdel, -⟩
  rw [h] at hdel
  cases hdel

theorem not_needs_of_del (h : e.op = .del) : ¬t.Needs c pa e := by
  rintro ⟨hset, -⟩
  rw [h] at hset
  cases hset

theorem drops_iff_holds {m : MappingRecord} (hdel : e.op = .del)
    (hm : t.mappings.get? e.key = some m) : t.Drops pa e ↔ holds pa e.key m = true := by
  constructor
  · rintro ⟨-, m', hm', hholds⟩
    cases hm.symm.trans hm'
    exact hholds
  · exact fun hholds => ⟨hdel, m, hm, hholds⟩

theorem needs_iff {key : MappingKey} {m : MappingRecord} (hset : e.op = .set)
    (hkey : MappingKey.parse e.key = .ok key) (hm : t.mappingOf e key c = .ok m) :
    t.Needs c pa e ↔ m.paValidation = false ∧ m.paKey key.vnet = pa := by
  constructor
  · rintro ⟨-, key', m', hkey', hm', hneeds⟩
    cases hkey.symm.trans hkey'
    cases hm.symm.trans hm'
    exact hneeds
  · exact fun hneeds => ⟨hset, key, m, hkey, hm, hneeds⟩

end Changes

/-! ## Staging a change -/

/-- What staging a change does to one PA validation entry. -/
inductive Bears (t : MappingTable) (c : Context) (pa : String) (e : Entry) :
    StageOutcome MappingOp → MappingTable → Prop where
  | apart (outcome : StageOutcome MappingOp) (t' : MappingTable) : ¬t.Needs c pa e →
    ¬t.Drops pa e → actionOn pa (e, outcome) = none →
    (t'.passOf pa).removing = (t.passOf pa).removing → Bears t c pa e outcome t'
  | acquires (outcome : StageOutcome MappingOp) (position : Nat) (t' : MappingTable) :
    t.Needs c pa e → (t.passOf pa).removing = false →
    actionOn pa (e, outcome) = some (.acquire, position) → (t'.passOf pa).removing = false →
    Bears t c pa e outcome t'
  | waits : t.Needs c pa e → (t.passOf pa).removing = true →
    Bears t c pa e (.notReady (.paRemoval pa)) t
  | drops (op : MappingOp) (action : PaAction) (position : Nat) (t' : MappingTable) :
    e.op = .del → t.mappings.get? e.key = some op.mapping → holds pa e.key op.mapping = true →
    actionOn pa (e, .staged op) = some (action, position) →
    action = (if 1 < references t.paEntries pa + (t.passOf pa).acquired - (t.passOf pa).released
      then .release else .remove) →
    (t'.passOf pa).removing = ((t.passOf pa).removing || decide (action = .remove)) →
    Bears t c pa e (.staged op) t'

section Stage

variable {t : MappingTable} {c : Context} {e : Entry} {m : MappingRecord}

theorem bears_stageMissing {key : MappingKey} (hset : e.op = .set)
    (hkey : MappingKey.parse e.key = .ok key) (hm : t.mappingOf e key c = .ok m)
    (hfree : m.paValidation = true ∨ (t.passOf (m.paKey key.vnet)).removing = false) (pa : String) :
    Bears t c pa e (.staged (t.stageMissing (m.paKey key.vnet) m).1)
      (t.stageMissing (m.paKey key.vnet) m).2 := by
  have hvnet := MappingKey.vnetOf?_of_parse hkey
  have hneeds : t.Needs c pa e ↔ _ := needs_iff hset hkey hm
  have hkind := t.stageMissing_pa (m.paKey key.vnet) m
  obtain ⟨op, t', s, hop, rfl, hagrees, hpa⟩ :=
    stageMissing_result hvnet (stored_of_mappingOf hm) hfree
  rw [hop] at hkind ⊢
  have hpaOf : paOf e.key op = op.mapping.paKey key.vnet := by rw [paOf, hvnet, Option.getD_some]
  generalize hstaged : op.pa = staged at hpa
  cases hpa with
  | nothing =>
    refine .apart _ _ ?_ (not_drops_of_set hset) (by simp [actionOn, hstaged]) rfl
    rw [hneeds, hkind.2 hstaged]
    simp
  | acquired hfree =>
    have hflag : op.mapping.paValidation = false := by
      rw [(hagrees.pa hstaged).1, hkind.1]
      rfl
    by_cases hown : op.mapping.paKey key.vnet = pa
    · subst hown
      refine .acquires _ _ _ (hneeds.2 ⟨hflag, rfl⟩) hfree
        ((actionOn_staged hpaOf).trans hstaged) ?_
      rw [removing_stageAcquire]
      exact hfree
    · refine .apart _ _ (fun h => hown (hneeds.1 h).2) (not_drops_of_set hset) ?_ ?_
      · exact actionOn_of_ne fun h => hown (hpaOf.symm.trans h)
      · rw [removing_stageAcquire]
        rfl
  | released =>
    have hcreate := (hagrees.pa hstaged).2
    rw [stageRelease_kind, hkind.1] at hcreate
    cases hcreate

theorem bears_stagePresent {vnet : String} (hdel : e.op = .del)
    (hm : t.mappings.get? e.key = some m) (hvnet : MappingKey.vnetOf? e.key = some vnet)
    (pa : String) :
    Bears t c pa e (.staged (t.stagePresent vnet m).1) (t.stagePresent vnet m).2 := by
  have hdrops : t.Drops pa e ↔ _ := drops_iff_holds hdel hm
  have hkind := t.stagePresent_pa vnet m
  obtain ⟨op, t', s, hop, rfl, hagrees, hpa⟩ := stagePresent_result hvnet (.inl hm)
  rw [hop] at hkind ⊢
  have hpaOf : paOf e.key op = op.mapping.paKey vnet := by rw [paOf, hvnet, Option.getD_some]
  have hholds : holds pa e.key op.mapping =
      (op.mapping.paValidation && decide (op.mapping.paKey vnet = pa)) := by simp [holds, hvnet]
  generalize hstaged : op.pa = staged at hpa
  cases hpa with
  | nothing =>
    refine .apart _ _ (not_needs_of_del hdel) ?_ (by simp [actionOn, hstaged]) rfl
    rw [hdrops, hholds, hkind.2 hstaged]
    simp
  | acquired =>
    have hremove := (hagrees.pa hstaged).2
    rw [hkind.1] at hremove
    cases hremove
  | released =>
    have hflag : op.mapping.paValidation = true := by
      rw [(hagrees.pa hstaged).1, hkind.1]
      rfl
    by_cases hown : op.mapping.paKey vnet = pa
    · subst hown
      obtain ⟨haction, hremoving⟩ :=
        stageRelease_action { t with caToPaStager := s } (op.mapping.paKey vnet) op.mapping
      exact .drops op _ _ _ hdel hm (by simp [hholds, hflag])
        ((actionOn_staged hpaOf).trans hstaged) haction hremoving
    · refine .apart _ _ (not_needs_of_del hdel) (by simp [hdrops, hholds, hown]) ?_ ?_
      · exact actionOn_of_ne fun h => hown (hpaOf.symm.trans h)
      · rw [passOf_stageRelease_of_ne hown]
        rfl

theorem stage_bears (t : MappingTable) (c : Context) (pa : String) (e : Entry) :
    Bears t c pa e (t.stage e c).1 (t.stage e c).2 := by
  have hstages := t.stage_spec e c
  generalize t.stage e c = result at hstages
  cases hstages with
  | unreadable error hset hkey =>
    refine .apart _ _ ?_ (not_drops_of_set hset) rfl rfl
    rintro ⟨-, key, m, hkey', -⟩
    cases hkey.symm.trans hkey'
  | unmapped key outcome hset hkey hm =>
    refine .apart _ _ ?_ (not_drops_of_set hset) (actionOn_of_unstaged (mappingOf_error hm)) rfl
    rintro ⟨-, key', m, hkey', hm', -⟩
    cases hkey.symm.trans hkey'
    cases hm.symm.trans hm'
  | conflict key m hset hkey hm hflag hremoving =>
    have hneeds : t.Needs c pa e ↔ _ := needs_iff hset hkey hm
    by_cases hown : m.paKey key.vnet = pa
    · subst hown
      exact .waits (hneeds.2 ⟨hflag, rfl⟩) hremoving
    · exact .apart _ _ (fun h => hown (hneeds.1 h).2) (not_drops_of_set hset) rfl rfl
  | missing key m hset hkey hm hfree => exact bears_stageMissing hset hkey hm hfree pa
  | gone hdel hnone =>
    refine .apart _ _ (not_needs_of_del hdel) ?_ rfl rfl
    rintro ⟨-, m, hm, -⟩
    cases hnone.symm.trans hm
  | unnamed m hdel hm hvnet =>
    refine .apart _ _ (not_needs_of_del hdel) ?_ rfl rfl
    rw [drops_iff_holds hdel hm]
    simp [holds, hvnet]
  | present m vnet hdel hm hvnet => exact bears_stagePresent hdel hm hvnet pa

end Stage

namespace Bears

variable {t t' : MappingTable} {c : Context} {pa : String} {e : Entry}
  {outcome : StageOutcome MappingOp}

/-- The changes that drop a reference are the DELs of mappings that hold the entry. -/
theorem drops_iff (h : Bears t c pa e outcome t') : t.Drops pa e ↔
    ∃ action position, actionOn pa (e, outcome) = some (action, position) ∧ action ≠ .acquire := by
  cases h with
  | apart _ _ _ hdrops haction => simp [hdrops, haction]
  | acquires _ position _ hneeds _ haction => simp [not_drops_of_set hneeds.1, haction]
  | waits hneeds => simp [not_drops_of_set hneeds.1, actionOn]
  | drops op action position _ hdel hm hholds haction hchoice =>
    refine iff_of_true ⟨hdel, op.mapping, hm, hholds⟩ ⟨action, position, haction, ?_⟩
    rw [hchoice]
    split <;> simp

/-- A DEL that drops a reference chooses by the references that are left before it. -/
theorem of_drops (h : Bears t c pa e outcome t') (hdrops : t.Drops pa e) :
    ∃ op action position, outcome = .staged op ∧ t.mappings.get? e.key = some op.mapping ∧
      actionOn pa (e, outcome) = some (action, position) ∧
      action = if 1 < references t.paEntries pa + (t.passOf pa).acquired - (t.passOf pa).released
        then .release else .remove := by
  cases h with
  | apart _ _ _ hapart => exact absurd hdrops hapart
  | acquires _ _ _ hneeds => exact absurd hdrops (not_drops_of_set hneeds.1)
  | waits hneeds => exact absurd hdrops (not_drops_of_set hneeds.1)
  | drops op action position _ _ hm _ haction hchoice =>
    exact ⟨op, action, position, rfl, hm, haction, hchoice⟩

/-- The changes that acquire a reference are SETs of mappings that need one. -/
theorem needs_of_acquire (h : Bears t c pa e outcome t') {position : Nat}
    (hacquire : actionOn pa (e, outcome) = some (.acquire, position)) : t.Needs c pa e := by
  cases h with
  | apart _ _ _ _ haction =>
    rw [haction] at hacquire
    cases hacquire
  | acquires _ _ _ hneeds => exact hneeds
  | waits hneeds => exact hneeds
  | drops op action position _ _ _ _ haction hchoice =>
    rw [haction] at hacquire
    cases hacquire
    split at hchoice <;> cases hchoice

/-- A SET that needs a reference acquires it, or waits for the removal of the entry. -/
theorem of_needs (h : Bears t c pa e outcome t') (hneeds : t.Needs c pa e) :
    (t.passOf pa).removing = false ∧
        (∃ position, actionOn pa (e, outcome) = some (.acquire, position)) ∨
      (t.passOf pa).removing = true ∧ outcome = .notReady (.paRemoval pa) := by
  cases h with
  | apart _ _ hapart => exact absurd hneeds hapart
  | acquires _ position _ _ hfree haction => exact .inl ⟨hfree, position, haction⟩
  | waits _ hremoving => exact .inr ⟨hremoving, rfl⟩
  | drops _ _ _ _ hdel => exact absurd hneeds (not_needs_of_del hdel)

theorem removing_iff (h : Bears t c pa e outcome t') : (t'.passOf pa).removing = true ↔
    (t.passOf pa).removing = true ∨
      ∃ position, actionOn pa (e, outcome) = some (.remove, position) := by
  cases h with
  | apart _ _ _ _ haction hsame => simp [haction, hsame]
  | acquires _ _ _ _ hfree haction hfree' => simp [haction, hfree, hfree']
  | waits => simp [actionOn]
  | drops _ _ _ _ _ _ _ haction _ hremoving => simp [haction, hremoving]

end Bears

end DashAgent.MappingTable
