import DashAgent.Proofs.Reconcile.Conduct
import Mathlib.Data.List.Nodup
import Mathlib.Data.List.Perm.Subperm

/-!
# Streams of changes

The changes of a table arrive in groups, with passes in between. What a key ends with is decided by
its last change and by the configuration that this change met in the table: `Traced` says so of
every moment after the change, and is kept by passes and by the changes of other keys.
-/
namespace DashAgent

open BulkTable

inductive StreamEvent where
  | arrive (es : List Entry)
  | pass
  deriving DecidableEq, Repr

def changesOf (events : List StreamEvent) : List Entry :=
  events.flatMap fun
    | .arrive es => es
    | .pass => []

@[simp] theorem changesOf_arrive (es : List Entry) (events : List StreamEvent) :
    changesOf (.arrive es :: events) = es ++ changesOf events := rfl

@[simp] theorem changesOf_pass (events : List StreamEvent) :
    changesOf (.pass :: events) = changesOf events := rfl

@[simp] theorem changesOf_append (events events' : List StreamEvent) :
    changesOf (events ++ events') = changesOf events ++ changesOf events' := by
  simp [changesOf]

def lastChange? (key : String) (es : List Entry) : Option Entry :=
  es.reverse.find? fun e => decide (e.key = key)

theorem lastChange?_append (key : String) (es es' : List Entry) :
    lastChange? key (es ++ es') = (lastChange? key es').or (lastChange? key es) := by
  simp [lastChange?]

theorem lastChange?_singleton (key : String) (e : Entry) :
    lastChange? key [e] = if e.key = key then some e else none := by
  by_cases h : e.key = key <;> simp [lastChange?, h]

/-- The last change of a key is in one of the groups, behind which there is none. -/
theorem exists_group_of_lastChange? {key : String} {e : Entry} {events : List StreamEvent}
    (h : lastChange? key (changesOf events) = some e) :
    ∃ earlier es later, events = earlier ++ .arrive es :: later ∧ lastChange? key es = some e ∧
      lastChange? key (changesOf later) = none := by
  induction events with
  | nil => cases h
  | cons event rest ih =>
    cases hrest : lastChange? key (changesOf rest) with
    | some e' =>
      have hsame : lastChange? key (changesOf (event :: rest)) = some e' := by
        cases event with
        | arrive es => rw [changesOf_arrive, lastChange?_append, hrest, Option.some_or]
        | pass => exact hrest
      rw [h] at hsame
      cases hsame
      obtain ⟨earlier, es, later, hevents, hlast, hlater⟩ := ih hrest
      exact ⟨event :: earlier, es, later, by rw [hevents]; rfl, hlast, hlater⟩
    | none =>
      cases event with
      | pass =>
        rw [changesOf_pass, hrest] at h
        cases h
      | arrive es =>
        rw [changesOf_arrive, lastChange?_append, hrest, Option.none_or] at h
        exact ⟨[], es, rest, rfl, h, hrest⟩

theorem mem_of_lastChange? {key : String} {e : Entry} {es : List Entry}
    (h : lastChange? key es = some e) : e ∈ es :=
  List.mem_reverse.1 (List.mem_of_find?_eq_some h)

/-- The key had no changes, or a pass followed the last one, which is a DEL. -/
def Cleared (key : String) (events : List StreamEvent) : Prop :=
  lastChange? key (changesOf events) = none ∨
    ∃ before after e, events = before ++ .pass :: after ∧
      lastChange? key (changesOf before) = some e ∧ e.op = .del ∧
      lastChange? key (changesOf after) = none

/-- The group in which the last change of a key arrives finds the key cleared. -/
def Separated (key : String) (events : List StreamEvent) : Prop :=
  ∃ earlier es later, events = earlier ++ .arrive es :: later ∧
    (lastChange? key es).isSome = true ∧ lastChange? key (changesOf later) = none ∧
    Cleared key earlier

section Follow

variable {τ κ γ : Type} {ops : BulkTable τ κ Context Simulator}

/-- A pass over a queue that changes were added to. -/
def Pass.receive {ε δ : Type} (p : Pass τ ε δ) (es : List Entry) : Pass τ ε δ :=
  { p with queue := p.queue.addAll es }

def BulkTable.follow {ε δ : Type} (ops : BulkTable τ κ ε δ) :
    List StreamEvent → Pass τ ε δ → Pass τ ε δ
  | [], p => p
  | .arrive es :: rest, p => ops.follow rest (p.receive es)
  | .pass :: rest, p => ops.follow rest (ops.reconcile p).2

theorem BulkTable.follow_append (events events' : List StreamEvent) (p : Pass τ Context Simulator) :
    ops.follow (events ++ events') p = ops.follow events' (ops.follow events p) := by
  induction events generalizing p with
  | nil => rfl
  | cons event rest ih => cases event <;> exact ih _

namespace Conduct

variable (C : Conduct ops γ) {p : Pass τ Context Simulator} {toCome : List Entry} {key : String}
  {last : Option Entry} {base : Option γ}

/-! ## A new table -/

/-- A tidy table with nothing pending is ready for a stream that the switch and a batch have room
for. -/
theorem ready_of_idle {stream : List Entry} (htidy : C.Tidy p.table) (hidle : p.queue.entries = [])
    (hvalid : ∀ e ∈ stream, C.Valid p.env e)
    (hsupplied : ∀ type ∈ C.types, p.switch.Supplies type stream.length)
    (hbatch : stream.length ≤ p.queue.batchSize) : C.Ready stream p := by
  refine ⟨htidy, ?_, hvalid, ?_, ?_⟩
  · rw [hidle]
    simp
  · rw [hidle]
    exact hsupplied
  · rw [hidle]
    exact hbatch

/-! ## What stays ready -/

/-- Changes that arrive are no longer to come. -/
theorem Ready.receive {es : List Entry} (h : C.Ready (es ++ toCome) p) :
    C.Ready toCome (p.receive es) := by
  induction es generalizing p with
  | nil => exact h
  | cons e rest ih =>
    have hadd := p.queue.length_add_le e
    have hlength : (e :: rest ++ toCome).length = (rest ++ toCome).length + 1 := rfl
    have hsupplied := h.supplied
    have hbatch := h.batch
    rw [hlength] at hsupplied hbatch
    have hnext : C.Ready (rest ++ toCome) { p with queue := p.queue.add e } := by
      refine ⟨h.tidy, ?_, ?_, ?_, ?_⟩
      · intro x hx
        rcases ChangeQueue.mem_add hx with hx | rfl
        · exact h.pending x hx
        · exact h.arriving x (List.mem_cons_self ..)
      · exact fun x hx => h.arriving x (List.mem_cons_of_mem _ hx)
      · exact fun type htype => (hsupplied type htype).mono (by dsimp only; omega)
      · rw [ChangeQueue.batchSize_add]
        dsimp only
        omega
    exact ih hnext

theorem Ready.reconcile (h : C.Ready toCome p) : C.Ready toCome (ops.reconcile p).2 := by
  obtain ⟨_, _, hready, -⟩ := C.reconcile h
  exact hready

theorem Ready.follow {events : List StreamEvent} (h : C.Ready (changesOf events ++ toCome) p) :
    C.Ready toCome (ops.follow events p) := by
  induction events generalizing p with
  | nil => exact h
  | cons event rest ih =>
    cases event with
    | arrive es =>
      rw [changesOf_arrive, List.append_assoc] at h
      exact ih (h.receive C)
    | pass => exact ih (h.reconcile C)

/-! ## One key -/

/-- The key had `last` as its last change, which met `base` in the table: it is still pending, or it
was applied. -/
def Traced (p : Pass τ Context Simulator) (key : String) (last : Option Entry) (base : Option γ) :
    Prop :=
  p.queue.pending? key = none ∧ C.config? p.table key = C.target last base ∨
    p.queue.pending? key = last ∧ C.config? p.table key = base

/-- With nothing pending and nothing programmed, a key is as if it had no changes. -/
theorem traced_of_idle (hidle : p.queue.entries = []) (hconfig : C.config? p.table key = none) :
    C.Traced p key none none := by
  refine .inl ⟨?_, hconfig⟩
  rw [ChangeQueue.pending?_eq_none_iff, hidle]
  simp

theorem traced_self (p : Pass τ Context Simulator) (key : String) :
    C.Traced p key (p.queue.pending? key) (C.config? p.table key) := .inr ⟨rfl, rfl⟩

/-- Between changes of the key a pass applies the last one, if it did not wait. -/
theorem Traced.reconcile (h : C.Traced p key last base) (hready : C.Ready toCome p) :
    C.Traced (ops.reconcile p).2 key last base := by
  obtain ⟨_, _, -, hturn, -⟩ := C.reconcile hready
  rcases h with ⟨hpending, hconfig⟩ | ⟨hpending, hconfig⟩
  · left
    obtain ⟨hpending', hconfig'⟩ | ⟨-, -, ⟨e, he, -⟩, -⟩ := hturn key
    · rw [hpending] at hconfig'
      exact ⟨hpending', hconfig'.trans hconfig⟩
    · rw [hpending] at he
      cases he
  · obtain ⟨hpending', hconfig'⟩ | ⟨hpending', hconfig', -⟩ := hturn key
    · rw [hpending, hconfig] at hconfig'
      exact .inl ⟨hpending', hconfig'⟩
    · exact .inr ⟨hpending'.trans hpending, hconfig'.trans hconfig⟩

/-- A DEL never waits: after the next pass the key is gone. -/
theorem Traced.removed {e : Entry} (h : C.Traced p key (some e) base) (hop : e.op = .del)
    (hready : C.Ready toCome p) : C.Traced (ops.reconcile p).2 key none none := by
  have hnone : ∀ base, C.target (some e) base = none := fun base => by simp [target, hop]
  obtain ⟨_, _, -, hturn, -⟩ := C.reconcile hready
  obtain ⟨hpending', hconfig'⟩ | ⟨-, -, ⟨e', he, hset⟩, -⟩ := hturn key
  · refine .inl ⟨hpending', hconfig'.trans ?_⟩
    rcases h with ⟨hpending, hconfig⟩ | ⟨hpending, hconfig⟩
    · rw [hpending]
      exact hconfig.trans (hnone _)
    · rw [hpending]
      exact hnone _
  · rcases h with ⟨hpending, -⟩ | ⟨hpending, -⟩
    · rw [hpending] at he
      cases he
    · rw [hpending] at he
      cases he
      rw [hop] at hset
      cases hset

/-- A change that arrives meets the configuration that is programmed then. -/
theorem Traced.receive (es : List Entry) (h : C.Traced p key last base) :
    C.Traced (p.receive es) key ((lastChange? key es).or last)
      ((lastChange? key es).elim base fun _ => C.config? p.table key) := by
  induction es generalizing p last base with
  | nil => exact h
  | cons e rest ih =>
    have hlast : lastChange? key (e :: rest) =
        (lastChange? key rest).or (if e.key = key then some e else none) := by
      rw [← List.singleton_append, lastChange?_append, lastChange?_singleton]
    have hpending := p.queue.pending?_add e key
    rw [hlast]
    by_cases hkey : e.key = key
    · rw [if_pos hkey] at hpending ⊢
      have hnext : C.Traced { p with queue := p.queue.add e } key (some e)
          (C.config? p.table key) := .inr ⟨hpending, rfl⟩
      have hend := ih hnext
      cases hrest : lastChange? key rest <;> rw [hrest] at hend <;> exact hend
    · rw [if_neg hkey] at hpending ⊢
      have hnext : C.Traced { p with queue := p.queue.add e } key last base := by
        rw [Traced, hpending]
        exact h
      rw [Option.or_none]
      exact ih hnext

/-- The last change of a group meets what is programmed when the group arrives. -/
theorem traced_receive {es : List Entry} {e : Entry} (h : lastChange? key es = some e)
    (p : Pass τ Context Simulator) :
    C.Traced (p.receive es) key (some e) (C.config? p.table key) := by
  have hreceived := (C.traced_self p key).receive C es
  rw [h] at hreceived
  exact hreceived

/-- Events without a change of the key leave its last change what it was. -/
theorem Traced.follow {events : List StreamEvent} (h : C.Traced p key last base)
    (hready : C.Ready (changesOf events ++ toCome) p)
    (hnone : lastChange? key (changesOf events) = none) :
    C.Traced (ops.follow events p) key last base := by
  induction events generalizing p with
  | nil => exact h
  | cons event rest ih =>
    cases event with
    | arrive es =>
      rw [changesOf_arrive, lastChange?_append, Option.or_eq_none_iff] at hnone
      rw [changesOf_arrive, List.append_assoc] at hready
      have hnext := h.receive C es
      rw [hnone.2] at hnext
      exact ih hnext (hready.receive C) hnone.1
    | pass => exact ih (h.reconcile C hready) (hready.reconcile C) hnone

/-- A key that is cleared has nothing programmed and nothing pending that would change it. -/
theorem Traced.cleared {events : List StreamEvent} (h : C.Traced p key none none)
    (hready : C.Ready (changesOf events ++ toCome) p) (hcleared : Cleared key events) :
    C.Traced (ops.follow events p) key none none := by
  obtain hnone | ⟨before, after, e, rfl, hlast, hdel, hafter⟩ := hcleared
  · exact h.follow C hready hnone
  · obtain ⟨earlier, es, later, rfl, hgroup, hlater⟩ := exists_group_of_lastChange? hlast
    simp only [changesOf_append, changesOf_arrive, changesOf_pass, List.append_assoc] at hready
    have hready₁ := hready.follow C
    have hready₂ := hready₁.receive C
    have hready₃ := hready₂.follow C
    have htraced := C.traced_receive hgroup (ops.follow earlier p)
    have hremoved := (htraced.follow C hready₂ hlater).removed C hdel hready₃
    have hend := hremoved.follow C (hready₃.reconcile C) hafter
    rw [List.append_assoc, follow_append]
    change C.Traced (ops.follow (later ++ .pass :: after) _) key none none
    rw [follow_append]
    exact hend

/-! ## The end of a stream -/

/-- With nothing pending, the last change was applied to what it met. -/
theorem Traced.config_of_idle (h : C.Traced p key last base) (hidle : p.queue.entries = []) :
    C.config? p.table key = C.target last base := by
  obtain ⟨-, hconfig⟩ | ⟨hpending, hconfig⟩ := h
  · exact hconfig
  · have hnone : p.queue.pending? key = none := by
      rw [ChangeQueue.pending?_eq_none_iff, hidle]
      simp
    rw [hnone] at hpending
    rw [hconfig, ← hpending]
    rfl

/-- The last change of a key is applied to what is programmed when its group arrives. -/
theorem config_of_group {earlier later : List StreamEvent} {es : List Entry} {e : Entry}
    (hready : C.Ready (changesOf (earlier ++ .arrive es :: later) ++ toCome) p)
    (hgroup : lastChange? key es = some e) (hlater : lastChange? key (changesOf later) = none)
    (hidle : (ops.follow (earlier ++ .arrive es :: later) p).queue.entries = []) :
    C.config? (ops.follow (earlier ++ .arrive es :: later) p).table key =
      C.target (some e) (C.config? (ops.follow earlier p).table key) := by
  simp only [changesOf_append, changesOf_arrive, List.append_assoc] at hready
  have hready₁ := (hready.follow C).receive C
  have htraced := (C.traced_receive hgroup (ops.follow earlier p)).follow C hready₁ hlater
  rw [follow_append] at hidle ⊢
  exact htraced.config_of_idle C hidle

/-- What a pass leaves pending was pending before it, and asks for an object. -/
theorem Ready.left_set {e : Entry} (h : C.Ready toCome p)
    (he : e ∈ (ops.reconcile p).2.queue.entries) : e ∈ p.queue.entries ∧ e.op = .set := by
  obtain ⟨_, _, -, hturn, -⟩ := C.reconcile h
  have hpending := ChangeQueue.pending?_eq_some_iff.2 ⟨he, rfl⟩
  obtain ⟨hnone, -⟩ | ⟨hsame, -, ⟨e', he', hset⟩, -⟩ := hturn e.key
  · rw [hpending] at hnone
    cases hnone
  · rw [hpending, he'] at hsame
    cases hsame
    exact ⟨(ChangeQueue.pending?_eq_some_iff.1 he').1, hset⟩

/-- A pass over SETs leaves nothing pending: no removal is staged that one could wait for. -/
theorem Ready.drained (h : C.Ready toCome p) (hsets : ∀ e ∈ p.queue.entries, e.op = .set) :
    (ops.reconcile p).2.queue.entries = [] := by
  obtain ⟨_, _, -, hturn, -⟩ := C.reconcile h
  rw [List.eq_nil_iff_forall_not_mem]
  intro e he
  have hpending := ChangeQueue.pending?_eq_some_iff.2 ⟨he, rfl⟩
  obtain ⟨hnone, -⟩ | ⟨-, -, -, ⟨e', he', hdel⟩⟩ := hturn e.key
  · rw [hpending] at hnone
    cases hnone
  · rw [hsets e' he'] at hdel
    cases hdel

/-- A pass over something consumes something. -/
theorem Ready.consumed_ne_zero {summary : Summary} (h : C.Ready toCome p)
    (hne : p.queue.entries ≠ []) (hsummary : (ops.reconcile p).1 = .ok summary) :
    summary.consumed ≠ 0 := by
  obtain ⟨summary', hanswer, -, -, hlength⟩ := C.reconcile h
  rw [hsummary] at hanswer
  cases hanswer
  intro hzero
  rw [hzero, Nat.zero_add] at hlength
  by_cases hsets : ∀ e ∈ p.queue.entries, e.op = .set
  · rw [h.drained C hsets] at hlength
    exact hne (List.length_eq_zero_iff.1 hlength.symm)
  · obtain ⟨e, he, hdel⟩ : ∃ e ∈ p.queue.entries, e.op ≠ .set := by simpa using hsets
    have hnodup : (e :: (ops.reconcile p).2.queue.entries).Nodup := by
      rw [List.nodup_cons]
      exact ⟨fun hmem => hdel (h.left_set C hmem).2,
        List.Nodup.of_map Entry.key (ops.reconcile p).2.queue.nodup_entries⟩
    have hsub : e :: (ops.reconcile p).2.queue.entries ⊆ p.queue.entries := by
      intro x hx
      rcases List.mem_cons.1 hx with rfl | hx
      · exact he
      · exact (h.left_set C hx).1
    have hle := (hnodup.subperm hsub).length_le
    rw [List.length_cons] at hle
    omega

end Conduct

end Follow

end DashAgent
