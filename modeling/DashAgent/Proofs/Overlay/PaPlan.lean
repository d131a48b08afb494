import DashAgent.Overlay.MappingTable
import Mathlib.Data.List.Basic

/-!
# Plans for one PA validation entry

The actions that a pass has staged for one PA validation entry, in the order of their commits. They
were chosen by a prediction of the references that the commits before them leave. `Planned` says
that the prediction holds whatever the answers are: an action that is relied on by a later release
has its slot settled as a success, and after a remove nothing is released. `PlanState` relates a
plan to what the pass remembers of it.
-/
namespace DashAgent

/-- The references after an action that was accepted. -/
def PaAction.after (n : Nat) : PaAction → Nat
  | .acquire => n + 1
  | .release => n - 1
  | .remove => 0

/-- An action can be accepted: a release leaves a reference, a remove drops the last one. -/
def PaAction.Fits (n : Nat) : PaAction → Prop
  | .acquire => True
  | .release => 2 ≤ n
  | .remove => n = 1

/-- The references left by releases and removes can be dropped, starting from the given number.
`firm` are the positions that are settled as a success. -/
def Planned (firm : Nat → Prop) : Nat → List (PaAction × Nat) → Prop
  | _, [] => True
  | n, (.acquire, position) :: rest =>
    firm position ∧ Planned firm (n + 1) rest ∨ ∀ a ∈ rest, a.1 = .acquire
  | n, (.release, position) :: rest => firm position ∧ 2 ≤ n ∧ Planned firm (n - 1) rest
  | n, (.remove, _) :: rest => n = 1 ∧ ∀ a ∈ rest, a.1 = .acquire

namespace Planned

variable {firm firm' : Nat → Prop} {n : Nat} {as : List (PaAction × Nat)}

/-- Acquires alone can be committed from anywhere. -/
theorem of_acquires (h : ∀ a ∈ as, a.1 = .acquire) : Planned firm n as := by
  cases as with
  | nil => trivial
  | cons a rest =>
    obtain ⟨action, position⟩ := a
    have hhead : action = .acquire := h _ (List.mem_cons_self ..)
    subst hhead
    exact .inr fun a ha => h a (List.mem_cons_of_mem _ ha)

theorem mono (h : Planned firm n as) (hfirm : ∀ position, firm position → firm' position) :
    Planned firm' n as := by
  induction as generalizing n with
  | nil => trivial
  | cons a rest ih =>
    obtain ⟨action, position⟩ := a
    cases action with
    | acquire =>
      obtain ⟨hp, hrest⟩ | hrest := h
      · exact .inl ⟨hfirm _ hp, ih hrest⟩
      · exact .inr hrest
    | release => exact ⟨hfirm _ h.1, h.2.1, ih h.2.2⟩
    | remove => exact h

/-- A plan of firm acquires and releases is continued from the number that it leads to. -/
theorem append {a : PaAction × Nat} (h : Planned firm n as)
    (hfirm : ∀ b ∈ as, firm b.2 ∧ b.1 ≠ .remove)
    (ha : Planned firm (n + as.countP (·.1 = .acquire) - as.countP (·.1 ≠ .acquire)) [a]) :
    Planned firm n (as ++ [a]) := by
  induction as generalizing n with
  | nil => simpa using ha
  | cons b rest ih =>
    obtain ⟨action, position⟩ := b
    have hrest : ∀ b ∈ rest, firm b.2 ∧ b.1 ≠ .remove :=
      fun b hb => hfirm b (List.mem_cons_of_mem _ hb)
    obtain ⟨hposition, haction⟩ := hfirm (action, position) (List.mem_cons_self ..)
    cases action with
    | acquire =>
      have hnext : Planned firm (n + 1) rest := by
        obtain ⟨-, hnext⟩ | hnext := h
        · exact hnext
        · exact of_acquires hnext
      refine .inl ⟨hposition, ih hnext hrest ?_⟩
      simpa [List.countP_cons, Nat.add_assoc, Nat.add_comm, Nat.add_left_comm] using ha
    | release =>
      obtain ⟨-, htwo, hnext⟩ := h
      refine ⟨hposition, htwo, ih hnext hrest ?_⟩
      have heq : n - 1 + rest.countP (·.1 = .acquire) - rest.countP (·.1 ≠ .acquire) =
          n + rest.countP (·.1 = .acquire) - (rest.countP (·.1 ≠ .acquire) + 1) := by
        omega
      rw [heq]
      simpa [List.countP_cons] using ha
    | remove => exact absurd rfl haction

/-- The first action of a plan fits, and the rest is a plan for what its answer leaves. -/
theorem commit {action : PaAction} {position : Nat}
    (h : Planned firm n ((action, position) :: as)) (accepted : Bool)
    (hfirm : firm position → accepted = true) :
    (accepted = true → action.Fits n) ∧
      Planned firm (if accepted then action.after n else n) as := by
  cases action with
  | acquire =>
    refine ⟨fun _ => trivial, ?_⟩
    obtain ⟨hp, hrest⟩ | hrest := h
    · rw [hfirm hp]
      exact hrest
    · exact of_acquires hrest
  | release =>
    obtain ⟨hp, htwo, hrest⟩ := h
    rw [hfirm hp]
    exact ⟨fun _ => htwo, hrest⟩
  | remove => exact ⟨fun _ => h.1, of_acquires h.2⟩

end Planned

/-- What a pass remembers of its plan for an entry with `n` references. -/
structure PlanState (firm : Nat → Prop) (n : Nat) (p : PaPass) (as : List (PaAction × Nat)) :
    Prop where
  planned : Planned firm n as
  acquired : p.acquired = as.countP (·.1 = .acquire)
  released : p.released = as.countP (·.1 ≠ .acquire)
  /-- As long as the entry is there to stay, every action on it succeeds. -/
  open_firm : 0 < n → p.removing = false → ∀ a ∈ as, firm a.2 ∧ a.1 ≠ .remove
  /-- Once a remove is staged, every reference is dropped. -/
  removing : p.removing = true → p.released = n
  /-- Of an entry that is not there nothing is released. -/
  absent : n = 0 → ∀ a ∈ as, a.1 = .acquire

namespace PlanState

variable {firm firm' : Nat → Prop} {n position : Nat} {p : PaPass} {as : List (PaAction × Nat)}

theorem idle (n : Nat) : PlanState firm n .idle [] where
  planned := trivial
  acquired := rfl
  released := rfl
  open_firm := by simp
  removing h := by cases h
  absent := by simp

theorem mono (h : PlanState firm n p as) (hfirm : ∀ position, firm position → firm' position) :
    PlanState firm' n p as :=
  { h with
    planned := h.planned.mono hfirm
    open_firm := by
      intro hn hr a ha
      obtain ⟨hopen, hkind⟩ := h.open_firm hn hr a ha
      exact ⟨hfirm _ hopen, hkind⟩ }

/-- No remove is staged while a reference is left to drop. -/
theorem free (h : PlanState firm n p as) (hheld : p.released + 1 ≤ n) : p.removing = false := by
  cases hr : p.removing with
  | false => rfl
  | true =>
    have hall := h.removing hr
    omega

/-- An acquire of an entry that is there succeeds. -/
theorem acquire_present (h : PlanState firm n p as) (hn : 0 < n) (hr : p.removing = false)
    (hp : firm position) :
    PlanState firm n { p with acquired := p.acquired + 1 } (as ++ [(.acquire, position)]) where
  planned := h.planned.append (h.open_firm hn hr) (.inl ⟨hp, trivial⟩)
  acquired := by simp [h.acquired]
  released := by simp [h.released]
  open_firm := by
    intro _ _ a ha
    rcases List.mem_append.1 ha with ha | ha
    · exact h.open_firm hn hr a ha
    · rw [List.mem_singleton.1 ha]
      exact ⟨hp, by simp⟩
  removing := fun hr' => absurd hr' (by simp [hr])
  absent := fun h0 => absurd h0 (by omega)

/-- An acquire of an entry that is not there may fail, but nothing relies on it. -/
theorem acquire_absent (h : PlanState firm 0 p as) (creating : Option Nat) :
    PlanState firm 0 { p with acquired := p.acquired + 1, creating := creating }
      (as ++ [(.acquire, position)]) := by
  have hall : ∀ a ∈ as ++ [(.acquire, position)], a.1 = .acquire := by
    intro a ha
    rcases List.mem_append.1 ha with ha | ha
    · exact h.absent rfl a ha
    · rw [List.mem_singleton.1 ha]
  exact
    { planned := .of_acquires hall
      acquired := by simp [h.acquired]
      released := by simp [h.released]
      open_firm := by simp
      removing := h.removing
      absent := fun _ => hall }

/-- A release that is not the last one leaves a reference. -/
theorem release (h : PlanState firm n p as) (hheld : p.released + 1 ≤ n)
    (hremaining : 1 < n + p.acquired - p.released) (hp : firm position) :
    PlanState firm n { p with released := p.released + 1 } (as ++ [(.release, position)]) := by
  have hr := h.free hheld
  have hfirm := h.open_firm (by omega) hr
  rw [h.acquired, h.released] at hremaining
  exact
    { planned := h.planned.append hfirm ⟨hp, hremaining, trivial⟩
      acquired := by simp [h.acquired]
      released := by simp [h.released]
      open_firm := by
        intro _ _ a ha
        rcases List.mem_append.1 ha with ha | ha
        · exact hfirm a ha
        · rw [List.mem_singleton.1 ha]
          exact ⟨hp, by simp⟩
      removing := fun hr' => absurd hr' (by simp [hr])
      absent := fun h0 => absurd h0 (by omega) }

/-- The last release removes the entry, and no reference is left to release. -/
theorem remove (h : PlanState firm n p as) (hheld : p.released + 1 ≤ n)
    (hremaining : ¬1 < n + p.acquired - p.released) :
    PlanState firm n { p with released := p.released + 1, removing := true }
      (as ++ [(.remove, position)]) := by
  have hr := h.free hheld
  have hlast : n + as.countP (·.1 = .acquire) - as.countP (·.1 ≠ .acquire) = 1 := by
    rw [← h.acquired, ← h.released]
    omega
  exact
    { planned := h.planned.append (h.open_firm (by omega) hr) ⟨hlast, by simp⟩
      acquired := by simp [h.acquired]
      released := by simp [h.released]
      open_firm := by simp
      removing := fun _ => by
        change p.released + 1 = n
        omega
      absent := fun h0 => absurd h0 (by omega) }

end PlanState

end DashAgent
