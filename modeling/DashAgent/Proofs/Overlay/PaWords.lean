import DashAgent.Proofs.Overlay.PaSharing
import DashAgent.Proofs.Words

/-!
# The counts of a pass in words

A pass counts the references that it stages to be taken and dropped. Counted in words of 32 bits
they lead to the same actions and no sum overflows, as long as the table has room for the batch: an
entry has at most as many references as there are mappings, and a batch takes and drops at most as
many as it has changes. Main theorem: `Sharing.countedInWords`.
-/
namespace DashAgent

/-- What a pass has taken and dropped of one PA validation entry, in words. -/
structure PaWords where
  acquired : UInt32
  released : UInt32

namespace PaWords

variable {w : PaWords} {p : PaPass} {held : UInt32}

/-- One reference more taken, unless the count overflows. -/
def acquire? (w : PaWords) : Option PaWords :=
  (Word.halfSum? w.acquired 1).map fun acquired => { w with acquired }

/-- The references that are left, and none rather than fewer, unless the sum overflows. -/
def remaining? (w : PaWords) (held : UInt32) : Option UInt32 :=
  (Word.halfSum? held w.acquired).map fun sum =>
    if w.released ≤ sum then sum - w.released else 0

/-- One reference more dropped, and the action for that, unless a count overflows. -/
def release? (w : PaWords) (held : UInt32) : Option (PaAction × PaWords) := do
  let remaining ← w.remaining? held
  let released ← Word.halfSum? w.released 1
  some (if 1 < remaining then .release else .remove, { w with released })

/-- The words count what the pass counts. -/
structure Count (w : PaWords) (p : PaPass) : Prop where
  acquired : w.acquired.toNat = p.acquired
  released : w.released.toNat = p.released

theorem exists_count (hacquired : p.acquired < 2 ^ 32) (hreleased : p.released < 2 ^ 32) :
    ∃ w : PaWords, w.Count p :=
  ⟨⟨.ofNat p.acquired, .ofNat p.released⟩, UInt32.toNat_ofNat_of_lt' hacquired,
    UInt32.toNat_ofNat_of_lt' hreleased⟩

theorem Count.acquire (h : w.Count p) (hfits : p.acquired + 1 < 2 ^ 32) :
    ∃ w', w.acquire? = some w' ∧ w'.acquired.toNat = p.acquired + 1 ∧
      w'.released.toNat = p.released := by
  obtain ⟨n, hsum, hn⟩ := Word.exists_halfSum? (a := w.acquired) (b := 1) (by
    rw [h.acquired]
    exact hfits)
  exact ⟨{ w with acquired := n }, by rw [acquire?, hsum, Option.map_some],
    hn.trans (by rw [h.acquired]; rfl), h.released⟩

theorem Count.remaining (h : w.Count p) (hfits : held.toNat + p.acquired < 2 ^ 32) :
    ∃ n, w.remaining? held = some n ∧ n.toNat = held.toNat + p.acquired - p.released := by
  obtain ⟨sum, hsum, hn⟩ := Word.exists_halfSum? (a := held) (b := w.acquired) (by
    rw [h.acquired]
    exact hfits)
  rw [h.acquired] at hn
  refine ⟨_, by rw [remaining?, hsum, Option.map_some], ?_⟩
  rw [← hn, ← h.released]
  split
  · next hle => exact UInt32.toNat_sub_of_le _ _ hle
  · next hlt =>
    rw [UInt32.not_le, UInt32.lt_iff_toNat_lt] at hlt
    exact (Nat.sub_eq_zero_of_le (Nat.le_of_lt hlt)).symm

theorem Count.release (h : w.Count p) (hfits : held.toNat + p.acquired < 2 ^ 32)
    (hfits' : p.released + 1 < 2 ^ 32) :
    ∃ w', w.release? held = some
        (if 1 < held.toNat + p.acquired - p.released then .release else .remove, w') ∧
      w'.acquired.toNat = p.acquired ∧ w'.released.toNat = p.released + 1 := by
  obtain ⟨n, hremaining, hn⟩ := h.remaining hfits
  obtain ⟨k, hsum, hk⟩ := Word.exists_halfSum? (a := w.released) (b := 1) (by
    rw [h.released]
    exact hfits')
  refine ⟨{ w with released := k }, ?_, h.acquired, hk.trans (by rw [h.released]; rfl)⟩
  have hleft : 1 < n ↔ 1 < held.toNat + p.acquired - p.released := by
    rw [UInt32.lt_iff_toNat_lt, hn]
    rfl
  simp only [release?, hremaining, hsum, Option.bind_eq_bind, Option.bind_some, hleft]

end PaWords

namespace MappingTable

theorem passOf_stageAcquire_self (t : MappingTable) (pa : String) (m : MappingRecord) :
    ((t.stageAcquire pa m).2.passOf pa).acquired = (t.passOf pa).acquired + 1 ∧
      ((t.stageAcquire pa m).2.passOf pa).released = (t.passOf pa).released := by
  have hspec := stageAcquire_spec t pa m
  generalize t.stageAcquire pa m = result at hspec ⊢
  cases hspec <;> rw [passOf_remembering_self] <;> exact ⟨rfl, rfl⟩

theorem passOf_stageRelease_self (t : MappingTable) (pa : String) (m : MappingRecord) :
    ((t.stageRelease pa m).2.passOf pa).acquired = (t.passOf pa).acquired ∧
      ((t.stageRelease pa m).2.passOf pa).released = (t.passOf pa).released + 1 := by
  have hspec := stageRelease_spec t pa m
  generalize t.stageRelease pa m = result at hspec ⊢
  cases hspec <;> rw [passOf_remembering_self] <;> exact ⟨rfl, rfl⟩

/-- At a moment of staging with room for one change more, words count what the pass has taken and
dropped, and with them one reference more is taken and dropped like without. -/
structure CountedInWords (t : MappingTable) (pa : String) (w : PaWords) : Prop where
  count : w.Count (t.passOf pa)
  acquire : ∀ m, ∃ w', w.acquire? = some w' ∧ w'.Count ((t.stageAcquire pa m).2.passOf pa)
  release : ∀ m, ∃ w', w.release? ((t.paEntries.references? pa).getD 0) =
    some ((t.stageRelease pa m).1.1, w') ∧ w'.Count ((t.stageRelease pa m).2.passOf pa)

theorem Sharing.countedInWords {t₀ t : MappingTable} {c : Context}
    {outcomes : List (Entry × StageOutcome MappingOp)} {rest : List Entry}
    (h : Sharing t₀ c outcomes rest t)
    (hroom : t₀.mappings.size + outcomes.length + 1 < 2 ^ 32) (pa : String) :
    ∃ w, CountedInWords t pa w := by
  have hplan := h.planning.plans pa
  have hlength : (plan pa outcomes).length ≤ outcomes.length := List.length_filterMap_le ..
  have hacquired : (t.passOf pa).acquired ≤ outcomes.length := by
    rw [hplan.acquired]
    exact Nat.le_trans (List.countP_le_length ..) hlength
  have hreleased : (t.passOf pa).released ≤ outcomes.length := by
    rw [hplan.released]
    exact Nat.le_trans (List.countP_le_length ..) hlength
  have hheld : ((t.paEntries.references? pa).getD 0).toNat ≤ t₀.mappings.size := by
    have hcounted := h.planning.exact.counted pa
    rw [h.mappings] at hcounted
    exact Nat.le_trans (Nat.le_of_eq hcounted) (holders_le_size ..)
  obtain ⟨w, hw⟩ := PaWords.exists_count (p := t.passOf pa) (by omega) (by omega)
  refine ⟨w, hw, fun m => ?_, fun m => ?_⟩
  · obtain ⟨w', hacquire, hcount⟩ := hw.acquire (by omega)
    obtain ⟨htaken, hdropped⟩ := passOf_stageAcquire_self t pa m
    exact ⟨w', hacquire, hcount.1.trans htaken.symm, hcount.2.trans hdropped.symm⟩
  · have hfits : ((t.paEntries.references? pa).getD 0).toNat + (t.passOf pa).acquired < 2 ^ 32 := by
      omega
    obtain ⟨w', hrelease, hcount⟩ := hw.release hfits (by omega)
    obtain ⟨htaken, hdropped⟩ := passOf_stageRelease_self t pa m
    rw [(stageRelease_action t pa m).1]
    exact ⟨w', hrelease, hcount.1.trans htaken.symm, hcount.2.trans hdropped.symm⟩

end MappingTable

end DashAgent
