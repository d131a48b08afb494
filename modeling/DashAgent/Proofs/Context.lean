import DashAgent.Context
import DashAgent.Proofs.Monitor

/-!
# Accounting in the shared state

Commits count through the shared state, where a refused call leaves nothing but a line in the log.
While the used counts are those of a census, the call for an object that appears or goes is
accepted, so the log of skipped calls stays empty.
-/
namespace DashAgent.Context

variable {c c' : Context} {census census' : Resource → Nat} {r : Resource}

/-- The used counts are those of a census, and no accounting was skipped. -/
structure Balanced (c : Context) (census : Resource → Nat) : Prop where
  counts : c.monitor.Balanced census
  accepted : c.skipped = []

theorem Balanced.congr (h : c.Balanced census) (heq : ∀ r, census' r = census r) :
    c.Balanced census' := ⟨h.counts.congr heq, h.accepted⟩

theorem Balanced.of_accounts (h : c.Balanced census) (heq : c'.accounts = c.accounts) :
    c'.Balanced census := by
  obtain ⟨hmonitor, hskipped⟩ := Prod.mk.inj heq
  exact ⟨hmonitor ▸ h.counts, hskipped.trans h.accepted⟩

theorem accounts_count (heq : c'.accounts = c.accounts) (r : Resource) :
    (c'.count r).accounts = (c.count r).accounts := by
  obtain ⟨hmonitor, hskipped⟩ := Prod.mk.inj heq
  simp only [accounts, count, account, hmonitor, hskipped]

theorem accounts_uncount (heq : c'.accounts = c.accounts) (r : Resource) :
    (c'.uncount r).accounts = (c.uncount r).accounts := by
  obtain ⟨hmonitor, hskipped⟩ := Prod.mk.inj heq
  simp only [accounts, uncount, account, hmonitor, hskipped]

/-- An accepted call is not logged. -/
theorem skipped_account {call : Monitor.Accounted} {n : UInt32} (h : call.1 = .ok n) :
    (c.account call).skipped = c.skipped := by
  simp only [account, h]

/-- An object that appears is counted, and the call for it is accepted. -/
theorem Balanced.count (h : c.Balanced census) (hr : r ∈ Resource.overlay)
    (hroom : census r + 1 < 2 ^ 32) (hcensus : ∀ s, census' s = census s + if s = r then 1 else 0) :
    (c.count r).Balanced census' := by
  obtain ⟨n, hanswer⟩ := Monitor.incrementUsed_accepted c.monitor hr
  exact ⟨h.counts.increment hr hroom hcensus, (skipped_account hanswer).trans h.accepted⟩

/-- An object that goes was counted, so the call for it is accepted. -/
theorem Balanced.uncount (h : c.Balanced census) (hr : r ∈ Resource.overlay)
    (hcensus : ∀ s, census s = census' s + if s = r then 1 else 0) :
    (c.uncount r).Balanced census' := by
  have hone := hcensus r
  rw [if_pos rfl] at hone
  obtain ⟨n, hanswer⟩ := h.counts.decrementUsed_accepted hr (by omega)
  exact ⟨h.counts.decrement hr hcensus, (skipped_account hanswer).trans h.accepted⟩

end DashAgent.Context
