import DashAgent.Proofs.Switch.Answering
import DashAgent.Proofs.Switch.Gate

/-!
# The bulk size does not show

A simulated switch answers the requests of a call one by one and never looks at its count of calls.
So requests cut into calls are answered as the whole list is, and a flush is one round of removes
and one round of creates, whatever the bulk size. Main theorem: `flush_bulkSize`.
-/
namespace DashAgent

namespace Simulator

/-- The switch without its count of calls. -/
def uncounted (s : Simulator) : Simulator := { s with bulkCalls := 0 }

theorem pools_uncounted (s : Simulator) : s.uncounted.pools = s.pools := rfl

/-! ## Requests one by one -/

/-- Requests are answered without a look at the count of calls, and leave the channel alone. -/
structure Uncounting {α β : Type} (one : α → Simulator → β × Simulator) : Prop where
  uncounted : ∀ a s, one a s.uncounted = ((one a s).1, (one a s).2.uncounted)
  channelLost : ∀ a s, (one a s).2.channelLost = s.channelLost

theorem uncounting_createOne (type : ObjectType) :
    Uncounting fun request s => s.createOne type request where
  uncounted request s := by
    rcases hforced : (s.pools.get type).takeForced with ⟨status, pool⟩
    cases status with
    | some status => simp only [createOne, hforced, uncounted]
    | none =>
      cases hentry : request.entry <;>
        simp only [createOne, pools_uncounted, hforced, hentry] <;> rfl
  channelLost request s := channelLost_createOne type request s

theorem uncounting_removeOne (type : ObjectType) :
    Uncounting fun key s => s.removeOne type key where
  uncounted key s := by
    rcases hforced : (s.pools.get type).takeForced with ⟨status, pool⟩
    cases status <;> simp only [removeOne, hforced, uncounted]
  channelLost key s := channelLost_removeOne type key s

section Serve

variable {α β : Type} {one : α → Simulator → β × Simulator}

theorem length_serve (xs : List α) (s : Simulator) : (serve one xs s).1.length = xs.length := by
  induction xs generalizing s with
  | nil => rfl
  | cons a rest ih => rw [serve, List.length_cons, ih, List.length_cons]

theorem serve_append (xs ys : List α) (s : Simulator) :
    serve one (xs ++ ys) s =
      ((serve one xs s).1 ++ (serve one ys (serve one xs s).2).1,
        (serve one ys (serve one xs s).2).2) := by
  induction xs generalizing s with
  | nil => rfl
  | cons a rest ih => simp only [List.cons_append, serve, ih]

variable (h : Uncounting one)

include h

theorem Uncounting.serve_uncounted (xs : List α) (s : Simulator) :
    serve one xs s.uncounted = ((serve one xs s).1, (serve one xs s).2.uncounted) := by
  induction xs generalizing s with
  | nil => rfl
  | cons a rest ih => simp only [serve, h.uncounted, ih]

/-- Switches that differ in their counts of calls answer alike. -/
theorem Uncounting.serve_congr {s s' : Simulator} (hsame : s.uncounted = s'.uncounted)
    (xs : List α) : (serve one xs s).1 = (serve one xs s').1 ∧
      (serve one xs s).2.uncounted = (serve one xs s').2.uncounted := by
  have heq := h.serve_uncounted xs s
  rw [hsame, h.serve_uncounted xs s'] at heq
  exact ⟨(Prod.mk.inj heq).1.symm, (Prod.mk.inj heq).2.symm⟩

theorem Uncounting.channelLost_serve (xs : List α) (s : Simulator) :
    (serve one xs s).2.channelLost = s.channelLost := by
  induction xs generalizing s with
  | nil => rfl
  | cons a rest ih => rw [serve, ih, h.channelLost]

end Serve

/-! ## Calls for the parts -/

section Calls

variable {α β : Type} {one : α → Simulator → β × Simulator}
  {send : List α → Simulator → Except DriverError (List β) × Simulator}

/-- A call counts itself and answers its requests one by one, while the channel is up. -/
def Serves (one : α → Simulator → β × Simulator)
    (send : List α → Simulator → Except DriverError (List β) × Simulator) : Prop :=
  ∀ xs s, s.channelLost = false →
    send xs s = (.ok (serve one xs s.called).1, (serve one xs s.called).2)

theorem serves_bulkCreate (type : ObjectType) :
    Serves (fun request s => s.createOne type request) (Driver.bulkCreate type) := by
  intro requests s hup
  rw [← createAll_eq_serve]
  exact bulkCreate_eq hup requests

theorem serves_bulkRemove (type : ObjectType) :
    Serves (fun key s => s.removeOne type key) (Driver.bulkRemove type) := by
  intro keys s hup
  rw [← removeAll_eq_serve]
  exact bulkRemove_eq hup keys

/-- Calls for the parts of a list answer as the list is answered in one go. -/
theorem askAll_serve (h : Uncounting one) (hsend : Serves one send) (missing : β)
    (parts : List (List α)) {s : Simulator} (hup : s.channelLost = false) :
    ∃ answers s', askAll send parts s = (answers, .ok (), s') ∧
      fitAll missing parts answers = (serve one parts.flatten s).1 ∧
      s'.uncounted = (serve one parts.flatten s).2.uncounted ∧ s'.channelLost = false := by
  induction parts generalizing s with
  | nil => exact ⟨[], s, rfl, rfl, rfl, hup⟩
  | cons part rest ih =>
    have hcount : s.called.uncounted = s.uncounted := rfl
    obtain ⟨hfirst, hleft⟩ := h.serve_congr hcount part
    have hup' : (serve one part s.called).2.channelLost = false :=
      (h.channelLost_serve part s.called).trans hup
    obtain ⟨answers, s', hasked, hanswers, hs', hup''⟩ := ih hup'
    obtain ⟨hlater, hend⟩ := h.serve_congr hleft rest.flatten
    refine ⟨(serve one part s.called).1 :: answers, s', ?_, ?_, ?_, hup''⟩
    · simp only [askAll, hsend part s hup, hasked]
    · rw [fitAll, List.zipWith_cons_cons, List.flatten_cons, fit_eq (length_serve part s.called),
        List.flatten_cons, serve_append, ← hlater, ← hanswers, hfirst, fitAll]
    · rw [hs', hend, List.flatten_cons, serve_append]

/-- A call for a concatenation is a call for each part. -/
theorem Serves.append (h : Uncounting one) (hsend : Serves one send) (xs ys : List α)
    {s : Simulator} (hup : s.channelLost = false) :
    ∃ as bs s₁ s₂ s₃, send xs s = (.ok as, s₁) ∧ send ys s₁ = (.ok bs, s₂) ∧
      send (xs ++ ys) s = (.ok (as ++ bs), s₃) ∧ s₃.uncounted = s₂.uncounted := by
  have hup' : (serve one xs s.called).2.channelLost = false :=
    (h.channelLost_serve xs s.called).trans hup
  have hcount : (serve one xs s.called).2.called.uncounted =
      (serve one xs s.called).2.uncounted := rfl
  obtain ⟨hlater, hend⟩ := h.serve_congr hcount ys
  refine ⟨_, _, _, _, _, hsend xs s hup, hsend ys _ hup', ?_, hend.symm⟩
  rw [hsend _ s hup, serve_append, hlater]

end Calls

end Simulator

namespace BulkStager

open Simulator

/-- What is answered to the keys of the open removes, all asked for one by one. -/
def removesServed (s : BulkStager) (d : Simulator) : List Status × Simulator :=
  removeAll s.type (s.slots.filterMap Slot.openRemove?) d

/-- What is answered to the open create requests, all asked for one by one after the removes. -/
def createsServed (s : BulkStager) (d : Simulator) : List CreateAnswer × Simulator :=
  createAll s.type (s.slots.filterMap Slot.openCreate?) (s.removesServed d).2

/-- A flush fills the slots with the answers to single requests. -/
theorem flush_serve (s : BulkStager) {d : Simulator} (hup : d.channelLost = false) :
    ∃ d', s.flush d = (.ok (), (s.filled (removes (δ := Simulator)) (s.removesServed d).1).filled
        (creates (δ := Simulator)) (s.createsServed d).1, d') ∧
      d'.uncounted = (s.createsServed d).2.uncounted := by
  have hremove := uncounting_removeOne s.type
  have hcreate := uncounting_createOne s.type
  obtain ⟨statuses, d₁, hremoves, hstatuses, hd₁, hup₁⟩ :=
    askAll_serve hremove (serves_bulkRemove s.type) .notExecuted s.keyParts hup
  obtain ⟨answers, d₂, hcreates, hanswers, hd₂, -⟩ :=
    askAll_serve hcreate (serves_bulkCreate s.type) (.failed .notExecuted) s.requestParts hup₁
  have hasked : askBoth s.type s.keyParts s.requestParts d = (statuses, answers, .ok (), d₂) := by
    simp only [askBoth, hremoves, hcreates]
  rw [keyParts, chunks_flatten s.maxBulkSize_pos, ← removeAll_eq_serve] at hstatuses hd₁
  rw [requestParts, chunks_flatten s.maxBulkSize_pos] at hanswers hd₂
  obtain ⟨hsame, hend⟩ := hcreate.serve_congr hd₁ (s.slots.filterMap Slot.openCreate?)
  rw [hsame, ← createAll_eq_serve] at hanswers
  rw [hend, ← createAll_eq_serve] at hd₂
  refine ⟨d₂, ?_, hd₂⟩
  rw [flush_eq hasked, keyParts, requestParts, hstatuses, hanswers]
  rfl

/-- The bulk size of a stager shows neither in its slots nor, but for the count of calls, in the
switch, whose channel is up; and a call for two lists of requests is two calls. -/
theorem flush_bulkSize (type : ObjectType) (slots : List Slot) (m n : Nat) {d : Simulator}
    (hup : d.channelLost = false) :
    (∃ s₁ s₂ d₁ d₂, (holding type m slots).flush d = (.ok (), s₁, d₁) ∧
      (holding type n slots).flush d = (.ok (), s₂, d₂) ∧
      s₁.slots = s₂.slots ∧ d₁.uncounted = d₂.uncounted) ∧
    (∀ requests more, ∃ as bs d₁ d₂ d₃,
      Driver.bulkCreate type requests d = (.ok as, d₁) ∧
      Driver.bulkCreate type more d₁ = (.ok bs, d₂) ∧
      Driver.bulkCreate type (requests ++ more) d = (.ok (as ++ bs), d₃) ∧
      d₃.uncounted = d₂.uncounted) ∧
    (∀ keys more, ∃ as bs d₁ d₂ d₃,
      Driver.bulkRemove type keys d = (.ok as, d₁) ∧
      Driver.bulkRemove type more d₁ = (.ok bs, d₂) ∧
      Driver.bulkRemove type (keys ++ more) d = (.ok (as ++ bs), d₃) ∧
      d₃.uncounted = d₂.uncounted) := by
  obtain ⟨d₁, hfirst, hd₁⟩ := flush_serve (holding type m slots) hup
  obtain ⟨d₂, hsecond, hd₂⟩ := flush_serve (holding type n slots) hup
  refine ⟨⟨_, _, d₁, d₂, hfirst, hsecond, rfl, hd₁.trans hd₂.symm⟩, ?_, ?_⟩
  · exact fun requests more =>
      (serves_bulkCreate type).append (uncounting_createOne type) requests more hup
  · exact fun keys more =>
      (serves_bulkRemove type).append (uncounting_removeOne type) keys more hup

/-- Requests that are refused, that repeat one another, and that find a full table. -/
def crowd : List Slot :=
  [.create ⟨some "a", []⟩ none, .remove (.entry "z") none, .create ⟨none, []⟩ none,
    .settled .success, .create ⟨some "a", []⟩ none, .remove (.entry "y") none,
    .create ⟨some "b", []⟩ none, .remove (.entry "z") none]

/-- A switch with room for two objects that holds one and refuses the next request. -/
def narrow : Simulator :=
  ((Simulator.new 2).createOne .vnet ⟨some "z", []⟩).2.pushStatus .vnet .objectInUse

theorem flush_bulkSize_crowd : narrow.channelLost = false ∧
    ((holding .vnet 1 crowd).flush narrow).2.1.slots.map Slot.status? =
      [some .success, some .objectInUse, some .success, some .success, some .itemAlreadyExists,
        some .itemNotFound, some .tableFull, some .success] ∧
    ((holding .vnet 1 crowd).flush narrow).2.1.slots =
      ((holding .vnet 3 crowd).flush narrow).2.1.slots := by
  obtain ⟨⟨s₁, s₂, d₁, d₂, hfirst, hsecond, hslots, -⟩, -⟩ :=
    flush_bulkSize .vnet crowd 1 3 (d := narrow) rfl
  refine ⟨rfl, by decide +kernel, ?_⟩
  rw [hfirst, hsecond]
  exact hslots

end BulkStager

end DashAgent
