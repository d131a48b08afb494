import DashAgent.Change.Queue
import DashAgent.Reconcile.Decision

/-!
# Reconciliation passes

A pass takes a batch from the head of a change queue. The table turns every change, in order, into
staged requests, or finds that it must wait, that there is nothing to do, or that it is invalid.
If anything was staged, one flush sends it, and then every staged change, in order, is committed,
kept for a retry or dropped. Changes that wait or are retried go back to the head of the queue, in
their order. A flush that fails puts back everything that waits or was staged.
-/
namespace DashAgent

inductive Dependency where
  | vnet (name : String)
  | eni (name : String)
  /-- The removal, staged in the same pass, of a shared PA validation entry. -/
  | paRemoval (pa : String)
  deriving DecidableEq, Repr

def Dependency.text : Dependency → String
  | vnet name => "VNET " ++ name
  | eni name => "ENI " ++ name
  | paRemoval pa => "PA validation " ++ pa ++ " removal"

instance : ToString Dependency := ⟨Dependency.text⟩

/-- What staging found for one change; `κ` is what a table carries to the commit. -/
inductive StageOutcome (κ : Type) where
  /-- Requests are staged; the change is committed after the flush. -/
  | staged (op : κ)
  /-- The change stays queued and nothing was touched. -/
  | notReady (dependency : Dependency)
  /-- The requested state holds already. -/
  | done
  /-- The change can never be applied. -/
  | invalid (error : EntryError)
  deriving Repr

namespace StageOutcome

variable {κ : Type}

def isStaged : StageOutcome κ → Bool
  | staged _ => true
  | _ => false

def isNotReady : StageOutcome κ → Bool
  | notReady _ => true
  | _ => false

end StageOutcome

/-- What a table programmed through bulk requests does in a pass: `τ` is the table with its staged
requests, `κ` the staged operation of one change, `ε` the state shared with other tables and `δ`
the driver. -/
structure BulkTable (τ κ ε δ : Type) where
  stage : Entry → ε → τ → StageOutcome κ × τ
  flush : τ → δ → Except DriverError Unit × τ × δ
  /-- Reads the answers of one staged change and applies them. -/
  commit : Entry → κ → ε → τ → Decision × ε × τ
  endPass : τ → τ

structure Summary where
  staged : Nat
  committed : Nat
  retried : Nat
  notReady : Nat
  dropped : Nat
  done : Nat
  deriving DecidableEq, Repr

namespace Summary

def empty : Summary := ⟨0, 0, 0, 0, 0, 0⟩

def consumed (s : Summary) : Nat := s.committed + s.dropped + s.done

def requeued (s : Summary) : Nat := s.retried + s.notReady

def merge (s t : Summary) : Summary where
  staged := s.staged + t.staged
  committed := s.committed + t.committed
  retried := s.retried + t.retried
  notReady := s.notReady + t.notReady
  dropped := s.dropped + t.dropped
  done := s.done + t.done

end Summary

/-- What a pass reads and changes. -/
structure Pass (τ ε δ : Type) where
  queue : ChangeQueue
  table : τ
  env : ε
  switch : δ

namespace BulkTable

variable {τ κ ε δ : Type} (ops : BulkTable τ κ ε δ)

/-- What the first loop of a pass has done so far. Places are those in the batch. -/
structure Staging (τ κ : Type) where
  summary : Summary
  /-- Changes that go back to the queue, in the order in which they were found. -/
  requeue : Array (Nat × Entry)
  staged : Array (Nat × Entry × κ)
  table : τ

structure Committing (τ ε : Type) where
  summary : Summary
  requeue : Array (Nat × Entry)
  env : ε
  table : τ

def stageNext (env : ε) (s : Staging τ κ) (change : Entry × Nat) : Staging τ κ :=
  let (e, place) := change
  match ops.stage e env s.table with
  | (.staged op, table) =>
    { s with
      summary := { s.summary with staged := s.summary.staged + 1 }
      staged := s.staged.push (place, e, op)
      table }
  | (.notReady _, table) =>
    { s with
      summary := { s.summary with notReady := s.summary.notReady + 1 }
      requeue := s.requeue.push (place, e)
      table }
  | (.done, table) =>
    { s with summary := { s.summary with done := s.summary.done + 1 }, table }
  | (.invalid _, table) =>
    { s with summary := { s.summary with dropped := s.summary.dropped + 1 }, table }

def commitNext (s : Committing τ ε) (change : Nat × Entry × κ) : Committing τ ε :=
  let (place, e, op) := change
  match ops.commit e op s.env s.table with
  | (.commit, env, table) =>
    { s with summary := { s.summary with committed := s.summary.committed + 1 }, env, table }
  | (.retry, env, table) =>
    { summary := { s.summary with retried := s.summary.retried + 1 }
      requeue := s.requeue.push (place, e)
      env
      table }
  | (.drop, env, table) =>
    { s with summary := { s.summary with dropped := s.summary.dropped + 1 }, env, table }

/-- A change put in front of the first one that does not stand before it. -/
def insertByPlace (change : Nat × Entry) : List (Nat × Entry) → List (Nat × Entry)
  | [] => [change]
  | other :: rest =>
    if change.1 ≤ other.1 then change :: other :: rest else other :: insertByPlace change rest

/-- Changes sorted by their places; changes with one place keep their order. -/
def sortByPlace (changes : List (Nat × Entry)) : List (Nat × Entry) :=
  changes.foldr insertByPlace []

/-- One pass over the next batch of a queue. -/
def reconcile (p : Pass τ ε δ) : Except DriverError Summary × Pass τ ε δ :=
  match p.queue.popBatch with
  | ([], _) => (.ok .empty, p)
  | (batch, queue) =>
    let s := batch.zipIdx.foldl (ops.stageNext p.env) ⟨.empty, #[], #[], p.table⟩
    let (answer, table, switch) :=
      if s.staged.isEmpty then (.ok (), s.table, p.switch) else ops.flush s.table p.switch
    match answer with
    | .error error =>
      let requeue := s.requeue ++ s.staged.map fun change => (change.1, change.2.1)
      (.error error,
        { queue := queue.requeue ((sortByPlace requeue.toList).map Prod.snd)
          table := ops.endPass table
          env := p.env
          switch })
    | .ok () =>
      let s := s.staged.foldl ops.commitNext ⟨s.summary, s.requeue, p.env, table⟩
      (.ok s.summary,
        { queue := queue.requeue ((sortByPlace s.requeue.toList).map Prod.snd)
          table := ops.endPass s.table
          env := s.env
          switch })

end BulkTable

end DashAgent
