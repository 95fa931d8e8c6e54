/-!
# Steps that can be undone

A sequence of steps on a state, some of which leave behind how to undo them.

* when a step fails, the steps done so far are undone, newest first, each of them
  even if undoing a newer one fails;
* what has been undone is forgotten, so nothing is undone twice;
* after a commit nothing is undone at all.
-/

namespace ContentVault

/-- A step on a state that may fail; the state after it stays either way. -/
abbrev SagaAction (σ ε α : Type) := σ → Except ε α × σ

/-- How to undo the steps that were done, newest first. -/
structure Saga (σ ε : Type) where
  undoLog : List (SagaAction σ ε Unit)

namespace Saga

variable {σ ε α : Type}

/-- The saga before its first step. -/
def start : Saga σ ε := ⟨[]⟩

/-- Undo steps one after another, whether or not that succeeds. -/
def unwind : List (SagaAction σ ε Unit) → σ → σ
  | [], state => state
  | undo :: older, state => unwind older (undo state).2

/-- Do a step that leaves nothing to undo. -/
def run (saga : Saga σ ε) (action : SagaAction σ ε α) (state : σ) :
    Except ε α × Saga σ ε × σ :=
  match action state with
  | (.ok value, state) => (.ok value, saga, state)
  | (.error error, state) => (.error error, start, unwind saga.undoLog state)

/-- Do a step and, if it succeeds, remember how to undo it. -/
def runCompensable
    (saga : Saga σ ε) (action : SagaAction σ ε α) (undo : α → SagaAction σ ε Unit)
    (state : σ) : Except ε α × Saga σ ε × σ :=
  match saga.run action state with
  | (.ok value, saga, state) => (.ok value, ⟨undo value :: saga.undoLog⟩, state)
  | (.error error, saga, state) => (.error error, saga, state)

/-- Keep everything that was done. -/
def commit (_ : Saga σ ε) : Saga σ ε := start

end Saga

end ContentVault
