import CustomProperties.Files.Tree

/-!
# Tasks that run side by side

Tasks are started together and take turns. A task is over after some number of turns; one that
waits for the disk is over after as many more as the disk takes for it. The first task to fail ends
all of them, so what a task does counts only if it comes no later than that.

In a batch of more than thirty tasks results are taken up in the order of the tasks, so a failure
has to wait until all tasks before it are over. There the tasks that wait for another turn are woken
from the last to the first, so every second turn runs backwards.
-/

namespace CustomProperties

/-- How many turns the disk takes for each task that reads from it, and for each that writes to it.
A task is told by its place in its batch. -/
structure Pace where
  reading : Nat → Nat
  writing : Nat → Nat

/-- The pace of a disk that takes one turn for everything. -/
def Pace.steady : Pace := ⟨fun _ => 1, fun _ => 1⟩

/-- A disk as it is found at some time. -/
structure Disk where
  tree : FileTree
  pace : Pace

/-- A time in a batch: the turn, and the place of the task among those that have the same turn. -/
structure Moment where
  turn : Nat
  place : Nat
deriving DecidableEq, Repr, Inhabited

/-- The greatest number of tasks of which the first failure in time ends the batch. -/
def smallBatch : Nat := 30

namespace Moment

/-- The moment of a task in a turn of a batch of `size` tasks. Every second turn of a large batch
runs backwards. -/
def ofTask (size turn task : Nat) : Moment :=
  ⟨turn, if size ≤ smallBatch ∨ turn % 2 = 0 then task else size - task⟩

/-- Whether a moment comes before another or is the same. -/
def notAfter (a b : Moment) : Bool :=
  if a.turn != b.turn then a.turn < b.turn
  else a.place ≤ b.place

/-- The later of two moments. -/
def latest (a b : Moment) : Moment := if a.notAfter b then b else a

end Moment

/-- The end of a task: whether it waits for the disk before, in which turn it ends or starts to
wait, and with what it ends. -/
structure Ending (ε α : Type) where
  disk : Bool
  turn : Nat
  result : Except ε α

namespace Ending

variable {ε α : Type}

/-- When a task of a batch of `size` tasks ends, `turns` being those that the disk takes. -/
def moment (ending : Ending ε α) (turns : Nat → Nat) (size task : Nat) : Moment :=
  .ofTask size (if ending.disk then ending.turn + turns task else ending.turn) task

end Ending

/-- How a batch ends: with the results of all tasks, or at the moment of a failure. -/
inductive BatchEnd (ε α : Type) where
  | finished (results : List α)
  | failed (failure : ε) (moment : Moment)

namespace BatchEnd

variable {ε α : Type}

/-- Whether what is done at a moment is done before the batch ends. -/
def reaches (batch : BatchEnd ε α) (moment : Moment) : Bool :=
  match batch with
  | finished _ => true
  | failed _ last => moment.notAfter last

/-- The first failure in time among the tasks of a batch from `task` on. -/
def earliest? (turns : Nat → Nat) (size task : Nat) : List (Ending ε α) → Option (ε × Moment)
  | [] => none
  | ending :: rest =>
    let later := earliest? turns size (task + 1) rest
    match ending.result with
    | .ok _ => later
    | .error failure =>
      match later with
      | some (other, moment) =>
        if (ending.moment turns size task).notAfter moment then
          some (failure, ending.moment turns size task)
        else some (other, moment)
      | none => some (failure, ending.moment turns size task)

/-- The failure of the first task in order that fails, at the moment when it and all before it are
over. -/
def firstInOrder? (turns : Nat → Nat) (size task : Nat) : List (Ending ε α) → Option (ε × Moment)
  | [] => none
  | ending :: rest =>
    match ending.result with
    | .error failure => some (failure, ending.moment turns size task)
    | .ok _ =>
      (firstInOrder? turns size (task + 1) rest).map fun (failure, moment) =>
        (failure, (ending.moment turns size task).latest moment)

/-- The results of tasks that all succeed. -/
def results : List (Ending ε α) → List α
  | [] => []
  | ending :: rest =>
    match ending.result with
    | .ok result => result :: results rest
    | .error _ => results rest

/-- How a batch of tasks ends, `turns` being those that the disk takes for each of them. -/
def ofEndings (turns : Nat → Nat) (endings : List (Ending ε α)) : BatchEnd ε α :=
  let failure? :=
    if endings.length ≤ smallBatch then earliest? turns endings.length 0 endings
    else firstInOrder? turns endings.length 0 endings
  match failure? with
  | some (failure, moment) => failed failure moment
  | none => finished (results endings)

end BatchEnd

end CustomProperties
