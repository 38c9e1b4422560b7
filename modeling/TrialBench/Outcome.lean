namespace TrialBench

-- What is known about one test. Nothing is decided before a run begins, and a
-- failure noted during a run stays until the next run begins.
inductive Outcome where
  | notStarted
  | running
  | success
  | fail
  deriving DecidableEq, Inhabited

inductive Mark where
  | pass
  | fail
  deriving DecidableEq

namespace Outcome

def label : Outcome → String
  | .notStarted => "NOT STARTED"
  | .running => "RUNNING"
  | .success => "PASS"
  | .fail => "FAIL"

def debugName : Outcome → String
  | .notStarted => "NotStarted"
  | .running => "Running"
  | .success => "Success"
  | .fail => "Fail"

def isTerminal : Outcome → Bool
  | .success | .fail => true
  | .notStarted | .running => false

def isSuccess : Outcome → Bool
  | .success => true
  | _ => false

-- A failure is sticky: a later pass does not cover it.
def mark : Outcome → Mark → Outcome
  | _, .fail => .fail
  | .fail, .pass => .fail
  | _, .pass => .success

def markAll (start : Outcome) (marks : List Mark) : Outcome := marks.foldl mark start

-- The start of a run forgets everything noted before it.
def restart (_ : Outcome) : Outcome := .running

@[simp] theorem mark_fail (o : Outcome) : o.mark .fail = .fail := by cases o <;> rfl
@[simp] theorem fail_mark (m : Mark) : Outcome.fail.mark m = .fail := by cases m <;> rfl

theorem mark_terminal (o : Outcome) (m : Mark) : (o.mark m).isTerminal = true := by
  cases o <;> cases m <;> rfl

end Outcome

-- Handles on outcomes. A clone reads and writes the cell of the handle it was
-- cloned from, a fresh handle has a cell of its own.
structure HandleBoard where
  cells : List Outcome
  handles : List Nat

inductive HandleAction where
  | mark (handle : Nat) (verdict : Mark)
  | restart (handle : Nat)
  | clone (handle : Nat)
  | fresh
  deriving DecidableEq

namespace HandleBoard

def single : HandleBoard := ⟨[.notStarted], [0]⟩

def cellOf (board : HandleBoard) (handle : Nat) : Option Nat := board.handles[handle]?

def read (board : HandleBoard) (handle : Nat) : Option Outcome :=
  (board.cellOf handle).bind (board.cells[·]?)

def modify (board : HandleBoard) (handle : Nat) (change : Outcome → Outcome) : HandleBoard :=
  match board.cellOf handle with
  | none => board
  | some cell => { board with cells := board.cells.modify cell change }

def act (board : HandleBoard) : HandleAction → HandleBoard
  | .mark handle verdict => board.modify handle (·.mark verdict)
  | .restart handle => board.modify handle .restart
  | .clone handle =>
    match board.cellOf handle with
    | none => board
    | some cell => { board with handles := board.handles ++ [cell] }
  | .fresh =>
    { cells := board.cells ++ [.notStarted], handles := board.handles ++ [board.cells.length] }

def view (board : HandleBoard) : List Outcome :=
  (List.range board.handles.length).filterMap board.read

def replay (board : HandleBoard) : List HandleAction → List (List Outcome)
  | [] => []
  | action :: rest => (board.act action).view :: (board.act action).replay rest

end HandleBoard
end TrialBench
