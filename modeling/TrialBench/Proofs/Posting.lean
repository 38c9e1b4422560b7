import TrialBench.Proofs.Alone
import TrialBench.Proofs.Slots
namespace TrialBench

namespace Op

-- The call that a post leads to.
def called? (w : World) : Op → Option Op
  | .act _ (.post session message) =>
    (w.channelOf? session).bind fun channel => (w.handlerAt channel).map (.call · message)
  | _ => none

def IsCall : Op → Prop
  | .call _ _ => True
  | _ => False

-- The call that a thread has to make next, after what it has done.
def due : List (World × Op) → Option Op
  | (w, op) :: _ => op.called? w
  | [] => none

-- The steps of a thread, newest first, in which every call is made at once for a post and no
-- other calls are made.
inductive Posted : List (World × Op) → Prop where
  | nil : Posted []
  | other {w : World} {op : Op} {done : List (World × Op)} (earlier : Posted done) (settled : due done = none)
      (other : ¬ op.IsCall) : Posted ((w, op) :: done)
  | call {w : World} {op : Op} {done : List (World × Op)} (earlier : Posted done) (next : due done = some op) :
      Posted ((w, op) :: done)

variable {w : World} {op : Op} {done : List (World × Op)} {left later : List Op} {handler : Handler} {message : Message}

theorem Posted.suffix {newer : List (World × Op)} (posted : Posted (newer ++ done)) : Posted done := by
  induction newer with
  | nil => exact posted
  | cons turn newer ih =>
    cases posted with
    | other earlier => exact ih earlier
    | call earlier => exact ih earlier

-- A call is made for what the thread did last.
theorem Posted.cause (posted : Posted ((w, .call handler message) :: done)) :
    due done = some (.call handler message) := by
  cases posted with
  | other earlier settled other => exact absurd trivial other
  | call earlier next => exact next

theorem Posted.next {call : Op} (posted : Posted ((w, op) :: done)) (pending : due done = some call) : op = call := by
  cases posted with
  | other earlier settled => cases pending.symm.trans settled
  | call earlier next => exact Option.some.inj (next.symm.trans pending)

end Op

namespace Site
variable {history newer older : List Moment} {s next : Site} {m : Moment} {i : Nat} {thread : Thread} {op : Op}

end Site
end TrialBench
