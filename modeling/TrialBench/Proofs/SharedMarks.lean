import Mathlib.Logic.Relation
import Mathlib.Data.List.Basic
import TrialBench.Outcome
namespace TrialBench

-- What an outcome says of its history: whether a failure was noted since the last start, whether a pass was, and
-- whether there was a start at all.
def Outcome.Tells (failed passed started : Prop) : Outcome → Prop
  | .fail => failed
  | .success => ¬ failed ∧ passed
  | .running => ¬ failed ∧ ¬ passed ∧ started
  | .notStarted => ¬ failed ∧ ¬ passed ∧ ¬ started

-- What several threads do one after the other, each in its own order.
inductive Interleaves {α : Type} : List (List α) → List α → Prop where
  | done {threads : List (List α)} (finished : ∀ thread ∈ threads, thread = []) : Interleaves threads []
  | turn {before after : List (List α)} {thread order : List α} {action : α}
      (later : Interleaves (before ++ thread :: after) order) :
      Interleaves (before ++ (action :: thread) :: after) (action :: order)

theorem Interleaves.perm {α : Type} {threads : List (List α)} {order : List α}
    (interleaves : Interleaves threads order) :
    order.Perm threads.flatten := by
  induction interleaves with
  | done finished => rw [List.flatten_eq_nil_iff.mpr finished]
  | turn later ih =>
    rw [List.flatten_append, List.flatten_cons, List.cons_append] at *
    exact (ih.cons _).trans List.perm_middle.symm

namespace HandleAction

-- The handle that an action is done through.
def handle? : HandleAction → Option Nat
  | .mark handle _ | .restart handle | .clone handle => some handle
  | .fresh => none

-- What a new handle is a clone of, where an action makes one.
def birth? : HandleAction → Option (Option Nat)
  | .clone handle => some (some handle)
  | .fresh => some none
  | .mark _ _ | .restart _ => none

def IsMark : HandleAction → Prop
  | .mark _ _ => True
  | _ => False

end HandleAction

namespace HandleBoard
variable {board : HandleBoard} {history : List HandleAction} {action : HandleAction} {acted handle other cell : Nat}
  {verdict : Mark} {outcome : Outcome}

def empty : HandleBoard := ⟨[], []⟩

def run (history : List HandleAction) : HandleBoard := history.foldl act empty

-- The handles that there are, in the order in which they were made, each by what it is a clone of.
def births (history : List HandleAction) : List (Option Nat) := history.filterMap HandleAction.birth?

-- A history in which nothing is done through a handle before it is there.
inductive Sound : List HandleAction → Prop where
  | start : Sound []
  | next {history : List HandleAction} {action : HandleAction} (sound : Sound history)
      (there : ∀ handle, action.handle? = some handle → handle < (births history).length) : Sound (history ++ [action])

-- Handles share an outcome if one can be come to from the other by clones.
def Shares (history : List HandleAction) : Nat → Nat → Prop :=
  Relation.EqvGen fun older newer => (births history)[newer]? = some (some older)

-- A mark was made through one of some handles, and nothing was started through any of them since.
def MarkedBy (through : Nat → Prop) (history : List HandleAction) (verdict : Mark) : Prop :=
  ∃ before after acted, history = before ++ .mark acted verdict :: after ∧ through acted ∧
    ∀ other, .restart other ∈ after → ¬ through other

def StartedBy (through : Nat → Prop) (history : List HandleAction) : Prop :=
  ∃ acted, .restart acted ∈ history ∧ through acted

def Marked (history : List HandleAction) (handle : Nat) (verdict : Mark) : Prop :=
  MarkedBy (Shares history · handle) history verdict

def Started (history : List HandleAction) (handle : Nat) : Prop := StartedBy (Shares history · handle) history

theorem run_concat : run (history ++ [action]) = (run history).act action := List.foldl_concat ..

theorem births_concat : births (history ++ [action]) = births history ++ action.birth?.toList := by
  unfold births
  rw [List.filterMap_append, List.filterMap_cons, List.filterMap_nil]
  cases action.birth? <;> rfl

theorem Shares.next (shares : Shares history acted handle) : Shares (history ++ [action]) acted handle := by
  refine shares.mono fun older newer cloned => ?_
  rw [births_concat, List.getElem?_append_left (List.getElem?_eq_some_iff.mp cloned).1]
  exact cloned

-- How the handles of a board stand to the history that it comes from.
structure Founded (history : List HandleAction) (board : HandleBoard) : Prop where
  made : board.handles.length = (births history).length
  kept : ∀ handle cell, board.cellOf handle = some cell → cell < board.cells.length
  joined : ∀ acted handle, Shares history acted handle → board.cellOf acted = board.cellOf handle
  apart : ∀ acted handle cell, board.cellOf acted = some cell → board.cellOf handle = some cell →
    Shares history acted handle

theorem modify_handles {change : Outcome → Outcome} : (board.modify acted change).handles = board.handles := by
  unfold modify
  cases board.cellOf acted <;> rfl

theorem modify_length {change : Outcome → Outcome} : (board.modify acted change).cells.length = board.cells.length := by
  unfold modify
  cases board.cellOf acted with
  | none => rfl
  | some cell => exact List.length_modify ..

-- Where no handle is made, all stands as it stood.
theorem Founded.still (founded : Founded history board) (none_ : action.birth? = none) {left : HandleBoard}
    (handles : left.handles = board.handles) (size : left.cells.length = board.cells.length) :
    Founded (history ++ [action]) left := by
  have births : births (history ++ [action]) = births history := by
    rw [births_concat, none_]
    exact List.append_nil _
  have cells (handle : Nat) : left.cellOf handle = board.cellOf handle := congrArg (·[handle]?) handles
  have shares (acted handle : Nat) : Shares (history ++ [action]) acted handle ↔ Shares history acted handle := by
    unfold Shares
    rw [births]
  constructor
  case made => rw [handles, births, founded.made]
  case kept =>
    intro handle cell
    rw [cells, size]
    exact founded.kept handle cell
  case joined =>
    intro acted handle
    rw [shares, cells, cells]
    exact founded.joined acted handle
  case apart =>
    intro acted handle cell
    rw [shares, cells, cells]
    exact founded.apart acted handle cell

-- A handle that is made takes the next number, and the cell that is given to it.
theorem cellOf_made {cells : List Outcome} :
    (⟨cells, board.handles ++ [cell]⟩ : HandleBoard).cellOf handle =
      if handle = board.handles.length then some cell else board.cellOf handle := by
  unfold cellOf
  split
  · rename_i same
    rw [same, List.getElem?_concat_length]
  · rename_i apart
    rw [List.getElem?_append, List.getElem?_singleton]
    split
    · rfl
    · rename_i beyond
      rw [if_neg (by omega), List.getElem?_eq_none (by omega)]

theorem cellOf_there (there : board.cellOf handle = some cell) : handle ≠ board.handles.length := by
  have inside : handle < board.handles.length := (List.getElem?_eq_some_iff.mp there).1
  omega

-- A new handle shares the cell that it is given with whatever it is a clone of, and with no other handle where it
-- is a clone of none.
theorem Founded.make {source : Option Nat} {cells : List Outcome} (founded : Founded history board)
    (birth : action.birth? = some source) (size : board.cells.length ≤ cells.length) (given : cell < cells.length)
    (cloned : ∀ older, source = some older → board.cellOf older = some cell)
    (alone : ∀ handle, board.cellOf handle = some cell → ∃ older, source = some older) :
    Founded (history ++ [action]) ⟨cells, board.handles ++ [cell]⟩ := by
  have listed : births (history ++ [action]) = births history ++ [source] := by
    rw [births_concat, birth]
    rfl
  have edge (older : Nat) (same : source = some older) :
      Shares (history ++ [action]) older board.handles.length := by
    refine .rel _ _ ?_
    rw [listed, founded.made, List.getElem?_concat_length, same]
  constructor
  case made => rw [listed, List.length_append, List.length_append, founded.made]; rfl
  case kept =>
    intro handle found
    rw [cellOf_made]
    split
    · intro same
      cases same
      exact given
    · exact fun there => Nat.lt_of_lt_of_le (founded.kept handle found there) size
  case joined =>
    intro first second shares
    unfold Shares at shares
    rw [listed] at shares
    induction shares with
    | rel older newer edge =>
      rw [List.getElem?_append] at edge
      split at edge
      · rename_i inside
        have same := founded.joined older newer (.rel _ _ edge)
        rw [← founded.made] at inside
        have known : board.cellOf newer = some board.handles[newer] := List.getElem?_eq_getElem inside
        rw [cellOf_made, cellOf_made, if_neg (cellOf_there (same.trans known)), if_neg (cellOf_there known), same]
      · obtain ⟨index, same⟩ := List.getElem?_eq_some_iff.mp edge
        rw [List.getElem_singleton] at same
        rw [List.length_singleton] at index
        have latest : newer = board.handles.length := by
          rw [founded.made]
          omega
        have there := cloned older same
        rw [cellOf_made, cellOf_made, if_pos latest, if_neg (cellOf_there there), there]
    | refl => rfl
    | symm _ _ _ ih => exact ih.symm
    | trans _ _ _ _ _ first second => exact first.trans second
  case apart =>
    intro first second found
    rw [cellOf_made, cellOf_made]
    split <;> split
    · rename_i here there
      rw [here, there]
      exact fun _ _ => .refl _
    · rename_i here _
      intro same there
      cases same
      obtain ⟨older, same⟩ := alone second there
      rw [here]
      exact (edge older same).symm.trans _ _ _ (founded.apart older second _ (cloned older same) there).next
    · rename_i _ here
      intro there same
      cases same
      obtain ⟨older, same⟩ := alone first there
      rw [here]
      exact (founded.apart first older _ there (cloned older same)).next.trans _ _ _ (edge older same)
    · exact fun one other => (founded.apart first second found one other).next

theorem act_clone (there : board.cellOf acted = some cell) :
    board.act (.clone acted) = ⟨board.cells, board.handles ++ [cell]⟩ := by
  simp only [act, there]

theorem Founded.there (founded : Founded history board) (known : handle < (births history).length) :
    ∃ cell, board.cellOf handle = some cell := by
  rw [← founded.made] at known
  exact ⟨_, List.getElem?_eq_getElem known⟩

theorem Sound.founded (sound : Sound history) : Founded history (run history) := by
  induction sound with
  | start => exact ⟨rfl, nofun, fun _ _ shares => by
      induction shares with
      | rel _ _ cloned => cases cloned
      | refl => rfl
      | symm _ _ _ ih => exact ih.symm
      | trans _ _ _ _ _ first second => exact first.trans second, nofun⟩
  | @next history action _ there founded =>
    rw [run_concat]
    cases action with
    | mark handle verdict => exact founded.still rfl modify_handles modify_length
    | restart handle => exact founded.still rfl modify_handles modify_length
    | clone handle =>
      obtain ⟨cell, found⟩ := founded.there (there handle rfl)
      rw [act_clone found]
      refine founded.make rfl (Nat.le_refl _) (founded.kept handle cell found) ?_ fun _ _ => ⟨handle, rfl⟩
      rintro _ ⟨⟩
      exact found
    | fresh =>
      refine founded.make rfl (by simp) (by simp) nofun fun handle there => ?_
      exact absurd (founded.kept handle _ there) (Nat.lt_irrefl _)

section
variable {through narrow : Nat → Prop}

theorem markedBy_concat : MarkedBy through (history ++ [action]) verdict ↔
    (∃ acted, action = .mark acted verdict ∧ through acted) ∨
      MarkedBy through history verdict ∧ ∀ other, action = .restart other → ¬ through other := by
  constructor
  · rintro ⟨before, after, acted, whole, heard, quiet⟩
    rcases List.eq_nil_or_concat' after with rfl | ⟨after, last, rfl⟩
    · obtain ⟨-, same⟩ := List.append_inj' whole rfl
      exact .inl ⟨acted, List.singleton_inj.mp same, heard⟩
    · rw [← List.cons_append, ← List.append_assoc] at whole
      obtain ⟨same, last_⟩ := List.append_inj' whole rfl
      cases last_
      refine .inr ⟨⟨before, after, acted, same, heard, fun other member => quiet other (by simp [member])⟩, ?_⟩
      rintro other rfl
      exact quiet other (by simp)
  · rintro (⟨acted, rfl, heard⟩ | ⟨⟨before, after, acted, rfl, heard, quiet⟩, last⟩)
    · exact ⟨history, [], acted, rfl, heard, nofun⟩
    · refine ⟨before, after ++ [action], acted, by simp, heard, fun other member => ?_⟩
      rcases List.mem_append.mp member with member | member
      · exact quiet other member
      · exact last other (List.mem_singleton.mp member).symm

theorem startedBy_concat : StartedBy through (history ++ [action]) ↔
    StartedBy through history ∨ ∃ acted, action = .restart acted ∧ through acted := by
  constructor
  · rintro ⟨acted, member, heard⟩
    rcases List.mem_append.mp member with member | member
    · exact .inl ⟨acted, member, heard⟩
    · exact .inr ⟨acted, (List.mem_singleton.mp member).symm, heard⟩
  · rintro (⟨acted, member, heard⟩ | ⟨acted, rfl, heard⟩)
    · exact ⟨acted, List.mem_append_left _ member, heard⟩
    · exact ⟨acted, by simp, heard⟩

-- Only the handles that a history names matter to what it says.
theorem markedBy_congr (same : ∀ action ∈ history, ∀ handle, action.handle? = some handle →
    (through handle ↔ narrow handle)) : MarkedBy through history verdict ↔ MarkedBy narrow history verdict := by
  have covers {through narrow : Nat → Prop} (same : ∀ action ∈ history, ∀ handle, action.handle? = some handle →
      (through handle ↔ narrow handle)) (marked : MarkedBy through history verdict) :
      MarkedBy narrow history verdict := by
    obtain ⟨before, after, acted, rfl, heard, quiet⟩ := marked
    refine ⟨before, after, acted, rfl, (same (.mark acted verdict) (by simp) acted rfl).mp heard,
      fun other member => ?_⟩
    exact mt (same (.restart other) (by simp [member]) other rfl).mpr (quiet other member)
  exact ⟨covers same, covers fun action member handle named => (same action member handle named).symm⟩

theorem startedBy_congr (same : ∀ action ∈ history, ∀ handle, action.handle? = some handle →
    (through handle ↔ narrow handle)) : StartedBy through history ↔ StartedBy narrow history := by
  constructor
  · rintro ⟨acted, member, heard⟩
    exact ⟨acted, member, (same _ member acted rfl).mp heard⟩
  · rintro ⟨acted, member, heard⟩
    exact ⟨acted, member, (same _ member acted rfl).mpr heard⟩

end

theorem Sound.named (sound : Sound history) (member : action ∈ history) (named : action.handle? = some handle) :
    handle < (births history).length := by
  induction sound with
  | start => cases member
  | @next history last _ there ih =>
    rw [births_concat, List.length_append]
    rcases List.mem_append.mp member with earlier | latest
    · exact Nat.lt_add_right _ (ih earlier)
    · cases List.mem_singleton.mp latest
      exact Nat.lt_add_right _ (there handle named)

-- A handle keeps its cell.
theorem act_cellOf (known : handle < board.handles.length) :
    (board.act action).cellOf handle = board.cellOf handle := by
  cases action with
  | mark | restart => exact congrArg (·[handle]?) modify_handles
  | clone acted =>
    cases there : board.cellOf acted with
    | none => simp only [act, there]
    | some cell => rw [act_clone there, cellOf_made, if_neg (Nat.ne_of_lt known)]
  | fresh => exact cellOf_made.trans (if_neg (Nat.ne_of_lt known))

theorem modify_cells {change : Outcome → Outcome} : (board.modify acted change).cells[cell]? =
    if board.cellOf acted = some cell then board.cells[cell]?.map change else board.cells[cell]? := by
  unfold modify
  cases board.cellOf acted with
  | none => rfl
  | some place =>
    simp only [List.getElem?_modify, Option.some.injEq]
    split <;> simp

-- Each cell holds what its history says.
def Truthful (history : List HandleAction) (board : HandleBoard) : Prop :=
  ∀ (cell : Nat) (outcome : Outcome), board.cells[cell]? = some outcome →
    outcome.Tells (MarkedBy (board.cellOf · = some cell) history .fail)
      (MarkedBy (board.cellOf · = some cell) history .pass) (StartedBy (board.cellOf · = some cell) history)

section
variable {failed passed started : Prop}

theorem tells_mark (tells : outcome.Tells failed passed started) :
    (outcome.mark verdict).Tells (verdict = .fail ∨ failed) (verdict = .pass ∨ passed) started := by
  cases verdict with
  | fail =>
    rw [Outcome.mark_fail]
    exact .inl rfl
  | pass =>
    cases outcome with
    | fail => exact .inr tells
    | success | running | notStarted => exact ⟨fun failed => failed.elim nofun tells.1, .inl rfl⟩

end

theorem Truthful.next (truthful : Truthful history board) (founded : Founded history board) (sound : Sound history)
    (there : ∀ handle, action.handle? = some handle → handle < (births history).length) :
    Truthful (history ++ [action]) (board.act action) := by
  intro cell outcome found
  have stays (handle : Nat) (known : handle < (births history).length) :
      ((board.act action).cellOf handle = some cell) = (board.cellOf handle = some cell) := by
    rw [act_cellOf (founded.made ▸ known)]
  have earlier : ∀ action' ∈ history, ∀ handle, action'.handle? = some handle →
      ((board.act action).cellOf handle = some cell ↔ board.cellOf handle = some cell) :=
    fun _ member handle named => iff_of_eq (stays handle (sound.named member named))
  rw [markedBy_concat, markedBy_concat, startedBy_concat, markedBy_congr earlier, markedBy_congr earlier,
    startedBy_congr earlier]
  cases action with
  | mark acted verdict =>
    have here := stays acted (there acted rfl)
    rw [act, modify_cells] at found
    by_cases hit : board.cellOf acted = some cell
    · rw [if_pos hit] at found
      obtain ⟨before, held, rfl⟩ := Option.map_eq_some_iff.mp found
      simpa [here, hit] using tells_mark (truthful cell before held)
    · rw [if_neg hit] at found
      simpa [here, hit] using truthful cell outcome found
  | restart acted =>
    have here := stays acted (there acted rfl)
    rw [act, modify_cells] at found
    by_cases hit : board.cellOf acted = some cell
    · rw [if_pos hit] at found
      obtain ⟨before, held, rfl⟩ := Option.map_eq_some_iff.mp found
      simp [here, hit, Outcome.restart, Outcome.Tells]
    · rw [if_neg hit] at found
      simpa [here, hit] using truthful cell outcome found
  | clone acted =>
    obtain ⟨place, known⟩ := founded.there (there acted rfl)
    rw [act_clone known] at found
    simpa using truthful cell outcome found
  | fresh =>
    change (board.cells ++ [Outcome.notStarted])[cell]? = some outcome at found
    rw [List.getElem?_append] at found
    split at found
    · simpa using truthful cell outcome found
    · rename_i beyond
      -- No handle that was there before has the new cell.
      have quiet : ∀ action ∈ history, ∀ handle, action.handle? = some handle →
          (board.cellOf handle = some cell ↔ False) := fun _ _ handle _ =>
        iff_false_intro fun has => beyond (founded.kept handle cell has)
      rw [markedBy_congr quiet, markedBy_congr quiet, startedBy_congr quiet]
      obtain ⟨index, same⟩ := List.getElem?_eq_some_iff.mp found
      rw [List.getElem_singleton] at same
      subst same
      simp [Outcome.Tells, MarkedBy, StartedBy]

theorem Sound.truthful (sound : Sound history) : Truthful history (run history) := by
  induction sound with
  | start => exact nofun
  | next sound there truthful =>
    rw [run_concat]
    exact truthful.next sound.founded sound there

theorem Sound.reads (sound : Sound history) (known : handle < (births history).length) :
    ∃ outcome, (run history).read handle = some outcome ∧
      outcome.Tells (Marked history handle .fail) (Marked history handle .pass) (Started history handle) := by
  have founded := sound.founded
  obtain ⟨cell, there⟩ := founded.there known
  obtain ⟨outcome, held⟩ : ∃ outcome, (run history).cells[cell]? = some outcome :=
    ⟨_, List.getElem?_eq_getElem (founded.kept handle cell there)⟩
  have shares : (Shares history · handle) = ((run history).cellOf · = some cell) := by
    funext acted
    exact propext ⟨fun shares => (founded.joined acted handle shares).trans there,
      fun has => founded.apart acted handle cell has there⟩
  refine ⟨outcome, ?_, ?_⟩
  · unfold read
    rw [there]
    exact held
  · unfold Marked Started
    rw [shares]
    exact sound.truthful cell outcome held

theorem modify_comm {first second : Outcome → Outcome}
    (comm : ∀ outcome, second (first outcome) = first (second outcome)) :
    (board.modify acted first).modify other second = (board.modify other second).modify acted first := by
  have commutes : second ∘ first = first ∘ second := funext comm
  have still (cells : List Outcome) (handle : Nat) :
      (⟨cells, board.handles⟩ : HandleBoard).cellOf handle = board.cellOf handle := rfl
  cases here : board.cellOf acted <;> cases there : board.cellOf other
  · simp only [modify, here, there]
  · simp only [modify, here, there, still]
  · simp only [modify, here, there, still]
  · rename_i cell place
    simp only [modify, here, there, still]
    by_cases same : cell = place
    · rw [same, List.modify_modify_eq, List.modify_modify_eq, commutes]
    · rw [List.modify_modify_ne _ _ _ same]

-- Marks made in any order come to the same.
theorem marks_perm {marks others : List HandleAction} (perm : marks.Perm others)
    (only : ∀ action ∈ marks, action.IsMark) : marks.foldl act board = others.foldl act board := by
  refine perm.foldl_eq' (fun first member second member' board => ?_) board
  have one := only first member
  have two := only second member'
  cases first with
  | restart | clone | fresh => exact one.elim
  | mark acted verdict =>
    cases second with
    | restart | clone | fresh => exact two.elim
    | mark other verdict' =>
      refine (modify_comm fun outcome => ?_).symm
      cases outcome <;> cases verdict <;> cases verdict' <;> rfl

theorem modify_read {change : Outcome → Outcome} : (board.modify acted change).read handle =
    if board.cellOf acted = board.cellOf handle then (board.read handle).map change else board.read handle := by
  have still : (board.modify acted change).cellOf handle = board.cellOf handle := congrArg (·[handle]?) modify_handles
  unfold read
  rw [still]
  cases board.cellOf handle with
  | none => split <;> rfl
  | some cell => exact modify_cells

-- A handle that is made leaves the others as they were.
theorem made_read {cells : List Outcome} (there : board.read handle = some outcome) :
    (⟨board.cells ++ cells, board.handles ++ [cell]⟩ : HandleBoard).read handle = some outcome := by
  obtain ⟨place, known, held⟩ := Option.bind_eq_some_iff.mp there
  unfold read
  rw [cellOf_made, if_neg (cellOf_there known), known, Option.bind_some,
    List.getElem?_append_left (List.getElem?_eq_some_iff.mp held).1]
  exact held

-- Only a start leaves a failure behind, and only for those that share it.
theorem Founded.sticky (founded : Founded history board) (failed : board.read handle = some .fail)
    (left : (board.act action).read handle ≠ some .fail) :
    ∃ other, action = .restart other ∧ Shares history other handle := by
  obtain ⟨cell, known, -⟩ := Option.bind_eq_some_iff.mp failed
  cases action with
  | mark acted verdict =>
    rw [act, modify_read, failed] at left
    split at left
    · exact absurd (congrArg some (Outcome.fail_mark verdict)) left
    · exact absurd rfl left
  | restart acted =>
    rw [act, modify_read, failed] at left
    split at left
    · rename_i same
      exact ⟨acted, rfl, founded.apart acted handle cell (same.trans known) known⟩
    · exact absurd rfl left
  | clone acted =>
    cases there : board.cellOf acted with
    | none =>
      simp only [act, there] at left
      exact absurd failed left
    | some place =>
      rw [act_clone there] at left
      refine absurd ?_ left
      rw [← List.append_nil board.cells]
      exact made_read failed
  | fresh => exact absurd (made_read failed) left

-- What is done through one handle is not seen through a handle that does not share its outcome.
theorem Founded.untouched {change : Outcome → Outcome} (founded : Founded history board)
    (alone : ¬ Shares history acted handle) : (board.modify acted change).read handle = board.read handle := by
  rw [modify_read]
  split
  · rename_i same
    cases known : board.cellOf handle with
    | none => simp [read, known]
    | some cell => exact absurd (founded.apart acted handle cell (same.trans known) known) alone
  · rfl

-- Whatever threads do through handles, and in whatever order it takes effect: a handle reads what was marked since
-- the last start through any handle that shares its outcome. Marks come to the same in every order, only a start
-- leaves a failure behind, and what is done to one outcome is not seen through a handle of another.
theorem marks_merge :
    (∀ history, Sound history → ∀ handle < (births history).length,
      ∃ outcome, (run history).read handle = some outcome ∧
        outcome.Tells (Marked history handle .fail) (Marked history handle .pass) (Started history handle)) ∧
    (∀ (board : HandleBoard) (threads : List (List HandleAction)) (order other : List HandleAction),
      (∀ thread ∈ threads, ∀ action ∈ thread, action.IsMark) → Interleaves threads order →
        Interleaves threads other ∨ order.Perm other → order.foldl act board = other.foldl act board) ∧
    (∀ history action, Sound history → ∀ handle, (run history).read handle = some .fail →
      (run (history ++ [action])).read handle ≠ some .fail →
        ∃ other, action = .restart other ∧ Shares history other handle) ∧
    ∀ history action acted, Sound history → action = .restart acted ∨ (∃ verdict, action = .mark acted verdict) →
      ∀ handle, ¬ Shares history acted handle →
        (run (history ++ [action])).read handle = (run history).read handle := by
  refine ⟨fun history sound handle => sound.reads, ?_, ?_, ?_⟩
  · intro board threads order other only interleaves again
    have perm : order.Perm other := again.elim (fun again => interleaves.perm.trans again.perm.symm) id
    refine marks_perm perm fun action member => ?_
    obtain ⟨thread, among, member⟩ := List.mem_flatten.mp (interleaves.perm.mem_iff.mp member)
    exact only thread among action member
  · intro history action sound handle failed left
    rw [run_concat] at left
    exact sound.founded.sticky failed left
  · rintro history action acted sound (rfl | ⟨verdict, rfl⟩) handle alone
    all_goals
      rw [run_concat]
      exact sound.founded.untouched alone

-- Two handles on one outcome and a third on another: a run is started through the clone, and each of them marks.
def sharedHistory : List HandleAction :=
  [.fresh, .clone 0, .fresh, .restart 1, .mark 0 .pass, .mark 1 .fail, .mark 2 .pass]

theorem sharedHistory_sound : Sound sharedHistory := by
  have begun : Sound ([] ++ [.fresh] ++ [.clone 0] ++ [.fresh] ++ [.restart 1]) := by
    refine .next (.next (.next (.next .start ?_) ?_) ?_) ?_
    all_goals
      intro handle named
      cases named <;> decide
  have ended :
      Sound ([.fresh, .clone 0, .fresh, .restart 1] ++ [.mark 0 .pass] ++ [.mark 1 .fail] ++ [.mark 2 .pass]) := by
    refine .next (.next (.next begun ?_) ?_) ?_
    all_goals
      intro handle named
      cases named
      decide
  exact ended

def passes : HandleAction := .mark 0 .pass
def fails : HandleAction := .mark 1 .fail

-- The pass of the first handle does not cover the failure of its clone, in whichever order the two are made; the
-- third handle does not see it, and the next start does away with it.
theorem marks_merge_shared : Marked sharedHistory 0 .fail ∧ ¬ Marked sharedHistory 2 .fail ∧
    [passes, fails, passes].foldl act (run sharedHistory) = [fails, passes, passes].foldl act (run sharedHistory) ∧
    Shares sharedHistory 1 0 ∧
    (run (sharedHistory ++ [.restart 1])).read 2 = (run sharedHistory).read 2 := by
  obtain ⟨reads, orders, sticky, apart⟩ := marks_merge
  obtain ⟨first, failed, tells⟩ := reads sharedHistory sharedHistory_sound 0 (by decide)
  cases (show (run sharedHistory).read 0 = some .fail by decide).symm.trans failed
  obtain ⟨third, passed, tells'⟩ := reads sharedHistory sharedHistory_sound 2 (by decide)
  cases (show (run sharedHistory).read 2 = some .success by decide).symm.trans passed
  refine ⟨tells, tells'.1, ?_, ?_, ?_⟩
  · have ends : Interleaves [[], []] ([] : List HandleAction) := .done (by decide)
    have last : Interleaves [[passes], []] [passes] := @Interleaves.turn _ [] [[]] _ _ _ ends
    have one : Interleaves [[passes, passes], [fails]] [passes, fails, passes] :=
      @Interleaves.turn _ [] [[fails]] _ _ _ (@Interleaves.turn _ [[passes]] [] _ _ _ last)
    have two : Interleaves [[passes, passes], [fails]] [fails, passes, passes] :=
      @Interleaves.turn _ [[passes, passes]] [] _ _ _ (@Interleaves.turn _ [] [[]] _ _ _ last)
    exact orders _ _ _ _ (by simp [HandleAction.IsMark, passes, fails]) one (.inl two)
  · obtain ⟨other, same, shares⟩ := sticky sharedHistory (.restart 1) sharedHistory_sound 0 failed (by decide)
    cases same
    exact shares
  · refine apart sharedHistory (.restart 1) 1 sharedHistory_sound (.inl rfl) 2 fun shares => ?_
    exact absurd (sharedHistory_sound.founded.joined 1 2 shares) (by decide)

end HandleBoard
end TrialBench
