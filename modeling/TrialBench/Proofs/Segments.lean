import Mathlib.Data.String.Basic
import TrialBench.Path
namespace TrialBench.Path
open String (utf8Len ofList)

-- One piece after the other: the pieces so far, the characters of the current one, and
-- those that are still to be read.
theorem splitOnAux_exact (sep : Char) (before piece rest : List Char) (pieces : List String) :
    String.splitOnAux (ofList (before ++ piece ++ rest)) (ofList [sep]) ⟨utf8Len before⟩
        ⟨utf8Len before + utf8Len piece⟩ 0 pieces =
      pieces.reverse ++ (List.splitOnPPrepend (· == sep) rest piece.reverse).map ofList := by
  have looked : String.Pos.Raw.get (ofList [sep]) 0 = sep := String.get_of_valid [] [sep]
  have stepped : String.Pos.Raw.next (ofList [sep]) 0 = ⟨sep.utf8Size⟩ := by
    simpa using String.next_of_valid [] sep []
  have passed : String.Pos.Raw.atEnd (ofList [sep]) ⟨sep.utf8Size⟩ = true := by
    simpa using String.atEnd_of_valid [sep] []
  induction rest generalizing before piece pieces with
  | nil =>
    have extracted := String.extract_of_valid before piece []
    have ends := String.atEnd_of_valid (before ++ piece) []
    rw [String.utf8Len_append] at ends
    rw [String.splitOnAux, if_pos (ends.mpr rfl), extracted, List.reverse_cons]
    simp
  | cons c rest ih =>
    have extracted := String.extract_of_valid before piece (c :: rest)
    have ends := String.atEnd_of_valid (before ++ piece) (c :: rest)
    have got := String.get_of_valid (before ++ piece) (c :: rest)
    have next := String.next_of_valid (before ++ piece) c rest
    rw [String.utf8Len_append] at ends got next
    have more : ¬ String.Pos.Raw.atEnd (ofList (before ++ piece ++ c :: rest)) ⟨utf8Len before + utf8Len piece⟩ := by
      rw [ends]
      exact List.cons_ne_nil c rest
    rw [String.splitOnAux, if_neg more, got, looked, List.headD_cons]
    by_cases same : c = sep
    · subst same
      have back : String.Pos.Raw.unoffsetBy ⟨utf8Len before + utf8Len piece + c.utf8Size⟩ ⟨c.utf8Size⟩ =
          ⟨utf8Len before + utf8Len piece⟩ := by simp [String.Pos.Raw.unoffsetBy]
      have later := ih (before ++ piece ++ [c]) [] (ofList piece :: pieces)
      have whole : before ++ piece ++ [c] ++ [] ++ rest = before ++ piece ++ c :: rest := by simp
      have size : utf8Len (before ++ piece ++ [c]) = utf8Len before + utf8Len piece + c.utf8Size := by
        simp [Nat.add_assoc]
      rw [whole, size, String.utf8Len_nil, Nat.add_zero] at later
      rw [if_pos (beq_self_eq_true c)]
      dsimp only
      rw [stepped, if_pos passed, next, back, extracted, later, List.splitOnPPrepend_cons_eq_if,
        if_pos (beq_self_eq_true c)]
      simp
    · have later := ih before (piece ++ [c]) pieces
      have whole : before ++ (piece ++ [c]) ++ rest = before ++ piece ++ c :: rest := by simp
      have size : utf8Len before + utf8Len (piece ++ [c]) = utf8Len before + utf8Len piece + c.utf8Size := by
        simp [Nat.add_assoc]
      rw [whole, size] at later
      have back : String.Pos.Raw.unoffsetBy ⟨utf8Len before + utf8Len piece⟩ 0 = ⟨utf8Len before + utf8Len piece⟩ := by
        simp [String.Pos.Raw.unoffsetBy]
      rw [if_neg (by simpa using same), back, next, later, List.splitOnPPrepend_cons_eq_if,
        if_neg (by simpa using same)]
      simp

theorem splitOn_exact (text : String) (sep : Char) :
    text.splitOn (ofList [sep]) = (text.toList.splitOn sep).map ofList := by
  have pieces := splitOnAux_exact sep [] [] text.toList []
  have named : (ofList [sep] == "") = false := by simp
  unfold String.splitOn
  rw [named]
  simpa [List.splitOn] using pieces

theorem segments_exact (path : String) : segments path = (path.toList.splitOn '/').map ofList := splitOn_exact path '/'

end TrialBench.Path
