import Mathlib.Data.String.Basic
import TrialBench.ErrorChain
import TrialBench.Proofs.Segments
namespace TrialBench.ErrorChain
variable {chain inner : ErrorChain} {text : String} {outer : List String}

-- No text of the chain has a line break in it.
def Unbroken (chain : ErrorChain) : Prop := ∀ text ∈ chain.texts, '\n' ∉ text.toList

-- The lines that are shown of causes: a heading, if there is any cause, and then one line for each.
def causeLines : List String → List String
  | [] => []
  | cause :: causes => "  caused by:" :: (cause :: causes).map ("  - " ++ ·)

def lines (chain : ErrorChain) : List String := chain.text :: causeLines chain.causes

-- What a reader makes of a shown chain: the heading is the second line, and each line after it names a cause.
def entries (shown : String) : List String :=
  match shown.splitOn "\n" with
  | first :: _ :: items => first :: items.map fun item => String.ofList (item.toList.drop 4)
  | lines => lines

theorem render_lines : chain.render = "\n".intercalate chain.lines := by
  obtain ⟨text, causes⟩ := chain
  have joined (line : String) (lines : List String) :
      "\n".intercalate (line :: lines) = line ++ String.join (lines.map ("\n" ++ ·)) := by
    induction lines generalizing line with
    | nil => simp
    | cons next lines ih =>
      rw [String.intercalate_cons_cons, ih next, List.map_cons, String.join_cons]
      simp only [String.append_assoc]
  cases causes with
  | nil =>
    rw [lines, causeLines, joined]
    exact String.append_empty.symm
  | cons cause causes =>
    have items : ((cause :: causes).map ("  - " ++ ·)).map ("\n" ++ ·) = (cause :: causes).map item := by
      rw [List.map_map]
      refine List.map_congr_left fun cause _ => ?_
      rw [Function.comp_apply, ← String.append_assoc]
      rfl
    rw [lines, causeLines, joined, List.map_cons, items, String.join_cons, ← String.append_assoc]
    rfl

theorem Unbroken.lines (unbroken : Unbroken chain) : ∀ line ∈ chain.lines, '\n' ∉ line.toList := by
  obtain ⟨text, causes⟩ := chain
  intro line member
  rcases List.mem_cons.mp member with rfl | member
  · exact unbroken _ List.mem_cons_self
  · cases causes with
    | nil => cases member
    | cons first rest =>
      rcases List.mem_cons.mp member with rfl | member
      · decide
      · obtain ⟨cause, named, rfl⟩ := List.mem_map.mp member
        have whole := unbroken cause (List.mem_cons_of_mem _ named)
        simpa using whole

-- A shown chain of unbroken texts falls into the lines that it was put together from.
theorem Unbroken.split (unbroken : Unbroken chain) : chain.render.splitOn "\n" = chain.lines := by
  have whole : ∀ line ∈ chain.lines.map String.toList, '\n' ∉ line := by
    intro chars member
    obtain ⟨line, named, rfl⟩ := List.mem_map.mp member
    exact unbroken.lines line named
  have pieces := List.splitOn_intercalate '\n' whole (by simp [ErrorChain.lines])
  have texts : (chain.lines.map String.toList).map String.ofList = chain.lines := by simp
  rw [show "\n" = String.ofList ['\n'] from rfl, Path.splitOn_exact, render_lines, String.toList_intercalate]
  exact (congrArg (List.map String.ofList) pieces).trans texts

theorem Unbroken.entries (unbroken : Unbroken chain) : entries chain.render = chain.texts := by
  unfold ErrorChain.entries
  rw [unbroken.split]
  obtain ⟨text, causes⟩ := chain
  cases causes with
  | nil => rfl
  | cons first rest =>
    have items : ((first :: rest).map ("  - " ++ ·)).map (fun item => String.ofList (item.toList.drop 4)) =
        first :: rest := by
      rw [List.map_map]
      refine (List.map_congr_left fun cause _ => ?_).trans (List.map_id _)
      simp
    exact congrArg (text :: ·) items

theorem texts_wraps : (outer.foldr wrap inner).texts = outer ++ inner.texts := by
  induction outer with
  | nil => rfl
  | cons text outer ih => exact congrArg (text :: ·) ih

theorem Unbroken.wraps (unbroken : Unbroken inner) (whole : ∀ text ∈ outer, '\n' ∉ text.toList) :
    Unbroken (outer.foldr wrap inner) := by
  intro text member
  rw [texts_wraps, List.mem_append] at member
  exact member.elim (whole text) (unbroken text)

theorem render_wraps : ((text :: outer).foldr wrap inner).render =
    text ++ "\n  caused by:" ++ String.join ((outer ++ inner.texts).map item) := by
  rw [← texts_wraps]
  rfl

-- A shown chain loses nothing of the chain. Texts without line breaks are told from what is shown, however many
-- they are and whatever they look like, and an error that is wrapped is shown below the ones around it.
theorem shown_lossless :
    (∀ one other : ErrorChain, Unbroken one → Unbroken other → one.render = other.render →
      one.texts.length = other.texts.length ∧ one.texts = other.texts) ∧
    (∀ (text : String) (outer : List String) (inner : ErrorChain), ((text :: outer).foldr wrap inner).render =
      text ++ "\n  caused by:" ++ String.join ((outer ++ inner.texts).map item)) ∧
    ∀ (outer : List String) (inner : ErrorChain), (∀ text ∈ outer, '\n' ∉ text.toList) → Unbroken inner →
      entries (outer.foldr wrap inner).render = outer ++ entries inner.render := by
  refine ⟨?_, fun _ _ _ => render_wraps, ?_⟩
  · intro one other here there same
    have texts : one.texts = other.texts := by
      rw [← here.entries, same, there.entries]
    exact ⟨congrArg List.length texts, texts⟩
  · intro outer inner whole unbroken
    rw [(unbroken.wraps whole).entries, unbroken.entries, texts_wraps]

-- A cause without a text, one that looks like the heading and one that looks like an item.
def lookalike : ErrorChain := ⟨"", ["  caused by:", "  - "]⟩

theorem shown_lossless_lookalike : Unbroken lookalike ∧
    entries (["body failed", ""].foldr wrap lookalike).render =
      ["body failed", "", "", "  caused by:", "  - "] ∧
    (leaf "").render ≠ (wrap "" (leaf "")).render := by
  have unbroken : Unbroken lookalike := by
    unfold Unbroken
    decide +kernel
  obtain ⟨injective, -, wrapped⟩ := shown_lossless
  refine ⟨unbroken, ?_, fun same => ?_⟩
  · rw [wrapped ["body failed", ""] lookalike (by decide +kernel) unbroken, unbroken.entries]
    rfl
  · have lengths := (injective (leaf "") (wrap "" (leaf "")) (by unfold Unbroken; decide +kernel)
      (by unfold Unbroken; decide +kernel) same).1
    cases lengths

-- With a line break in it, one text can look like two.
example : (leaf "a\n  caused by:\n  - b").render = (wrap "a" (leaf "b")).render := by decide +kernel

end TrialBench.ErrorChain
