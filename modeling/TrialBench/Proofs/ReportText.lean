import Mathlib.Data.List.Forall2
import Mathlib.Tactic.SplitIfs
import TrialBench.Report.Document
namespace TrialBench

namespace Text.Terminal
variable {text : String} {chars : List Char}

-- A text that has line breaks as its only controls.
def Printable (text : String) : Prop :=
  ∀ c ∈ text.toList, c = '\n' ∨ 0x20 ≤ c.toNat ∧ (c.toNat < 0x80 ∨ 0xa0 ≤ c.toNat)

theorem run_plain
    (printable : ∀ c ∈ chars, c = '\n' ∨ 0x20 ≤ c.toNat ∧ (c.toNat < 0x80 ∨ 0xa0 ≤ c.toNat)) :
    run .plain chars = chars := by
  induction chars with
  | nil => rfl
  | cons c rest ih =>
    have here : step .plain c = (.plain, [c]) := by
      rcases printable c List.mem_cons_self with rfl | ⟨low, high⟩
      · rfl
      · have apart : c.toNat ≠ 0x1b := by omega
        have shown : isControl c.toNat = false := by
          simp [isControl]
          omega
        simp [step, apart, shown]
    rw [run, here, ih fun c member => printable c (List.mem_cons_of_mem _ member)]
    rfl

theorem strip_printable (printable : Printable text) : strip text = text := by
  rw [strip, run_plain printable, String.ofList_toList]

end Text.Terminal

namespace Report
open String (ofList)
variable {chars : List Char}

theorem escape_append (one other : String) : escape (one ++ other) = escape one ++ escape other := by
  simp [escape]

theorem escape_digits (digits : ∀ c ∈ chars, c.isDigit = true) :
    escape (ofList chars) = ofList chars := by
  rw [escape, String.toList_ofList]
  congr 1
  induction chars with
  | nil => rfl
  | cons c rest ih =>
    have digit := digits c List.mem_cons_self
    have apart {mark : Char} (other : mark.isDigit = false) : c ≠ mark := by
      rintro rfl
      cases digit.symm.trans other
    have alone : escapeChar c = [c] := by
      rw [escapeChar, if_neg (apart rfl), if_neg (apart rfl), if_neg (apart rfl), if_neg (apart rfl),
        if_neg (apart rfl)]
    rw [List.flatMap_cons, alone, ih fun c member => digits c (List.mem_cons_of_mem _ member)]
    rfl

theorem escape_nat {n : Nat} : escape (toString n) = toString n := by
  rw [Nat.toString_eq_repr, Nat.repr_eq_ofList_toDigits]
  exact escape_digits fun c member => Nat.isDigit_of_mem_toDigits (by decide) (by decide) member

theorem escape_padded (width n : Nat) : escape (Digits.padded width n) = Digits.padded width n := by
  unfold Digits.padded
  dsimp only
  rw [escape_append, escape_nat, escape_digits]
  intro c member
  rw [List.eq_of_mem_replicate member]
  rfl

theorem escape_literals :
    ∀ mark ∈ ["-", "+", "T", ":", ".", "+00:00", "NaN", "inf", ""], escape mark = mark := by
  decide +kernel

theorem escape_int (n : Int) : escape (toString n) = toString n := by
  cases n with
  | ofNat n => exact escape_nat
  | negSucc n =>
    change escape ("-" ++ toString (n + 1)) = "-" ++ toString (n + 1)
    rw [escape_append, escape_nat, escape_literals "-" (by decide)]

theorem escape_timestamp {t : Timestamp} : escape t.text = t.text := by
  have year (n : Int) : escape (Timestamp.yearText n) = Timestamp.yearText n := by
    unfold Timestamp.yearText
    split_ifs
    · rw [escape_append, escape_padded, escape_literals "-" (by decide)]
    · rw [escape_append, escape_int, escape_literals "+" (by decide)]
    · exact escape_padded _ _
  unfold Timestamp.text
  simp only [escape_append, escape_padded, year, escape_literals "-" (by decide), escape_literals "T" (by decide),
    escape_literals ":" (by decide), escape_literals "." (by decide), escape_literals "+00:00" (by decide)]

theorem escape_positional (digits : Nat) (exponent : Int) :
    escape (Double.positional digits exponent) = Double.positional digits exponent := by
  unfold Double.positional
  split_ifs
  · exact escape_nat
  · dsimp only
    rw [escape_append, escape_append, escape_nat, escape_padded, escape_literals "." (by decide)]

theorem escape_infinite (negative : Bool) :
    escape (Double.signText negative ++ "inf") = Double.signText negative ++ "inf" := by
  rw [escape_append, escape_literals "inf" (by decide)]
  cases negative
  · rw [Double.signText, if_neg (by decide), escape_literals "" (by decide)]
  · rw [Double.signText, if_pos rfl, escape_literals "-" (by decide)]

theorem escape_seconds {d : Duration} : escape (secondsText d) = secondsText d := by
  unfold secondsText
  generalize seconds d = count
  cases count with
  | finite negative steps =>
    change escape (Double.fixedText 3 steps) = Double.fixedText 3 steps
    unfold Double.fixedText
    exact escape_positional _ _
  | nan => exact escape_literals "NaN" (by decide)
  | infinite negative => exact escape_infinite negative

-- What stands between the marks of a tag: the start of an element, which may be its end too,
-- the end of one, or a remark.
inductive Tag where
  | starts (name : String) (properties : List (String × String)) (closed : Bool)
  | ends (name : String)
  | remark

namespace Tag

def unescape : List Char → List Char
  | '&' :: 'l' :: 't' :: ';' :: rest => '<' :: unescape rest
  | '&' :: 'g' :: 't' :: ';' :: rest => '>' :: unescape rest
  | '&' :: 'a' :: 'm' :: 'p' :: ';' :: rest => '&' :: unescape rest
  | '&' :: 'a' :: 'p' :: 'o' :: 's' :: ';' :: rest => '\'' :: unescape rest
  | '&' :: 'q' :: 'u' :: 'o' :: 't' :: ';' :: rest => '"' :: unescape rest
  | c :: rest => c :: unescape rest
  | [] => []

-- The pieces between quotes are a key and its value in turn.
def pairs : List (List Char) → List (String × String)
  | lead :: value :: rest =>
    (ofList (((lead.dropWhile (· ≠ ' ')).drop 1).takeWhile (· ≠ '=')), ofList (unescape value)) :: pairs rest
  | _ => []

def ofChars (content : List Char) : Tag :=
  if content.head? = some '/' then .ends (ofList content.tail)
  else if content.head? = some '?' then .remark
  else .starts (ofList (content.takeWhile fun c => c ≠ ' ' ∧ c ≠ '/')) (pairs (content.splitOn '"'))
    (content.getLast? = some '/')

-- The tags of a text. What stands between them is passed over.
def readAll : List Char → List Tag
  | [] => []
  | c :: rest => if c = '<' then ofChars (rest.takeWhile (· ≠ '>')) :: readAll rest else readAll rest

variable {text name : String} {lead rest after : List Char} {c : Char} {properties : List (String × String)}
  {closed : Bool}

theorem unescape_cons (apart : c ≠ '&') : unescape (c :: rest) = c :: unescape rest := by
  rw [unescape.eq_def]
  split <;> simp_all

-- A character is read back as it was, and nothing of it ends a value or a tag.
theorem escapeChar_reads : (∀ rest, unescape (escapeChar c ++ rest) = c :: unescape rest) ∧
    ∀ d ∈ escapeChar c, d ≠ '<' ∧ d ≠ '>' ∧ d ≠ '"' := by
  unfold escapeChar
  split_ifs with less more and_ single double
  · subst less
    exact ⟨fun _ => rfl, by simp⟩
  · subst more
    exact ⟨fun _ => rfl, by simp⟩
  · subst and_
    exact ⟨fun _ => rfl, by simp⟩
  · subst single
    exact ⟨fun _ => rfl, by simp⟩
  · subst double
    exact ⟨fun _ => rfl, by simp⟩
  · refine ⟨fun rest => unescape_cons and_, fun d member => ?_⟩
    rw [List.mem_singleton.mp member]
    exact ⟨less, more, double⟩

theorem unescape_escape : unescape (escape text).toList = text.toList := by
  rw [escape, String.toList_ofList]
  induction text.toList with
  | nil => rfl
  | cons c rest ih => rw [List.flatMap_cons, escapeChar_reads.1, ih]

theorem escape_apart (member : c ∈ (escape text).toList) : c ≠ '<' ∧ c ≠ '>' ∧ c ≠ '"' := by
  rw [escape, String.toList_ofList] at member
  obtain ⟨whole, -, member⟩ := List.mem_flatMap.mp member
  exact escapeChar_reads.2 c member

-- The names of elements and of their properties have letters only.
def Word (text : String) : Prop := text ≠ "" ∧ text.toList.all Char.isAlpha = true

instance : Decidable (Word text) := inferInstanceAs (Decidable (_ ∧ _))

theorem Word.apart {mark : Char} (word : Word text) (other : mark.isAlpha = false) :
    ∀ c ∈ text.toList, c ≠ mark := by
  rintro c member rfl
  cases (List.all_eq_true.mp word.2 c member).symm.trans other

-- A property as it stands in a tag.
def propertyChars : String × String → List Char
  | (key, value) => ' ' :: (key.toList ++ '=' :: '"' :: ((escape value).toList ++ ['"']))

theorem opening_chars :
    (opening name (properties.map fun (key, value) => (key, escape value))).toList =
      '<' :: (name.toList ++ properties.flatMap propertyChars) := by
  have written : ((properties.map fun (key, value) => (key, escape value)).map
      fun (name, value) => property name value).flatMap String.toList = properties.flatMap propertyChars := by
    rw [List.map_map, List.flatMap_map]
    exact congrArg properties.flatMap (funext fun _ => by simp [property, propertyChars])
  simp only [opening, String.toList_append, String.toList_join, written]
  rfl

theorem splitOn_quoted (before : ∀ c ∈ lead, c ≠ '"') :
    (lead ++ '"' :: rest).splitOn '"' = lead :: rest.splitOn '"' := by
  rw [List.splitOn_eq_splitOnP, List.splitOn_eq_splitOnP,
    List.splitOnP_append_cons_of_forall_mem (fun c member => by simpa using before c member) '"' rfl]

theorem splitOn_unquoted (free : ∀ c ∈ lead, c ≠ '"') : lead.splitOn '"' = [lead] := by
  rw [List.splitOn_eq_splitOnP]
  exact List.splitOnP_eq_singleton fun c member => by simpa using free c member

-- The key of a property in what stands before its value.
theorem key_written (before : ∀ c ∈ lead, c ≠ ' ') (word : Word text) :
    (((lead ++ ' ' :: (text.toList ++ ['='])).dropWhile (· ≠ ' ')).drop 1).takeWhile (· ≠ '=') = text.toList := by
  rw [List.dropWhile_append_of_pos fun c member => by simpa using before c member]
  change ((' ' :: (text.toList ++ ['='])).drop 1).takeWhile (· ≠ '=') = text.toList
  rw [List.drop_one, List.tail_cons,
    List.takeWhile_append_of_pos fun c member => by simpa using word.apart rfl c member]
  exact List.append_nil _

-- The induction goes from property to property. Only before the first one stands the name of
-- the element, so what leads to a property is left open.
theorem pairs_written (before : ∀ c ∈ lead, c ≠ ' ' ∧ c ≠ '"') (behind : ∀ c ∈ after, c ≠ '"')
    (words : ∀ pair ∈ properties, Word pair.1) :
    pairs ((lead ++ (properties.flatMap propertyChars ++ after)).splitOn '"') = properties := by
  induction properties generalizing lead with
  | nil =>
    rw [List.flatMap_nil, List.nil_append, splitOn_unquoted]
    · rfl
    · intro c member
      rcases List.mem_append.mp member with member | member
      · exact (before c member).2
      · exact behind c member
  | cons first rest ih =>
    obtain ⟨key, value⟩ := first
    have word : Word key := words _ List.mem_cons_self
    have led : ∀ c ∈ lead ++ ' ' :: (key.toList ++ ['=']), c ≠ '"' := by
      intro c member
      simp only [List.mem_append, List.mem_cons, List.not_mem_nil, or_false] at member
      rcases member with member | rfl | member | rfl
      · exact (before c member).2
      · decide
      · exact word.apart rfl c member
      · decide
    have pieces : lead ++ (((key, value) :: rest).flatMap propertyChars ++ after) =
        (lead ++ ' ' :: (key.toList ++ ['='])) ++ '"' ::
          ((escape value).toList ++ '"' :: ([] ++ (rest.flatMap propertyChars ++ after))) := by
      simp [propertyChars]
    rw [pieces, splitOn_quoted led, splitOn_quoted fun c member => (escape_apart member).2.2, pairs,
      key_written (fun c member => (before c member).1) word, unescape_escape, String.ofList_toList,
      String.ofList_toList, ih (fun _ none_ => absurd none_ List.not_mem_nil) fun pair member =>
        words pair (List.mem_cons_of_mem _ member)]

-- The end of a tag that ends its element too.
def ending (closed : Bool) : List Char := if closed then ['/'] else []

def content (name : String) (properties : List (String × String)) (closed : Bool) : List Char :=
  name.toList ++ (properties.flatMap propertyChars ++ ending closed)

theorem content_name (word : Word name) :
    (content name properties closed).takeWhile (fun c => c ≠ ' ' ∧ c ≠ '/') = name.toList := by
  unfold content
  rw [List.takeWhile_append_of_pos fun c member => by simpa using ⟨word.apart rfl c member, word.apart rfl c member⟩]
  have stops : (properties.flatMap propertyChars ++ ending closed).takeWhile (fun c => c ≠ ' ' ∧ c ≠ '/') = [] := by
    cases properties with
    | nil => cases closed <;> rfl
    | cons first rest => rfl
  rw [stops, List.append_nil]

theorem content_last (word : Word name) :
    (content name properties closed).getLast? = some '/' ↔ closed = true := by
  unfold content
  cases closed with
  | true => simp [ending]
  | false =>
    rcases List.eq_nil_or_concat properties with rfl | ⟨earlier, last, rfl⟩
    · have letters : name.toList.getLast? ≠ some '/' := fun last =>
        word.apart rfl _ (List.mem_of_getLast? last) rfl
      simpa [ending] using letters
    · obtain ⟨before, quote⟩ : ∃ before, propertyChars last = before ++ ['"'] :=
        ⟨' ' :: (last.1.toList ++ '=' :: '"' :: (escape last.2).toList), by simp [propertyChars]⟩
      simp [ending, quote]

theorem content_head (word : Word name) (mark : Char) (other : mark.isAlpha = false) :
    (content name properties closed).head? ≠ some mark := by
  obtain ⟨first, rest, whole⟩ := List.exists_cons_of_ne_nil fun none_ => word.1 (String.toList_eq_nil_iff.mp none_)
  intro head
  rw [content, whole] at head
  exact word.apart other first (by rw [whole]; exact List.mem_cons_self) (Option.some.inj head)

theorem ofChars_content (word : Word name) (words : ∀ pair ∈ properties, Word pair.1) :
    ofChars (content name properties closed) = .starts name properties closed := by
  have read : pairs ((content name properties closed).splitOn '"') = properties :=
    pairs_written (fun c member => ⟨word.apart rfl c member, word.apart rfl c member⟩)
      (by cases closed <;> simp [ending]) words
  rw [ofChars, if_neg (content_head word '/' rfl), if_neg (content_head word '?' rfl), content_name word, read,
    String.ofList_toList]
  congr 1
  simp only [content_last word, Bool.decide_eq_true]

theorem content_apart (word : Word name) (words : ∀ pair ∈ properties, Word pair.1) :
    ∀ c ∈ content name properties closed, c ≠ '<' ∧ c ≠ '>' := by
  intro c member
  simp only [content, List.mem_append, List.mem_flatMap] at member
  rcases member with member | ⟨⟨key, value⟩, pair, member⟩ | member
  · exact ⟨word.apart rfl c member, word.apart rfl c member⟩
  · have key_ : Word key := words _ pair
    simp only [propertyChars, List.mem_append, List.mem_cons, List.not_mem_nil, or_false] at member
    rcases member with rfl | member | rfl | rfl | member | rfl
    · decide
    · exact ⟨key_.apart rfl c member, key_.apart rfl c member⟩
    · decide
    · decide
    · exact ⟨(escape_apart member).1, (escape_apart member).2.1⟩
    · decide
  · cases closed with
    | true =>
      rw [List.mem_singleton.mp member]
      decide
    | false => cases member

theorem readAll_outside (outside : '<' ∉ lead) : readAll (lead ++ rest) = readAll rest := by
  induction lead with
  | nil => rfl
  | cons c lead ih =>
    obtain ⟨apart, later⟩ := List.ne_and_not_mem_of_not_mem_cons outside
    rw [List.cons_append, readAll, if_neg apart.symm, ih later]

theorem readAll_tag {content : List Char} (inside : ∀ c ∈ content, c ≠ '<' ∧ c ≠ '>') :
    readAll ('<' :: (content ++ '>' :: rest)) = ofChars content :: readAll rest := by
  have read : (content ++ '>' :: rest).takeWhile (· ≠ '>') = content := by
    rw [List.takeWhile_append_of_pos fun c member => by simpa using (inside c member).2]
    simp
  have outside : readAll (content ++ '>' :: rest) = readAll ('>' :: rest) :=
    readAll_outside fun member => (inside _ member).1 rfl
  rw [readAll, if_pos rfl, read, outside]
  rfl

-- Such a line has one tag, whatever follows.
def Carries (line : String) (tag : Tag) : Prop :=
  ∀ rest, readAll (line.toList ++ '\n' :: rest) = tag :: readAll rest

theorem carries_content {content : List Char} {line : String} (inside : ∀ c ∈ content, c ≠ '<' ∧ c ≠ '>') (depth : Nat)
    (written : line.toList = '<' :: (content ++ ['>'])) : Carries (indent depth line) (ofChars content) := by
  intro rest
  have blank : '<' ∉ List.replicate (4 * depth) ' ' :=
    fun member => absurd (List.eq_of_mem_replicate member) (by decide)
  have chars : (indent depth line).toList ++ '\n' :: rest =
      List.replicate (4 * depth) ' ' ++ '<' :: (content ++ '>' :: '\n' :: rest) := by
    simp [indent, written]
  rw [chars, readAll_outside blank, readAll_tag inside]
  rfl

-- A property as it is shown, and what it is read as.
def Escaped (shown property : String × String) : Prop :=
  Word property.1 ∧ shown = (property.1, escape property.2)

theorem Escaped.all {shown : List (String × String)} (escaped : List.Forall₂ Escaped shown properties) :
    (∀ property ∈ properties, Word property.1) ∧ shown = properties.map fun (key, value) => (key, escape value) := by
  induction escaped with
  | nil => exact ⟨nofun, rfl⟩
  | cons first rest ih => exact ⟨List.forall_mem_cons.mpr ⟨first.1, ih.1⟩, congrArg₂ List.cons first.2 ih.2⟩

theorem carries_start {shown : List (String × String)} {line : String} (word : Word name)
    (escaped : List.Forall₂ Escaped shown properties) (depth : Nat) (ended : line.toList = ending closed ++ ['>']) :
    Carries (indent depth (opening name shown ++ line)) (.starts name properties closed) := by
  obtain ⟨words, rfl⟩ := Escaped.all escaped
  rw [← ofChars_content word words]
  refine carries_content (content_apart word words) depth ?_
  rw [String.toList_append, ended, opening_chars]
  simp [content]

theorem carries_end {line : String} (word : Word name) (depth : Nat)
    (written : line.toList = '<' :: '/' :: (name.toList ++ ['>'])) : Carries (indent depth line) (.ends name) := by
  have read : ofChars ('/' :: name.toList) = .ends name := by
    rw [ofChars, List.head?_cons, if_pos rfl, List.tail_cons, String.ofList_toList]
  rw [← read]
  refine carries_content ?_ depth written
  rintro c (_ | ⟨_, member⟩)
  · decide
  · exact ⟨word.apart rfl c member, word.apart rfl c member⟩

end Tag

-- A part of a document: what it is called, its properties and the parts in it.
structure Element where
  name : String
  properties : List (String × String)
  inner : List Element

namespace Element
open Tag (Word Carries)
variable {name line first last : String} {lines more : List String} {properties : List (String × String)}
  {inner elements others : List Element}

def hold (element : Element) (elements : List Element) : Element :=
  { element with inner := element.inner ++ elements }

-- The element that is open, and those around it. Each end must be that of the innermost one,
-- and nothing may be open at the end.
def read (element : Element) (around : List Element) : List Tag → Option (List Element)
  | [] => if around.isEmpty then some element.inner else none
  | .remark :: rest => read element around rest
  | .starts name properties true :: rest => read (element.hold [⟨name, properties, []⟩]) around rest
  | .starts name properties false :: rest => read ⟨name, properties, []⟩ (element :: around) rest
  | .ends name :: rest =>
    match around with
    | [] => none
    | outer :: around => if name = element.name then read (outer.hold [element]) around rest else none

def ofText? (text : String) : Option (List Element) := read ⟨"", [], []⟩ [] (Tag.readAll text.toList)

-- Lines as they stand in a text.
def written (lines : List String) : List Char := lines.flatMap fun line => line.toList ++ ['\n']

-- Some lines that are read as these elements, wherever they stand.
def Spells (lines : List String) (elements : List Element) : Prop :=
  ∀ element around rest, read element around (Tag.readAll (written lines ++ rest)) =
    read (element.hold elements) around (Tag.readAll rest)

theorem hold_nil {element : Element} : element.hold [] = element := by
  cases element
  simp [hold]

theorem spells_nil : Spells [] [] := by
  intro element around rest
  rw [hold_nil]
  rfl

theorem Spells.append (one : Spells lines elements) (two : Spells more others) :
    Spells (lines ++ more) (elements ++ others) := by
  intro element around rest
  rw [written, List.flatMap_append, List.append_assoc, ← written, ← written, one, two, hold, hold, hold,
    List.append_assoc]

theorem carried {tag : Tag} {rest : List Char} (carries : Carries line tag) :
    Tag.readAll (written [line] ++ rest) = tag :: Tag.readAll rest := by
  rw [← carries rest, written, List.flatMap_singleton, List.append_assoc]
  rfl

theorem spells_remark (carries : Carries line .remark) : Spells [line] [] := by
  intro element around rest
  rw [carried carries, hold_nil]
  rfl

theorem spells_whole (carries : Carries line (.starts name properties true)) :
    Spells [line] [⟨name, properties, []⟩] := by
  intro element around rest
  rw [carried carries]
  rfl

theorem Spells.enclosed (starts : Carries first (.starts name properties false)) (ends : Carries last (.ends name))
    (within : Spells lines inner) : Spells (first :: (lines ++ [last])) [⟨name, properties, inner⟩] := by
  intro element around rest
  have parts : written (first :: (lines ++ [last])) ++ rest =
      written [first] ++ (written lines ++ (written [last] ++ rest)) := by
    simp [written]
  rw [parts, carried starts, read, within, carried ends, read]
  exact if_pos rfl

example : ofText? "<a b=\"1 &lt; 2\">\n <c/>\n</a>" = some [⟨"a", [("b", "1 < 2")], [⟨"c", [], []⟩]⟩] := rfl

end Element

open Element (Spells)
open Tag (Word Escaped)
variable {document : Document} {case : Case} {suite key text : String}

theorem escaped_shown (word : Word key) : Escaped (key, shown text) (key, Text.Terminal.strip text) := ⟨word, rfl⟩

theorem escaped_plain (word : Word key) (plain : escape text = text) : Escaped (key, text) (key, text) :=
  ⟨word, congrArg (Prod.mk key) plain.symm⟩

theorem span_escaped {span : Span} : List.Forall₂ Escaped (spanProperties span) (spanProperties span) :=
  .cons (escaped_plain (by decide) escape_timestamp) (.cons (escaped_plain (by decide) escape_seconds) .nil)

-- What the lines of a case are read as.
def statusElements (case : Case) : List Element :=
  let element (name : String) (type : List (String × String)) : List Element :=
    [⟨name, ("message", Text.Terminal.strip case.message) :: type, []⟩]
  match case.status with
  | .success => []
  | .failure => element "failure" [("type", "test failure")]
  | .error => element "error" [("type", "unexpected outcome")]
  | .skipped => element "skipped" []

def caseElement (suite : String) (case : Case) : Element :=
  ⟨"testcase", [("name", Text.Terminal.strip case.name), ("classname", Text.Terminal.strip suite)] ++
    (case.span.map spanProperties).getD [], statusElements case⟩

def suiteElement (document : Document) : Element :=
  let counted (status : Status) : String := toString (count status document.cases)
  ⟨"testsuite", [("name", Text.Terminal.strip document.suite), ("tests", toString document.cases.length),
    ("disabled", counted .skipped), ("errors", counted .error), ("failures", counted .failure)],
    document.cases.map (caseElement document.suite)⟩

def runElement (document : Document) : Element :=
  let counted (status : Status) : String := toString (count status document.cases)
  ⟨"testsuites", [("name", Text.Terminal.strip document.name), ("tests", toString document.cases.length),
    ("failures", counted .failure), ("errors", counted .error)] ++ spanProperties document.span,
    [suiteElement document]⟩

theorem count_escaped {n : Nat} (word : Word key) : Escaped (key, toString n) (key, toString n) :=
  escaped_plain word escape_nat

theorem spells_status : Spells (statusLines case) (statusElements case) := by
  have message : Escaped ("message", shown case.message) ("message", Text.Terminal.strip case.message) :=
    escaped_shown (by decide)
  unfold statusLines statusElements
  cases case.status with
  | success => exact Element.spells_nil
  | failure =>
    have type : Escaped ("type", "test failure") ("type", "test failure") := ⟨by decide, by decide +kernel⟩
    exact Element.spells_whole (Tag.carries_start (by decide) (.cons message (.cons type .nil)) 3 rfl)
  | error =>
    have type : Escaped ("type", "unexpected outcome") ("type", "unexpected outcome") := ⟨by decide, by decide +kernel⟩
    exact Element.spells_whole (Tag.carries_start (by decide) (.cons message (.cons type .nil)) 3 rfl)
  | skipped => exact Element.spells_whole (Tag.carries_start (by decide) (.cons message .nil) 3 rfl)

theorem spells_case : Spells (caseLines suite case) [caseElement suite case] := by
  have timed :
      List.Forall₂ Escaped ((case.span.map spanProperties).getD []) ((case.span.map spanProperties).getD []) := by
    cases case.span with
    | none => exact .nil
    | some span => exact span_escaped
  refine Element.Spells.enclosed (Tag.carries_start (by decide) ?_ 2 rfl) (Tag.carries_end (by decide) 2 rfl)
    spells_status
  exact .cons (escaped_shown (by decide)) (.cons (escaped_shown (by decide)) timed)

theorem spells_cases {cases : List Case} :
    Spells (cases.flatMap (caseLines suite)) (cases.map (caseElement suite)) := by
  induction cases with
  | nil => exact Element.spells_nil
  | cons case rest ih => exact spells_case.append ih

theorem spells_suite : Spells (suiteLines document) [suiteElement document] := by
  refine Element.Spells.enclosed (Tag.carries_start (by decide) ?_ 1 rfl) (Tag.carries_end (by decide) 1 rfl)
    spells_cases
  exact .cons (escaped_shown (by decide)) (.cons (count_escaped (by decide)) (.cons (count_escaped (by decide))
    (.cons (count_escaped (by decide)) (.cons (count_escaped (by decide)) .nil))))

theorem indent_none {line : String} : indent 0 line = line := by simp [indent]

theorem spells_lines : Spells (lines document) [runElement document] := by
  have remark : Tag.Carries "<?xml version=\"1.0\" encoding=\"UTF-8\"?>" .remark := by
    rw [← @indent_none "<?xml version=\"1.0\" encoding=\"UTF-8\"?>"]
    exact @Tag.carries_content "?xml version=\"1.0\" encoding=\"UTF-8\"?".toList _ (by simp) 0 rfl
  refine (Element.spells_remark remark).append (Element.Spells.enclosed ?_ ?_ spells_suite)
  · rw [← @indent_none (_ ++ ">")]
    refine Tag.carries_start (by decide) ?_ 0 rfl
    exact .cons (escaped_shown (by decide)) (.cons (count_escaped (by decide)) (.cons (count_escaped (by decide))
      (.cons (count_escaped (by decide)) span_escaped)))
  · rw [← @indent_none "</testsuites>"]
    exact Tag.carries_end (by decide) 0 rfl

-- A report is read back as it was meant, whatever stands in its texts.
theorem render_read : Element.ofText? (render document) = some [runElement document] := by
  have text : (render document).toList = Element.written (lines document) ++ [] := by
    simp [render, Element.written, String.toList_join, List.flatMap_map]
  rw [Element.ofText?, text, spells_lines]
  rfl

namespace Element
variable {element : Element} {raw : String}

def property? (element : Element) (key : String) : Option String := element.properties.lookup key

-- The text of a property is what a terminal would print, and so is every text without controls.
def Says (element : Element) (key raw : String) : Prop :=
  element.property? key = some (Text.Terminal.strip raw) ∧
    (Text.Terminal.Printable raw → element.property? key = some raw)

theorem says_of (found : element.property? key = some (Text.Terminal.strip raw)) : element.Says key raw := by
  refine ⟨found, fun printable => ?_⟩
  rw [found, Text.Terminal.strip_printable printable]

-- A case says by its one part why it is no success.
def status? (element : Element) : Option Status :=
  match element.inner.map (·.name) with
  | [] => some .success
  | ["failure"] => some .failure
  | ["error"] => some .error
  | ["skipped"] => some .skipped
  | _ => none

-- How a case stands in a suite.
structure Shows (element : Element) (suite : String) (case : Case) : Prop where
  tag : element.name = "testcase"
  named : element.Says "name" case.name
  classed : element.Says "classname" suite
  status : element.status? = some case.status
  timed : ∀ span, case.span = some span → element.property? "timestamp" = some span.start.text ∧
    element.property? "time" = some (secondsText span.elapsed)

-- How a suite stands in a report.
structure Lists (element : Element) (document : Document) : Prop where
  tag : element.name = "testsuite"
  named : element.Says "name" document.suite
  cases : List.Forall₂ (·.Shows document.suite) element.inner document.cases
  tests : element.property? "tests" = some (toString document.cases.length)
  disabled : element.property? "disabled" = some (toString (count .skipped document.cases))
  errors : element.property? "errors" = some (toString (count .error document.cases))
  failures : element.property? "failures" = some (toString (count .failure document.cases))

theorem Shows.is {status : Status} (shows : element.Shows suite case) :
    element.status? = some status ↔ case.status = status := by
  rw [shows.status, Option.some.injEq]

theorem count_shown {entries : List Element} {cases : List Case} {status : Status}
    (shown : List.Forall₂ (·.Shows suite) entries cases) :
    entries.countP (·.status? = some status) = count status cases := by
  induction shown with
  | nil => rfl
  | cons shows _ ih =>
    rw [count, List.countP_cons, List.countP_cons, ih, count]
    simp only [shows.is]

end Element

-- What a text holds as a report: one suite, and the cases of the document in it.
def Holds (text : String) (document : Document) : Prop :=
  ∃ run suite, Element.ofText? text = some [run] ∧ run.name = "testsuites" ∧ run.Says "name" document.name ∧
    run.inner = [suite] ∧ suite.Lists document

theorem caseElement_shows : (caseElement suite case).Shows suite case := by
  refine ⟨rfl, Element.says_of rfl, Element.says_of rfl, ?_, ?_⟩
  · unfold caseElement statusElements
    cases case.status <;> rfl
  · intro span there
    rw [caseElement, there]
    exact ⟨rfl, rfl⟩

theorem suiteElement_lists : (suiteElement document).Lists document := by
  refine ⟨rfl, Element.says_of rfl, ?_, rfl, rfl, rfl, rfl⟩
  unfold suiteElement
  induction document.cases with
  | nil => exact .nil
  | cons case rest ih => exact .cons caseElement_shows ih

theorem render_holds : Holds (render document) document :=
  ⟨runElement document, suiteElement document, render_read, rfl, Element.says_of rfl, rfl, suiteElement_lists⟩

end Report
end TrialBench
