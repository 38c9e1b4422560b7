import Mathlib.Data.Option.Basic
import TrialBench.Proofs.Layers
namespace TrialBench.Settings

-- What a tree says where one value is asked for.
namespace Tree

def text? : Tree → Option String
  | .scalar value => some (scalarText value)
  | _ => none

def duration? (tree : Tree) : Option Duration := tree.text?.bind Duration.read?

def truth? : Tree → Option Bool
  | .scalar (.boolean value) => some value
  | .scalar (.integer value) => some (value ≠ 0)
  | .scalar (.real value) => some (¬ value.isZero)
  | .scalar (.text text) => Part.wordTruth? (Text.lowercase text)
  | _ => none

end Tree

theorem Checked.bind_ok {α β : Type} {x : Checked α} {f : α → Checked β} {result : β}
    (ran : (x >>= f) = .ok result) : ∃ value, x = .ok value ∧ f value = .ok result := by
  cases x with
  | error refusal => cases ran
  | ok value => exact ⟨value, rfl, ran⟩

theorem Checked.map_ok {α β : Type} {x : Checked α} {f : α → β} {result : β} (ran : f <$> x = .ok result) :
    ∃ value, x = .ok value ∧ f value = result := by
  cases x with
  | error refusal => cases ran
  | ok value => exact ⟨value, rfl, Except.ok.inj ran⟩

namespace Part
variable {part : Part}

theorem text_reads {text : String} (read : part.text = .ok text) : part.tree.text? = some text := by
  unfold Part.text at read
  split at read
  · rename_i value same
    rw [same]
    cases read
    rfl
  · cases read

theorem duration_reads {duration : Duration} (read : part.duration = .ok duration) :
    part.tree.duration? = some duration := by
  obtain ⟨text, reads, rest⟩ := Checked.bind_ok read
  unfold Tree.duration?
  rw [text_reads reads, Option.bind_some]
  split at rest
  · rename_i found
    cases rest
    exact found
  · cases rest

theorem boolean_reads {truth : Bool} (read : part.boolean = .ok truth) : part.tree.truth? = some truth := by
  unfold Part.boolean at read
  split at read
  case h_1 value same | h_2 value same | h_3 value same =>
    rw [same]
    cases read
    rfl
  case h_4 text same =>
    dsimp only at read
    rw [same]
    split at read
    · rename_i found
      cases read
      exact found
    · cases read
  case h_5 => cases read

theorem optional_reads {text : Option String} (given : part.tree ≠ .nothing) (read : part.optionalText = .ok text) :
    ∃ written, text = some written ∧ part.tree.text? = some written := by
  unfold Part.optionalText at read
  split at read
  · rename_i absent
    exact absurd absent given
  · obtain ⟨written, reads, rfl⟩ := Checked.map_ok read
    exact ⟨written, rfl, text_reads reads⟩

end Part

namespace Custom
variable {tree : Tree}

theorem text_reads {wanted : Wanted} {text : Option String} (given : tree ≠ .nothing)
    (read : Custom.text wanted tree = .ok text) : ∃ written, text = some written ∧ tree.text? = some written := by
  unfold Custom.text at read
  split at read
  · exact absurd rfl given
  · cases read
    exact ⟨_, rfl, rfl⟩
  · cases read

theorem boolean_reads {truth : Option Bool} (given : tree ≠ .nothing) (read : Custom.boolean tree = .ok truth) :
    ∃ value, truth = some value ∧ tree.truth? = some value := by
  unfold Custom.boolean at read
  split at read
  · exact absurd rfl given
  · cases read
    exact ⟨_, rfl, rfl⟩
  · cases read

theorem duration_reads {duration : Option Duration} (given : tree ≠ .nothing)
    (read : Custom.duration tree = .ok duration) :
    ∃ value, duration = some value ∧ tree.duration? = some value := by
  obtain ⟨text, ran, rest⟩ := Checked.bind_ok read
  obtain ⟨written, rfl, reads⟩ := text_reads given ran
  split at rest
  · rename_i absent
    cases absent
  · rename_i same
    cases same
    split at rest
    · rename_i value found
      cases rest
      refine ⟨value, rfl, ?_⟩
      unfold Tree.duration?
      rw [reads]
      exact found
    · cases rest

end Custom

section
variable {name other : String} {seen : Entries} {tree : Tree}

theorem lookup_latest (fresh : name ∉ seen.map (·.1)) : (seen ++ [(name, tree)]).lookup name = some tree := by
  have absent : seen.lookup name = none := by
    apply List.lookup_eq_none_iff.mpr
    intro entry member
    exact bne_iff_ne.mpr fun same => fresh (same ▸ List.mem_map_of_mem member)
  rw [List.lookup_append, absent, Option.none_or, lookup_named, if_pos rfl]

theorem lookup_earlier (apart : other ≠ name) : (seen ++ [(name, tree)]).lookup other = seen.lookup other := by
  rw [List.lookup_append, lookup_named, if_neg apart]
  exact Option.or_none

end

section
variable {tree : Tree} {key field : String}

theorem at_key : tree.at? [key] = tree.get? key := by
  unfold Tree.at?
  cases tree.get? key <;> rfl

theorem at_field : tree.at? [key, field] = (tree.get? key).bind (·.get? field) := by
  unfold Tree.at?
  cases tree.get? key with
  | none => rfl
  | some value => exact at_key

theorem table_of_key {value : Tree} (found : tree.get? key = some value) : tree.IsTable := by
  cases tree with
  | nothing | scalar | list => cases found
  | table => trivial

theorem at_section {value : Tree} {path : List String} (found : tree.at? (key :: path) = some value) :
    ∃ inner, tree.get? key = some inner ∧ inner.at? path = some value := Option.bind_eq_some_iff.mp found

end

-- A pass over the entries of a table. What holds of the entries seen so far goes on to
-- hold when the next one is read.
theorem foldlM_seen {α β : Type} {read : β → α → Checked β} {entry : α → String × Tree} {holds : Entries → β → Prop}
    (step : ∀ seen part found next, holds seen found → (entry part).1 ∉ seen.map (·.1) →
      (entry part).2 ≠ .nothing → Tidy (entry part).2 → read found part = .ok next → holds (seen ++ [entry part]) next)
    {parts : List α} {asWritten : Bool} {items : Entries} (listed : parts.map entry = items)
    (tidy : Tidy (.table asWritten items)) {start found : β} (begins : holds [] start)
    (ran : parts.foldlM read start = .ok found) : holds items found := by
  subst listed
  have whole (seen : Entries) (distinct : ((seen ++ parts.map entry).map (·.1)).Nodup) (before : holds seen start)
      (sound : ∀ part ∈ parts, (entry part).2 ≠ .nothing ∧ Tidy (entry part).2) :
      holds (seen ++ parts.map entry) found := by
    clear tidy begins
    induction parts generalizing seen start with
    | nil =>
      cases ran
      rwa [List.map_nil, List.append_nil]
    | cons part rest ih =>
      obtain ⟨next, reads, later⟩ := Checked.bind_ok ran
      obtain ⟨given, tidy⟩ := sound part List.mem_cons_self
      rw [List.map_cons, List.append_cons] at distinct ⊢
      have fresh : (entry part).1 ∉ seen.map (·.1) := by
        rw [List.append_assoc, List.map_append, List.nodup_append] at distinct
        exact fun member => distinct.2.2 _ member _ (by simp) rfl
      have now := step seen part start next before fresh given tidy reads
      exact ih later _ distinct now fun part member => sound part (List.mem_cons_of_mem _ member)
  cases tidy with
  | table distinct given under =>
    apply whole [] distinct begins
    exact fun part member => ⟨given _ (List.mem_map_of_mem member), under _ (List.mem_map_of_mem member)⟩

-- What stands under a key against what was noted of it.
def Noted {β : Type} (reading : Tree → Option β) (given : Option Tree) (noted : Option β) : Prop :=
  Option.Rel (fun tree value => reading tree = some value) given noted

theorem given_of_rel {β : Type} {agrees : Tree → β → Prop} {given : Option Tree} {value : β}
    (rel : Option.Rel agrees given (some value)) : ∃ tree, given = some tree ∧ agrees tree value := by
  cases rel with
  | some there => exact ⟨_, rfl, there⟩

section
variable {β : Type} {reading : Tree → Option β} {name other : String} {seen : Entries} {tree : Tree} {value : β}
  {noted : Option β}

theorem Noted.latest (fresh : name ∉ seen.map (·.1)) (reads : reading tree = some value) :
    Noted reading ((seen ++ [(name, tree)]).lookup name) (some value) := by
  rw [lookup_latest fresh]
  exact .some reads

theorem Noted.earlier (apart : other ≠ name) (before : Noted reading (seen.lookup other) noted) :
    Noted reading ((seen ++ [(name, tree)]).lookup other) noted := by
  rwa [lookup_earlier apart]

end

-- The parts of a record that is given as a table are its entries.
theorem parts_seen {β : Type} {record : Record} {place : Place} {tree : Tree} {parts : List Part}
    {read : β → Part → Checked β} {holds : Entries → β → Prop}
    (step : ∀ seen part found next, holds seen found → part.name ∉ seen.map (·.1) → part.tree ≠ .nothing →
      Tidy part.tree → read found part = .ok next → holds (seen ++ [(part.name, part.tree)]) next)
    (tidy : Tidy tree) (table : tree.IsTable) (listed : record.parts place tree = .ok parts) {start found : β}
    (begins : holds [] start) (ran : parts.foldlM read start = .ok found) : holds tree.entries found := by
  cases tree with
  | nothing | scalar | list => exact table.elim
  | table asWritten items =>
    cases listed
    refine @foldlM_seen _ _ _ (fun part : Part => (part.name, part.tree)) _ step _ _ _ ?_ tidy _ _ begins ran
    rw [List.map_map]
    exact List.map_id _

theorem lacking_refuses {α : Type} {record : Record} {place : Place} {tree : Tree} {field : String} {value : α} :
    record.lacking place tree field ≠ .ok value := by
  intro same
  unfold Record.lacking at same
  split at same <;> cases same

theorem readStore_reads {place : Place} {tree : Tree} {dir : String} (tidy : Tidy tree) (table : tree.IsTable)
    (read : readStore place tree = .ok dir) : Noted Tree.text? (tree.get? "dir") (some dir) := by
  obtain ⟨parts, listed, rest⟩ := Checked.bind_ok read
  obtain ⟨found, ran, ends⟩ := Checked.bind_ok rest
  have noted : Noted Tree.text? (tree.get? "dir") found := by
    refine @parts_seen _ _ _ _ _ _ (fun seen found => Noted Tree.text? (seen.lookup "dir") found) ?_ tidy table listed
      _ _ .none ran
    intro seen part found next before fresh given tidy step
    split at step
    · rename_i named
      obtain ⟨text, reads, same⟩ := Checked.bind_ok step
      cases same
      rw [named] at fresh ⊢
      exact .latest fresh (Part.text_reads reads)
    · rename_i apart
      cases step
      exact .earlier (Ne.symm apart) before
  split at ends
  · cases ends
    exact noted
  · exact absurd ends lacking_refuses

-- What was noted of a report, from as much of it as was seen.
structure ReportSeen (seen : Entries) (path name : Option String) : Prop where
  path : Noted Tree.text? (seen.lookup "path") path
  name : Noted Tree.text? (seen.lookup "report-name") name

-- What was noted of a profile but for its report.
structure RulesSeen (seen : Entries) (timeout : Option Duration) (failFast : Option Bool) : Prop where
  timeout : Noted Tree.duration? (seen.lookup "message-timeout") timeout
  failFast : Noted Tree.truth? (seen.lookup "fail-fast") failFast

section
variable {seen : Entries} {path reportName : Option String} {timeout : Option Duration} {failFast : Option Bool}
  {name : String} {tree : Tree}

theorem ReportSeen.path_next {text : String} (report : ReportSeen seen path reportName)
    (fresh : "path" ∉ seen.map (·.1))
    (reads : tree.text? = some text) : ReportSeen (seen ++ [("path", tree)]) (some text) reportName :=
  ⟨.latest fresh reads, .earlier (by decide) report.name⟩

theorem ReportSeen.name_next {text : String} (report : ReportSeen seen path reportName)
    (fresh : "report-name" ∉ seen.map (·.1)) (reads : tree.text? = some text) :
    ReportSeen (seen ++ [("report-name", tree)]) path (some text) :=
  ⟨.earlier (by decide) report.path, .latest fresh reads⟩

theorem ReportSeen.other_next (report : ReportSeen seen path reportName) (first : name ≠ "path")
    (second : name ≠ "report-name") : ReportSeen (seen ++ [(name, tree)]) path reportName :=
  ⟨.earlier (Ne.symm first) report.path, .earlier (Ne.symm second) report.name⟩

theorem RulesSeen.timeout_next {value : Duration} (rules : RulesSeen seen timeout failFast)
    (fresh : "message-timeout" ∉ seen.map (·.1)) (reads : tree.duration? = some value) :
    RulesSeen (seen ++ [("message-timeout", tree)]) (some value) failFast :=
  ⟨.latest fresh reads, .earlier (by decide) rules.failFast⟩

theorem RulesSeen.failFast_next {value : Bool} (rules : RulesSeen seen timeout failFast)
    (fresh : "fail-fast" ∉ seen.map (·.1)) (reads : tree.truth? = some value) :
    RulesSeen (seen ++ [("fail-fast", tree)]) timeout (some value) :=
  ⟨.earlier (by decide) rules.timeout, .latest fresh reads⟩

theorem RulesSeen.other_next (rules : RulesSeen seen timeout failFast) (first : name ≠ "message-timeout")
    (second : name ≠ "fail-fast") : RulesSeen (seen ++ [(name, tree)]) timeout failFast :=
  ⟨.earlier (Ne.symm first) rules.timeout, .earlier (Ne.symm second) rules.failFast⟩

end

theorem readReport_reads {place : Place} {tree : Tree} {path : Option String} {name : String} (tidy : Tidy tree)
    (table : tree.IsTable) (read : readReport place tree = .ok (path, name)) :
    ReportSeen tree.entries path (some name) := by
  obtain ⟨parts, listed, rest⟩ := Checked.bind_ok read
  obtain ⟨found, ran, ends⟩ := Checked.bind_ok rest
  have noted : ReportSeen tree.entries found.1 found.2 := by
    refine @parts_seen _ _ _ _ _ _ (fun seen (found : Option String × Option String) =>
      ReportSeen seen found.1 found.2) ?_ tidy table listed (none, none) _ ⟨.none, .none⟩ ran
    intro seen part found next report fresh given tidy step
    split at step
    · rename_i named
      obtain ⟨text, reads, same⟩ := Checked.bind_ok step
      obtain ⟨written, rfl, writes⟩ := Part.optional_reads given reads
      cases same
      rw [named] at fresh ⊢
      exact report.path_next fresh writes
    · rename_i named
      obtain ⟨text, reads, same⟩ := Checked.bind_ok step
      cases same
      rw [named] at fresh ⊢
      exact report.name_next fresh (Part.text_reads reads)
    · rename_i first second
      cases step
      exact report.other_next first second
  split at ends
  · cases ends
    exact noted
  · exact absurd ends lacking_refuses

structure BaseSeen (seen : Entries) (found : BaseFound) : Prop where
  rules : RulesSeen seen found.timeout found.failFast
  report : Option.Rel (fun tree found => tree.IsTable → ReportSeen tree.entries found.1 (some found.2))
    (seen.lookup "junit") found.report

-- What was noted of a profile, by what is given for its settings.
structure ProfileNoted (given : List String → Option Tree) (noted : CustomProfile) : Prop where
  timeout : Noted Tree.duration? (given ["message-timeout"]) noted.timeout
  failFast : Noted Tree.truth? (given ["fail-fast"]) noted.failFast
  path : Noted Tree.text? (given ["junit", "path"]) noted.reportPath
  name : Noted Tree.text? (given ["junit", "report-name"]) noted.reportName

-- A base profile leaves open nothing but the path of its report.
def BaseProfile.given (base : BaseProfile) : CustomProfile :=
  ⟨some base.timeout, some base.failFast, base.reportPath, some base.reportName⟩

theorem readBase_reads {place : Place} {tree : Tree} {base : BaseProfile} (tidy : Tidy tree) (table : tree.IsTable)
    (report : ∀ report, tree.get? "junit" = some report → report.IsTable) (read : readBase place tree = .ok base) :
    ProfileNoted (tree.at? ·) base.given := by
  obtain ⟨parts, listed, rest⟩ := Checked.bind_ok read
  obtain ⟨found, ran, ends⟩ := Checked.bind_ok rest
  have noted : BaseSeen tree.entries found := by
    refine @parts_seen _ _ _ _ _ _ BaseSeen ?_ tidy table listed ⟨none, none, none⟩ _ ⟨⟨.none, .none⟩, .none⟩ ran
    rintro seen part found next ⟨rules, report⟩ fresh given tidy step
    split at step
    · rename_i named
      obtain ⟨duration, reads, same⟩ := Checked.bind_ok step
      cases same
      rw [named] at fresh ⊢
      refine ⟨rules.timeout_next fresh (Part.duration_reads reads), ?_⟩
      rwa [lookup_earlier (by decide)]
    · rename_i named
      obtain ⟨truth, reads, same⟩ := Checked.bind_ok step
      cases same
      rw [named] at fresh ⊢
      refine ⟨rules.failFast_next fresh (Part.boolean_reads reads), ?_⟩
      rwa [lookup_earlier (by decide)]
    · rename_i named
      obtain ⟨found, reads, same⟩ := Checked.bind_ok step
      cases same
      rw [named] at fresh ⊢
      refine ⟨rules.other_next (by decide) (by decide), ?_⟩
      rw [lookup_latest fresh]
      exact .some fun table => readReport_reads tidy table reads
    · rename_i first second third
      cases step
      refine ⟨rules.other_next first second, ?_⟩
      rwa [lookup_earlier (Ne.symm third)]
  obtain ⟨⟨timeout, failFast⟩, reports⟩ := noted
  split at ends
  · exact absurd ends lacking_refuses
  · exact absurd ends lacking_refuses
  · exact absurd ends lacking_refuses
  · cases ends
    obtain ⟨written, given, there⟩ := given_of_rel reports
    obtain ⟨path, name⟩ := there (report written given)
    have inside (field : String) : tree.at? ["junit", field] = written.get? field := by
      rw [at_field]
      exact congrArg (Option.bind · _) given
    exact ⟨at_key ▸ timeout, at_key ▸ failFast, inside _ ▸ path, inside _ ▸ name⟩

theorem Custom.readReport_reads {tree : Tree} {path name : Option String} (tidy : Tidy tree) (table : tree.IsTable)
    (read : Custom.readReport tree = .ok (path, name)) : ReportSeen tree.entries path name := by
  obtain ⟨parts, listed, rest⟩ := Checked.bind_ok read
  obtain ⟨found, ran, ends⟩ := Checked.bind_ok rest
  obtain ⟨_, -, same⟩ := Checked.bind_ok ends
  cases same
  refine @parts_seen _ _ _ _ _ _ (fun seen (found : Option String × Option String) =>
    ReportSeen seen found.1 found.2) ?_ tidy table listed (none, none) _ ⟨.none, .none⟩ ran
  intro seen part found next report fresh given tidy step
  split at step
  · rename_i named
    obtain ⟨text, reads, same⟩ := Checked.bind_ok step
    obtain ⟨written, rfl, writes⟩ := Custom.text_reads given reads
    cases same
    rw [named] at fresh ⊢
    exact report.path_next fresh writes
  · rename_i named
    obtain ⟨text, reads, same⟩ := Checked.bind_ok step
    obtain ⟨written, rfl, writes⟩ := Custom.text_reads given reads
    cases same
    rw [named] at fresh ⊢
    exact report.name_next fresh writes
  · rename_i first second
    cases step
    exact report.other_next first second

-- A custom profile need not have a report, and nothing is noted of one that it has not.
structure CustomSeen (seen : Entries) (found : CustomProfile) : Prop where
  rules : RulesSeen seen found.timeout found.failFast
  report : (∀ report, seen.lookup "junit" = some report → report.IsTable) →
    ReportSeen ((seen.lookup "junit").elim [] Tree.entries) found.reportPath found.reportName

theorem Custom.read_reads {tree : Tree} {custom : CustomProfile} (tidy : Tidy tree) (table : tree.IsTable)
    (report : ∀ report, tree.get? "junit" = some report → report.IsTable) (read : Custom.read tree = .ok custom) :
    ProfileNoted (tree.at? ·) custom := by
  obtain ⟨parts, listed, rest⟩ := Checked.bind_ok read
  obtain ⟨found, ran, ends⟩ := Checked.bind_ok rest
  obtain ⟨_, -, same⟩ := Checked.bind_ok ends
  cases same
  have noted : CustomSeen tree.entries custom := by
    refine @parts_seen _ _ _ _ _ _ CustomSeen ?_ tidy table listed ⟨none, none, none, none⟩ _
      ⟨⟨.none, .none⟩, fun _ => ⟨.none, .none⟩⟩ ran
    rintro seen part found next ⟨rules, report⟩ fresh given tidy step
    split at step
    · rename_i named
      obtain ⟨duration, reads, same⟩ := Checked.bind_ok step
      obtain ⟨written, rfl, writes⟩ := Custom.duration_reads given reads
      cases same
      rw [named] at fresh ⊢
      refine ⟨rules.timeout_next fresh writes, ?_⟩
      rwa [lookup_earlier (by decide)]
    · rename_i named
      obtain ⟨truth, reads, same⟩ := Checked.bind_ok step
      obtain ⟨written, rfl, writes⟩ := Custom.boolean_reads given reads
      cases same
      rw [named] at fresh ⊢
      refine ⟨rules.failFast_next fresh writes, ?_⟩
      rwa [lookup_earlier (by decide)]
    · rename_i named
      obtain ⟨found, reads, same⟩ := Checked.bind_ok step
      cases same
      rw [named] at fresh ⊢
      refine ⟨rules.other_next (by decide) (by decide), ?_⟩
      rw [lookup_latest fresh]
      intro tables
      exact Custom.readReport_reads tidy (tables _ rfl) reads
    · rename_i first second third
      cases step
      refine ⟨rules.other_next first second, ?_⟩
      rwa [lookup_earlier (Ne.symm third)]
  obtain ⟨path, name⟩ := noted.report report
  have inside (field : String) :
      tree.at? ["junit", field] = ((tree.get? "junit").elim [] Tree.entries).lookup field := by
    rw [at_field]
    cases tree.get? "junit" <;> rfl
  exact ⟨at_key ▸ noted.rules.timeout, at_key ▸ noted.rules.failFast, inside _ ▸ path, inside _ ▸ name⟩

section
variable {α β : Type} {name : String} {named first second : List (String × α)}

theorem lookup_of_member (distinct : (named.map (·.1)).Nodup) {value : α} (member : (name, value) ∈ named) :
    named.lookup name = some value := by
  induction named with
  | nil => cases member
  | cons entry rest ih =>
    obtain ⟨other, old⟩ := entry
    obtain ⟨fresh, distinct⟩ := List.nodup_cons.mp distinct
    rw [lookup_named]
    rcases List.mem_cons.mp member with same | later
    · cases same
      exact if_pos rfl
    · rw [if_neg, ih distinct later]
      intro same
      exact fresh (List.mem_map.mpr ⟨_, later, same⟩)

-- In what order things with different names are listed makes no difference to a lookup.
theorem lookup_perm (perm : first.Perm second) (distinct : (first.map (·.1)).Nodup) :
    second.lookup name = first.lookup name := by
  have distinct' : (second.map (·.1)).Nodup := (perm.map _).nodup_iff.mp distinct
  cases there : first.lookup name with
  | some value => exact lookup_of_member distinct' (perm.mem_iff.mp (lookup_member there))
  | none =>
    cases here : second.lookup name with
    | none => rfl
    | some value =>
      have found := lookup_of_member distinct (perm.mem_iff.mpr (lookup_member here))
      cases there.symm.trans found

theorem lookup_filter {kept : String → Bool} (keeps : kept name = true) :
    (named.filter fun entry => kept entry.1).lookup name = named.lookup name := by
  induction named with
  | nil => rfl
  | cons entry rest ih =>
    obtain ⟨other, value⟩ := entry
    rw [List.filter_cons, lookup_named]
    by_cases same : name = other
    · subst same
      rw [if_pos keeps, lookup_named, if_pos rfl, if_pos rfl]
    · rw [if_neg same]
      split
      · rw [lookup_named, if_neg same, ih]
      · exact ih

end

-- Each entry is read under its own name.
theorem mapM_named {β : Type} {read : Tree → Checked β} {items : Entries} {results : List (String × β)}
    (ran : (items.mapM fun (name, tree) => do return (name, ← read tree) : Checked _) = .ok results) :
    results.map (·.1) = items.map (·.1) ∧
      ∀ name, Option.Rel (fun tree value => read tree = .ok value) (items.lookup name) (results.lookup name) := by
  induction items generalizing results with
  | nil =>
    cases ran
    exact ⟨rfl, fun name => .none⟩
  | cons entry rest ih =>
    obtain ⟨other, tree⟩ := entry
    rw [List.mapM_cons] at ran
    obtain ⟨result, first, ran⟩ := Checked.bind_ok ran
    obtain ⟨results, later, ends⟩ := Checked.bind_ok ran
    obtain ⟨value, reads, same⟩ := Checked.bind_ok first
    cases same
    cases ends
    obtain ⟨names, looked⟩ := ih later
    refine ⟨congrArg _ names, fun name => ?_⟩
    rw [lookup_named, lookup_named]
    by_cases same : name = other
    · rw [if_pos same, if_pos same]
      exact .some reads
    · rw [if_neg same, if_neg same]
      exact looked name

theorem readProfiles_reads {place : Place} {tree : Tree} {base : BaseProfile} {custom : List (String × CustomProfile)}
    (tidy : Tidy tree) (read : readProfiles place tree = .ok (base, custom)) :
    tree.IsTable ∧ (∃ written, tree.get? baseName = some written ∧
        readBase (place ++ [.key baseName]) written = .ok base) ∧
      ∀ name, name ≠ baseName →
        Option.Rel (fun tree profile => Custom.read tree = .ok profile) (tree.get? name) (custom.lookup name) := by
  cases tidy with
  | nothing | scalar | list => cases read
  | @table asWritten items distinct given under =>
    cases found : items.lookup baseName with
    | none =>
      simp only [readProfiles, found] at read
      cases read
    | some written =>
      simp only [readProfiles, found] at read
      obtain ⟨_, first, read⟩ := Checked.bind_ok read
      obtain ⟨results, later, ends⟩ := Checked.bind_ok read
      cases ends
      obtain ⟨names, looked⟩ := mapM_named later
      refine ⟨trivial, ⟨written, found, first⟩, ?_⟩
      intro name apart
      have kept : (items.filter fun entry => decide (entry.1 ≠ baseName)).lookup name = items.lookup name :=
        @lookup_filter _ name items (fun name => decide (name ≠ baseName)) (decide_eq_true apart)
      have unmixed : (results.map (·.1)).Nodup := by
        rw [names]
        exact distinct.sublist (List.filter_sublist.map _)
      have sorted : (sortByName results).lookup name = results.lookup name :=
        lookup_perm (List.mergeSort_perm _ _).symm unmixed
      have there := looked name
      rw [kept] at there
      rw [sorted]
      exact there

-- What was noted of all settings.
structure ValuesNoted (given : Entries) (found : ValuesFound) : Prop where
  store : Option.Rel (fun tree dir => readStore [.key "store"] tree = .ok dir) (given.lookup "store") found.storeDir
  profiles : Option.Rel (fun tree read => readProfiles [.key "profile"] tree = .ok read) (given.lookup "profile")
    found.profiles

theorem readValues_reads {tree : Tree} {values : Values} (tidy : Tidy tree) (read : readValues tree = .ok values) :
    (∃ store, tree.get? "store" = some store ∧ readStore [.key "store"] store = .ok values.storeDir) ∧
      ∃ profiles, tree.get? "profile" = some profiles ∧
        readProfiles [.key "profile"] profiles = .ok (values.base, values.custom) := by
  obtain ⟨found, ran, ends⟩ := Checked.bind_ok read
  have noted : ValuesNoted tree.entries found := by
    cases tree with
    | nothing | scalar | list =>
      cases ran
      exact ⟨.none, .none⟩
    | table asWritten items =>
      refine foldlM_seen ?_ (List.map_id items) tidy ⟨.none, .none⟩ ran
      rintro seen ⟨name, tree⟩ found next ⟨store, profiles⟩ fresh given tidy step
      simp only [id] at fresh step ⊢
      split at step
      · obtain ⟨dir, reads, same⟩ := Checked.bind_ok step
        cases same
        constructor
        · rw [lookup_latest fresh]
          exact .some reads
        · rwa [lookup_earlier (by decide)]
      · obtain ⟨read, reads, same⟩ := Checked.bind_ok step
        cases same
        constructor
        · rwa [lookup_earlier (by decide)]
        · rw [lookup_latest fresh]
          exact .some reads
      · rename_i first second
        cases step
        constructor
        · rwa [lookup_earlier (Ne.symm first)]
        · rwa [lookup_earlier (Ne.symm second)]
  split at ends
  · cases ends
  · cases ends
  · cases ends
    obtain ⟨store, first, reads⟩ := given_of_rel noted.store
    obtain ⟨profiles, second, reads'⟩ := given_of_rel noted.profiles
    exact ⟨⟨store, first, reads⟩, profiles, second, reads'⟩

end TrialBench.Settings
