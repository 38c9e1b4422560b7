import TrialBench.Proofs.RunMoves
namespace TrialBench

def Phase.Working : Phase → Prop
  | .clear _ | .body _ _ => True
  | _ => False

namespace Run

-- A run's own steps, newest first, from the moment that its outcome was reset. Others
-- may have acted between any two of them.
inductive Course (test : Nat) : List (World × Phase) → Phase → Prop where
  | restarted {body : List BodyStep} : Course test [] (.clear body)
  | moved {own : List (World × Phase)} {w v : World} {p p' : Phase}
      (earlier : Course test own p) (moves : Moves test w p v p') : Course test ((w, p) :: own) p'

variable {test : Nat} {own : List (World × Phase)} {p : Phase}

theorem Course.working (course : Course test own p) (early : p.Working ∨ ∃ error, p = .returned error) :
    ∀ step ∈ own, step.2.Working := by
  induction course with
  | restarted => intro step member; cases member
  | @moved own w v p p' earlier moves ih =>
    have before : p.Working := by
      cases moves with
      | start | clear | op | mark | holds | fails | silent | gated | ignored | refused | observe | stop |
        act | exhausted => trivial
      | _ => rcases early with working | ⟨error, same⟩ <;> first | exact working.elim | cases same
    intro step member
    rcases List.mem_cons.mp member with rfl | old
    · exact before
    · exact ih (.inl before) step old

theorem Course.waiting {gate deadline : Nat} {waited : Duration}
    (course : Course test own (.waiting gate deadline waited)) :
    ∃ w cell before, own = (w, .returned none) :: before ∧ w.test? test = some cell ∧
      cell.gate = some gate ∧ waited = cell.timeout ∧ deadline = w.clock + waitMillis cell.timeout ∧
      ∀ step ∈ before, step.2.Working := by
  cases course with
  | moved earlier moves =>
    cases moves with
    | awaits found held => exact ⟨_, _, _, rfl, found, held, rfl, rfl, earlier.working (.inr ⟨none, rfl⟩)⟩

theorem Course.ended {how : WaitEnd} (course : Course test own (.ended how)) :
    ∃ w v gate deadline waited before, own = (w, .waiting gate deadline waited) :: before ∧
      Moves test w (.waiting gate deadline waited) v (.ended how) ∧
      Course test before (.waiting gate deadline waited) := by
  cases course with
  | moved earlier moves =>
    cases moves with
    | released opened => exact ⟨_, _, _, _, _, _, rfl, .released opened, earlier⟩
    | canceled closed pending => exact ⟨_, _, _, _, _, _, rfl, .canceled closed pending, earlier⟩
    | timedOut closed quiet late => exact ⟨_, _, _, _, _, _, rfl, .timedOut closed quiet late, earlier⟩

theorem Course.stopped {error : ErrorChain} (course : Course test own (.returned (some error))) :
    ∃ w before rest, own = (w, .body [] (.stop error :: rest)) :: before ∨
      w.newChannel.2 = .error error ∧ ∃ enable, own = (w, .body [] (.prepare enable false :: rest)) :: before := by
  cases course with
  | moved earlier moves =>
    cases moves with
    | stop => exact ⟨_, _, _, .inl rfl⟩
    | refused failed => exact ⟨_, _, _, .inr ⟨by rw [failed], _, rfl⟩⟩

theorem Course.exhausted (course : Course test own (.returned none)) :
    ∃ w before, own = (w, .body [] []) :: before := by
  cases course with
  | moved earlier moves =>
    cases moves with
    | exhausted => exact ⟨_, _, rfl⟩

theorem Course.reading (course : Course test own .reading) :
    (∃ w error before, own = (w, .returned error) :: before ∧ Course test before (.returned error) ∧
      (w.test? test = none ∨ ∃ cell, w.test? test = some cell ∧ error = none ∧ cell.gate = none)) ∨
    (∃ w before, own = (w, .ended .released) :: before ∧ Course test before (.ended .released)) ∨
    ∃ w v how before, own = (w, .noted how) :: (v, .ended how) :: before ∧ how ≠ .released ∧
      Course test before (.ended how) := by
  cases course with
  | moved earlier moves =>
    cases moves with
    | absent lost => exact .inl ⟨_, _, _, rfl, earlier, .inl lost⟩
    | ungated found noGate => exact .inl ⟨_, _, _, rfl, earlier, .inr ⟨_, found, rfl, noGate⟩⟩
    | passed => exact .inr (.inl ⟨_, _, rfl, earlier⟩)
    | toldTimeout | toldCancel | toldNothing =>
      cases earlier with
      | moved earlier moves =>
        cases moves with
        | failed missed => exact .inr (.inr ⟨_, _, _, _, rfl, missed, earlier⟩)

end Run
end TrialBench
