import Diplomacy.Proofs.Run.Pulls

namespace Diplomacy

variable {A B : Type}

/-- Every item of the run has the property, whether or not it is ever pulled. -/
def Run.Every (holds : A → Prop) : Run A → Prop
  | .stop => True
  | .fail _ => True
  | .note _ next => (next ()).Every holds
  | .emit item next => holds item ∧ (next ()).Every holds

variable {holds : A → Prop} {run : Run A}

/-- A single item has a property if the run of it has. -/
theorem Run.every_one {item : A} (holding : holds item) : (Run.one item).Every holds :=
  ⟨holding, trivial⟩

/-- A run of at most one item has a property if the item has it. -/
theorem Run.every_ofOption {found : Option A} (holding : ∀ item, found = some item → holds item) :
    (Run.ofOption found).Every holds := by
  cases found with
  | none => trivial
  | some item => exact Run.every_one (holding item rfl)

/-- The items of a run are the items of its transcript. -/
theorem Run.every_iff_transcript :
    run.Every holds ↔ ∀ item ∈ run.transcript.items, holds item := by
  induction run with
  | stop => simp [Run.Every, Transcript.empty]
  | fail failure => simp [Run.Every, Transcript.fail]
  | note event next ih => exact ih ()
  | emit item next ih => simp [Run.Every, Transcript.cons, ih ()]

/-- What follows from a property of every item holds of every item. -/
theorem Run.Every.imp {other : A → Prop} (every : run.Every holds)
    (implies : ∀ item, holds item → other item) : run.Every other := by
  rw [Run.every_iff_transcript] at every ⊢
  intro item member
  exact implies item (every item member)

/-- A property of the items of both parts is one of the whole run. -/
theorem Run.Every.append {second : Unit → Run A} (every : run.Every holds)
    (later : (second ()).Every holds) : (run.append second).Every holds := by
  induction run with
  | stop => exact later
  | fail failure => trivial
  | note event next ih => exact ih () every
  | emit item next ih => exact ⟨every.1, ih () every.2⟩

/-- If every item is followed by a run with the property, then the whole run has it. -/
theorem Run.Every.bind {wanted : B → Prop} {follow : A → Run B}
    (every : run.Every fun item => (follow item).Every wanted) :
    (run.bind follow).Every wanted := by
  induction run with
  | stop => trivial
  | fail failure => trivial
  | note event next ih => exact ih () every
  | emit item next ih => exact every.1.append (ih () every.2)

/-- A property of the changed items is one of the changed run. -/
theorem Run.Every.map {wanted : B → Prop} {change : A → B}
    (every : run.Every fun item => wanted (change item)) : (run.map change).Every wanted := by
  rw [Run.map_eq_bind]
  exact (every.imp fun item holding => Run.every_one holding).bind

/-- The only item of an answer is its result. -/
theorem Run.every_ofAnswer {answer : Answer A}
    (holding : ∀ item, answer.result = .ok item → holds item) :
    (Run.ofAnswer answer).Every holds := by
  rw [Run.every_iff_transcript, Run.transcript_ofAnswer]
  intro item member
  cases reached : answer.result with
  | error failure => simp [reached, Transcript.ofExcept, Transcript.fail] at member
  | ok value =>
      obtain rfl : item = value := by
        simpa [reached, Transcript.ofExcept, Transcript.one] using member
      exact holding item reached

/-- One pull gives an item with the property and leaves a run that has it. -/
theorem Run.Every.pull (every : run.Every holds) :
    (∀ item, run.pull.answer.result = .ok (some item) → holds item) ∧
      (run.pull.rest ()).Every holds := by
  induction run with
  | stop => exact ⟨nofun, trivial⟩
  | fail failure => exact ⟨nofun, trivial⟩
  | note event next ih =>
      rw [Run.pull_note]
      exact ih () every
  | emit item next ih =>
      refine ⟨?_, every.2⟩
      intro given pulled
      obtain rfl : item = given := by simpa using pulled
      exact every.1

/-- However often a run is pulled, no item without the property comes out. -/
theorem Run.Every.pulls {suspended : Suspended A} (every : (suspended ()).Every holds)
    (count : Nat) (item : A) (pulled : .ok (some item) ∈ Suspended.pulls count suspended) :
    holds item := by
  induction count generalizing suspended with
  | zero => cases pulled
  | succ more ih =>
      obtain ⟨given, remaining⟩ := every.pull
      rcases List.mem_cons.1 pulled with now | later
      · exact given item now.symm
      · exact ih remaining later

end Diplomacy
