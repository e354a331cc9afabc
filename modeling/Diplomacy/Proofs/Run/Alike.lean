import Diplomacy.Proofs.Run.Pulls
import Mathlib.Data.List.Forall2

namespace Diplomacy

variable {A B C D : Type}

/-- Two runs keep step. The same events happen at the same moments, the items correspond one by
one, and both runs end in the same way. -/
inductive Run.Alike (related : A → B → Prop) : Run A → Run B → Prop where
  | stop : Run.Alike related .stop .stop
  | fail (failure : Failure) : Run.Alike related (.fail failure) (.fail failure)
  | note (event : Event) {next : Unit → Run A} {later : Unit → Run B}
      (alike : Run.Alike related (next ()) (later ())) :
      Run.Alike related (.note event next) (.note event later)
  | emit {item : A} {other : B} {next : Unit → Run A} {later : Unit → Run B}
      (correspond : related item other) (alike : Run.Alike related (next ()) (later ())) :
      Run.Alike related (.emit item next) (.emit other later)

/-- Two pulls give items that correspond, or both find the end, or both fail for one cause. -/
inductive Agree (related : A → B → Prop) :
    Except Failure (Option A) → Except Failure (Option B) → Prop where
  | item {item : A} {other : B} (correspond : related item other) :
      Agree related (.ok (some item)) (.ok (some other))
  | ended : Agree related (.ok none) (.ok none)
  | failed (failure : Failure) : Agree related (.error failure) (.error failure)

/-- However often two iterators are pulled, their answers agree pull by pull, every counter has
got the same value, and the same records have got into the log. -/
structure Suspended.Alike (related : A → B → Prop) (first : Suspended A)
    (second : Suspended B) : Prop where
  answers : ∀ count, List.Forall₂ (Agree related) (Suspended.pulls count first)
    (Suspended.pulls count second)
  counters : ∀ count counter, tally (Suspended.pullEvents count first) counter =
    tally (Suspended.pullEvents count second) counter
  log : ∀ count, records (Suspended.pullEvents count first) =
    records (Suspended.pullEvents count second)

section Congruence

variable {related : A → B → Prop} {wanted : C → D → Prop}

/-- Runs of one item each are alike if the items correspond. -/
theorem Run.Alike.one {item : A} {other : B} (correspond : related item other) :
    Run.Alike related (.one item) (.one other) :=
  .emit correspond .stop

/-- A run is like itself if every item is. -/
theorem Run.Alike.refl {like : A → A → Prop} (same : ∀ item, like item item) (run : Run A) :
    Run.Alike like run run := by
  induction run with
  | stop => exact .stop
  | fail failure => exact .fail failure
  | note event next ih => exact .note event (ih ())
  | emit item next ih => exact .emit (same item) (ih ())

/-- Runs that continue alike runs in a like way are alike. -/
theorem Run.Alike.append {first : Run A} {second : Run B} {next : Unit → Run A}
    {later : Unit → Run B} (alike : Run.Alike related first second)
    (after : Run.Alike related (next ()) (later ())) :
    Run.Alike related (first.append next) (second.append later) := by
  induction alike with
  | stop => exact after
  | fail failure => exact .fail failure
  | note event alike ih => exact .note event ih
  | emit correspond alike ih => exact .emit correspond ih

/-- If corresponding items are followed by runs that keep step, then the whole runs keep step. -/
theorem Run.Alike.bind {first : Run A} {second : Run B} {follow : A → Run C} {pursue : B → Run D}
    (alike : Run.Alike related first second)
    (step : ∀ item other, related item other → Run.Alike wanted (follow item) (pursue other)) :
    Run.Alike wanted (first.bind follow) (second.bind pursue) := by
  induction alike with
  | stop => exact .stop
  | fail failure => exact .fail failure
  | note event alike ih => exact .note event ih
  | emit correspond alike ih => exact (step _ _ correspond).append ih

/-- One run may be followed in two ways. -/
theorem Run.Alike.bind_self (run : Run A) {follow : A → Run C} {pursue : A → Run D}
    (step : ∀ item, Run.Alike wanted (follow item) (pursue item)) :
    Run.Alike wanted (run.bind follow) (run.bind pursue) := by
  apply (Run.Alike.refl (fun _ => rfl) run).bind
  rintro item other rfl
  exact step item

end Congruence

section Pulled

variable {related : A → B → Prop}

/-- One pull of each run makes the same events happen, gives answers that agree, and leaves runs
that keep step. -/
theorem Run.Alike.pull {first : Run A} {second : Run B} (alike : Run.Alike related first second) :
    first.pull.answer.events = second.pull.answer.events ∧
      Agree related first.pull.answer.result second.pull.answer.result ∧
      Run.Alike related (first.pull.rest ()) (second.pull.rest ()) := by
  induction alike with
  | stop => exact ⟨rfl, .ended, .stop⟩
  | fail failure => exact ⟨rfl, .failed failure, .stop⟩
  | note event alike ih =>
      obtain ⟨events, answers, rest⟩ := ih
      rw [Run.pull_note, Run.pull_note]
      exact ⟨congrArg ([event] ++ ·) events, answers, rest⟩
  | emit correspond alike ih => exact ⟨rfl, .item correspond, alike⟩

/-- Alike runs give corresponding answers to every pull, and the same happens during it. -/
theorem Run.Alike.pulls {first : Suspended A} {second : Suspended B}
    (alike : Run.Alike related (first ()) (second ())) (count : Nat) :
    List.Forall₂ (Agree related) (Suspended.pulls count first) (Suspended.pulls count second) ∧
      Suspended.pullEvents count first = Suspended.pullEvents count second := by
  induction count generalizing first second with
  | zero => exact ⟨.nil, rfl⟩
  | succ more ih =>
      obtain ⟨events, answers, rest⟩ := alike.pull
      obtain ⟨laterAnswers, laterEvents⟩ := ih rest
      exact ⟨.cons answers laterAnswers, congrArg₂ (· ++ ·) events laterEvents⟩

/-- A consumer sees no difference between runs that keep step. -/
theorem Run.Alike.suspended {first : Suspended A} {second : Suspended B}
    (alike : Run.Alike related (first ()) (second ())) : Suspended.Alike related first second where
  answers count := (alike.pulls count).1
  counters count counter := by rw [(alike.pulls count).2]
  log count := by rw [(alike.pulls count).2]

end Pulled

end Diplomacy
