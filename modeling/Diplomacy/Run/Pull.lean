/-
This file takes items from runs, one by one or many at once.
-/

import Diplomacy.Run.Basic

namespace Diplomacy

variable {A B : Type}

/-- A suspended run has not been examined yet, and nothing of it is computed before a pull. -/
abbrev Suspended (A : Type) := Unit → Run A

/-- An ended or failed run stays ended. -/
def Suspended.ended : Suspended A :=
  fun _ => .stop

def Suspended.map (change : A → B) (run : Suspended A) : Suspended B :=
  fun _ => (run ()).map change

/-- A pull answers with an item or with the end, and leaves the rest of the run suspended. -/
structure Pull (A : Type) where
  answer : Answer (Option A)
  rest : Suspended A

def Pull.withEvents (events : List Event) (pull : Pull A) : Pull A :=
  ⟨⟨events ++ pull.answer.events, pull.answer.result⟩, pull.rest⟩

/-- What happened before is kept with the latest event first. -/
def Run.pullAfter (before : List Event) : Run A → Pull A
  | .stop => ⟨⟨before.reverse, .ok none⟩, Suspended.ended⟩
  | .fail failure => ⟨⟨before.reverse, .error failure⟩, Suspended.ended⟩
  | .note event next => (next ()).pullAfter (event :: before)
  | .emit item next => ⟨⟨before.reverse, .ok (some item)⟩, next⟩

/-- A run is examined up to its first item and no further. -/
def Run.pull (run : Run A) : Pull A :=
  run.pullAfter []

def Run.first? (run : Run A) : Answer (Option A) :=
  run.pull.answer

/-- A harvest holds the items that were taken and tells how the taking ended. The end is known
only if one more item was asked for and none was found. -/
structure Harvest (A : Type) where
  items : List A
  ended : Bool
  failure : Option Failure
  events : List Event
  rest : Suspended A

/-- An earlier taking puts its items and its events in front. -/
def Harvest.after (items : List A) (events : List Event) (later : Harvest A) : Harvest A :=
  { later with items := items ++ later.items, events := events ++ later.events }

def Harvest.ofFailure (failure : Failure) : Harvest A :=
  ⟨[], false, some failure, [], Suspended.ended⟩

/-- The next item is taken and then at most `more` others, or all of them if there is no such
number. What was taken before is kept with the latest first. -/
def Run.takeAfter (items : List A) (events : List Event) : Option Nat → Run A → Harvest A
  | _, .stop => ⟨items.reverse, true, none, events.reverse, Suspended.ended⟩
  | _, .fail failure => ⟨items.reverse, false, some failure, events.reverse, Suspended.ended⟩
  | more, .note event next => (next ()).takeAfter items (event :: events) more
  | none, .emit item next => (next ()).takeAfter (item :: items) events none
  | some 0, .emit item next => ⟨(item :: items).reverse, false, none, events.reverse, next⟩
  | some (more + 1), .emit item next => (next ()).takeAfter (item :: items) events (some more)

def Run.takeAll (run : Run A) : Harvest A :=
  run.takeAfter [] [] none

/-- At most `count` items are taken, and nothing is computed for an item that is not wanted. -/
def Suspended.take (count : Nat) (run : Suspended A) : Harvest A :=
  match count with
  | 0 => ⟨[], false, none, [], run⟩
  | more + 1 => (run ()).takeAfter [] [] (some more)

def Suspended.harvest (limit : Option Nat) (run : Suspended A) : Harvest A :=
  match limit with
  | none => (run ()).takeAll
  | some count => Suspended.take count run

@[simp] theorem Pull.withEvents_withEvents (first second : List Event) (pull : Pull A) :
    (pull.withEvents second).withEvents first = pull.withEvents (first ++ second) := by
  simp [Pull.withEvents]

theorem Run.pullAfter_eq (before : List Event) (run : Run A) :
    run.pullAfter before = run.pull.withEvents before.reverse := by
  induction run generalizing before with
  | stop => simp [Run.pull, Run.pullAfter, Pull.withEvents]
  | fail failure => simp [Run.pull, Run.pullAfter, Pull.withEvents]
  | note event next ih =>
      simp [Run.pull, Run.pullAfter, ih () (event :: before), ih () [event]]
  | emit item next ih => simp [Run.pull, Run.pullAfter, Pull.withEvents]

@[simp] theorem Run.pull_stop :
    (Run.stop : Run A).pull = ⟨⟨[], .ok none⟩, Suspended.ended⟩ := rfl

@[simp] theorem Run.pull_fail (failure : Failure) :
    (Run.fail failure : Run A).pull = ⟨⟨[], .error failure⟩, Suspended.ended⟩ := rfl

@[simp] theorem Run.pull_note (event : Event) (next : Unit → Run A) :
    (Run.note event next).pull = (next ()).pull.withEvents [event] := by
  show (next ()).pullAfter [event] = _
  simp [Run.pullAfter_eq]

@[simp] theorem Run.pull_emit (item : A) (next : Unit → Run A) :
    (Run.emit item next).pull = ⟨⟨[], .ok (some item)⟩, next⟩ := rfl

@[simp] theorem Harvest.after_after (firstItems secondItems : List A)
    (firstEvents secondEvents : List Event) (later : Harvest A) :
    (later.after secondItems secondEvents).after firstItems firstEvents =
      later.after (firstItems ++ secondItems) (firstEvents ++ secondEvents) := by
  simp [Harvest.after]

theorem Run.takeAfter_eq (items : List A) (events : List Event) (more : Option Nat)
    (run : Run A) :
    run.takeAfter items events more =
      (run.takeAfter [] [] more).after items.reverse events.reverse := by
  induction run generalizing items events more with
  | stop => cases more <;> simp [Run.takeAfter, Harvest.after]
  | fail failure => cases more <;> simp [Run.takeAfter, Harvest.after]
  | note event next ih =>
      simp [Run.takeAfter, ih () items (event :: events), ih () [] [event]]
  | emit item next ih =>
      match more with
      | none => simp [Run.takeAfter, ih () (item :: items) events, ih () [item] []]
      | some 0 => simp [Run.takeAfter, Harvest.after]
      | some (more + 1) => simp [Run.takeAfter, ih () (item :: items) events, ih () [item] []]

@[simp] theorem Run.takeAll_note (event : Event) (next : Unit → Run A) :
    (Run.note event next).takeAll = (next ()).takeAll.after [] [event] := by
  simp only [Run.takeAll, Run.takeAfter]
  rw [Run.takeAfter_eq]
  rfl

@[simp] theorem Run.takeAll_emit (item : A) (next : Unit → Run A) :
    (Run.emit item next).takeAll = (next ()).takeAll.after [item] [] := by
  simp only [Run.takeAll, Run.takeAfter]
  rw [Run.takeAfter_eq]
  rfl

theorem Suspended.take_succ_note (more : Nat) (event : Event) (next : Suspended A) :
    Suspended.take (more + 1) (fun _ => .note event next) =
      (Suspended.take (more + 1) next).after [] [event] := by
  simp only [Suspended.take, Run.takeAfter]
  rw [Run.takeAfter_eq]
  rfl

theorem Suspended.take_succ_emit (more : Nat) (item : A) (next : Suspended A) :
    Suspended.take (more + 1) (fun _ => .emit item next) =
      (Suspended.take more next).after [item] [] := by
  cases more with
  | zero => rfl
  | succ more =>
      simp only [Suspended.take, Run.takeAfter]
      rw [Run.takeAfter_eq]
      rfl

end Diplomacy
