/-
This file holds runs, the lazy lists of what a parser finds.
-/

import Diplomacy.Answer

namespace Diplomacy

/-- A run is examined step by step, and a later step is computed only when it is asked for.
It ends by itself or with a failure, and events stand where they happen between the items. -/
inductive Run (A : Type) where
  | stop
  | fail (failure : Failure)
  | note (event : Event) (next : Unit → Run A)
  | emit (item : A) (next : Unit → Run A)

variable {A B C : Type}

def Run.one (item : A) : Run A :=
  .emit item fun _ => .stop

def Run.ofOption : Option A → Run A
  | none => .stop
  | some item => .one item

/-- The second run starts when the first has ended without a failure. -/
def Run.append : Run A → (Unit → Run A) → Run A
  | .stop, second => second ()
  | .fail failure, _ => .fail failure
  | .note event next, second => .note event fun _ => (next ()).append second
  | .emit item next, second => .emit item fun _ => (next ()).append second

def Run.map (change : A → B) : Run A → Run B
  | .stop => .stop
  | .fail failure => .fail failure
  | .note event next => .note event fun _ => (next ()).map change
  | .emit item next => .emit (change item) fun _ => (next ()).map change

/-- Every item is replaced by a run of its own, which starts when the item is reached. -/
def Run.bind : Run A → (A → Run B) → Run B
  | .stop, _ => .stop
  | .fail failure, _ => .fail failure
  | .note event next, follow => .note event fun _ => (next ()).bind follow
  | .emit item next, follow => (follow item).append fun _ => (next ()).bind follow

/-- This function lets events happen before a run starts. -/
def Run.after : List Event → Run A → Run A
  | [], run => run
  | event :: rest, run => .note event fun _ => Run.after rest run

def Run.ofExcept : Except Failure A → Run A
  | .ok item => .one item
  | .error failure => .fail failure

/-- The events of an answer happen before its result is seen. -/
def Run.ofAnswer (answer : Answer A) : Run A :=
  Run.after answer.events (Run.ofExcept answer.result)

@[simp] theorem Run.append_stop (run : Run A) : run.append (fun _ => .stop) = run := by
  induction run with
  | stop => rfl
  | fail failure => rfl
  | note event next ih => simp [Run.append, ih]
  | emit item next ih => simp [Run.append, ih]

theorem Run.append_assoc (first : Run A) (second third : Unit → Run A) :
    (first.append second).append third = first.append fun _ => (second ()).append third := by
  induction first with
  | stop => rfl
  | fail failure => rfl
  | note event next ih => simp [Run.append, ih]
  | emit item next ih => simp [Run.append, ih]

@[simp] theorem Run.one_bind (item : A) (follow : A → Run B) :
    (Run.one item).bind follow = follow item := by
  simp [Run.one, Run.bind]

theorem Run.bind_one (run : Run A) : run.bind Run.one = run := by
  induction run with
  | stop => rfl
  | fail failure => rfl
  | note event next ih => simp [Run.bind, ih]
  | emit item next ih => simp [Run.bind, Run.one, Run.append, ih]

theorem Run.append_bind (first : Run A) (second : Unit → Run A) (follow : A → Run B) :
    (first.append second).bind follow =
      (first.bind follow).append fun _ => (second ()).bind follow := by
  induction first with
  | stop => rfl
  | fail failure => rfl
  | note event next ih => simp [Run.append, Run.bind, ih]
  | emit item next ih => simp [Run.append, Run.bind, ih, Run.append_assoc]

theorem Run.bind_assoc (run : Run A) (second : A → Run B) (third : B → Run C) :
    (run.bind second).bind third = run.bind fun item => (second item).bind third := by
  induction run with
  | stop => rfl
  | fail failure => rfl
  | note event next ih => simp [Run.bind, ih]
  | emit item next ih => simp [Run.bind, ih, Run.append_bind]

theorem Run.map_eq_bind (change : A → B) (run : Run A) :
    run.map change = run.bind fun item => .one (change item) := by
  induction run with
  | stop => rfl
  | fail failure => rfl
  | note event next ih => simp [Run.map, Run.bind, ih]
  | emit item next ih => simp [Run.map, Run.bind, Run.one, Run.append, ih]

end Diplomacy
