/-
This file keeps named values and works on them one step at a time.
-/

import Diplomacy.Grammar.Batch
import Diplomacy.Order.Property

namespace Diplomacy

/-- A tagged value lies in a box, because its content can be replaced and every value that holds it
shows the change. -/
inductive Cell where
  | plain (value : Value)
  | box (index : Nat)

structure Box where
  tag : Tag
  content : Cell

/-- The desk keeps its values by name, the latest first, and its boxes in the order of their
making. -/
structure Desk where
  names : List (Text × Cell)
  boxes : List Box
  events : List Event

def Desk.empty : Desk := ⟨[], [], []⟩

/-- An argument is a plain value, a name on the desk, or a new tagged value. -/
inductive Argument where
  | plain (value : Value)
  | named (name : Text)
  | tagged (tag : Tag) (content : Argument)

/-- A box shows its tag around what its content shows. The depth bounds how many boxes may lie in
one another. -/
def Desk.look (desk : Desk) : Nat → Cell → Value
  | _, .plain value => value
  | 0, .box _ => .none
  | depth + 1, .box index =>
      match desk.boxes[index]? with
      | none => .none
      | some box => .tagged box.tag (desk.look depth box.content)

def Desk.view (desk : Desk) (cell : Cell) : Value :=
  desk.look desk.boxes.length cell

def Desk.find (desk : Desk) (name : Text) : Except Failure Cell :=
  match desk.names.lookup name with
  | none => .error (.unknownName name)
  | some cell => .ok cell

/-- A new tagged value is put into a new box, after its content. -/
def Desk.place (desk : Desk) : Argument → Except Failure (Desk × Cell)
  | .plain value => .ok (desk, .plain value)
  | .named name => do
      let cell ← desk.find name
      return (desk, cell)
  | .tagged tag content => do
      let (later, cell) ← desk.place content
      return ({ later with boxes := later.boxes ++ [⟨tag, cell⟩] }, .box later.boxes.length)

/-- This function shows an argument and forgets the boxes made for it. -/
def Desk.evaluate (desk : Desk) (argument : Argument) : Except Failure Value := do
  let (later, cell) ← desk.place argument
  return later.view cell

def Desk.bind (desk : Desk) (name : Text) (cell : Cell) : Desk :=
  { desk with names := (name, cell) :: desk.names }

def Desk.note (desk : Desk) (events : List Event) : Desk :=
  { desk with events := desk.events ++ events }

inductive DeskStep where
  | make (name : Text) (draft : Draft Argument)
  | keep (name : Text) (argument : Argument)
  | read (name text : Text) (strict : Bool)
  | get (name property : Text)
  | set (name property : Text) (argument : Argument)
  | erase (name property : Text)
  | compare (first second : Argument)
  | distinct (arguments : List Argument)
  | reread (name : Text) (strict : Bool)

inductive DeskReply where
  | order (value : Value)
  | kept (value isLeft : Value)
  | value (value : Value)
  | compared (same : Bool)
  | count (number : Nat)
  | reread (verdict : Verdict) (same : Bool)

def Desk.make (desk : Desk) (name : Text) (draft : Draft Argument) :
    Except Failure (Desk × DeskReply) := do
  let resolved ← draft.resolve desk.evaluate
  let value ← resolved.make
  return (desk.bind name (.plain value), .order value)

def Desk.keep (desk : Desk) (name : Text) (argument : Argument) :
    Except Failure (Desk × DeskReply) := do
  let (later, cell) ← desk.place argument
  let value := later.view cell
  let isLeft ← value.get Property.isLeft.name
  return (later.bind name cell, .kept value isLeft)

/-- Only the content of a box can be replaced. -/
def Desk.set (desk : Desk) (name property : Text) (argument : Argument) :
    Except Failure (Desk × DeskReply) := do
  let target ← desk.find name
  let (later, content) ← desk.place argument
  match target with
  | .plain value => throw (value.changeFailure property)
  | .box index =>
      if property = Property.content.name then
        let changed := { later with
          boxes := later.boxes.modify index fun box => { box with content := content } }
        return (changed, .value (changed.view target))
      else throw ((desk.view target).changeFailure property)

def Desk.compare (desk : Desk) (first second : Argument) : Except Failure DeskReply := do
  let firstValue ← desk.evaluate first
  let secondValue ← desk.evaluate second
  return .compared (firstValue.same secondValue)

def Desk.distinct (desk : Desk) (arguments : List Argument) : Except Failure DeskReply := do
  let values ← arguments.mapM desk.evaluate
  return .count (Value.distinct values).length

/-- A value is compared with the order that its own text is read as. -/
def sameOrder (value : Value) : Verdict → Bool
  | .accepted order => (Value.order order).same value
  | .refused _ => false

def Desk.reread (desk : Desk) (name : Text) (strict : Bool) : Answer DeskReply := do
  let cell ← Answer.ofExcept (desk.find name)
  let value := desk.view cell
  let verdict ← readLine strict value.display
  return .reread verdict (sameOrder value verdict)

def Desk.read (desk : Desk) (name text : Text) (strict : Bool) : Answer (Desk × DeskReply) := do
  let order ← readOrder strict text
  return (desk.bind name (.plain (.order order)), .order (.order order))

/-- This function keeps the desk when a step only looks at it. -/
def Desk.unchanged (desk : Desk) (reply : Except Failure DeskReply) :
    Answer (Desk × DeskReply) := do
  let reply ← Answer.ofExcept reply
  return (desk, reply)

def Desk.act (desk : Desk) : DeskStep → Answer (Desk × DeskReply)
  | .make name draft => Answer.ofExcept (desk.make name draft)
  | .keep name argument => Answer.ofExcept (desk.keep name argument)
  | .read name text strict => desk.read name text strict
  | .get name property => desk.unchanged do
      let cell ← desk.find name
      return .value (← (desk.view cell).get property)
  | .set name property argument => Answer.ofExcept (desk.set name property argument)
  | .erase name property => desk.unchanged do
      let cell ← desk.find name
      throw ((desk.view cell).changeFailure property)
  | .compare first second => desk.unchanged (desk.compare first second)
  | .distinct arguments => desk.unchanged (desk.distinct arguments)
  | .reread name strict => do
      let reply ← desk.reread name strict
      return (desk, reply)

/-- A failed step changes nothing but the record of what happened. -/
def Desk.step (desk : Desk) (step : DeskStep) : Desk × Except Failure DeskReply :=
  let answer := desk.act step
  match answer.result with
  | .error failure => (desk.note answer.events, .error failure)
  | .ok (later, reply) => (later.note answer.events, .ok reply)

def Desk.play (desk : Desk) : List DeskStep → Desk × List (Except Failure DeskReply)
  | [] => (desk, [])
  | step :: rest =>
      let (later, reply) := desk.step step
      let (last, replies) := later.play rest
      (last, reply :: replies)

end Diplomacy
