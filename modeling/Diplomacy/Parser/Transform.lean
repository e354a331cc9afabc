/-
This file holds the transforms that parsers can be described with.
-/

import Diplomacy.Parser.Basic

namespace Diplomacy

/-- This function names a transform and leaves no trace when it is applied. -/
def Transform.ofFunction (name : String) (change : Value → Except Failure Value) : Transform :=
  ⟨.named name.toList, fun value => Answer.ofExcept (change value)⟩

def Value.length : Value → Except Failure Value
  | .text value => .ok (.number value.length)
  | .tuple items => .ok (.number items.length)
  | value => .error (.noLength value)

/-- The parts of a value are the items of a tuple or the characters of a text. -/
def Value.parts? : Value → Option (List Value)
  | .tuple items => some items
  | .text value => some (value.map fun character => .text [character])
  | _ => .none

def Value.swap (value : Value) : Except Failure Value :=
  match value.parts? with
  | some [first, second] => .ok (.tuple [second, first])
  | some items => .error (partsFailure items.length)
  | .none => .error (.noParts value)

def Value.content : Value → Except Failure Value
  | .tagged _ content => .ok content
  | value => .error (.noAttribute value "value".toList)

def Value.present : Value → Except Failure Value
  | .none => .error .absent
  | value => .ok value

def Transform.length : Transform := .ofFunction "len" Value.length

def Transform.swap : Transform := .ofFunction "swap" Value.swap

def Transform.duplicate : Transform := .ofFunction "dup" fun value => .ok (.tuple [value, value])

def Transform.discard : Transform := .ofFunction "discard" fun _ => .ok .none

/-- A tag is dropped and its content kept. -/
def Transform.untag : Transform := .ofFunction "untag" Value.content

def Transform.burst : Transform := .ofFunction "boom" fun value => .error (.burst value)

def Transform.present : Transform := .ofFunction "boom_if_absent" Value.present

def Transform.describe : Transform :=
  .ofFunction "repr" fun value => .ok (.text value.describe)

def Transform.identity : Transform := .ofFunction "<lambda>" .ok

def Transform.anonymous : Transform := ⟨.anonymous, pure⟩

end Diplomacy
