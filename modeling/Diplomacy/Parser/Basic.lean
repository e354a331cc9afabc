/-
This file holds parsers and what they read.
-/

import Diplomacy.Parser.Tag
import Diplomacy.Place
import Diplomacy.Run.Pull
import Diplomacy.Text.Basic

namespace Diplomacy

/-- A reading is a value together with the text that is left. -/
abbrev Reading := Value × Text

/-- A function without a name is shown by a mark of its own. -/
inductive Label where
  | named (name : Text)
  | anonymous
  deriving DecidableEq, Repr

/-- A transform changes the values of a parser. -/
structure Transform where
  label : Label
  apply : Value → Answer Value

/-- A plain function offers a reading, or refuses the text, or returns some other number of parts,
which is a mistake. -/
inductive Offer where
  | refusal
  | reading (value : Value) (rest : Text)
  | parts (count : Nat)

/-- An adapter lets a plain function act as a parser. -/
structure Adapter where
  label : Label
  apply : Text → Answer Offer

/-- A parser is a description, and the same parser can be run on many texts. -/
inductive Parser where
  | never
  | empty
  | literal (tag : Text)
  | anyOf (tags : List Text) (ignoreCase : Bool)
  | blanks (required : Bool)
  | endOfInput
  | placeName
  /-- This parser has no rule. It is written as shown and fails whenever it is run. -/
  | broken (shown : Text) (failure : Failure)
  | optional (inner : Parser)
  | either (left right : Parser)
  | chain (first second : Parser)
  | map (inner : Parser) (transform : Transform)
  | adapt (adapter : Adapter)
  | counting (counter : Text) (inner : Parser)

/-- The longest tag that matches is read, and no other. -/
def Parser.oneOf (tags : List Text) (ignoreCase : Bool) : Parser :=
  .anyOf (arrangeTags ignoreCase tags) ignoreCase

/-- Any number of parts but two is a mistake. -/
def partsFailure (count : Nat) : Failure :=
  if count < 2 then .tooFewParts count else .tooManyParts

def Offer.read : Offer → Run Reading
  | .refusal => .stop
  | .reading value rest => .one (value, rest)
  | .parts count => .fail (partsFailure count)

def Transform.read (transform : Transform) (reading : Reading) : Run Reading :=
  (Run.ofAnswer (transform.apply reading.1)).map fun value => (value, reading.2)

def Adapter.read (adapter : Adapter) (text : Text) : Run Reading :=
  (Run.ofAnswer (adapter.apply text)).bind Offer.read

/-- This function attaches a tag to the value of a reading. -/
def Reading.tagged (tag : Tag) (reading : Reading) : Reading :=
  (.tagged tag reading.1, reading.2)

def Parser.run : Parser → Text → Run Reading
  | .never, _ => .stop
  | .empty, text => .one (.tuple [], text)
  | .literal tag, text =>
      if tag.isPrefixOf text then .one (.text tag, text.drop tag.length) else .stop
  | .anyOf tags ignoreCase, text =>
      Run.ofOption ((firstTag? ignoreCase tags text).map fun tag =>
        (.text tag, text.drop tag.length))
  | .blanks required, text =>
      let (consumed, rest) := Text.splitBlanks text
      if required && consumed.isEmpty then .stop else .one (.text consumed, rest)
  | .endOfInput, text => if text.isEmpty then .one (.tuple [], text) else .stop
  | .placeName, text =>
      (findNames text).map fun (name, rest) => (.text name, rest)
  | .broken _ failure, _ => .fail failure
  | .optional inner, text =>
      ((inner.run text).map (Reading.tagged .present)).append fun _ => .one (.none, text)
  | .either left right, text =>
      ((left.run text).map (Reading.tagged .left)).append fun _ =>
        (right.run text).map (Reading.tagged .right)
  | .chain first second, text =>
      (first.run text).bind fun (firstValue, rest) =>
        (second.run rest).map fun (secondValue, remainder) =>
          (.tuple [firstValue, secondValue], remainder)
  | .map inner transform, text => (inner.run text).bind transform.read
  | .adapt adapter, text => adapter.read text
  | .counting counter inner, text =>
      .note (.called counter) fun _ =>
        (inner.run text).bind fun reading => .note (.handed counter) fun _ => .one reading

/-- A parser without a rule fails at once, and every other failure waits for a pull. -/
def Parser.start : Parser → Text → Except Failure (Suspended Reading)
  | .broken _ failure, _ => .error failure
  | parser, text => .ok fun _ => parser.run text

/-- This label marks a function that was written in place. -/
def Label.inPlace : Label := .named "<lambda>".toList

/-- A single value becomes a tuple. -/
def Transform.single : Transform :=
  ⟨.inPlace, fun value => pure (.tuple [value])⟩

/-- A value goes in front of a tuple. -/
def Transform.prepend : Transform :=
  ⟨.inPlace, fun
    | .tuple [first, .tuple rest] => pure (.tuple (first :: rest))
    | value => Answer.fail (.misread value)⟩

def Parser.sequence : List Parser → Parser
  | [] => .empty
  | [parser] => .map parser Transform.single
  | parser :: next :: rest =>
      .map (.chain parser (Parser.sequence (next :: rest))) Transform.prepend

end Diplomacy
