/-
This file writes parsers and keeps the readings that cover a whole text.
-/

import Diplomacy.Parser.Basic

namespace Diplomacy

def Label.describe : Label → Text
  | .named name => Text.quoted name
  | .anonymous => "<anon>".toList

def describeTruth (value : Bool) : Text :=
  (Value.truth value).describe

/-- This is the word for the kind of a parser. -/
def Parser.kindName : Parser → Text
  | .never => "Never".toList
  | .empty => "Empty".toList
  | .literal _ => "Literal".toList
  | .anyOf _ _ => "OneOf".toList
  | .blanks _ => "Whitespace".toList
  | .endOfInput => "EndOfInput".toList
  | .placeName => "PlaceName".toList
  | .broken _ _ => "Parser".toList
  | .optional _ => "Optional".toList
  | .either _ _ => "Alternative".toList
  | .chain _ _ => "Chain".toList
  | .map _ _ => "Map".toList
  | .adapt _ => "Adapter".toList
  | .counting _ _ => "Counting".toList

/-- A parser without a rule of its own has the general kind. -/
def Parser.undefined : Parser :=
  .broken (describeRecord "Parser".toList []) .undefinedParser

/-- The fields of a parser are the settings and the parts that it was made with. -/
def Parser.describe : Parser → Text
  | .literal tag => describeRecord (Parser.literal tag).kindName [Text.quoted tag]
  | .anyOf tags ignoreCase =>
      describeRecord (Parser.anyOf tags ignoreCase).kindName
        [describeTuple (tags.map Text.quoted)]
  | .blanks required =>
      describeRecord (Parser.blanks required).kindName
        ["required=".toList ++ describeTruth required]
  | .broken shown _ => shown
  | .optional inner => describeRecord inner.optional.kindName [inner.describe]
  | .either left right =>
      describeRecord (left.either right).kindName [left.describe, right.describe]
  | .chain first second =>
      describeRecord (first.chain second).kindName [first.describe, second.describe]
  | .map inner transform =>
      describeRecord (inner.map transform).kindName [inner.describe, transform.label.describe]
  | .adapt adapter => describeRecord (Parser.adapt adapter).kindName [adapter.label.describe]
  | .counting counter inner =>
      describeRecord (Parser.counting counter inner).kindName
        [Text.quoted counter, inner.describe]
  | parser => describeRecord parser.kindName []

def Reading.complete? (reading : Reading) : Option Value :=
  if reading.2.isEmpty then some reading.1 else none

/-- The incomplete readings are passed over, and the events between them stay. -/
def Parser.complete (parser : Parser) (text : Text) : Run Value :=
  (parser.run text).bind fun reading => Run.ofOption reading.complete?

/-- A default stands in for a missing reading and never for a failure. -/
def Parser.firstComplete (parser : Parser) (text : Text) (fallback : Option Value) :
    Answer Value := do
  match ← (parser.complete text).first? with
  | some value =>
      Answer.log (.complete text parser.describe)
      pure value
  | none =>
      match fallback with
      | some value => pure value
      | none => Answer.fail (.noParse text)

end Diplomacy
