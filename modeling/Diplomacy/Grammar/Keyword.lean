/-
This file lists the words of the order language.
-/

import Diplomacy.Parser.Basic

namespace Diplomacy

/-- Keywords match in any case, and longer spellings are tried before shorter ones. -/
def Parser.keyword (words : List Text) : Parser :=
  .oneOf words true

def unitTokens : List (Text × Piece) := [
    ("army".toList, .army), ("fleet".toList, .fleet), ("a".toList, .army), ("f".toList, .fleet)]

def holdKeywords : List Text := ["holds".toList, "hold".toList, "h".toList]

def moveSeparators : List Text := ["-".toList, "to".toList]

def supportKeywords : List Text := ["supports".toList, "support".toList, "s".toList]

def convoyKeywords : List Text := ["convoys".toList, "convoy".toList, "c".toList]

/-- A unit token must be followed by a blank unless the caller says otherwise. -/
def strictByDefault : Bool := true

/-- A token stands for the name of its piece. -/
def Transform.unitName : Transform :=
  ⟨.named "__getitem__".toList, fun
    | .text token =>
        match unitTokens.lookup token with
        | some piece => pure (.text piece.name)
        | none => Answer.fail (.unknownName token)
    | value => Answer.fail (.misread value)⟩

def unitParser : Parser :=
  .map (.keyword (unitTokens.map Prod.fst)) Transform.unitName

def holdKeyword : Parser := .keyword holdKeywords

def moveSeparator : Parser := .keyword moveSeparators

def supportKeyword : Parser := .keyword supportKeywords

def convoyKeyword : Parser := .keyword convoyKeywords

/-- These parsers read what follows the unit. -/
def holdBody : Parser :=
  .sequence [.placeName, .blanks true, holdKeyword, .endOfInput]

def moveBody : Parser :=
  .sequence [.placeName, .blanks false, moveSeparator, .blanks false, .placeName, .endOfInput]

def supportHead : Parser :=
  .sequence [.placeName, .blanks true, supportKeyword, .blanks true]

def convoyHead : Parser :=
  .sequence [.placeName, .blanks true, convoyKeyword, .blanks true]

end Diplomacy
