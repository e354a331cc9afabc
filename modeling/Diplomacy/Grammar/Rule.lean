/-
This file reads the unit at the start of an order and holds the four rules that read orders.
-/

import Diplomacy.Grammar.Keyword
import Diplomacy.Order.Draft
import Diplomacy.Parser.Complete
import Diplomacy.Parser.Transform

namespace Diplomacy

/-- A refused designation rejects the whole order. -/
inductive Designation where
  | refused
  | read (unit : Option Piece) (rest : Text)
  deriving DecidableEq, Repr

/-- A unit token counts only before a blank. Without one a strict reader refuses the order, and a
lenient reader takes the token for the start of a place. -/
def readDesignation (strict : Bool) (text : Text) : Answer Designation := do
  match ← (unitParser.run text).first? with
  | none => pure (.read none (Text.trimStart text))
  | some (value, rest) =>
      let unit ← Answer.ofExcept (readUnit value)
      let separated := Text.trimStart rest
      if separated.length < rest.length then pure (.read unit separated)
      else if strict then pure .refused
      else pure (.read none (Text.trimStart text))

/-- An accepted text is used up, and a refused text is returned as it was given. -/
inductive Verdict where
  | accepted (order : Order)
  | refused (text : Text)
  deriving DecidableEq, Repr

def Verdict.remainder : Verdict → Text
  | .accepted _ => []
  | .refused text => text

def Verdict.offer : Verdict → Offer
  | .accepted order => .reading (.order order) []
  | .refused _ => .refusal

/-- After the unit, the first complete reading of the body makes the order. -/
def readByRule (strict : Bool) (body : Parser)
    (assemble : Option Piece → Value → Except Failure Order) (text : Text) :
    Answer Verdict := do
  match ← readDesignation strict text with
  | .refused => pure (.refused text)
  | .read unit rest =>
      match ← (body.complete rest).first? with
      | none => pure (.refused text)
      | some value =>
          let order ← Answer.ofExcept (assemble unit value)
          Answer.log (.parsed text order)
          pure (.accepted order)

/-- The place stands first among the values of a hold. -/
def assembleHold (unit : Option Piece) : Value → Except Failure Order
  | .tuple (.text place :: _) => .ok (.hold ⟨unit, place⟩)
  | value => .error (.misread value)

/-- The places stand first and fifth among the values of a move. -/
def assembleMove (unit : Option Piece) : Value → Except Failure Order
  | .tuple (.text source :: _ :: _ :: _ :: .text destination :: _) =>
      .ok (.move ⟨unit, source, destination⟩)
  | value => .error (.misread value)

/-- The place stands first in the head, and the order that is helped along stands after it. -/
def assembleAid (make : Option Piece → Text → Value → Except Failure Order)
    (unit : Option Piece) : Value → Except Failure Order
  | .tuple [.tuple (.text place :: _), aided] => make unit place aided
  | value => .error (.misread value)

def readHold (strict : Bool) (text : Text) : Answer Verdict :=
  readByRule strict holdBody assembleHold text

def readMove (strict : Bool) (text : Text) : Answer Verdict :=
  readByRule strict moveBody assembleMove text

def Adapter.ofRule (label : Label) (rule : Text → Answer Verdict) : Adapter :=
  ⟨label, fun text => do return (← rule text).offer⟩

/-- A rule inside another rule is run without a label of its own. -/
def Parser.nested (rule : Text → Answer Verdict) : Parser :=
  .adapt (Adapter.ofRule .anonymous rule)

/-- A move is preferred to a hold. -/
def supportBody (strict : Bool) : Parser :=
  .sequence [supportHead,
    .map (.either (.nested (readMove strict)) (.nested (readHold strict))) Transform.untag]

def convoyBody (strict : Bool) : Parser :=
  .sequence [convoyHead, .nested (readMove strict)]

def readSupport (strict : Bool) (text : Text) : Answer Verdict :=
  readByRule strict (supportBody strict) (assembleAid makeSupport) text

def readConvoy (strict : Bool) (text : Text) : Answer Verdict :=
  readByRule strict (convoyBody strict) (assembleAid makeConvoy) text

end Diplomacy
