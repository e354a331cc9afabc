/-
This file lists the causes of failure and their messages.
-/

import Diplomacy.Value

namespace Diplomacy

/-- A parser takes functions in two places. -/
inductive FunctionUse where
  | map
  | adapt
  deriving DecidableEq, Repr

def FunctionUse.name : FunctionUse → String
  | .map => "map"
  | .adapt => "adapt"

/-- Two parsers can be joined by a sign between them. -/
inductive JoinSign where
  | bar
  | plus
  deriving DecidableEq, Repr

def JoinSign.symbol : JoinSign → String
  | .bar => "|"
  | .plus => "+"

/-- An order may name another order that it helps along. The general form accepts none. -/
inductive AidKind where
  | general
  | support
  | convoy
  deriving DecidableEq, Repr

def AidKind.name : AidKind → Text
  | .general => "SupportingOrder".toList
  | .support => OrderKind.support.name
  | .convoy => OrderKind.convoy.name

/-- These kinds of order may be helped along. -/
def AidKind.allowed : AidKind → List OrderKind
  | .general => []
  | .support => [.hold, .move]
  | .convoy => [.move]

/-- This function joins the names of the kinds that may be helped along. -/
def AidKind.allowedNames (kind : AidKind) : String :=
  String.intercalate " or " (kind.allowed.map fun allowed => String.ofList allowed.name)

inductive Failure where
  /-- A plain value stands where a parser is needed. -/
  | notAParser (value : Value)
  /-- A plain value stands where a function is needed. -/
  | notAFunction (use : FunctionUse) (value : Value)
  /-- A plain value is called like a function. -/
  | notCallable (value : Value)
  /-- A plain value stands in front of a sign that joins parsers. -/
  | notJoinable (sign : JoinSign) (left : Value) (rightKind : Text)
  | emptyLiteral
  | noTags
  | emptyTag
  /-- The parser has no rule of its own. -/
  | undefinedParser
  | burst (value : Value)
  | absent
  /-- An adapted function returned fewer than the two parts of a reading. -/
  | tooFewParts (count : Nat)
  | tooManyParts
  /-- A value that has no parts is taken apart. -/
  | noParts (value : Value)
  /-- A number is longer than the reader of numbers allows. -/
  | tooManyDigits (count : Nat)
  | noLength (value : Value)
  | noAttribute (value : Value) (property : Text)
  | readOnly (value : Value) (property : Text)
  | immutable (value : Value)
  | unknownUnit (value : Value)
  | notAllowed (kind : AidKind) (value : Value)
  /-- No reading covers the whole text. -/
  | noParse (text : Text)
  /-- No rule accepts the line. -/
  | noOrder (line : Text)
  /-- A value does not have the shape that its reader expects. -/
  | misread (value : Value)
  | unknownName (name : Text)

def showText (text : Text) : String :=
  String.ofList (Text.quoted text)

def showValue (value : Value) : String :=
  String.ofList value.describe

def showKind (value : Value) : String :=
  String.ofList value.kindName

/-- A text can be joined with nothing but a text, and the message for that is different. -/
def joinMessage (sign : JoinSign) (left : Value) (rightKind : String) : String :=
  match sign, left with
  | .plus, .text _ => "can only concatenate str (not \x22" ++ rightKind ++ "\x22) to str"
  | _, _ =>
      "unsupported operand type(s) for " ++ sign.symbol ++ ": '" ++ showKind left ++ "' and '" ++
        rightKind ++ "'"

/-- A number is read from at most this many digits. -/
def digitLimit : Nat := 4300

def showNat (number : Nat) : String :=
  String.ofList (Nat.toDigits 10 number)

def digitMessage (count : Nat) : String :=
  "Exceeds the limit (" ++ showNat digitLimit ++
    " digits) for integer string conversion: value has " ++ showNat count ++
    " digits; use sys.set_int_max_str_digits() to increase the limit"

def Failure.message : Failure → String
  | .notAParser value => "Expected a Parser, got " ++ showKind value ++ ": " ++ showValue value
  | .notAFunction use value => use.name ++ "() needs a callable, got " ++ showKind value
  | .notCallable value => "'" ++ showKind value ++ "' object is not callable"
  | .notJoinable sign left rightKind => joinMessage sign left (String.ofList rightKind)
  | .emptyLiteral => "A literal needs a non-empty tag."
  | .noTags => "one_of() needs at least one tag."
  | .emptyTag => "one_of() tags must be non-empty."
  | .undefinedParser => ""
  | .burst value => "boom on " ++ showValue value
  | .absent => "absent"
  | .tooFewParts count =>
      "not enough values to unpack (expected 2, got " ++ showNat count ++ ")"
  | .tooManyParts => "too many values to unpack (expected 2)"
  | .noParts value => "cannot unpack non-iterable " ++ showKind value ++ " object"
  | .tooManyDigits count => digitMessage count
  | .noLength value => "object of type '" ++ showKind value ++ "' has no len()"
  | .noAttribute value property =>
      "'" ++ showKind value ++ "' object has no attribute '" ++ String.ofList property ++ "'"
  | .readOnly value property =>
      "'" ++ showKind value ++ "' object attribute '" ++ String.ofList property ++ "' is read-only"
  | .immutable value => showKind value ++ " orders are immutable"
  | .unknownUnit value => "Unknown unit designation: " ++ showValue value
  | .notAllowed kind value =>
      String.ofList kind.name ++ " expects a " ++ kind.allowedNames ++ " order, got " ++
        showValue value
  | .noParse text => "No complete parse of " ++ showText text
  | .noOrder line => "Could not parse order: " ++ showText line
  | .misread value => "Unexpected value: " ++ showValue value
  | .unknownName name => "Unknown name: " ++ showText name

end Diplomacy
