/-
This file builds parsers from descriptions that may be wrong.
-/

import Diplomacy.Parser.Complete
import Diplomacy.Parser.Basic

namespace Diplomacy

/-- A plain value may stand where a parser or a function is needed. -/
inductive Given (A : Type) where
  | usable (item : A)
  | plain (value : Value)

/-- A blueprint describes a parser whose parts have not been checked. -/
inductive Blueprint where
  | ready (parser : Parser)
  | plain (value : Value)
  | named (name : Text)
  | literal (tag : Text)
  | oneOf (tags : List Text) (ignoreCase : Bool)
  | optional (inner : Blueprint)
  | either (left right : Blueprint)
  | chain (first second : Blueprint)
  | map (inner : Blueprint) (transform : Given Transform)
  /-- The left part decides what the sign means. -/
  | joined (sign : JoinSign) (left right : Blueprint)
  /-- The inner part is asked for its own map. -/
  | mapped (inner : Blueprint) (transform : Given Transform)
  | adapt (adapter : Given Adapter)
  | sequence (parts : List Blueprint)
  | counting (counter : Text) (inner : Blueprint)

def Given.parser : Given Parser → Except Failure Parser
  | .usable parser => .ok parser
  | .plain value => .error (.notAParser value)

def Given.kindName : Given Parser → Text
  | .usable parser => parser.kindName
  | .plain value => value.kindName

def Given.describe : Given Parser → Text
  | .usable parser => parser.describe
  | .plain value => value.describe

/-- A parser is run by asking it to parse or by calling it. -/
inductive RunStyle where
  | parse
  | call
  deriving DecidableEq, Repr

/-- A plain value can neither parse nor be called. -/
def RunStyle.failure (style : RunStyle) (value : Value) : Failure :=
  match style with
  | .parse => .noAttribute value "parse".toList
  | .call => .notCallable value

/-- A plain value that nobody checked is written as it is and fails when it is run. -/
def Given.toParser (style : RunStyle) : Given Parser → Parser
  | .usable parser => parser
  | .plain value => .broken value.describe (style.failure value)

def Given.function {A : Type} (use : FunctionUse) : Given A → Except Failure A
  | .usable function => .ok function
  | .plain value => .error (.notAFunction use value)

def checkLiteral (tag : Text) : Except Failure Parser :=
  if tag.isEmpty then .error .emptyLiteral else .ok (.literal tag)

/-- A missing tag is noticed before an empty one. -/
def checkOneOf (tags : List Text) (ignoreCase : Bool) : Except Failure Parser :=
  if tags.isEmpty then .error .noTags
  else if tags.any List.isEmpty then .error .emptyTag
  else .ok (.oneOf tags ignoreCase)

/-- Two parts are checked from left to right. -/
def checkPair (join : Parser → Parser → Parser) (first second : Given Parser) :
    Except Failure Parser := do
  let firstParser ← first.parser
  let secondParser ← second.parser
  pure (join firstParser secondParser)

/-- The inner parser is checked before the function. -/
def checkMap (inner : Given Parser) (transform : Given Transform) : Except Failure Parser := do
  let parser ← inner.parser
  let function ← transform.function .map
  pure (.map parser function)

def JoinSign.join : JoinSign → Parser → Parser → Parser
  | .bar => .either
  | .plus => .chain

/-- A plain value in front of the sign is noticed before anything else. -/
def checkJoin (sign : JoinSign) (left right : Given Parser) : Except Failure Parser :=
  match left with
  | .plain value => .error (.notJoinable sign value right.kindName)
  | .usable _ => checkPair sign.join left right

/-- A plain value has no map of its own. -/
def checkMapped (inner : Given Parser) (transform : Given Transform) : Except Failure Parser :=
  match inner with
  | .plain value => .error (.noAttribute value "map".toList)
  | .usable _ => checkMap inner transform

def checkSequence (parts : List (Given Parser)) : Except Failure Parser := do
  let parsers ← parts.mapM Given.parser
  pure (.sequence parsers)

/-- This function turns a checked parser into a part of a larger one. -/
def Given.ofCheck (check : Except Failure Parser) : Answer (Given Parser) := do
  let parser ← Answer.ofExcept check
  pure (.usable parser)

mutual

/-- The parts are built in the order in which they are written, and a part is checked when the
parser that needs it is made. Counting is the one use that does not check. -/
def Blueprint.build (known : Text → Option (Given Parser)) : Blueprint → Answer (Given Parser)
  | .ready parser => pure (.usable parser)
  | .plain value => pure (.plain value)
  | .named name =>
      match known name with
      | some part => pure part
      | none => Answer.fail (.unknownName name)
  | .literal tag => Given.ofCheck (checkLiteral tag)
  | .oneOf tags ignoreCase => Given.ofCheck (checkOneOf tags ignoreCase)
  | .optional inner => do
      let part ← inner.build known
      Given.ofCheck (part.parser.map Parser.optional)
  | .either left right => do
      let leftPart ← left.build known
      let rightPart ← right.build known
      Given.ofCheck (checkPair .either leftPart rightPart)
  | .chain first second => do
      let firstPart ← first.build known
      let secondPart ← second.build known
      Given.ofCheck (checkPair .chain firstPart secondPart)
  | .map inner transform => do
      let part ← inner.build known
      Given.ofCheck (checkMap part transform)
  | .joined sign left right => do
      let leftPart ← left.build known
      let rightPart ← right.build known
      Given.ofCheck (checkJoin sign leftPart rightPart)
  | .mapped inner transform => do
      let part ← inner.build known
      Given.ofCheck (checkMapped part transform)
  | .adapt adapter => Given.ofCheck ((adapter.function .adapt).map Parser.adapt)
  | .sequence parts => do
      let givens ← Blueprint.buildAll known parts
      Given.ofCheck (checkSequence givens)
  | .counting counter inner => do
      let part ← inner.build known
      Answer.note (.declared counter)
      pure (.usable (.counting counter (part.toParser .parse)))

def Blueprint.buildAll (known : Text → Option (Given Parser)) :
    List Blueprint → Answer (List (Given Parser))
  | [] => pure []
  | part :: rest => do
      let given ← part.build known
      let givens ← Blueprint.buildAll known rest
      pure (given :: givens)

end

end Diplomacy
