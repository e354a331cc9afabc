/-
This file reads an order from a line, and many lines at once.
-/

import Diplomacy.Grammar.Rule
import Diplomacy.Text.Basic

namespace Diplomacy

inductive Rule where
  | hold
  | move
  | support
  | convoy
  deriving DecidableEq, Repr

def Rule.read : Rule → Bool → Text → Answer Verdict
  | .hold => readHold
  | .move => readMove
  | .support => readSupport
  | .convoy => readConvoy

/-- Supports and convoys come first, because a hold or a move would take their keyword for a part
of a place. -/
def ruleOrder : List Rule := [.support, .convoy, .hold, .move]

/-- The first rule that accepts the text decides. -/
def readByFirst (strict : Bool) (text : Text) : List Rule → Answer (Option Order)
  | [] => pure none
  | rule :: rest => do
      match ← rule.read strict text with
      | .accepted order => pure (some order)
      | .refused _ => readByFirst strict text rest

/-- Blanks around the line do not matter, and a refused line is returned with them. -/
def readLine (strict : Bool) (line : Text) : Answer Verdict := do
  match ← readByFirst strict (Text.trim line) ruleOrder with
  | some order => pure (.accepted order)
  | none =>
      Answer.log (.unmatched line)
      pure (.refused line)

/-- This function fails on a line that no rule accepts. -/
def readOrder (strict : Bool) (line : Text) : Answer Order := do
  match ← readLine strict line with
  | .accepted order => pure order
  | .refused _ => Answer.fail (.noOrder line)

/-- A batch holds the accepted orders and the rejected lines, each in the order of the input. -/
structure Batch where
  orders : List Order
  rejected : List Text
  deriving DecidableEq, Repr

def Batch.empty : Batch := ⟨[], []⟩

def Batch.add : Verdict → Batch → Batch
  | .accepted order, batch => { batch with orders := order :: batch.orders }
  | .refused line, batch => { batch with rejected := line :: batch.rejected }

/-- Blank lines are skipped. -/
def collectLines (strict : Bool) : List Text → Answer Batch
  | [] => pure Batch.empty
  | line :: rest =>
      if isBlankLine line then collectLines strict rest
      else do
        let verdict ← readLine strict line
        Batch.add verdict <$> collectLines strict rest

/-- The number of rejected lines is logged if there are any. -/
def readLines (strict : Bool) (lines : List Text) : Answer Batch := do
  let batch ← collectLines strict lines
  if !batch.rejected.isEmpty then
    Answer.log (.rejected batch.rejected.length (batch.orders.length + batch.rejected.length))
  pure batch

def readBatch (strict : Bool) (text : Text) : Answer Batch :=
  readLines strict (Text.lines text)

end Diplomacy
