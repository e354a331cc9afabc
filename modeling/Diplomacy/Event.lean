/-
This file holds what happens while a parser works, apart from its readings.
-/

import Diplomacy.Failure

namespace Diplomacy

inductive Level where
  | debug
  | info
  deriving DecidableEq, Repr

/-- The grammar and the parsers keep separate logs. -/
inductive Channel where
  | grammar
  | parsing
  deriving DecidableEq, Repr

/-- A record is one entry of a log. -/
inductive Record where
  /-- A rule read the whole text as an order. -/
  | parsed (text : Text) (order : Order)
  /-- No rule accepts the line. -/
  | unmatched (line : Text)
  /-- Some lines of a batch were rejected. -/
  | rejected (count total : Nat)
  /-- A described parser read the whole text. -/
  | complete (text parser : Text)
  deriving DecidableEq, Repr

def Record.level : Record → Level
  | .parsed _ _ => .debug
  | .unmatched _ => .info
  | .rejected _ _ => .info
  | .complete _ _ => .debug

def Record.channel : Record → Channel
  | .complete _ _ => .parsing
  | _ => .grammar

def Record.message : Record → String
  | .parsed text order =>
      "Parsed " ++ showText text ++ " as " ++ String.ofList order.describe
  | .unmatched line => "No order rule matches " ++ showText line
  | .rejected count total =>
      "Rejected " ++ showNat count ++ " of " ++ showNat total ++ " order lines"
  | .complete text parser =>
      "Complete parse of " ++ showText text ++ " with " ++ String.ofList parser

inductive Event where
  /-- A counter was set up. -/
  | declared (counter : Text)
  /-- A counted parser was started. -/
  | called (counter : Text)
  /-- A counted parser handed on a reading. -/
  | handed (counter : Text)
  | logged (record : Record)
  deriving DecidableEq, Repr

def Event.record? : Event → Option Record
  | .logged record => some record
  | _ => none

def Event.declared? : Event → Option Text
  | .declared counter => some counter
  | _ => none

/-- This function extracts the log from what happened. -/
def records (events : List Event) : List Record :=
  events.filterMap Event.record?

structure Tally where
  calls : Nat
  pulled : Nat
  deriving DecidableEq, Repr

def tally (events : List Event) (counter : Text) : Tally :=
  ⟨events.count (.called counter), events.count (.handed counter)⟩

/-- Every counter that was set up has a tally, with zeros if it was never used. -/
def counters (events : List Event) : List (Text × Tally) :=
  (events.filterMap Event.declared?).eraseDups.map fun counter => (counter, tally events counter)

@[simp] theorem records_append (first second : List Event) :
    records (first ++ second) = records first ++ records second := by
  simp [records]

theorem tally_append (first second : List Event) (counter : Text) :
    tally (first ++ second) counter =
      ⟨(tally first counter).calls + (tally second counter).calls,
        (tally first counter).pulled + (tally second counter).pulled⟩ := by
  simp [tally]

end Diplomacy
