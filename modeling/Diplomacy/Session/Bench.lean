/-
This file builds parsers and runs them, once or side by side, one step at a time.
-/

import Diplomacy.Parser.Blueprint
import Diplomacy.Parser.Complete

namespace Diplomacy

/-- A survey keeps how the parser is written and what it gave. -/
structure Survey (A : Type) where
  description : Text
  outcome : A

/-- No parser is known by name in a single survey. -/
def Blueprint.survey {A : Type} (blueprint : Blueprint) (style : RunStyle)
    (use : Parser → A × List Event) : Answer (Survey A) :=
  let built := blueprint.build fun _ => none
  match built.result with
  | .error failure => ⟨built.events, .error failure⟩
  | .ok part =>
      let (outcome, later) := use (part.toParser style)
      ⟨built.events ++ later, .ok ⟨part.describe, outcome⟩⟩

/-- A parser that cannot be started gives an empty harvest with its failure. -/
def Parser.harvest (parser : Parser) (limit : Option Nat) (text : Text) : Harvest Reading :=
  match parser.start text with
  | .error failure => Harvest.ofFailure failure
  | .ok run => Suspended.harvest limit run

def surveyReadings (blueprint : Blueprint) (style : RunStyle) (limit : Option Nat) (text : Text) :
    Answer (Survey (Harvest Reading)) :=
  blueprint.survey style fun parser =>
    let harvest := parser.harvest limit text
    (harvest, harvest.events)

def surveyComplete (blueprint : Blueprint) (limit : Option Nat) (text : Text) :
    Answer (Survey (Harvest Value)) :=
  blueprint.survey .parse fun parser =>
    let harvest := Suspended.harvest limit fun _ => parser.complete text
    (harvest, harvest.events)

def surveyFirst (blueprint : Blueprint) (text : Text) (fallback : Option Value) :
    Answer (Survey (Except Failure Value)) :=
  blueprint.survey .parse fun parser =>
    let answer := parser.firstComplete text fallback
    (answer.result, answer.events)

/-- A run on the bench gives readings or complete values. -/
inductive Item where
  | reading (reading : Reading)
  | value (value : Value)

/-- The bench keeps its parts and its open runs by name, the latest first. A part may be a plain
value, which is noticed only when it is used. -/
structure Bench where
  parts : List (Text × Given Parser)
  runs : List (Text × Suspended Item)
  events : List Event

def Bench.empty : Bench := ⟨[], [], []⟩

inductive BenchStep where
  | define (name : Text) (blueprint : Blueprint)
  | start (run parser text : Text)
  | startComplete (run parser text : Text)
  | next (run : Text)
  | drain (run : Text)
  | first (parser text : Text) (fallback : Option Value)

inductive BenchReply where
  | defined (description : Text)
  | started
  | item (item : Item)
  | ended
  | drained (items : List Item) (ended : Bool) (failure : Option Failure)
  | value (value : Value)
  | failed (failure : Failure)

def Bench.part? (bench : Bench) (name : Text) : Option (Given Parser) :=
  bench.parts.lookup name

def Bench.parser? (bench : Bench) (name : Text) : Option Parser :=
  (bench.part? name).map (Given.toParser .parse)

def Bench.note (bench : Bench) (events : List Event) : Bench :=
  { bench with events := bench.events ++ events }

def Bench.setPart (bench : Bench) (name : Text) (part : Given Parser) : Bench :=
  { bench with parts := (name, part) :: bench.parts }

def Bench.setRun (bench : Bench) (name : Text) (run : Suspended Item) : Bench :=
  { bench with runs := (name, run) :: bench.runs }

/-- A failed definition leaves the bench without a new part but keeps what happened. -/
def Bench.define (bench : Bench) (name : Text) (blueprint : Blueprint) : Bench × BenchReply :=
  let built := blueprint.build bench.part?
  let noted := bench.note built.events
  match built.result with
  | .error failure => (noted, .failed failure)
  | .ok part => (noted.setPart name part, .defined part.describe)

def Bench.start (bench : Bench) (name parser : Text)
    (begin : Parser → Except Failure (Suspended Item)) : Bench × BenchReply :=
  match bench.parser? parser with
  | none => (bench, .failed (.unknownName parser))
  | some found =>
      match begin found with
      | .error failure => (bench, .failed failure)
      | .ok run => (bench.setRun name run, .started)

def Bench.next (bench : Bench) (name : Text) : Bench × BenchReply :=
  match bench.runs.lookup name with
  | none => (bench, .failed (.unknownName name))
  | some run =>
      let pull := (run ()).pull
      let later := (bench.note pull.answer.events).setRun name pull.rest
      match pull.answer.result with
      | .error failure => (later, .failed failure)
      | .ok none => (later, .ended)
      | .ok (some item) => (later, .item item)

def Bench.drain (bench : Bench) (name : Text) : Bench × BenchReply :=
  match bench.runs.lookup name with
  | none => (bench, .failed (.unknownName name))
  | some run =>
      let harvest := (run ()).takeAll
      ((bench.note harvest.events).setRun name harvest.rest,
        .drained harvest.items harvest.ended harvest.failure)

def Bench.first (bench : Bench) (parser text : Text) (fallback : Option Value) :
    Bench × BenchReply :=
  match bench.parser? parser with
  | none => (bench, .failed (.unknownName parser))
  | some found =>
      let answer := found.firstComplete text fallback
      let later := bench.note answer.events
      match answer.result with
      | .error failure => (later, .failed failure)
      | .ok value => (later, .value value)

def Bench.step (bench : Bench) : BenchStep → Bench × BenchReply
  | .define name blueprint => bench.define name blueprint
  | .start run parser text =>
      bench.start run parser fun found =>
        (found.start text).map (Suspended.map Item.reading)
  | .startComplete run parser text =>
      bench.start run parser fun found =>
        .ok fun _ => (found.complete text).map Item.value
  | .next run => bench.next run
  | .drain run => bench.drain run
  | .first parser text fallback => bench.first parser text fallback

/-- Every reply comes with the counters after its step. -/
def Bench.play (bench : Bench) : List BenchStep → Bench × List (BenchReply × List (Text × Tally))
  | [] => (bench, [])
  | step :: rest =>
      let (later, reply) := bench.step step
      let (last, replies) := later.play rest
      (last, (reply, counters later.events) :: replies)

end Diplomacy
