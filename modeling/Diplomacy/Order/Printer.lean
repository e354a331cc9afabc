/-
This file writes orders, in the short form that players use and in full.
-/

import Diplomacy.Order.Basic
import Diplomacy.Text.Quoted

namespace Diplomacy

/-- The abbreviation of a named piece stands before its place. -/
def renderStation (unit : Option Piece) (place : Text) : Text :=
  match unit with
  | none => place
  | some piece => piece.abbreviation ++ ' ' :: place

def Hold.render (order : Hold) : Text :=
  renderStation order.unit order.place ++ " H".toList

def Move.render (order : Move) : Text :=
  renderStation order.unit order.source ++ " - ".toList ++ order.destination

def Aided.render : Aided → Text
  | .hold order => order.render
  | .move order => order.render

/-- These letters stand for supports and convoys. -/
def supportLetter : Text := "S".toList

def convoyLetter : Text := "C".toList

def Order.render : Order → Text
  | .hold order => order.render
  | .move order => order.render
  | .support unit place aided =>
      renderStation unit place ++ ' ' :: supportLetter ++ ' ' :: aided.render
  | .convoy unit place carried =>
      renderStation unit place ++ ' ' :: convoyLetter ++ ' ' :: carried.render

/-- This function joins the fields of a record with commas. -/
def joinFields : List Text → Text
  | [] => []
  | [field] => field
  | field :: rest => field ++ ", ".toList ++ joinFields rest

/-- A record is written as its name with its fields in brackets. -/
def describeRecord (name : Text) (fields : List Text) : Text :=
  name ++ '(' :: joinFields fields ++ [')']

/-- Names and places are quoted, and the given class decides which characters stay plain. -/
def describeUnitBy (printable : Char → Bool) : Option Piece → Text
  | none => "None".toList
  | some piece => Text.quotedBy printable piece.name

def Hold.describeBy (printable : Char → Bool) (order : Hold) : Text :=
  describeRecord OrderKind.hold.name
    [describeUnitBy printable order.unit, Text.quotedBy printable order.place]

def Move.describeBy (printable : Char → Bool) (order : Move) : Text :=
  describeRecord OrderKind.move.name
    [describeUnitBy printable order.unit, Text.quotedBy printable order.source,
      Text.quotedBy printable order.destination]

def Aided.describeBy (printable : Char → Bool) : Aided → Text
  | .hold order => order.describeBy printable
  | .move order => order.describeBy printable

def Order.describeBy (printable : Char → Bool) : Order → Text
  | .hold order => order.describeBy printable
  | .move order => order.describeBy printable
  | .support unit place aided =>
      describeRecord OrderKind.support.name
        [describeUnitBy printable unit, Text.quotedBy printable place, aided.describeBy printable]
  | .convoy unit place carried =>
      describeRecord OrderKind.convoy.name
        [describeUnitBy printable unit, Text.quotedBy printable place, carried.describeBy printable]

def describeUnit (unit : Option Piece) : Text :=
  describeUnitBy isPrintable unit

def Order.describe (order : Order) : Text :=
  order.describeBy isPrintable

example : (Order.support (some .fleet) "brest".toList
    (.move ⟨none, "paris".toList, "gascony".toList⟩)).render =
      "F brest S paris - gascony".toList := by decide

end Diplomacy
