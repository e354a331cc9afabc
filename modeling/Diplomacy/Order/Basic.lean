/-
This file holds the pieces of the board and the orders that they can be given.
-/

import Diplomacy.Text.Basic

namespace Diplomacy

inductive Piece where
  | army
  | fleet
  deriving DecidableEq, Repr

def Piece.name : Piece → Text
  | .army => "Army".toList
  | .fleet => "Fleet".toList

def Piece.abbreviation : Piece → Text
  | .army => "A".toList
  | .fleet => "F".toList

def Piece.all : List Piece := [.army, .fleet]

/-- This function finds the piece with the given name. -/
def Piece.ofName? (name : Text) : Option Piece :=
  Piece.all.find? fun piece => piece.name = name

@[simp] theorem Piece.ofName?_name (piece : Piece) : Piece.ofName? piece.name = some piece := by
  cases piece <;> decide

/-- The piece stays where it is. An order may leave its piece unnamed. -/
structure Hold where
  unit : Option Piece
  place : Text
  deriving DecidableEq, Repr

/-- The piece leaves one place for another. -/
structure Move where
  unit : Option Piece
  source : Text
  destination : Text
  deriving DecidableEq, Repr

/-- A support helps a hold or a move along. -/
inductive Aided where
  | hold (order : Hold)
  | move (order : Move)
  deriving DecidableEq, Repr

/-- A convoy carries a move across water. -/
inductive Order where
  | hold (order : Hold)
  | move (order : Move)
  | support (unit : Option Piece) (place : Text) (aided : Aided)
  | convoy (unit : Option Piece) (place : Text) (carried : Move)
  deriving DecidableEq, Repr

def Aided.toOrder : Aided → Order
  | .hold order => .hold order
  | .move order => .move order

def Order.unit : Order → Option Piece
  | .hold order => order.unit
  | .move order => order.unit
  | .support unit _ _ => unit
  | .convoy unit _ _ => unit

/-- This is the place of the piece that receives the order. -/
def Order.place : Order → Text
  | .hold order => order.place
  | .move order => order.source
  | .support _ place _ => place
  | .convoy _ place _ => place

/-- A held piece ends where it started. -/
def Aided.destination : Aided → Text
  | .hold order => order.place
  | .move order => order.destination

/-- An order is of one of four kinds. -/
inductive OrderKind where
  | hold
  | move
  | support
  | convoy
  deriving DecidableEq, Repr

def OrderKind.name : OrderKind → Text
  | .hold => "Hold".toList
  | .move => "Move".toList
  | .support => "Support".toList
  | .convoy => "Convoy".toList

def Order.kind : Order → OrderKind
  | .hold _ => .hold
  | .move _ => .move
  | .support _ _ _ => .support
  | .convoy _ _ _ => .convoy

end Diplomacy
