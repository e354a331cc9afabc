/-
This file makes orders from values of any kind and refuses those that do not fit.
-/

import Diplomacy.Failure

namespace Diplomacy

/-- A unit is left out or given by the name of a piece. -/
def readUnit : Value → Except Failure (Option Piece)
  | .none => .ok none
  | .text name =>
      match Piece.ofName? name with
      | some piece => .ok (some piece)
      | none => .error (.unknownUnit (.text name))
  | value => .error (.unknownUnit value)

/-- A support accepts a hold or a move. -/
def makeSupport (unit : Option Piece) (place : Text) : Value → Except Failure Order
  | .order (.hold order) => .ok (.support unit place (.hold order))
  | .order (.move order) => .ok (.support unit place (.move order))
  | value => .error (.notAllowed .support value)

/-- A convoy accepts a move only. -/
def makeConvoy (unit : Option Piece) (place : Text) : Value → Except Failure Order
  | .order (.move order) => .ok (.convoy unit place order)
  | value => .error (.notAllowed .convoy value)

/-- A draft names the parts of an order before they are checked. -/
inductive Draft (A : Type) where
  | station (unit : A) (place : Text)
  | hold (unit : A) (place : Text)
  | move (unit : A) (source destination : Text)
  | aid (kind : AidKind) (unit : A) (place : Text) (aided : A)

def Draft.resolve {A B : Type} (look : A → Except Failure B) : Draft A → Except Failure (Draft B)
  | .station unit place => do return .station (← look unit) place
  | .hold unit place => do return .hold (← look unit) place
  | .move unit source destination => do return .move (← look unit) source destination
  | .aid kind unit place aided => do
      let unit ← look unit
      let aided ← look aided
      return .aid kind unit place aided

def makeAid (unit : Option Piece) (place : Text) (aided : Value) :
    AidKind → Except Failure Order
  | .general => .error (.notAllowed .general aided)
  | .support => makeSupport unit place aided
  | .convoy => makeConvoy unit place aided

/-- The unit is checked before the order that is helped along. -/
def Draft.make : Draft Value → Except Failure Value
  | .station unit place => do
      let piece ← readUnit unit
      return .station piece place
  | .hold unit place => do
      let piece ← readUnit unit
      return .order (.hold ⟨piece, place⟩)
  | .move unit source destination => do
      let piece ← readUnit unit
      return .order (.move ⟨piece, source, destination⟩)
  | .aid kind unit place aided => do
      let piece ← readUnit unit
      let order ← makeAid piece place aided kind
      return .order order

end Diplomacy
