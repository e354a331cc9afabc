/-
This file reads the properties of orders and tagged values.
-/

import Diplomacy.Failure

namespace Diplomacy

inductive Property where
  | unit
  | place
  | kind
  | source
  | destination
  | supported
  | supportedUnit
  | supportedSource
  | supportedDestination
  | isMove
  | keyword
  | allowed
  | content
  | isLeft
  deriving DecidableEq, Repr

def Property.name : Property → Text
  | .unit => "unit".toList
  | .place => "place".toList
  | .kind => "type".toList
  | .source => "source".toList
  | .destination => "destination".toList
  | .supported => "supported".toList
  | .supportedUnit => "supported_unit".toList
  | .supportedSource => "supported_source".toList
  | .supportedDestination => "supported_destination".toList
  | .isMove => "is_move".toList
  | .keyword => "keyword".toList
  | .allowed => "allowed".toList
  | .content => "value".toList
  | .isLeft => "is_left".toList

def Property.all : List Property := [
    .unit, .place, .kind, .source, .destination, .supported, .supportedUnit, .supportedSource,
    .supportedDestination, .isMove, .keyword, .allowed, .content, .isLeft]

def Property.ofName? (name : Text) : Option Property :=
  Property.all.find? fun property => property.name = name

@[simp] theorem Property.ofName?_name (property : Property) :
    Property.ofName? property.name = some property := by
  cases property <;> decide

def Value.ofUnit : Option Piece → Value
  | .none => .none
  | .some piece => .text piece.name

def Aided.isMove : Aided → Bool
  | .hold _ => false
  | .move _ => true

def Value.ofKinds (kinds : List OrderKind) : Value :=
  .tuple (kinds.map fun kind => .text kind.name)

/-- These properties belong to the order that is helped along. -/
def Aided.property? (aided : Aided) : Property → Option Value
  | .supported => some (.order aided.toOrder)
  | .supportedUnit => some (.ofUnit aided.toOrder.unit)
  | .supportedSource => some (.text aided.toOrder.place)
  | .supportedDestination => some (.text aided.destination)
  | .isMove => some (.truth aided.isMove)
  | _ => none

/-- These properties belong to one kind of order and not to all. -/
def Order.ownProperty? : Order → Property → Option Value
  | .hold order, .destination => some (.text order.place)
  | .move order, .source => some (.text order.source)
  | .move order, .destination => some (.text order.destination)
  | .support _ _ _, .keyword => some (.text supportLetter)
  | .support _ _ _, .allowed => some (.ofKinds AidKind.support.allowed)
  | .support _ _ aided, property => aided.property? property
  | .convoy _ _ _, .keyword => some (.text convoyLetter)
  | .convoy _ _ _, .allowed => some (.ofKinds AidKind.convoy.allowed)
  | .convoy _ _ carried, property => (Aided.move carried).property? property
  | _, _ => none

def Order.property? (order : Order) : Property → Option Value
  | .unit => some (.ofUnit order.unit)
  | .place => some (.text order.place)
  | .kind => some (.text order.kind.name)
  | property => order.ownProperty? property

def Value.property? : Value → Property → Option Value
  | .order command, property => command.property? property
  | .station unit _, .unit => some (.ofUnit unit)
  | .station _ place, .place => some (.text place)
  | .station unit place, .kind => some (.text (Value.station unit place).kindName)
  | .tagged _ content, .content => some content
  | .tagged tag _, .isLeft => some (.truth tag.isLeft)
  | _, _ => .none

/-- A property that the value does not have is named in the failure. -/
def Value.get (value : Value) (name : Text) : Except Failure Value :=
  match (Property.ofName? name).bind value.property? with
  | .some found => .ok found
  | .none => .error (.noAttribute value name)

/-- Nothing of an order can be replaced. Of a tagged value only the content can, and that is done
where the value is kept. -/
def Value.changeFailure (value : Value) (name : Text) : Failure :=
  match value with
  | .order _ => .immutable value
  | .station _ _ => .immutable value
  | .tagged _ _ =>
      if name = Property.isLeft.name then .readOnly value name else .noAttribute value name
  | _ => .noAttribute value name

end Diplomacy
