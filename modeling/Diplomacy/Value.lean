/-
This file holds the values that parsers produce and the text that shows them.
-/

import Diplomacy.Order.Printer

namespace Diplomacy

/-- A tag tells which part of a compound parser produced a value. -/
inductive Tag where
  | plain
  | present
  | left
  | right
  deriving DecidableEq, Repr

def Tag.name : Tag → Text
  | .plain => "Tagged".toList
  | .present => "Present".toList
  | .left => "Left".toList
  | .right => "Right".toList

def Tag.isLeft : Tag → Bool
  | .left => true
  | _ => false

/-- A station is a piece at a place without any instruction. -/
inductive Value where
  | none
  | truth (value : Bool)
  | number (value : Int)
  | text (value : Text)
  | tuple (items : List Value)
  | tagged (tag : Tag) (content : Value)
  | order (command : Order)
  | station (unit : Option Piece) (place : Text)

/-- This is the word for the kind of a value in messages. -/
def Value.kindName : Value → Text
  | .none => "NoneType".toList
  | .truth _ => "bool".toList
  | .number _ => "int".toList
  | .text _ => "str".toList
  | .tuple _ => "tuple".toList
  | .tagged tag _ => tag.name
  | .order command => command.kind.name
  | .station _ _ => "Order".toList

def describeNumber : Int → Text
  | .ofNat magnitude => Nat.toDigits 10 magnitude
  | .negSucc below => '-' :: Nat.toDigits 10 (below + 1)

/-- A single item keeps a comma, so that it differs from a value in brackets. -/
def describeTuple : List Text → Text
  | [item] => '(' :: item ++ [',', ')']
  | items => '(' :: joinFields items ++ [')']

mutual

def Value.describe : Value → Text
  | .none => "None".toList
  | .truth true => "True".toList
  | .truth false => "False".toList
  | .number value => describeNumber value
  | .text value => Text.quoted value
  | .tuple items => describeTuple (Value.describeAll items)
  | .tagged tag content => describeRecord tag.name [content.describe]
  | .order command => command.describe
  | .station unit place => describeRecord "Order".toList [describeUnit unit, Text.quoted place]

def Value.describeAll : List Value → List Text
  | [] => []
  | item :: rest => item.describe :: Value.describeAll rest

end

/-- Texts and orders have a shorter form of their own. -/
def Value.display : Value → Text
  | .text value => value
  | .order command => command.render
  | value => value.describe

def truthNumber (value : Bool) : Int :=
  if value then 1 else 0

mutual

/-- Truth values compare like the numbers zero and one, and all else by its shape. -/
def Value.same : Value → Value → Bool
  | .none, .none => true
  | .truth first, .truth second => first == second
  | .truth first, .number second => truthNumber first == second
  | .number first, .truth second => first == truthNumber second
  | .number first, .number second => first == second
  | .text first, .text second => first == second
  | .tuple first, .tuple second => Value.sameAll first second
  | .tagged firstTag first, .tagged secondTag second => firstTag == secondTag && first.same second
  | .order first, .order second => first == second
  | .station firstUnit firstPlace, .station secondUnit secondPlace =>
      firstUnit == secondUnit && firstPlace == secondPlace
  | _, _ => false

def Value.sameAll : List Value → List Value → Bool
  | [], [] => true
  | first :: firsts, second :: seconds => first.same second && Value.sameAll firsts seconds
  | _, _ => false

end

/-- This function keeps the first of the values that are the same. -/
def Value.distinct : List Value → List Value
  | [] => []
  | value :: rest => value :: (Value.distinct rest).filter fun other => !other.same value

example : (Value.tuple [.text "a".toList, .tagged .present .none]).describe =
    ['(', '\x27', 'a', '\x27', ',', ' ', 'P', 'r', 'e', 's', 'e', 'n', 't', '(',
      'N', 'o', 'n', 'e', ')', ')'] := by decide

end Diplomacy
