/-
This file holds the plain functions that parsers can be described with.
-/

import Diplomacy.Parser.Basic

namespace Diplomacy

/-- This function names an adapter that leaves no trace and does not fail. -/
def Adapter.ofFunction (name : String) (offer : Text → Offer) : Adapter :=
  ⟨.named name.toList, fun text => pure (offer text)⟩

def isDigit (character : Char) : Bool :=
  '0' ≤ character && character ≤ '9'

/-- This function reads a number from its decimal digits. -/
def numberOfDigits (digits : Text) : Nat :=
  digits.foldl (fun number digit => 10 * number + (digit.toNat - '0'.toNat)) 0

/-- All leading digits belong to the number, even if there are more than can be read. -/
def offerDigits (text : Text) : Except Failure Offer :=
  let digits := text.takeWhile isDigit
  if digits.isEmpty then .ok .refusal
  else if digits.length ≤ digitLimit then
    .ok (.reading (.number (numberOfDigits digits)) (text.dropWhile isDigit))
  else .error (.tooManyDigits digits.length)

def offerCharacter : Text → Offer
  | [] => .refusal
  | character :: rest => .reading (.text [character]) rest

/-- A text that is returned as it is counts its characters as parts. -/
def offerItself : Text → Offer
  | [] => .refusal
  | [value, rest] => .reading (.text [value]) [rest]
  | text => .parts text.length

def Adapter.digits : Adapter :=
  ⟨.named "digits".toList, fun text => Answer.ofExcept (offerDigits text)⟩

def Adapter.refuse : Adapter := .ofFunction "fail" fun _ => .refusal

def Adapter.refuseEmpty : Adapter := .ofFunction "empty_tuple" fun _ => .refusal

def Adapter.nothing : Adapter := .ofFunction "none_value" fun _ => .reading .none []

def Adapter.character : Adapter := .ofFunction "one_char" offerCharacter

def Adapter.whole : Adapter := .ofFunction "rest" fun text => .reading (.text text) []

def Adapter.single : Adapter := .ofFunction "single" fun _ => .parts 1

def Adapter.triple : Adapter := .ofFunction "triple" fun _ => .parts 3

def Adapter.anonymous : Adapter := ⟨.anonymous, fun text => pure (offerItself text)⟩

example : numberOfDigits "1901".toList = 1901 := by decide

end Diplomacy
