/-
This file writes a text between quotes so that every character can be read back.
-/

import Diplomacy.Text.Printable

namespace Diplomacy

def hexDigit (value : Nat) : Char :=
  if value < 10 then Char.ofNat (48 + value) else Char.ofNat (87 + value)

/-- This function writes the last `width` hexadecimal digits of a number. -/
def hexDigits : Nat → Nat → Text
  | 0, _ => []
  | width + 1, value => hexDigits width (value / 16) ++ [hexDigit (value % 16)]

@[simp] theorem length_hexDigits (width value : Nat) :
    (hexDigits width value).length = width := by
  induction width generalizing value with
  | zero => rfl
  | succ width ih => simp [hexDigits, ih]

/-- A code point is written with two, four or eight digits, whichever is the first to fit. -/
def codeEscape (point : Nat) : Text :=
  if point < 0x100 then '\\' :: 'x' :: hexDigits 2 point
  else if point < 0x10000 then '\\' :: 'u' :: hexDigits 4 point
  else '\\' :: 'U' :: hexDigits 8 point

/-- The backslash, the quote in use and the three common controls have short escapes. -/
def escape (printable : Char → Bool) (quote character : Char) : Text :=
  if character = quote ∨ character = '\\' then ['\\', character]
  else if character = '\n' then ['\\', 'n']
  else if character = '\r' then ['\\', 'r']
  else if character = '\t' then ['\\', 't']
  else if printable character then [character]
  else codeEscape character.toNat

/-- Single quotes are used unless the text holds a single quote and no double quote. -/
def quoteFor (text : Text) : Char :=
  if text.contains '\x27' && !text.contains '\x22' then '\x22' else '\x27'

def Text.quotedBy (printable : Char → Bool) (text : Text) : Text :=
  let quote := quoteFor text
  quote :: text.flatMap (escape printable quote) ++ [quote]

def Text.quoted (text : Text) : Text :=
  Text.quotedBy isPrintable text

example : Text.quoted "a\tb".toList = ['\x27', 'a', '\\', 't', 'b', '\x27'] := by decide

example : Text.quoted ['i', 't', '\x27', 's'] = ['\x22', 'i', 't', '\x27', 's', '\x22'] := by decide

end Diplomacy
