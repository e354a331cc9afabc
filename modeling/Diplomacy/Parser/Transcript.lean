/-
This file reads a text with a parser all at once.
-/

import Diplomacy.Parser.Basic
import Diplomacy.Run.Transcript

namespace Diplomacy

def Offer.readings : Offer → Transcript Reading
  | .refusal => .empty
  | .reading value rest => .one (value, rest)
  | .parts count => .fail (partsFailure count)

/-- Every parser has a finite list of readings, which a failure may cut off. -/
def Parser.readings : Parser → Text → Transcript Reading
  | .never, _ => .empty
  | .empty, text => .one (.tuple [], text)
  | .literal tag, text =>
      if tag.isPrefixOf text then .one (.text tag, text.drop tag.length) else .empty
  | .anyOf tags ignoreCase, text =>
      match firstTag? ignoreCase tags text with
      | none => .empty
      | some tag => .one (.text tag, text.drop tag.length)
  | .blanks required, text =>
      let (consumed, rest) := Text.splitBlanks text
      if required && consumed.isEmpty then .empty else .one (.text consumed, rest)
  | .endOfInput, text => if text.isEmpty then .one (.tuple [], text) else .empty
  | .placeName, text => ⟨(placeNames text).map fun (name, rest) => (.text name, rest), none⟩
  | .broken _ failure, _ => .fail failure
  | .optional inner, text =>
      ((inner.readings text).map fun (value, rest) => (.tagged .present value, rest)).append
        (.one (.none, text))
  | .either left right, text =>
      ((left.readings text).map fun (value, rest) => (.tagged .left value, rest)).append
        ((right.readings text).map fun (value, rest) => (.tagged .right value, rest))
  | .chain first second, text =>
      (first.readings text).bind fun (firstValue, rest) =>
        (second.readings rest).map fun (secondValue, remainder) =>
          (.tuple [firstValue, secondValue], remainder)
  | .map inner transform, text =>
      (inner.readings text).bind fun (value, rest) =>
        (Transcript.ofExcept (transform.apply value).result).map fun changed => (changed, rest)
  | .adapt adapter, text =>
      (Transcript.ofExcept (adapter.apply text).result).bind Offer.readings
  | .counting _ inner, text => inner.readings text

@[simp] theorem Offer.transcript_read (offer : Offer) : offer.read.transcript = offer.readings := by
  cases offer <;> rfl

@[simp] theorem Transform.transcript_read (transform : Transform) (reading : Reading) :
    (transform.read reading).transcript =
      (Transcript.ofExcept (transform.apply reading.1).result).map fun changed =>
        (changed, reading.2) := by
  simp [Transform.read]

@[simp] theorem Transcript.bind_one {A : Type} (transcript : Transcript A) :
    transcript.bind Transcript.one = transcript := by
  obtain ⟨items, failure⟩ := transcript
  induction items with
  | nil => rfl
  | cons item rest ih =>
      simp only [Transcript.bind, Transcript.join] at ih ⊢
      rw [ih]
      rfl

theorem transcript_namesAfter (read text : Text) :
    (namesAfter read text).transcript =
      ⟨(nameEndings text).map fun (name, rest) => (read.reverse ++ name, rest), none⟩ := by
  induction text generalizing read with
  | nil => rfl
  | cons character rest ih =>
      simp only [namesAfter, nameEndings]
      split <;> simp [ih, Transcript.cons, Function.comp_def]

@[simp] theorem transcript_findNames (text : Text) :
    (findNames text).transcript = ⟨placeNames text, none⟩ := by
  simp [findNames, placeNames, transcript_namesAfter]

theorem Parser.transcript_run (parser : Parser) (text : Text) :
    (parser.run text).transcript = parser.readings text := by
  induction parser generalizing text with
  | never => rfl
  | empty => rfl
  | literal tag =>
      simp only [Parser.run, Parser.readings]
      split <;> rfl
  | anyOf tags ignoreCase =>
      simp only [Parser.run, Parser.readings]
      cases firstTag? ignoreCase tags text <;> rfl
  | blanks required =>
      simp only [Parser.run, Parser.readings]
      split <;> rfl
  | endOfInput =>
      simp only [Parser.run, Parser.readings]
      split <;> rfl
  | placeName => simp [Parser.run, Parser.readings, Transcript.map]
  | broken shown failure => rfl
  | optional inner ih =>
      rw [Parser.run, Run.transcript_append, Run.transcript_map, ih]
      rfl
  | either left right leftIh rightIh =>
      rw [Parser.run, Run.transcript_append, Run.transcript_map, Run.transcript_map, leftIh,
        rightIh]
      rfl
  | chain first second firstIh secondIh =>
      simp [Parser.run, Parser.readings, firstIh, secondIh]
  | map inner transform ih => simp [Parser.run, Parser.readings, ih]
  | adapt adapter => simp [Parser.run, Parser.readings, Adapter.read]
  | counting counter inner ih => simp [Parser.run, Parser.readings, ih]

end Diplomacy
