/-
This file finds the names of places at the start of a text.
-/

import Diplomacy.Run.Basic
import Diplomacy.Text.Letter

namespace Diplomacy

def namePunctuation : Text := ".()".toList

/-- A name is made of letters, points and brackets. -/
def isNameCharacter (character : Char) : Bool :=
  isLetter character || namePunctuation.contains character

def startsInName : Text → Bool
  | [] => false
  | character :: _ => isNameCharacter character

/-- Names have no terminator, so every end of a word may end the name. The shortest name comes
first, and what stands between two words stays inside a longer name. -/
def nameEndings : Text → List (Text × Text)
  | [] => []
  | character :: rest =>
      let longer := (nameEndings rest).map fun (name, remainder) => (character :: name, remainder)
      if isNameCharacter character && !startsInName rest then ([character], rest) :: longer
      else longer

/-- A name starts at the first character that can belong to one. -/
def placeNames (text : Text) : List (Text × Text) :=
  nameEndings (text.dropWhile fun character => !isNameCharacter character)

/-- What has been read of a name is kept with the latest character first. -/
def namesAfter (read : Text) : Text → Run (Text × Text)
  | [] => .stop
  | character :: rest =>
      if isNameCharacter character && !startsInName rest then
        .emit ((character :: read).reverse, rest) fun _ => namesAfter (character :: read) rest
      else namesAfter (character :: read) rest

/-- The names are found one by one, and a longer name is looked for only when it is wanted. -/
def findNames (text : Text) : Run (Text × Text) :=
  namesAfter [] (text.dropWhile fun character => !isNameCharacter character)

theorem append_of_mem_nameEndings {text name remainder : Text}
    (member : (name, remainder) ∈ nameEndings text) : name ++ remainder = text := by
  induction text generalizing name with
  | nil => simp [nameEndings] at member
  | cons character rest ih =>
      have split : (name, remainder) = ([character], rest) ∨
          (name, remainder) ∈ (nameEndings rest).map fun (name, remainder) =>
            (character :: name, remainder) := by
        simp only [nameEndings] at member
        split at member
        · exact List.mem_cons.1 member
        · exact Or.inr member
      rcases split with whole | longer
      · simp_all
      · obtain ⟨⟨shorter, after⟩, found, equal⟩ := List.mem_map.1 longer
        cases equal
        simp [ih found]

theorem suffix_of_mem_placeNames {text name remainder : Text}
    (member : (name, remainder) ∈ placeNames text) : remainder <:+ text :=
  List.IsSuffix.trans ⟨name, append_of_mem_nameEndings member⟩ (List.dropWhile_suffix _)

example : placeNames " mid sea ".toList =
    [("mid".toList, " sea ".toList), ("mid sea".toList, " ".toList)] := by decide

end Diplomacy
