/-
This file fixes how texts are held, how a character class is looked up, which characters are blank,
and how a text is split into its lines.
-/

namespace Diplomacy

/-- A text is the list of its characters, so lengths and cuts count code points. -/
abbrev Text := List Char

/-- This function looks a code point up in ranges that are listed in increasing order. -/
def covers : List (Nat × Nat) → Nat → Bool
  | [], _ => false
  | (first, last) :: rest, point =>
      if point < first then false
      else if point ≤ last then true
      else covers rest point

theorem exists_range_of_covers {ranges : List (Nat × Nat)} {point : Nat}
    (covered : covers ranges point = true) :
    ∃ range ∈ ranges, range.1 ≤ point ∧ point ≤ range.2 := by
  induction ranges with
  | nil => simp [covers] at covered
  | cons range rest ih =>
      rw [covers] at covered
      split at covered
      · cases covered
      · split at covered
        · exact ⟨range, List.mem_cons_self, by omega, by assumption⟩
        · obtain ⟨found, member, within⟩ := ih covered
          exact ⟨found, List.mem_cons_of_mem _ member, within⟩

/-- These ranges hold the white space of every script and the four information separators. -/
def blankRanges : List (Nat × Nat) := [
    (0x9, 0xd), (0x1c, 0x20), (0x85, 0x85), (0xa0, 0xa0), (0x1680, 0x1680),
    (0x2000, 0x200a), (0x2028, 0x2029), (0x202f, 0x202f), (0x205f, 0x205f), (0x3000, 0x3000)]

def isBlank (character : Char) : Bool :=
  covers blankRanges character.toNat

/-- This function splits off the longest run of blanks at the start of a text. -/
def Text.splitBlanks (text : Text) : Text × Text :=
  (text.takeWhile isBlank, text.dropWhile isBlank)

def Text.trimStart (text : Text) : Text :=
  text.dropWhile isBlank

def Text.trimEnd (text : Text) : Text :=
  (text.reverse.dropWhile isBlank).reverse

def Text.trim (text : Text) : Text :=
  Text.trimEnd (Text.trimStart text)

def isBlankLine (text : Text) : Bool :=
  (Text.trim text).isEmpty

theorem Text.splitBlanks_append (text : Text) :
    (Text.splitBlanks text).1 ++ (Text.splitBlanks text).2 = text := by
  simp [Text.splitBlanks, List.takeWhile_append_dropWhile]

theorem Text.trimStart_suffix (text : Text) : Text.trimStart text <:+ text :=
  List.dropWhile_suffix _

theorem Text.length_trimStart_le (text : Text) : (Text.trimStart text).length ≤ text.length :=
  (Text.trimStart_suffix text).length_le

example : Text.trim "\t a brest h \u3000".toList = "a brest h".toList := by decide

def lineBreakRanges : List (Nat × Nat) := [
    (0xa, 0xd), (0x1c, 0x1e), (0x85, 0x85), (0x2028, 0x2029)]

def isLineBreak (character : Char) : Bool :=
  covers lineBreakRanges character.toNat

/-- This function puts a character in front of the first line and opens a line if there is none. -/
def Text.extendFirst (character : Char) : List Text → List Text
  | [] => [[character]]
  | first :: rest => (character :: first) :: rest

/-- A carriage return before a line feed leaves the break to the line feed, and a break at the
end opens no further line. -/
def Text.lines : Text → List Text
  | [] => []
  | character :: rest =>
      if character = '\r' ∧ rest.head? = some '\n' then Text.lines rest
      else if isLineBreak character then [] :: Text.lines rest
      else Text.extendFirst character (Text.lines rest)

theorem Text.lines_eq_nil_iff (text : Text) : Text.lines text = [] ↔ text = [] := by
  induction text with
  | nil => simp [Text.lines]
  | cons character rest ih =>
      simp only [Text.lines, reduceCtorEq, iff_false]
      split
      · rename_i pair
        intro empty
        rw [ih.1 empty] at pair
        simp at pair
      · split
        · simp
        · cases Text.lines rest <;> simp [Text.extendFirst]

example : Text.lines "a h\r\n\nb h\r".toList = ["a h".toList, [], "b h".toList] := by decide

end Diplomacy
