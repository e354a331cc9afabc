import Diplomacy.Text.Quoted
import Mathlib.Algebra.Group.Nat.Defs
import Mathlib.Logic.Function.Basic
import Mathlib.Tactic.SplitIfs

namespace Diplomacy

variable {A B : Type}

/-- What is written in this form is told apart from whatever follows it. -/
def SelfDelimiting (write : A → Text) : Prop :=
  ∀ first second rest later, write first ++ rest = write second ++ later →
    first = second ∧ rest = later

section SelfDelimiting

variable {write : A → Text}

/-- Two items that are written alike are the same. -/
theorem SelfDelimiting.injective (delimits : SelfDelimiting write) :
    Function.Injective write := by
  intro first second equal
  exact (delimits first second [] [] (by rw [equal])).1

/-- A reader that finds the item and leaves what follows shows where the item ends. -/
theorem SelfDelimiting.of_read (read : Text → Option (A × Text))
    (reads : ∀ item rest, read (write item ++ rest) = some (item, rest)) :
    SelfDelimiting write := by
  intro first second rest later equal
  have found := reads first rest
  rw [equal, reads second later] at found
  obtain ⟨rfl, rfl⟩ := Prod.mk.inj (Option.some.inj found)
  exact ⟨rfl, rfl⟩

/-- Items that do not begin with the closing character are told apart from it, so they can be
written one after the other in front of it. -/
theorem SelfDelimiting.closed (delimits : SelfDelimiting write) {closing : Char}
    (opens : ∀ item, ∃ first others, write item = first :: others ∧ first ≠ closing) :
    SelfDelimiting fun items : List A => items.flatMap write ++ [closing] := by
  have apart (item : A) (rest later : Text) : write item ++ rest ≠ closing :: later := by
    obtain ⟨first, others, written, different⟩ := opens item
    rw [written]
    intro equal
    exact different (List.cons.inj equal).1
  intro items
  induction items with
  | nil =>
      intro second rest later equal
      cases second with
      | nil => exact ⟨rfl, List.append_cancel_left equal⟩
      | cons item others =>
          simp only [List.flatMap_nil, List.flatMap_cons, List.append_assoc] at equal
          exact absurd equal.symm (apart item _ _)
  | cons item items ih =>
      intro second rest later equal
      cases second with
      | nil =>
          simp only [List.flatMap_nil, List.flatMap_cons, List.append_assoc] at equal
          exact absurd equal (apart item _ _)
      | cons other others =>
          simp only [List.flatMap_cons, List.append_assoc] at equal
          obtain ⟨rfl, remaining⟩ := delimits item other _ _ equal
          simp only [← List.append_assoc] at remaining
          obtain ⟨rfl, same⟩ := ih others rest later remaining
          exact ⟨rfl, same⟩

end SelfDelimiting

def hexValue (digit : Char) : Nat :=
  if digit.toNat < 97 then digit.toNat - 48 else digit.toNat - 87

/-- This function reads hexadecimal digits from the left. -/
def hexNumber (digits : Text) : Nat :=
  digits.foldl (fun number digit => 16 * number + hexValue digit) 0

/-- A code point of so many digits is read at the start of a text. -/
def readCode (width : Nat) (text : Text) : Char × Text :=
  (Char.ofNat (hexNumber (text.take width)), text.drop width)

/-- This function reads one character of quoted text, which a backslash may announce. -/
def readEscaped : Text → Option (Char × Text)
  | [] => none
  | '\\' :: 'n' :: rest => some ('\n', rest)
  | '\\' :: 'r' :: rest => some ('\r', rest)
  | '\\' :: 't' :: rest => some ('\t', rest)
  | '\\' :: 'x' :: rest => some (readCode 2 rest)
  | '\\' :: 'u' :: rest => some (readCode 4 rest)
  | '\\' :: 'U' :: rest => some (readCode 8 rest)
  | '\\' :: character :: rest => some (character, rest)
  | character :: rest => some (character, rest)

/-- Text is put between these two characters only. -/
def IsQuote (character : Char) : Prop :=
  character = '\x27' ∨ character = '\x22'

/-- Every text is put between one of the two quotes. -/
theorem isQuote_quoteFor (text : Text) : IsQuote (quoteFor text) := by
  unfold quoteFor
  split
  · exact Or.inr rfl
  · exact Or.inl rfl

/-- A digit has the value that it was written for. -/
theorem hexValue_hexDigit : ∀ value < 16, hexValue (hexDigit value) = value := by decide

/-- A number that fits the width is read back from its digits. The induction takes the last digit
off. -/
theorem hexNumber_hexDigits {width value : Nat} (fits : value < 16 ^ width) :
    hexNumber (hexDigits width value) = value := by
  induction width generalizing value with
  | zero =>
      obtain rfl : value = 0 := Nat.lt_one_iff.1 fits
      rfl
  | succ width ih =>
      have leading : value / 16 < 16 ^ width := by
        rw [Nat.pow_succ'] at fits
        exact Nat.div_lt_of_lt_mul fits
      have last := hexValue_hexDigit (value % 16) (Nat.mod_lt value (by decide))
      have front := ih leading
      rw [hexNumber] at front
      rw [hexNumber, hexDigits, List.foldl_append, front, List.foldl_cons, List.foldl_nil, last]
      exact Nat.div_add_mod value 16

/-- A code point is read back, and what follows its digits is left. -/
theorem readCode_hexDigits {width value : Nat} (fits : value < 16 ^ width) (rest : Text) :
    readCode width (hexDigits width value ++ rest) = (Char.ofNat value, rest) := by
  have length := length_hexDigits width value
  rw [readCode, List.take_left' length, List.drop_left' length, hexNumber_hexDigits fits]

/-- A character that is no backslash stands for itself. -/
theorem readEscaped_plain {character : Char} (plain : character ≠ '\\') (rest : Text) :
    readEscaped (character :: rest) = some (character, rest) := by
  simp [readEscaped, plain]

theorem codeEscape_opens (point : Nat) : ∃ others, codeEscape point = '\\' :: others := by
  unfold codeEscape
  split
  · exact ⟨_, rfl⟩
  · split <;> exact ⟨_, rfl⟩

/-- The letter in front of the digits tells how many of them belong to the code point. -/
theorem readEscaped_codeEscape {point : Nat} (fits : point < 16 ^ 8) (rest : Text) :
    readEscaped (codeEscape point ++ rest) = some (Char.ofNat point, rest) := by
  unfold codeEscape
  split
  · rename_i short
    exact congrArg some (readCode_hexDigits short rest)
  · split
    · rename_i middle
      exact congrArg some (readCode_hexDigits middle rest)
    · exact congrArg some (readCode_hexDigits fits rest)

/-- Eight digits are enough for every character. -/
theorem toNat_lt_codes (character : Char) : character.toNat < 16 ^ 8 := by
  have valid : character.toNat.isValidChar := character.valid
  unfold Nat.isValidChar at valid
  omega

section Escape

variable {printable : Char → Bool} {quote : Char}

/-- A character stands behind a backslash, gives way to a letter behind a backslash, stands for
itself, or gives way to its code point. -/
theorem escape_cases (printable : Char → Bool) (quote character : Char) :
    (escape printable quote character = ['\\', character] ∧
        (character = quote ∨ character = '\\')) ∨
      (∃ letter, escape printable quote character = ['\\', letter] ∧
        (character, letter) ∈ [('\n', 'n'), ('\r', 'r'), ('\t', 't')]) ∨
      (escape printable quote character = [character] ∧ character ≠ quote ∧ character ≠ '\\') ∨
      escape printable quote character = codeEscape character.toNat := by
  unfold escape
  split_ifs with marked feed back tab shown
  · exact Or.inl ⟨rfl, marked⟩
  · exact Or.inr (Or.inl ⟨'n', rfl, by simp [feed]⟩)
  · exact Or.inr (Or.inl ⟨'r', rfl, by simp [back]⟩)
  · exact Or.inr (Or.inl ⟨'t', rfl, by simp [tab]⟩)
  · exact Or.inr (Or.inr (Or.inl ⟨rfl, not_or.1 marked⟩))
  · exact Or.inr (Or.inr (Or.inr rfl))

/-- Every character is read back from its escape, whichever characters are shown as they are. -/
theorem readEscaped_escape (quotes : IsQuote quote) (character : Char) (rest : Text) :
    readEscaped (escape printable quote character ++ rest) = some (character, rest) := by
  rcases escape_cases printable quote character with ⟨written, rfl | rfl⟩ |
    ⟨letter, written, short⟩ | ⟨written, -, plain⟩ | written
  · rw [written]
    rcases quotes with rfl | rfl <;> rfl
  · rw [written]
    rfl
  · rw [written]
    simp only [List.mem_cons, Prod.mk.injEq, List.not_mem_nil, or_false] at short
    rcases short with ⟨rfl, rfl⟩ | ⟨rfl, rfl⟩ | ⟨rfl, rfl⟩ <;> rfl
  · rw [written]
    exact readEscaped_plain plain rest
  · rw [written, readEscaped_codeEscape (toNat_lt_codes character), Char.ofNat_toNat]

/-- No escape is the beginning of another one. -/
theorem escape_selfDelimiting (quotes : IsQuote quote) :
    SelfDelimiting (escape printable quote) :=
  SelfDelimiting.of_read readEscaped (readEscaped_escape quotes)

/-- A quote within the text stands behind a backslash. -/
theorem escape_opens (quotes : IsQuote quote) (character : Char) :
    ∃ first others, escape printable quote character = first :: others ∧ first ≠ quote := by
  have backslash : '\\' ≠ quote := by
    rcases quotes with rfl | rfl <;> decide
  rcases escape_cases printable quote character with ⟨written, -⟩ | ⟨letter, written, -⟩ |
    ⟨written, different, -⟩ | written
  · exact ⟨'\\', _, written, backslash⟩
  · exact ⟨'\\', _, written, backslash⟩
  · exact ⟨character, [], written, different⟩
  · obtain ⟨others, code⟩ := codeEscape_opens character.toNat
    exact ⟨'\\', others, written.trans code, backslash⟩

end Escape

/-- The first character of quoted text tells which quote ends it. -/
theorem Text.quotedBy_selfDelimiting (printable : Char → Bool) :
    SelfDelimiting (Text.quotedBy printable) := by
  intro first second rest later equal
  obtain ⟨quotes, bodies⟩ := List.cons.inj equal
  have quoted := isQuote_quoteFor second
  rw [quotes] at bodies
  exact (escape_selfDelimiting quoted).closed (escape_opens quoted) first second rest later bodies

end Diplomacy
