import Diplomacy.Text.Basic

namespace Diplomacy

/-- No line break stands in the text. -/
def Unbroken (text : Text) : Prop :=
  ∀ character ∈ text, isLineBreak character = false

/-- A carriage return and the line feed behind it make one break, and every other break is a single
character. -/
def IsBreak (marks rest : Text) : Prop :=
  marks = ['\r', '\n'] ∨ ∃ character, marks = [character] ∧ isLineBreak character = true ∧
    ¬ (character = '\r' ∧ rest.head? = some '\n')

/-- A text consists of lines that end with a break each, and only the last may lack one. -/
inductive ConsistsOf : Text → List Text → Prop where
  | nothing : ConsistsOf [] []
  | last {line : Text} (unbroken : Unbroken line) (nonempty : line ≠ []) : ConsistsOf line [line]
  | step {line marks rest : Text} {lines : List Text} (unbroken : Unbroken line)
      (breaks : IsBreak marks rest) (later : ConsistsOf rest lines) :
      ConsistsOf (line ++ (marks ++ rest)) (line :: lines)

theorem unbroken_nil : Unbroken [] := by
  simp [Unbroken]

/-- The carriage return of a pair leaves the break to the line feed. -/
theorem Text.lines_cons_of_pair (rest : Text) :
    Text.lines ('\r' :: '\n' :: rest) = Text.lines ('\n' :: rest) := by
  rw [Text.lines, if_pos ⟨rfl, rfl⟩]

/-- A break at the start ends an empty line. -/
theorem Text.lines_cons_of_break {character : Char} {rest : Text}
    (breaks : isLineBreak character = true)
    (apart : ¬ (character = '\r' ∧ rest.head? = some '\n')) :
    Text.lines (character :: rest) = [] :: Text.lines rest := by
  rw [Text.lines, if_neg apart, if_pos breaks]

/-- A line feed is a break wherever it stands. -/
theorem Text.lines_feed_cons (rest : Text) : Text.lines ('\n' :: rest) = [] :: Text.lines rest :=
  Text.lines_cons_of_break (by decide) (by simp)

/-- A character that is no break is put in front of the first line. -/
theorem Text.lines_cons_of_unbroken {character : Char} (plain : isLineBreak character = false)
    (rest : Text) :
    Text.lines (character :: rest) = Text.extendFirst character (Text.lines rest) := by
  have notReturn : ¬ (character = '\r' ∧ rest.head? = some '\n') := by
    rintro ⟨rfl, -⟩
    cases plain
  rw [Text.lines, if_neg notReturn, if_neg (by simp [plain])]

/-- Lines behind the first are left alone. -/
theorem Text.extendFirst_append {lines : List Text} (nonempty : lines ≠ []) (character : Char)
    (later : List Text) :
    Text.extendFirst character (lines ++ later) = Text.extendFirst character lines ++ later := by
  cases lines with
  | nil => exact absurd rfl nonempty
  | cons first rest => rfl

/-- The first line stays unbroken with one more character that is no break. -/
theorem unbroken_of_mem_extendFirst {character : Char} (plain : isLineBreak character = false)
    {lines : List Text} (unbroken : ∀ line ∈ lines, Unbroken line) :
    ∀ line ∈ Text.extendFirst character lines, Unbroken line := by
  cases lines with
  | nil => simp [Text.extendFirst, Unbroken, plain]
  | cons first rest =>
      obtain ⟨firstUnbroken, later⟩ := List.forall_mem_cons.1 unbroken
      exact List.forall_mem_cons.2 ⟨List.forall_mem_cons.2 ⟨plain, firstUnbroken⟩, later⟩

/-- No break is left within a line. -/
theorem Text.unbroken_of_mem_lines (text : Text) : ∀ line ∈ Text.lines text, Unbroken line := by
  induction text with
  | nil => simp [Text.lines]
  | cons character rest ih =>
      rw [Text.lines]
      split
      · exact ih
      · split
        · exact List.forall_mem_cons.2 ⟨unbroken_nil, ih⟩
        · rename_i plain
          exact unbroken_of_mem_extendFirst (Bool.eq_false_iff.2 plain) ih

/-- A break ends the line before it and nothing else. -/
theorem Text.lines_unbroken_append {line marks rest : Text} (unbroken : Unbroken line)
    (breaks : IsBreak marks rest) :
    Text.lines (line ++ (marks ++ rest)) = line :: Text.lines rest := by
  induction line with
  | nil =>
      rcases breaks with rfl | ⟨character, rfl, single, apart⟩
      · exact (Text.lines_cons_of_pair rest).trans (Text.lines_feed_cons rest)
      · exact Text.lines_cons_of_break single apart
  | cons character others ih =>
      obtain ⟨plain, later⟩ := List.forall_mem_cons.1 unbroken
      rw [List.cons_append, Text.lines_cons_of_unbroken plain, ih later]
      rfl

/-- A text without a break is its own only line. -/
theorem Text.lines_of_unbroken {line : Text} (unbroken : Unbroken line) (nonempty : line ≠ []) :
    Text.lines line = [line] := by
  induction line with
  | nil => exact absurd rfl nonempty
  | cons character others ih =>
      obtain ⟨plain, later⟩ := List.forall_mem_cons.1 unbroken
      rw [Text.lines_cons_of_unbroken plain]
      cases others with
      | nil => rfl
      | cons next more =>
          rw [ih later (List.cons_ne_nil next more)]
          rfl

/-- One more character that is no break belongs to the first line. -/
theorem ConsistsOf.extendFirst {character : Char} {text : Text} {lines : List Text}
    (consists : ConsistsOf text lines) (plain : isLineBreak character = false) :
    ConsistsOf (character :: text) (Text.extendFirst character lines) := by
  cases consists with
  | nothing => exact .last (List.forall_mem_singleton.2 plain) (List.cons_ne_nil character [])
  | last unbroken nonempty =>
      exact .last (List.forall_mem_cons.2 ⟨plain, unbroken⟩) (List.cons_ne_nil character _)
  | step unbroken breaks later =>
      exact .step (List.forall_mem_cons.2 ⟨plain, unbroken⟩) breaks later

/-- No character of a text is lost between its lines and the breaks. -/
theorem Text.consistsOf_lines (text : Text) : ConsistsOf text (Text.lines text) := by
  match text with
  | [] => exact .nothing
  | character :: rest =>
      by_cases pair : character = '\r' ∧ rest.head? = some '\n'
      · -- The pair is one break, so the induction goes on behind the line feed.
        obtain ⟨rfl, feed⟩ := pair
        obtain ⟨more, rfl⟩ := List.head?_eq_some_iff.1 feed
        rw [Text.lines_cons_of_pair, Text.lines_feed_cons]
        exact .step unbroken_nil (Or.inl rfl) (Text.consistsOf_lines more)
      · by_cases breaks : isLineBreak character = true
        · rw [Text.lines_cons_of_break breaks pair]
          exact .step unbroken_nil (Or.inr ⟨character, rfl, breaks, pair⟩)
            (Text.consistsOf_lines rest)
        · have plain : isLineBreak character = false := Bool.eq_false_iff.2 breaks
          rw [Text.lines_cons_of_unbroken plain]
          exact (Text.consistsOf_lines rest).extendFirst plain
termination_by text.length

/-- There is only one way to take a text apart into lines. -/
theorem Text.lines_eq_iff {text : Text} {lines : List Text} :
    Text.lines text = lines ↔ ConsistsOf text lines := by
  constructor
  · rintro rfl
    exact Text.consistsOf_lines text
  · intro consists
    induction consists with
    | nothing => rfl
    | last unbroken nonempty => exact Text.lines_of_unbroken unbroken nonempty
    | step unbroken breaks later ih => rw [Text.lines_unbroken_append unbroken breaks, ih]

/-- Lines that are not empty are found again after they have been joined. -/
theorem Text.lines_intercalate {lines : List Text} (unbroken : ∀ line ∈ lines, Unbroken line)
    (nonempty : ∀ line ∈ lines, line ≠ []) :
    Text.lines (List.intercalate ['\n'] lines) = lines := by
  induction lines with
  | nil => rfl
  | cons line rest ih =>
      obtain ⟨first, later⟩ := List.forall_mem_cons.1 unbroken
      obtain ⟨present, laterPresent⟩ := List.forall_mem_cons.1 nonempty
      cases rest with
      | nil => rw [List.intercalate_singleton, Text.lines_of_unbroken first present]
      | cons next others =>
          have feed : IsBreak ['\n'] (List.intercalate ['\n'] (next :: others)) :=
            Or.inr ⟨'\n', rfl, by decide, by simp⟩
          rw [List.intercalate_cons_cons, List.append_assoc, Text.lines_unbroken_append first feed,
            ih later laterPresent]

/-- What is added behind a text does not change how a character in front of it is read. -/
theorem Text.lines_cons_append {character next : Char} {rest later : Text} {added : List Text}
    (joined : Text.lines (next :: rest ++ later) = Text.lines (next :: rest) ++ added) :
    Text.lines (character :: (next :: rest ++ later)) =
      Text.lines (character :: next :: rest) ++ added := by
  by_cases pair : character = '\r' ∧ next = '\n'
  · obtain ⟨rfl, rfl⟩ := pair
    rw [List.cons_append, Text.lines_cons_of_pair, ← List.cons_append, joined,
      Text.lines_cons_of_pair]
  · by_cases breaks : isLineBreak character = true
    · rw [Text.lines_cons_of_break breaks (by simpa using pair), joined,
        Text.lines_cons_of_break breaks (by simpa using pair), List.cons_append]
    · have plain : isLineBreak character = false := Bool.eq_false_iff.2 breaks
      have present : Text.lines (next :: rest) ≠ [] := by
        rw [Ne, Text.lines_eq_nil_iff]
        exact List.cons_ne_nil next rest
      rw [Text.lines_cons_of_unbroken plain, joined, Text.extendFirst_append present,
        Text.lines_cons_of_unbroken plain]

/-- A line feed between two texts may add an empty line or complete a carriage return, and it
changes no other line. -/
theorem Text.lines_append_feed (first second : Text) :
    ∃ added, Text.lines (first ++ '\n' :: second) =
        Text.lines first ++ (added ++ Text.lines second) ∧ ∀ line ∈ added, line = [] := by
  have feed := Text.lines_feed_cons second
  induction first with
  | nil => exact ⟨[[]], feed, by simp⟩
  | cons character rest ih =>
      cases rest with
      | nil =>
          by_cases carriage : character = '\r'
          · subst carriage
            exact ⟨[], feed, by simp⟩
          · by_cases breaks : isLineBreak character = true
            · refine ⟨[[]], ?_, by simp⟩
              rw [List.singleton_append, Text.lines_cons_of_break breaks (by simp [carriage]),
                feed, Text.lines_cons_of_break breaks (by simp)]
              rfl
            · have plain : isLineBreak character = false := Bool.eq_false_iff.2 breaks
              refine ⟨[], ?_, by simp⟩
              rw [List.singleton_append, Text.lines_cons_of_unbroken plain, feed,
                Text.lines_cons_of_unbroken plain]
              rfl
      | cons next others =>
          obtain ⟨added, joined, empty⟩ := ih
          exact ⟨added, Text.lines_cons_append joined, empty⟩

end Diplomacy
