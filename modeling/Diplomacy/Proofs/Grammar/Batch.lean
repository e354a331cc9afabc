import Diplomacy.Proofs.Grammar.Log
import Diplomacy.Proofs.Text.Line

namespace Diplomacy

def Batch.append (first second : Batch) : Batch :=
  ⟨first.orders ++ second.orders, first.rejected ++ second.rejected⟩

/-- This is the order that is found in a line, without the events that lead to it. -/
def lineOrder? (strict : Bool) (line : Text) : Option Order :=
  (findLine? strict line).map Prod.snd

/-- The single reader fails on the line because no rule accepts it. -/
def isRejected (strict : Bool) (line : Text) : Bool :=
  match (readOrder strict line).result with
  | .error (.noOrder _) => true
  | _ => false

/-- A batch answers these lines if it holds each of them that is not blank once, in their order,
either as it was given or by the order that the single reader finds in it. -/
structure Batch.Answers (strict : Bool) (lines : List Text) (batch : Batch) : Prop where
  rejected : batch.rejected = (keptLines lines).filter (isRejected strict)
  unread : (batch.rejected.map fun line => (readOrder strict line).result) =
    batch.rejected.map fun line => .error (.noOrder line)
  read : batch.orders.map .ok =
    ((keptLines lines).filter fun line => !isRejected strict line).map
      fun line => (readOrder strict line).result

/-- This function sorts the lines that are not blank by what is found in them. -/
def gather (strict : Bool) (lines : List Text) : Batch :=
  ⟨(keptLines lines).filterMap (lineOrder? strict),
    (keptLines lines).filter fun line => (lineOrder? strict line).isNone⟩

section Line

variable (strict : Bool)

/-- A line is accepted with the order its search finds and refused when the search finds none. -/
theorem readLine_result (line : Text) :
    (readLine strict line).result =
      .ok ((lineOrder? strict line).elim (.refused line) .accepted) := by
  rw [readLine_eq, lineOrder?]
  cases findLine? strict line with
  | none => rfl
  | some find => rfl

/-- Reading one order raises the error about the line exactly if its search finds none. -/
theorem readOrder_result (line : Text) :
    (readOrder strict line).result =
      (lineOrder? strict line).elim (.error (.noOrder line)) .ok := by
  rw [readOrder, Answer.bind_of_ok _ (readLine_result strict line)]
  cases lineOrder? strict line with
  | none => rfl
  | some order => rfl

/-- A line is rejected when no rule finds an order in it. -/
theorem isRejected_eq (line : Text) : isRejected strict line = (lineOrder? strict line).isNone := by
  rw [isRejected, readOrder_result]
  cases lineOrder? strict line with
  | none => rfl
  | some order => rfl

/-- The orders are the answers of the single reader to the lines that it accepts. -/
theorem map_ok_filterMap (lines : List Text) :
    (lines.filterMap (lineOrder? strict)).map .ok =
      (lines.filter fun line => !isRejected strict line).map fun line =>
        (readOrder strict line).result := by
  induction lines with
  | nil => rfl
  | cons line rest ih =>
      cases found : lineOrder? strict line with
      | none =>
          have rejected : isRejected strict line = true := by rw [isRejected_eq, found]; rfl
          rw [List.filterMap_cons_none found, List.filter_cons_of_neg (by simp [rejected]), ih]
      | some order =>
          have accepted : isRejected strict line = false := by rw [isRejected_eq, found]; rfl
          rw [List.filterMap_cons_some found, List.filter_cons_of_pos (by simp [accepted]),
            List.map_cons, List.map_cons, ih, readOrder_result, found]
          rfl

end Line

section Gather

variable {strict : Bool}

/-- The first line is skipped when blank and put before the sorted rest otherwise. -/
theorem gather_cons (line : Text) (rest : List Text) :
    gather strict (line :: rest) =
      if isBlankLine line then gather strict rest
      else Batch.add ((lineOrder? strict line).elim (.refused line) .accepted)
        (gather strict rest) := by
  by_cases blank : isBlankLine line = true
  · rw [if_pos blank, gather, keptLines_cons_of_blank blank]
    rfl
  · rw [if_neg blank, gather, keptLines_cons_of_not_blank blank]
    cases found : lineOrder? strict line with
    | none =>
        rw [List.filterMap_cons_none found, List.filter_cons_of_pos (by simp [found])]
        rfl
    | some order =>
        rw [List.filterMap_cons_some found, List.filter_cons_of_neg (by simp [found])]
        rfl

/-- Sorting two lists after each other joins what each of them gives. -/
theorem gather_append (first second : List Text) :
    gather strict (first ++ second) = (gather strict first).append (gather strict second) := by
  simp only [gather, keptLines, Batch.append, List.filter_append, List.filterMap_append]

/-- Empty lines leave nothing in the batch. -/
theorem gather_of_empty {lines : List Text} (empty : ∀ line ∈ lines, line = []) :
    gather strict lines = Batch.empty := by
  have blank : keptLines lines = [] := by
    refine List.filter_eq_nil_iff.2 fun line member => ?_
    rw [empty line member]
    decide
  rw [gather, blank]
  rfl

@[simp] theorem Batch.empty_append (batch : Batch) : Batch.empty.append batch = batch := rfl

/-- The rejected lines of a batch are all rejected again. -/
theorem gather_rejected (lines : List Text) :
    gather strict (gather strict lines).rejected = ⟨[], (gather strict lines).rejected⟩ := by
  have kept : keptLines (gather strict lines).rejected = (gather strict lines).rejected := by
    refine List.filter_eq_self.2 fun line member => ?_
    exact (List.mem_filter.1 (List.mem_filter.1 member).1).2
  have missing : ∀ line ∈ (gather strict lines).rejected, (lineOrder? strict line).isNone = true :=
    fun line member => (List.mem_filter.1 member).2
  have orders : (gather strict lines).rejected.filterMap (lineOrder? strict) = [] :=
    List.filterMap_eq_nil_iff.2 fun line member => Option.isNone_iff_eq_none.1 (missing line member)
  rw [gather, kept, orders, List.filter_eq_self.2 missing]

end Gather

section Batch

variable (strict : Bool)

/-- Reading line by line always ends and returns the sorted lines. -/
theorem collectLines_result (lines : List Text) :
    (collectLines strict lines).result = .ok (gather strict lines) := by
  induction lines with
  | nil => rfl
  | cons line rest ih =>
      rw [collectLines, gather_cons]
      split
      · exact ih
      · rw [Answer.bind_of_ok _ (readLine_result strict line)]
        show (collectLines strict rest).result.map _ = _
        rw [ih]
        rfl

/-- The report about rejected lines does not change the batch that is returned. -/
theorem readLines_result (lines : List Text) :
    (readLines strict lines).result = .ok (gather strict lines) := by
  have collected : collectLines strict lines =
      ⟨(collectLines strict lines).events, .ok (gather strict lines)⟩ := by
    rw [← collectLines_result]
  rw [readLines_of_collectLines strict collected]

/-- A line break between two texts separates their batches. -/
theorem readBatch_append (first second : Text) :
    (readBatch strict (first ++ '\n' :: second)).result =
      .ok ((gather strict (Text.lines first)).append (gather strict (Text.lines second))) := by
  obtain ⟨added, joined, empty⟩ := Text.lines_append_feed first second
  rw [readBatch, readLines_result, joined, gather_append, gather_append, gather_of_empty empty,
    Batch.empty_append]

/-- The rejected lines of a text hold no line break and are not empty, so they stay apart when they
are joined. -/
theorem readBatch_rejected (text : Text) :
    let rejected := (gather strict (Text.lines text)).rejected
    (readBatch strict (List.intercalate ['\n'] rejected)).result = .ok ⟨[], rejected⟩ := by
  intro rejected
  have fromText : ∀ line ∈ rejected, line ∈ Text.lines text ∧ isBlankLine line = false := by
    intro line member
    simpa using List.mem_filter.1 (List.mem_filter.1 member).1
  have nonempty : ∀ line ∈ rejected, line ≠ [] := by
    rintro line member rfl
    cases (fromText _ member).2
  have unbroken : ∀ line ∈ rejected, Unbroken line :=
    fun line member => Text.unbroken_of_mem_lines text line (fromText line member).1
  rw [readBatch, readLines_result, Text.lines_intercalate unbroken nonempty]
  exact congrArg Except.ok (gather_rejected (Text.lines text))

/-- The sorted lines are the answers to the kept lines, in the order of the lines. -/
theorem gather_answers (lines : List Text) : (gather strict lines).Answers strict lines := by
  refine ⟨?_, ?_, map_ok_filterMap strict (keptLines lines)⟩
  · exact List.filter_congr fun line _ => (isRejected_eq strict line).symm
  · refine List.map_congr_left fun line member => ?_
    have missing := Option.isNone_iff_eq_none.1 (List.mem_filter.1 member).2
    rw [readOrder_result, missing]
    rfl

/-- A batch answers its lines, whether they are given one by one or as a text that consists of
them. The batch of two texts with a line feed between them is made of their batches. The rejected
lines of a text, joined by line feeds, are rejected again. -/
theorem batches_join :
    (∀ lines, ∃ batch, (readLines strict lines).result = .ok batch ∧
      batch.Answers strict lines) ∧
    (∀ text, ConsistsOf text (Text.lines text) ∧
      ∃ batch, (readBatch strict text).result = .ok batch ∧
        batch.Answers strict (Text.lines text)) ∧
    (∀ first second, ∃ early late, (readBatch strict first).result = .ok early ∧
      (readBatch strict second).result = .ok late ∧
      (readBatch strict (first ++ '\n' :: second)).result = .ok (early.append late)) ∧
    ∀ text, ∃ batch, (readBatch strict text).result = .ok batch ∧
      (readBatch strict (List.intercalate ['\n'] batch.rejected)).result =
        .ok ⟨[], batch.rejected⟩ := by
  refine ⟨?_, ?_, ?_, ?_⟩
  · intro lines
    exact ⟨gather strict lines, readLines_result strict lines, gather_answers strict lines⟩
  · intro text
    exact ⟨Text.consistsOf_lines text, _, readLines_result strict _, gather_answers strict _⟩
  · intro first second
    exact ⟨_, _, readLines_result strict _, readLines_result strict _,
      readBatch_append strict first second⟩
  · intro text
    exact ⟨_, readLines_result strict _, readBatch_rejected strict text⟩

end Batch

end Diplomacy
