import Diplomacy.Grammar.Batch
import Diplomacy.Proofs.Grammar.Line

namespace Diplomacy

/-- A reader of the log sees every record at its level. -/
def logOf (events : List Event) : List (Level × Record) :=
  (records events).map fun record => (record.level, record)

/-- This is the order that another one helps along. -/
def Order.aided? : Order → Option Order
  | .hold _ => none
  | .move _ => none
  | .support _ _ aided => some aided.toOrder
  | .convoy _ _ carried => some (.move carried)

/-- An order is reported once with its text, after the order that it helps along, which stands in
a proper end of the text. -/
def OrderLog (text : Text) (order : Order) (log : List (Level × Record)) : Prop :=
  match order.aided? with
  | none => log = [(.debug, .parsed text order)]
  | some aided =>
      ∃ inner, inner <:+ text ∧ inner ≠ text ∧
        log = [(.debug, .parsed inner aided), (.debug, .parsed text order)]

/-- A refused line is returned as it was given and reported once. -/
def LineLog (line : Text) (log : List (Level × Record)) : Verdict → Prop
  | .accepted order => OrderLog (Text.trim line) order log
  | .refused text => text = line ∧ log = [(.info, .unmatched line)]

def isRefused : Except Failure Verdict → Bool
  | .ok (.refused _) => true
  | _ => false

/-- Blank lines play no part in a batch. -/
def keptLines (lines : List Text) : List Text :=
  lines.filter fun line => !isBlankLine line

/-- The number of refused lines is reported once, together with the number of all lines. -/
def summary (refused total : Nat) : List (Level × Record) :=
  if 0 < refused then [(.info, .rejected refused total)] else []

/-- The log of a batch puts the logs of its lines together and ends with a summary if lines were
refused. -/
def BatchLog (strict : Bool) (lines : List Text) (answer : Answer Batch) : Prop :=
  ∃ batch, answer.result = .ok batch ∧
    batch.rejected =
      (keptLines lines).filter (fun line => isRefused (readLine strict line).result) ∧
    logOf answer.events =
      ((keptLines lines).flatMap fun line => logOf (readLine strict line).events) ++
        summary batch.rejected.length (keptLines lines).length

@[simp] theorem logOf_append (first second : List Event) :
    logOf (first ++ second) = logOf first ++ logOf second := by
  simp [logOf]

/-- An aid is reported after the order it helps, whose text is a proper end of its own. -/
theorem Aid.orderLog {A : Type} {words : List Text} {find : Text → Option A} {strict : Bool}
    {text : Text} {aid : Aid A} {order : Aid A → Order} {aided : A → Order}
    (keywords : ∀ word ∈ words, IsKeyword word)
    (search : Aid.find? words find strict text = some aid)
    (helps : (order aid).aided? = some (aided aid.aided)) :
    OrderLog text (order aid) (logOf ((aid.find order aided).report text).1) := by
  obtain ⟨suffix, proper⟩ := Aid.inner_suffix keywords search
  rw [OrderLog, helps]
  exact ⟨aid.inner, suffix, proper, rfl⟩

/-- A rule reports its order and what that order helps along, and nothing else that it tried. -/
theorem Rule.orderLog {rule : Rule} {strict : Bool} {text : Text} {find : Find}
    (found : rule.report? strict text = some find) : OrderLog text find.2 (logOf find.1) := by
  obtain ⟨first, search, rfl⟩ := Option.map_eq_some_iff.1 found
  cases rule with
  | hold =>
      obtain ⟨order, -, rfl⟩ := Option.map_eq_some_iff.1 search
      rfl
  | move =>
      obtain ⟨order, -, rfl⟩ := Option.map_eq_some_iff.1 search
      rfl
  | support =>
      obtain ⟨aid, split, rfl⟩ := Option.map_eq_some_iff.1 search
      have helps : aid.support.aided? = some aid.aided.toOrder := rfl
      exact Aid.orderLog isKeyword_of_mem_supportKeywords split helps
  | convoy =>
      obtain ⟨aid, split, rfl⟩ := Option.map_eq_some_iff.1 search
      have helps : aid.convoy.aided? = some (.move aid.aided) := rfl
      exact Aid.orderLog isKeyword_of_mem_convoyKeywords split helps

/-- Every line has an answer, and its log agrees with it. -/
theorem readLine_lineLog (strict : Bool) (line : Text) :
    ∃ verdict, (readLine strict line).result = .ok verdict ∧
      LineLog line (logOf (readLine strict line).events) verdict := by
  rw [readLine_eq]
  cases found : findLine? strict line with
  | none => exact ⟨.refused line, rfl, rfl, rfl⟩
  | some find =>
      obtain ⟨rule, -, reported⟩ := List.exists_of_findSome?_eq_some found
      exact ⟨.accepted find.2, rfl, Rule.orderLog reported⟩

section Batch

variable (strict : Bool)

/-- A blank line is not kept. -/
theorem keptLines_cons_of_blank {line : Text} (blank : isBlankLine line = true)
    (rest : List Text) : keptLines (line :: rest) = keptLines rest :=
  List.filter_cons_of_neg (by simp [blank])

/-- A line that is not blank is kept. -/
theorem keptLines_cons_of_not_blank {line : Text} (present : ¬ isBlankLine line = true)
    (rest : List Text) : keptLines (line :: rest) = line :: keptLines rest :=
  List.filter_cons_of_pos (by simp [present])

/-- The answers to the lines that are not blank are put together in their order. -/
theorem collectLines_eq (lines : List Text) :
    ∃ batch, collectLines strict lines =
        ⟨(keptLines lines).flatMap fun line => (readLine strict line).events, .ok batch⟩ ∧
      batch.rejected =
        (keptLines lines).filter (fun line => isRefused (readLine strict line).result) ∧
      batch.orders.length + batch.rejected.length = (keptLines lines).length := by
  induction lines with
  | nil => exact ⟨Batch.empty, rfl, rfl, rfl⟩
  | cons line rest ih =>
      obtain ⟨batch, collected, rejected, total⟩ := ih
      by_cases blank : isBlankLine line = true
      · rw [collectLines, if_pos blank, keptLines_cons_of_blank blank]
        exact ⟨batch, collected, rejected, total⟩
      · obtain ⟨verdict, answered, log⟩ := readLine_lineLog strict line
        have step : collectLines strict (line :: rest) =
            ⟨(readLine strict line).events ++ (collectLines strict rest).events,
              .ok (Batch.add verdict batch)⟩ := by
          rw [collectLines, if_neg blank, Answer.bind_of_ok _ answered, collected]
          rfl
        rw [keptLines_cons_of_not_blank blank]
        refine ⟨Batch.add verdict batch, ?_, ?_, ?_⟩
        · rw [step, collected, List.flatMap_cons]
        · cases verdict with
          | accepted order =>
              rw [List.filter_cons_of_neg (by simp [answered, isRefused])]
              exact rejected
          | refused text =>
              obtain ⟨rfl, -⟩ := log
              rw [List.filter_cons_of_pos (by simp [answered, isRefused]), ← rejected]
              rfl
        · cases verdict with
          | accepted order =>
              simp only [Batch.add, List.length_cons]
              omega
          | refused text =>
              simp only [Batch.add, List.length_cons]
              omega

/-- The report about rejected lines follows the records of the lines. -/
theorem readLines_of_collectLines {lines : List Text} {events : List Event} {batch : Batch}
    (collected : collectLines strict lines = ⟨events, .ok batch⟩) :
    readLines strict lines =
      ⟨events ++ if batch.rejected.isEmpty then [] else
        [.logged (.rejected batch.rejected.length (batch.orders.length + batch.rejected.length))],
        .ok batch⟩ := by
  obtain ⟨orders, rejected⟩ := batch
  rw [readLines, collected]
  cases rejected with
  | nil => rfl
  | cons line rest => rfl

/-- The log of a batch is the log of its kept lines and the report about the rejected ones. -/
theorem readLines_log (lines : List Text) : BatchLog strict lines (readLines strict lines) := by
  obtain ⟨batch, collected, rejected, total⟩ := collectLines_eq strict lines
  have flat (kept : List Text) :
      logOf (kept.flatMap fun line => (readLine strict line).events) =
        kept.flatMap fun line => logOf (readLine strict line).events := by
    induction kept with
    | nil => rfl
    | cons line rest ih => rw [List.flatMap_cons, logOf_append, ih, List.flatMap_cons]
  refine ⟨batch, ?_, rejected, ?_⟩
  · rw [readLines_of_collectLines strict collected]
  rw [readLines_of_collectLines strict collected, ← flat, ← total, logOf_append]
  cases batch.rejected with
  | nil => rfl
  | cons line rest => rfl

/-- Every line is answered, and its log reports the order of the answer and what that order helps
along, or else the refusal, and no other reading that was tried. The log of a batch puts the logs
of the lines that are not blank together and ends with a summary if lines were rejected, whether
the lines are given one by one or as a single text. -/
theorem log_agrees_with_answers :
    (∀ line, ∃ verdict, (readLine strict line).result = .ok verdict ∧
      LineLog line (logOf (readLine strict line).events) verdict) ∧
    (∀ lines, BatchLog strict lines (readLines strict lines)) ∧
    ∀ text, BatchLog strict (Text.lines text) (readBatch strict text) :=
  ⟨readLine_lineLog strict, readLines_log strict,
    fun text => readLines_log strict (Text.lines text)⟩

end Batch

end Diplomacy
