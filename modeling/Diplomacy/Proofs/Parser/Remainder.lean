import Diplomacy.Grammar.Batch
import Diplomacy.Proofs.Run.Every

namespace Diplomacy

/-- Whenever the function offers a reading, it leaves an end of the text it was given. -/
def Adapter.KeepsEnd (adapter : Adapter) : Prop :=
  ∀ text value rest, (adapter.apply text).result = .ok (.reading value rest) → rest <:+ text

/-- Every adapted function inside the parser leaves an end of the text it was given. -/
def Parser.KeepsEnds : Parser → Prop
  | .optional inner => inner.KeepsEnds
  | .either left right => left.KeepsEnds ∧ right.KeepsEnds
  | .chain first second => first.KeepsEnds ∧ second.KeepsEnds
  | .map inner _ => inner.KeepsEnds
  | .adapt adapter => adapter.KeepsEnd
  | .counting _ inner => inner.KeepsEnds
  | _ => True

/-- The reading leaves an end of the text. -/
def Reading.LeavesEnd (text : Text) (reading : Reading) : Prop :=
  reading.2 <:+ text

/-- Every name leaves an end of the text. -/
theorem Run.every_findNames (text : Text) :
    (findNames text).Every fun name => name.2 <:+ text := by
  rw [Run.every_iff_transcript, transcript_findNames]
  intro name member
  exact suffix_of_mem_placeNames member

theorem Text.splitBlanks_suffix (text : Text) : (Text.splitBlanks text).2 <:+ text :=
  ⟨_, Text.splitBlanks_append text⟩

/-- An offer that leaves an end of the text makes a reading that does. -/
theorem Offer.every_read {text : Text} {offer : Offer}
    (kept : ∀ value rest, offer = .reading value rest → rest <:+ text) :
    offer.read.Every (Reading.LeavesEnd text) := by
  cases offer with
  | refusal => trivial
  | reading value rest => exact Run.every_one (kept value rest rfl)
  | parts count => trivial

/-- A transform sees the value only and cannot touch what is left. -/
theorem Transform.every_read (transform : Transform) {text : Text} {reading : Reading}
    (ends : reading.LeavesEnd text) : (transform.read reading).Every (Reading.LeavesEnd text) :=
  Run.Every.map (Run.every_ofAnswer fun _ _ => ends)

/-- An adapter that keeps ends makes readings that leave them. -/
theorem Adapter.KeepsEnd.every_read {adapter : Adapter} (kept : adapter.KeepsEnd) (text : Text) :
    (adapter.read text).Every (Reading.LeavesEnd text) := by
  refine Run.Every.bind (Run.every_ofAnswer ?_)
  intro offer offered
  refine Offer.every_read ?_
  rintro value rest rfl
  exact kept text value rest offered

/-- The second part of a chain reads what the first part has left, so the two ends compose. -/
theorem Parser.KeepsEnds.every_run {parser : Parser} (kept : parser.KeepsEnds) (text : Text) :
    (parser.run text).Every (Reading.LeavesEnd text) := by
  induction parser generalizing text with
  | never => trivial
  | empty => exact Run.every_one (List.suffix_refl text)
  | literal tag =>
      simp only [Parser.run]
      split
      · exact Run.every_one (List.drop_suffix _ _)
      · trivial
  | anyOf tags ignoreCase =>
      refine Run.every_ofOption ?_
      intro reading found
      obtain ⟨tag, -, rfl⟩ := Option.map_eq_some_iff.1 found
      exact List.drop_suffix _ _
  | blanks required =>
      simp only [Parser.run]
      split
      · trivial
      · exact Run.every_one (Text.splitBlanks_suffix text)
  | endOfInput =>
      simp only [Parser.run]
      split
      · exact Run.every_one (List.suffix_refl text)
      · trivial
  | placeName => exact Run.Every.map (Run.every_findNames text)
  | broken shown failure => trivial
  | optional inner ih =>
      exact Run.Every.append (Run.Every.map (ih kept text)) (Run.every_one (List.suffix_refl text))
  | either left right leftIh rightIh =>
      exact Run.Every.append (Run.Every.map (leftIh kept.1 text))
        (Run.Every.map (rightIh kept.2 text))
  | chain first second firstIh secondIh =>
      refine Run.Every.bind ((firstIh kept.1 text).imp ?_)
      rintro ⟨firstValue, rest⟩ reached
      refine Run.Every.map ((secondIh kept.2 rest).imp ?_)
      rintro ⟨secondValue, remainder⟩ left
      exact List.IsSuffix.trans left reached
  | map inner transform ih =>
      exact Run.Every.bind ((ih kept text).imp fun _ => transform.every_read)
  | adapt adapter => exact Adapter.KeepsEnd.every_read kept text
  | counting counter inner ih =>
      exact Run.Every.bind ((ih kept text).imp fun _ => Run.every_one)

/-- A verdict that accepts a text uses it up, so any rule may be adapted. -/
theorem Adapter.keepsEnd_ofRule (label : Label) (rule : Text → Answer Verdict) :
    (Adapter.ofRule label rule).KeepsEnd := by
  intro text value rest offered
  cases answered : (rule text).result with
  | error failure =>
      have failed : ((Adapter.ofRule label rule).apply text).result = .error failure := by
        simp only [Adapter.ofRule, Answer.bind_of_error _ answered]
      rw [failed] at offered
      cases offered
  | ok verdict =>
      have given : ((Adapter.ofRule label rule).apply text).result = .ok verdict.offer := by
        simp only [Adapter.ofRule, Answer.bind_of_ok _ answered, Answer.result_pure]
      rw [given] at offered
      cases verdict with
      | accepted order =>
          cases offered
          exact List.nil_suffix
      | refused line => cases offered

/-- A sequence of parsers that keep ends keeps them. -/
theorem Parser.keepsEnds_sequence {parts : List Parser}
    (kept : ∀ part ∈ parts, part.KeepsEnds) : (Parser.sequence parts).KeepsEnds := by
  induction parts with
  | nil => trivial
  | cons part rest ih =>
      obtain ⟨first, others⟩ := List.forall_mem_cons.1 kept
      cases rest with
      | nil => exact first
      | cons next rest => exact ⟨first, ih others⟩

/-- These are the parsers that the order language is written with. -/
def grammarParsers (strict : Bool) : List Parser := [
    .placeName, unitParser, holdKeyword, moveSeparator, supportKeyword, convoyKeyword, holdBody,
    moveBody, supportHead, convoyHead, supportBody strict, convoyBody strict]

/-- The parsers of the order language keep ends, the rules among them. -/
theorem keepsEnds_of_mem_grammarParsers (strict : Bool) :
    ∀ parser ∈ grammarParsers strict, parser.KeepsEnds := by
  have nested (rule : Text → Answer Verdict) : (Parser.nested rule).KeepsEnds :=
    Adapter.keepsEnd_ofRule .anonymous rule
  simp only [grammarParsers, List.forall_mem_cons]
  refine ⟨trivial, trivial, trivial, trivial, trivial, trivial, ?holdBody, ?moveBody,
    ?supportHead, ?convoyHead, ?supportBody, ?convoyBody, nofun⟩
  case holdBody => exact ⟨trivial, trivial, trivial, trivial⟩
  case moveBody => exact ⟨trivial, trivial, trivial, trivial, trivial, trivial⟩
  case supportHead => exact ⟨trivial, trivial, trivial, trivial⟩
  case convoyHead => exact ⟨trivial, trivial, trivial, trivial⟩
  case supportBody =>
    exact ⟨⟨trivial, trivial, trivial, trivial⟩, nested (readMove strict), nested (readHold strict)⟩
  case convoyBody => exact ⟨⟨trivial, trivial, trivial, trivial⟩, nested (readMove strict)⟩

/-- If the adapted functions inside a parser leave an end of their text, then every reading that
can be pulled leaves an end of the text that the parser was started on. The order rules may be
adapted, the parsers of the order language qualify, and so does any sequence of such parsers. -/
theorem pulled_readings_leave_ends :
    (∀ parser : Parser, parser.KeepsEnds → ∀ (text : Text) (iterator : Suspended Reading),
      parser.start text = .ok iterator → ∀ (count : Nat) (value : Value) (remainder : Text),
        .ok (some (value, remainder)) ∈ Suspended.pulls count iterator →
          ∃ consumed, text = consumed ++ remainder) ∧
    (∀ (label : Label) (strict : Bool),
      (∀ rule : Rule, (Adapter.ofRule label (rule.read strict)).KeepsEnd) ∧
        (Adapter.ofRule label (readLine strict)).KeepsEnd) ∧
    (∀ strict : Bool, ∀ parser ∈ grammarParsers strict, parser.KeepsEnds) ∧
    ∀ parts : List Parser, (∀ part ∈ parts, part.KeepsEnds) →
      (Parser.sequence parts).KeepsEnds := by
  refine ⟨?_, ?_, ?_, ?_⟩
  · intro parser kept text iterator started count value remainder pulled
    rcases parser.start_eq text with ⟨shown, failure, -, failed⟩ | opened
    · rw [failed] at started
      cases started
    · obtain rfl := Except.ok.inj (opened.symm.trans started)
      obtain ⟨consumed, whole⟩ := Run.Every.pulls (kept.every_run text) count _ pulled
      exact ⟨consumed, whole.symm⟩
  · intro label strict
    exact ⟨fun rule => Adapter.keepsEnd_ofRule label (rule.read strict),
      Adapter.keepsEnd_ofRule label (readLine strict)⟩
  · exact keepsEnds_of_mem_grammarParsers
  · exact fun _ => Parser.keepsEnds_sequence

/-- The second pull gives up the hold and leaves everything behind the place. -/
theorem pulled_readings_leave_ends_absent :
    let parser := Parser.placeName.chain (Parser.nested (readHold true)).optional
    let text := "a - b h".toList
    let rest := " - b h".toList
    parser.KeepsEnds ∧
      .ok (some (.tuple [.text "a".toList, .none], rest)) ∈
        Suspended.pulls 2 (fun _ => parser.run text) ∧
      ∃ consumed, text = consumed ++ rest := by
  intro parser text rest
  have kept : parser.KeepsEnds := ⟨trivial, Adapter.keepsEnd_ofRule _ _⟩
  have pulled : .ok (some (.tuple [.text "a".toList, .none], rest)) ∈
      Suspended.pulls 2 (fun _ => parser.run text) := List.mem_cons_of_mem _ List.mem_cons_self
  exact ⟨kept, pulled, pulled_readings_leave_ends.1 parser kept text _ rfl 2 _ rest pulled⟩

end Diplomacy
