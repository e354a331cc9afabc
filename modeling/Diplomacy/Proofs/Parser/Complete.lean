import Diplomacy.Proofs.Parser.Chain
import Diplomacy.Proofs.Run.Search

namespace Diplomacy

variable {A B : Type}

/-- An iterator is pulled until an item is taken. The items before it are passed over. The last
pull gives the item that is taken, or finds the end, or fails. -/
structure Suspended.StopsAt (taken : A → Prop) (iterator : Suspended A) (passed : List A)
    (last : Except Failure (Option A)) : Prop where
  passes : ∀ item ∈ passed, ¬ taken item
  takes : ∀ item, last = .ok (some item) → taken item
  pulled : Suspended.pulls (passed.length + 1) iterator =
    passed.map (fun item => .ok (some item)) ++ [last]

section Stop

variable {taken : A → Prop} {next : Suspended A} {passed : List A}
  {last : Except Failure (Option A)}

/-- An event does not change where a search stops. -/
theorem Suspended.StopsAt.note (event : Event) (stops : Suspended.StopsAt taken next passed last) :
    Suspended.StopsAt taken (fun _ => .note event next) passed last := by
  refine ⟨stops.passes, stops.takes, ?_⟩
  rw [Suspended.pulls_note]
  exact stops.pulled

/-- An item that is not taken is passed over. -/
theorem Suspended.StopsAt.emit {item : A} (skipped : ¬ taken item)
    (stops : Suspended.StopsAt taken next passed last) :
    Suspended.StopsAt taken (fun _ => .emit item next) (item :: passed) last := by
  refine ⟨?_, stops.takes, ?_⟩
  · rintro other (_ | ⟨_, later⟩)
    · exact skipped
    · exact stops.passes other later
  · rw [List.length_cons, Suspended.pulls_succ_emit, stops.pulled]
    rfl

end Stop

/-- A search through a run pulls it up to the first item that can be picked and no further. -/
theorem Run.exists_stop (run : Run A) (pick : A → Option B) :
    ∃ passed last,
      Suspended.StopsAt (fun item => (pick item).isSome) (fun _ => run) passed last ∧
        (run.bind fun item => Run.ofOption (pick item)).first? =
          ⟨Suspended.pullEvents (passed.length + 1) (fun _ => run),
            last.map fun item => item.bind pick⟩ := by
  induction run with
  | stop => exact ⟨[], .ok none, ⟨nofun, nofun, rfl⟩, rfl⟩
  | fail failure => exact ⟨[], .error failure, ⟨nofun, nofun, rfl⟩, rfl⟩
  | note event next ih =>
      obtain ⟨passed, last, stops, found⟩ := ih ()
      refine ⟨passed, last, stops.note event, ?_⟩
      rw [Run.bind, Run.first?_note, found, Suspended.pullEvents_note]
      rfl
  | emit item next ih =>
      cases picked : pick item with
      | none =>
          -- The item gives an empty run, so the search goes on behind it with the next pull.
          obtain ⟨passed, last, stops, found⟩ := ih ()
          have skipped : ¬ (pick item).isSome := by simp [picked]
          refine ⟨item :: passed, last, stops.emit skipped, ?_⟩
          rw [Run.bind, picked, Run.ofOption_none, Run.append, found, List.length_cons,
            Suspended.pullEvents_succ_emit]
      | some value =>
          refine ⟨[], .ok (some item), ⟨nofun, ?_, rfl⟩, ?_⟩
          · rintro other same
            cases same
            simp [picked]
          · rw [Run.bind, picked, Run.ofOption_some, Run.first?_append, Run.first?_one, pure_bind]
            show _ = (⟨[], .ok (pick item)⟩ : Answer (Option B))
            rw [picked]
            rfl

/-- The reading covers the text, and its value stands in front of an empty tuple. -/
def CoveredBy (value : Value) (reading : Reading) : Prop :=
  reading = (.tuple [value, .tuple []], [])

theorem Reading.isSome_complete? (reading : Reading) :
    reading.complete?.isSome ↔ reading.2 = [] := by
  obtain ⟨value, rest⟩ := reading
  cases rest <;> simp [Reading.complete?]

/-- What the last pull gives is complete, so its value is the one that is picked. -/
theorem map_complete?_of_covers {last : Except Failure (Option Reading)}
    (covers : ∀ reading, last = .ok (some reading) → reading.2 = []) :
    (last.map fun found => found.bind Reading.complete?) = last.map (Option.map Prod.fst) := by
  match last with
  | .error failure => rfl
  | .ok none => rfl
  | .ok (some (value, rest)) =>
      obtain rfl : rest = [] := covers (value, rest) rfl
      rfl

/-- The end of the input is a parser that lets the complete readings pass. -/
theorem Parser.alike_complete (parser : Parser) (text : Text) :
    Run.Alike CoveredBy (parser.complete text) ((parser.chain .endOfInput).run text) := by
  rw [Parser.complete, Parser.run_chain]
  apply Run.Alike.bind_self
  rintro ⟨value, rest⟩
  cases rest with
  | nil => exact .one rfl
  | cons character rest => exact .stop

/-- The search is answered from its last pull. A default stands in for the end and for nothing
else, and only a find is logged. -/
def Parser.settle (parser : Parser) (text : Text) (fallback : Option Value)
    (events : List Event) : Except Failure (Option Reading) → Answer Value
  | .ok (some (value, _)) =>
      ⟨events ++ [.logged (.complete text parser.describe)], .ok value⟩
  | .ok none =>
      ⟨events, match fallback with
        | some value => .ok value
        | none => .error (.noParse text)⟩
  | .error failure => ⟨events, .error failure⟩

/-- The first complete value decides the answer, and otherwise the default or the failure does. -/
theorem Parser.firstComplete_of_first? (parser : Parser) (text : Text) (fallback : Option Value)
    {events : List Event} {last : Except Failure (Option Reading)}
    (found : (parser.complete text).first? = ⟨events, last.map (Option.map Prod.fst)⟩) :
    parser.firstComplete text fallback = parser.settle text fallback events last := by
  unfold Parser.firstComplete
  rw [found]
  match last with
  | .error failure => rfl
  | .ok none =>
      rw [Answer.bind_of_ok _ rfl]
      cases fallback <;> simp [Parser.settle, Answer.fail]
  | .ok (some reading) =>
      rw [Answer.bind_of_ok _ rfl]
      rfl

/-- The complete values come pull by pull like the readings of the parser with the end of the input
behind it. The search for the first of them pulls the parser up to the first reading that covers
the text, to the end or to a failure. It makes nothing else happen than these pulls do, and its
answer depends on the last of them alone. -/
theorem complete_readings_agree_and_stop (parser : Parser) (text : Text) :
    (∃ chained, (parser.chain .endOfInput).start text = .ok chained ∧
      Suspended.Alike CoveredBy (fun _ => parser.complete text) chained) ∧
    ∃ (passed : List Reading) (last : Except Failure (Option Reading)),
      Suspended.StopsAt (fun reading => reading.2 = []) (fun _ => parser.run text) passed last ∧
        Suspended.pulls 1 (fun _ => parser.complete text) = [last.map (Option.map Prod.fst)] ∧
        ∀ fallback, parser.firstComplete text fallback =
          parser.settle text fallback
            (Suspended.pullEvents (passed.length + 1) fun _ => parser.run text) last := by
  constructor
  · exact ⟨_, rfl, (Parser.alike_complete parser text).suspended⟩
  · obtain ⟨passed, last, stops, found⟩ := (parser.run text).exists_stop Reading.complete?
    simp only [Reading.isSome_complete?] at stops
    rw [map_complete?_of_covers stops.takes] at found
    refine ⟨passed, last, stops, ?_, ?_⟩
    · exact congrArg (fun answer => [answer.result]) found
    · intro fallback
      exact parser.firstComplete_of_first? text fallback found

end Diplomacy
