import Diplomacy.Proofs.Session.Schedule
import Mathlib.Data.List.Nodup

namespace Diplomacy

/-- An opening starts a named run of a part of the bench, over its readings or over its complete
values. -/
structure Opening where
  run : Text
  parser : Text
  text : Text
  complete : Bool

def Opening.step (opening : Opening) : BenchStep :=
  if opening.complete then .startComplete opening.run opening.parser opening.text
  else .start opening.run opening.parser opening.text

def Opening.begin (opening : Opening) (parser : Parser) : Except Failure (Suspended Item) :=
  if opening.complete then .ok fun _ => (parser.complete opening.text).map Item.value
  else (parser.start opening.text).map (Suspended.map Item.reading)

/-- There is no run if the part is missing or has no rule. -/
def Opening.iterator? (opening : Opening) (parts : List (Text × Given Parser)) :
    Option (Suspended Item) :=
  (parts.lookup opening.parser).bind fun part => (opening.begin (part.toParser .parse)).toOption

/-- The bench has these parts, and nothing was done on it but to open these runs. -/
def Bench.opened (parts : List (Text × Given Parser)) (openings : List Opening) : Bench :=
  (Bench.play ⟨parts, [], []⟩ (openings.map Opening.step)).1

/-- No other run is opened, and this one is pulled so many times. -/
def Opening.repliesAlone (opening : Opening) (parts : List (Text × Given Parser)) (count : Nat) :
    List BenchReply :=
  (Bench.opened parts [opening]).repliesTo opening.run (List.replicate count opening.run)

def Opening.tallyAlone (opening : Opening) (parts : List (Text × Given Parser)) (count : Nat)
    (counter : Text) : Tally :=
  tally ((Bench.opened parts [opening]).follow (List.replicate count opening.run)).1.events counter

section Opening

variable (bench : Bench) (opening : Opening)

/-- An opening adds one run if the part can be started, and does nothing otherwise. -/
theorem Bench.step_opening :
    (bench.step opening.step).1 =
      (opening.iterator? bench.parts).elim bench (bench.setRun opening.run) := by
  have started : bench.step opening.step =
      bench.start opening.run opening.parser opening.begin := by
    obtain ⟨run, parser, text, complete⟩ := opening
    cases complete <;> rfl
  rw [started, Bench.start, Bench.parser?, Bench.part?, Opening.iterator?]
  cases bench.parts.lookup opening.parser with
  | none => rfl
  | some part =>
      simp only [Option.map_some, Option.bind_some]
      cases opening.begin (part.toParser .parse) <;> rfl

/-- An opening changes the run of its own name only. -/
theorem Bench.run?_opening (name : Text) :
    (bench.step opening.step).1.run? name =
      if name = opening.run then (opening.iterator? bench.parts).or (bench.run? name)
      else bench.run? name := by
  rw [Bench.step_opening]
  cases opening.iterator? bench.parts with
  | none => simp
  | some run => simp [Bench.run?_setRun]

/-- The parts stay as they are. -/
theorem Bench.parts_opening : (bench.step opening.step).1.parts = bench.parts := by
  rw [Bench.step_opening]
  cases opening.iterator? bench.parts <;> rfl

/-- Nothing happens before the first pull. -/
theorem Bench.events_opening : (bench.step opening.step).1.events = bench.events := by
  rw [Bench.step_opening]
  cases opening.iterator? bench.parts <;> rfl

end Opening

section Openings

theorem Bench.play_openings_cons (bench : Bench) (opening : Opening) (rest : List Opening) :
    (bench.play ((opening :: rest).map Opening.step)).1 =
      ((bench.step opening.step).1.play (rest.map Opening.step)).1 := rfl

/-- Nothing happens while runs are opened. -/
theorem Bench.events_openings (bench : Bench) (openings : List Opening) :
    (bench.play (openings.map Opening.step)).1.events = bench.events := by
  induction openings generalizing bench with
  | nil => rfl
  | cons opening rest ih => rw [Bench.play_openings_cons, ih, Bench.events_opening]

/-- A name that is not opened keeps its run. -/
theorem Bench.run?_openings_of_not_mem (bench : Bench) {openings : List Opening} {name : Text}
    (outside : name ∉ openings.map Opening.run) :
    (bench.play (openings.map Opening.step)).1.run? name = bench.run? name := by
  induction openings generalizing bench with
  | nil => rfl
  | cons opening rest ih =>
      obtain ⟨other, beyond⟩ := not_or.1 (mt List.mem_cons.2 outside)
      rw [Bench.play_openings_cons, ih _ beyond, Bench.run?_opening, if_neg other]

/-- The other openings do not touch a run. -/
theorem Bench.run?_openings (bench : Bench) {openings : List Opening} {opening : Opening}
    (distinct : (openings.map Opening.run).Nodup) (member : opening ∈ openings)
    (fresh : bench.run? opening.run = none) :
    (bench.play (openings.map Opening.step)).1.run? opening.run =
      opening.iterator? bench.parts := by
  induction openings generalizing bench with
  | nil => cases member
  | cons first rest ih =>
      obtain ⟨apart, later⟩ := List.nodup_cons.1 distinct
      rw [Bench.play_openings_cons]
      -- The run is either opened here and left alone by the rest, or it stays closed for now.
      rcases List.mem_cons.1 member with rfl | inside
      · rw [Bench.run?_openings_of_not_mem _ apart, Bench.run?_opening, if_pos rfl, fresh,
          Option.or_none]
      · have other : opening.run ≠ first.run := fun same =>
          apart (same ▸ List.mem_map_of_mem inside)
        have untouched : (bench.step first.step).1.run? opening.run = none := by
          rw [Bench.run?_opening, if_neg other, fresh]
        rw [ih _ later inside untouched, Bench.parts_opening]

end Openings

section Opened

variable {openings : List Opening} {opening : Opening}

/-- Each opening has its own run on the opened bench. -/
theorem Bench.run?_opened (parts : List (Text × Given Parser))
    (distinct : (openings.map Opening.run).Nodup) (member : opening ∈ openings) :
    (Bench.opened parts openings).run? opening.run = opening.iterator? parts :=
  Bench.run?_openings _ distinct member rfl

/-- A run replies as often as it is pulled, from its own items. -/
theorem Bench.repliesTo_opened (parts : List (Text × Given Parser))
    (distinct : (openings.map Opening.run).Nodup) (member : opening ∈ openings)
    (schedule : List Text) :
    (Bench.opened parts openings).repliesTo opening.run schedule =
      repliesOf opening.run (schedule.count opening.run) (opening.iterator? parts) := by
  rw [Bench.repliesTo_eq, Bench.run?_opened parts distinct member]

/-- A counter ends with what all openings add to it. -/
theorem Bench.tally_opened (parts : List (Text × Given Parser))
    (distinct : (openings.map Opening.run).Nodup) (schedule : List Text) (counter : Text) :
    tally ((Bench.opened parts openings).follow schedule).1.events counter =
      (openings.map fun opening =>
        tally (eventsOf (schedule.count opening.run) (opening.iterator? parts)) counter).sum := by
  have covers : ∀ name, name ∉ openings.map Opening.run →
      (Bench.opened parts openings).run? name = none := by
    intro name outside
    exact Bench.run?_openings_of_not_mem _ outside
  have quiet : (Bench.opened parts openings).events = [] := Bench.events_openings _ openings
  rw [Bench.tally_follow distinct covers, quiet, tally_nil, zero_add, List.map_map]
  refine congrArg List.sum (List.map_congr_left ?_)
  intro opening member
  rw [Function.comp_apply, Bench.run?_opened parts distinct member]

/-- A single opening has a name of its own. -/
theorem Opening.nodup_single (opening : Opening) : ([opening].map Opening.run).Nodup :=
  List.nodup_singleton opening.run

/-- A run alone is a single opening, so what holds of many openings holds of it. -/
theorem Opening.repliesAlone_eq (parts : List (Text × Given Parser)) (count : Nat) :
    opening.repliesAlone parts count =
      repliesOf opening.run count (opening.iterator? parts) := by
  rw [Opening.repliesAlone, Bench.repliesTo_opened parts opening.nodup_single List.mem_cons_self,
    List.count_replicate_self]

/-- Alone, an opening adds what its own pulls add. -/
theorem Opening.tallyAlone_eq (parts : List (Text × Given Parser)) (count : Nat)
    (counter : Text) :
    opening.tallyAlone parts count counter =
      tally (eventsOf count (opening.iterator? parts)) counter := by
  rw [Opening.tallyAlone, Bench.tally_opened parts opening.nodup_single, List.map_singleton,
    List.sum_singleton, List.count_replicate_self]

end Opened

/-- Any two schedules that pull each run equally often agree. Each run replies as it does alone,
and each counter ends with the sum of what the runs add to it alone. -/
theorem interleavings_agree (parts : List (Text × Given Parser)) (openings : List Opening)
    (distinct : (openings.map Opening.run).Nodup) (first second : List Text)
    (same : ∀ opening ∈ openings, first.count opening.run = second.count opening.run) :
    let bench := Bench.opened parts openings
    (∀ opening ∈ openings,
      let alone := opening.repliesAlone parts (first.count opening.run)
      bench.repliesTo opening.run first = alone ∧ bench.repliesTo opening.run second = alone) ∧
    ∀ counter : Text,
      let alone := (openings.map fun opening =>
        opening.tallyAlone parts (first.count opening.run) counter).sum
      tally (bench.follow first).1.events counter = alone ∧
        tally (bench.follow second).1.events counter = alone := by
  refine ⟨?_, ?_⟩
  · intro opening member
    refine ⟨?_, ?_⟩
    · rw [Bench.repliesTo_opened parts distinct member, Opening.repliesAlone_eq]
    · rw [Bench.repliesTo_opened parts distinct member, Opening.repliesAlone_eq,
        same opening member]
  · intro counter
    have summed (schedule : List Text)
        (equal : ∀ opening ∈ openings, first.count opening.run = schedule.count opening.run) :
        tally ((Bench.opened parts openings).follow schedule).1.events counter =
          (openings.map fun opening =>
            opening.tallyAlone parts (first.count opening.run) counter).sum := by
      rw [Bench.tally_opened parts distinct]
      refine congrArg List.sum (List.map_congr_left ?_)
      intro opening member
      rw [Opening.tallyAlone_eq, equal opening member]
    exact ⟨summed first fun _ _ => rfl, summed second same⟩

/-- Both runs use the shared part, and the second run uses it twice. -/
theorem interleavings_agree_shared :
    let shared : Parser := .counting "hits".toList (.literal "a".toList)
    let parts := [("p".toList, Given.usable shared.optional),
      ("q".toList, Given.usable (shared.chain shared))]
    let left : Opening := ⟨"l".toList, "p".toList, "ab".toList, false⟩
    let right : Opening := ⟨"r".toList, "q".toList, "aa".toList, false⟩
    let bench := Bench.opened parts [left, right]
    let mixed := [left.run, right.run, left.run]
    let grouped := [left.run, left.run, right.run]
    let replies := [.item (.reading (.tagged .present (.text "a".toList), "b".toList)),
      .item (.reading (.none, "ab".toList))]
    bench.repliesTo left.run mixed = replies ∧ bench.repliesTo left.run grouped = replies ∧
      tally (bench.follow mixed).1.events "hits".toList = ⟨1, 1⟩ + ⟨2, 2⟩ ∧
      tally (bench.follow grouped).1.events "hits".toList = ⟨1, 1⟩ + ⟨2, 2⟩ := by
  intro shared parts left right bench mixed grouped replies
  obtain ⟨answers, tallies⟩ :=
    interleavings_agree parts [left, right] (by decide) mixed grouped (by decide)
  obtain ⟨mixedReplies, groupedReplies⟩ := answers left List.mem_cons_self
  obtain ⟨mixedTally, groupedTally⟩ := tallies "hits".toList
  exact ⟨mixedReplies.trans rfl, groupedReplies.trans rfl, mixedTally.trans (by decide),
    groupedTally.trans (by decide)⟩

end Diplomacy
