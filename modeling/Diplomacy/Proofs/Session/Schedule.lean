import Diplomacy.Proofs.Run.Pulls
import Diplomacy.Session.Bench
import Mathlib.Algebra.BigOperators.Group.List.Basic

namespace Diplomacy

/-- A harvest holds the readings that were wanted and what happened during as many pulls. It shows
how the readings end only if more of them were wanted than there are. -/
theorem Parser.harvest_refines_readings {parser : Parser} {text : Text}
    {iterator : Suspended Reading} (started : parser.start text = .ok iterator)
    (limit : Option Nat) :
    let readings := parser.readings text
    let wanted := limit.getD (readings.items.length + 1)
    let harvest := parser.harvest limit text
    harvest.items = readings.items.take wanted ∧
      harvest.failure = (if readings.items.length < wanted then readings.failure else none) ∧
      (harvest.ended = true ↔ readings.items.length < wanted ∧ readings.failure = none) ∧
      harvest.events =
        Suspended.pullEvents (min wanted (readings.items.length + 1)) iterator := by
  have begun : iterator = fun _ => parser.run text := by
    rcases parser.start_eq text with ⟨shown, failure, -, failed⟩ | running
    · rw [failed] at started
      cases started
    · exact (Except.ok.inj (running.symm.trans started)).symm
  intro readings wanted harvest
  have taken : harvest = Suspended.take wanted fun _ => parser.run text := by
    simp only [harvest, Parser.harvest, started, begun]
    cases limit with
    | none =>
        rw [Suspended.harvest, Run.takeAll_eq_take, Parser.transcript_run]
        rfl
    | some count => rfl
  rw [taken]
  have same : (parser.run text).transcript = readings := parser.transcript_run text
  by_cases beyond : readings.items.length < wanted
  · rw [Run.take_beyond _ (by rwa [same]), same, if_pos beyond, Nat.min_eq_right beyond,
      List.take_of_length_le (Nat.le_of_lt beyond), begun]
    simp [beyond]
  · have within : wanted ≤ readings.items.length := Nat.le_of_not_lt beyond
    rw [Run.take_within _ (by rwa [same]), same, if_neg beyond,
      Nat.min_eq_left (Nat.le_succ_of_le within), begun]
    simp [beyond]

instance : Zero Tally where
  zero := ⟨0, 0⟩

/-- Calls are added to calls and readings to readings. -/
instance : Add Tally where
  add first second := ⟨first.calls + second.calls, first.pulled + second.pulled⟩

instance : AddCommMonoid Tally where
  nsmul := nsmulRec
  zero_add _ := congrArg₂ Tally.mk (Nat.zero_add _) (Nat.zero_add _)
  add_zero _ := rfl
  add_assoc _ _ _ := congrArg₂ Tally.mk (Nat.add_assoc _ _ _) (Nat.add_assoc _ _ _)
  add_comm _ _ := congrArg₂ Tally.mk (Nat.add_comm _ _) (Nat.add_comm _ _)

/-- A counter starts at zero. -/
theorem tally_nil (counter : Text) : tally [] counter = 0 := rfl

/-- A counter adds up what happens in turn. -/
theorem tally_append_eq_add (first second : List Event) (counter : Text) :
    tally (first ++ second) counter = tally first counter + tally second counter :=
  tally_append first second counter

def Bench.run? (bench : Bench) (name : Text) : Option (Suspended Item) :=
  bench.runs.lookup name

/-- A pull is answered with the item, with the end or with the failure. -/
def BenchReply.ofPull : Except Failure (Option Item) → BenchReply
  | .ok (some given) => .item given
  | .ok none => .ended
  | .error failure => .failed failure

/-- A missing run fails at every pull. -/
def repliesOf (name : Text) (count : Nat) : Option (Suspended Item) → List BenchReply
  | none => List.replicate count (.failed (.unknownName name))
  | some run => (Suspended.pulls count run).map BenchReply.ofPull

/-- A missing run leaves no trace. -/
def eventsOf (count : Nat) : Option (Suspended Item) → List Event
  | none => []
  | some run => Suspended.pullEvents count run

/-- Nothing happens without a pull. -/
theorem eventsOf_zero (run : Option (Suspended Item)) : eventsOf 0 run = [] := by
  cases run <;> rfl

/-- What happens during the first pull comes before what happens during the others. -/
theorem eventsOf_succ (more : Nat) (run : Option (Suspended Item)) :
    eventsOf (more + 1) run = eventsOf 1 run ++ eventsOf more (run.map Suspended.afterPull) := by
  cases run with
  | none => rfl
  | some run => simp [eventsOf, Suspended.pullEvents, Suspended.afterPull]

section Next

variable {bench : Bench} {pulled : Text}

/-- Setting a run changes the run of its own name only. -/
theorem Bench.run?_setRun (bench : Bench) (name other : Text) (run : Suspended Item) :
    (bench.setRun name run).run? other = if other = name then some run else bench.run? other := by
  simp only [Bench.run?, Bench.setRun, List.lookup_cons]
  by_cases same : other = name
  · rw [beq_iff_eq.2 same, if_pos same]
  · rw [beq_false_of_ne same, if_neg same]

/-- Pulling a missing run changes nothing. -/
theorem Bench.next_of_none (missing : bench.run? pulled = none) :
    bench.next pulled = (bench, .failed (.unknownName pulled)) := by
  rw [Bench.run?] at missing
  rw [Bench.next, missing]

/-- A pull changes the pulled run and adds the events of the pull, and does nothing else. -/
theorem Bench.next_of_some {run : Suspended Item} (found : bench.run? pulled = some run) :
    bench.next pulled =
      ((bench.note (run ()).pull.answer.events).setRun pulled run.afterPull,
        .ofPull (run ()).pull.answer.result) := by
  rw [Bench.run?] at found
  rw [Bench.next, found]
  simp only [Suspended.afterPull]
  cases (run ()).pull.answer.result with
  | error failure => rfl
  | ok answer => cases answer <;> rfl

/-- A pull changes the pulled run only. -/
theorem Bench.run?_next (bench : Bench) (pulled name : Text) :
    (bench.next pulled).1.run? name =
      if name = pulled then (bench.run? pulled).map Suspended.afterPull else bench.run? name := by
  cases found : bench.run? pulled with
  | none =>
      rw [Bench.next_of_none found]
      by_cases same : name = pulled
      · rw [if_pos same, same, found]
        rfl
      · rw [if_neg same]
  | some run =>
      rw [Bench.next_of_some found, Bench.run?_setRun]
      rfl

/-- A pull adds the events of the pulled run. -/
theorem Bench.events_next (bench : Bench) (pulled : Text) :
    (bench.next pulled).1.events = bench.events ++ eventsOf 1 (bench.run? pulled) := by
  cases found : bench.run? pulled with
  | none => simp [Bench.next_of_none found, eventsOf]
  | some run =>
      simp [Bench.next_of_some found, eventsOf, Suspended.pullEvents, Bench.setRun, Bench.note]

/-- The reply to a pull depends on the pulled run alone. -/
theorem Bench.repliesOf_succ (bench : Bench) (pulled : Text) (more : Nat) :
    repliesOf pulled (more + 1) (bench.run? pulled) =
      (bench.next pulled).2 ::
        repliesOf pulled more ((bench.run? pulled).map Suspended.afterPull) := by
  cases found : bench.run? pulled with
  | none =>
      rw [Bench.next_of_none found]
      rfl
  | some run =>
      rw [Bench.next_of_some found]
      rfl

end Next

/-- The runs are pulled in the order of the schedule. -/
def Bench.follow (bench : Bench) (schedule : List Text) :
    Bench × List (BenchReply × List (Text × Tally)) :=
  bench.play (schedule.map .next)

/-- These are the replies to the pulls of one run. -/
def Bench.repliesTo (bench : Bench) (name : Text) (schedule : List Text) : List BenchReply :=
  (schedule.zip (bench.follow schedule).2).filterMap fun (pulled, reply, _) =>
    if pulled = name then some reply else none

/-- The first pull of a schedule counts for the run that it pulls. -/
theorem Bench.repliesTo_cons (bench : Bench) (name pulled : Text) (rest : List Text) :
    bench.repliesTo name (pulled :: rest) =
      if pulled = name then (bench.next pulled).2 :: (bench.next pulled).1.repliesTo name rest
      else (bench.next pulled).1.repliesTo name rest := by
  simp only [Bench.repliesTo, Bench.follow, List.map_cons, Bench.play, Bench.step,
    List.zip_cons_cons, List.filterMap_cons]
  by_cases same : pulled = name <;> simp [same]

/-- The pulls of the other runs do not matter. -/
theorem Bench.repliesTo_eq (bench : Bench) (name : Text) (schedule : List Text) :
    bench.repliesTo name schedule = repliesOf name (schedule.count name) (bench.run? name) := by
  induction schedule generalizing bench with
  | nil => cases found : bench.run? name <;> rfl
  | cons pulled rest ih =>
      rw [Bench.repliesTo_cons, ih, Bench.run?_next]
      by_cases same : pulled = name
      · subst same
        rw [List.count_cons_self, Bench.repliesOf_succ, if_pos rfl, if_pos rfl]
      · rw [List.count_cons_of_ne same, if_neg same, if_neg (Ne.symm same)]

/-- If one summand of a list without duplicates grows, then the sum grows by the same amount. -/
theorem sum_map_of_grown {A B : Type} [AddCommMonoid B] [DecidableEq A] {names : List A} {grown : A}
    {before after : A → B} {extra : B} (distinct : names.Nodup) (member : grown ∈ names)
    (grows : before grown = extra + after grown)
    (stays : ∀ name, name ≠ grown → before name = after name) :
    (names.map before).sum = extra + (names.map after).sum := by
  have others : (names.erase grown).map before = (names.erase grown).map after := by
    refine List.map_congr_left ?_
    intro name left
    exact stays name (distinct.mem_erase_iff.1 left).1
  calc (names.map before).sum
      = before grown + ((names.erase grown).map before).sum :=
        (List.sum_map_erase before member).symm
    _ = extra + (after grown + ((names.erase grown).map after).sum) := by
        rw [others, grows, add_assoc]
    _ = extra + (names.map after).sum := by rw [List.sum_map_erase after member]

/-- Every counter grows by what each run adds to it, in whatever order the runs are pulled. -/
theorem Bench.tally_follow {bench : Bench} {names : List Text} (distinct : names.Nodup)
    (covers : ∀ name, name ∉ names → bench.run? name = none) (schedule : List Text)
    (counter : Text) :
    tally (bench.follow schedule).1.events counter =
      tally bench.events counter +
        (names.map fun name =>
          tally (eventsOf (schedule.count name) (bench.run? name)) counter).sum := by
  induction schedule generalizing bench with
  | nil => simp [Bench.follow, Bench.play, eventsOf_zero, tally_nil]
  | cons pulled rest ih =>
      have still : ∀ name, name ∉ names → (bench.next pulled).1.run? name = none := by
        intro name outside
        rw [Bench.run?_next]
        by_cases same : name = pulled
        · rw [if_pos same, ← same, covers name outside]
          rfl
        · rw [if_neg same, covers name outside]
      have stays : ∀ name, name ≠ pulled →
          tally (eventsOf ((pulled :: rest).count name) (bench.run? name)) counter =
            tally (eventsOf (rest.count name) ((bench.next pulled).1.run? name)) counter := by
        intro name other
        rw [Bench.run?_next, if_neg other, List.count_cons_of_ne (Ne.symm other)]
      have moved : (names.map fun name =>
            tally (eventsOf ((pulled :: rest).count name) (bench.run? name)) counter).sum =
          tally (eventsOf 1 (bench.run? pulled)) counter +
            (names.map fun name =>
              tally (eventsOf (rest.count name) ((bench.next pulled).1.run? name)) counter).sum := by
        -- A name that is not listed has no run, so pulling it changes no summand.
        by_cases member : pulled ∈ names
        · refine sum_map_of_grown distinct member ?_ stays
          rw [List.count_cons_self, eventsOf_succ, tally_append_eq_add, Bench.run?_next, if_pos rfl]
        · rw [covers pulled member, eventsOf, tally_nil, zero_add]
          refine congrArg List.sum (List.map_congr_left ?_)
          intro name inside
          exact stays name fun same => member (same ▸ inside)
      show tally ((bench.next pulled).1.follow rest).1.events counter = _
      rw [ih still, moved, Bench.events_next, tally_append_eq_add, add_assoc]

end Diplomacy
