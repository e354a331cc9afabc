import Diplomacy.Parser.Transcript

namespace Diplomacy

variable {A : Type}

/-- A consumer keeps the answer of every pull and goes on after the end. -/
def Suspended.pulls : Nat → Suspended A → List (Except Failure (Option A))
  | 0, _ => []
  | more + 1, run =>
      let pull := (run ()).pull
      pull.answer.result :: Suspended.pulls more pull.rest

/-- These events happen while a run is pulled so many times. -/
def Suspended.pullEvents : Nat → Suspended A → List Event
  | 0, _ => []
  | more + 1, run =>
      let pull := (run ()).pull
      pull.answer.events ++ Suspended.pullEvents more pull.rest

/-- This is the run that one pull leaves. -/
def Suspended.afterPull (run : Suspended A) : Suspended A :=
  (run ()).pull.rest

def Suspended.afterPulls : Nat → Suspended A → Suspended A
  | 0, run => run
  | more + 1, run => Suspended.afterPulls more run.afterPull

/-- After the items comes the failure that cut the transcript off, or else the end. -/
def Transcript.ending (transcript : Transcript A) : Except Failure (Option A) :=
  match transcript.failure with
  | some failure => .error failure
  | none => .ok none

/-- A run that has ended stays ended. -/
theorem Suspended.pulls_ended (count : Nat) :
    Suspended.pulls count (Suspended.ended : Suspended A) = List.replicate count (.ok none) := by
  induction count with
  | zero => rfl
  | succ more ih =>
      rw [List.replicate_succ, ← ih]
      rfl

/-- An event takes no pull of its own. -/
theorem Suspended.pulls_note (count : Nat) (event : Event) (next : Suspended A) :
    Suspended.pulls count (fun _ => .note event next) = Suspended.pulls count next := by
  cases count with
  | zero => rfl
  | succ more => simp [Suspended.pulls, Pull.withEvents]

/-- An item answers the first pull. -/
theorem Suspended.pulls_succ_emit (more : Nat) (item : A) (next : Suspended A) :
    Suspended.pulls (more + 1) (fun _ => .emit item next) =
      .ok (some item) :: Suspended.pulls more next := rfl

/-- An event happens during the first pull. -/
theorem Suspended.pullEvents_note (more : Nat) (event : Event) (next : Suspended A) :
    Suspended.pullEvents (more + 1) (fun _ => .note event next) =
      event :: Suspended.pullEvents (more + 1) next := by
  simp [Suspended.pullEvents, Pull.withEvents]

/-- Nothing happens before an item that comes first. -/
theorem Suspended.pullEvents_succ_emit (more : Nat) (item : A) (next : Suspended A) :
    Suspended.pullEvents (more + 1) (fun _ => .emit item next) =
      Suspended.pullEvents more next := rfl

/-- As long as items are left, every pull gives the next of them. -/
theorem Run.pulls_within (run : Run A) (count : Nat)
    (within : count ≤ run.transcript.items.length) :
    Suspended.pulls count (fun _ => run) =
      (run.transcript.items.take count).map fun item => .ok (some item) := by
  induction run generalizing count with
  | stop =>
      obtain rfl : count = 0 := Nat.le_zero.1 within
      rfl
  | fail failure =>
      obtain rfl : count = 0 := Nat.le_zero.1 within
      rfl
  | note event next ih => rw [Suspended.pulls_note, ih () count within, Run.transcript_note]
  | emit item next ih =>
      cases count with
      | zero => rfl
      | succ more =>
          have rest : more ≤ (next ()).transcript.items.length := Nat.le_of_succ_le_succ within
          rw [Suspended.pulls_succ_emit, ih () more rest]
          rfl

/-- The pull after the last item shows how the run ended, and no later pull shows anything. -/
theorem Run.pulls_beyond (run : Run A) (extra : Nat) :
    Suspended.pulls (run.transcript.items.length + 1 + extra) (fun _ => run) =
      run.transcript.items.map (fun item => .ok (some item)) ++
        run.transcript.ending :: List.replicate extra (.ok none) := by
  induction run with
  | stop =>
      rw [Run.transcript_stop, ← Suspended.pulls_ended]
      simp [Transcript.empty, Transcript.ending, Nat.add_comm 1 extra, Suspended.pulls]
  | fail failure =>
      rw [Run.transcript_fail, ← Suspended.pulls_ended]
      simp [Transcript.fail, Transcript.ending, Nat.add_comm 1 extra, Suspended.pulls]
  | note event next ih => rw [Suspended.pulls_note, Run.transcript_note, ih ()]
  | emit item next ih =>
      have amount : (item :: (next ()).transcript.items).length + 1 + extra =
          ((next ()).transcript.items.length + 1 + extra) + 1 := by
        simp only [List.length_cons]
        omega
      show Suspended.pulls ((item :: (next ()).transcript.items).length + 1 + extra) _ = _
      rw [amount, Suspended.pulls_succ_emit, ih ()]
      rfl

section Harvest

/-- An event is left behind by the first pull. -/
theorem Suspended.afterPulls_note (more : Nat) (event : Event) (next : Suspended A) :
    Suspended.afterPulls (more + 1) (fun _ => .note event next) =
      Suspended.afterPulls (more + 1) next := by
  simp [Suspended.afterPulls, Suspended.afterPull, Pull.withEvents]

/-- If enough items are left, then taking them does what as many pulls do. -/
theorem Run.take_within (run : Run A) {count : Nat}
    (within : count ≤ run.transcript.items.length) :
    Suspended.take count (fun _ => run) =
      ⟨run.transcript.items.take count, false, none, Suspended.pullEvents count fun _ => run,
        Suspended.afterPulls count fun _ => run⟩ := by
  induction run generalizing count with
  | stop =>
      obtain rfl : count = 0 := Nat.le_zero.1 within
      rfl
  | fail failure =>
      obtain rfl : count = 0 := Nat.le_zero.1 within
      rfl
  | note event next ih =>
      cases count with
      | zero => rfl
      | succ more =>
          rw [Suspended.take_succ_note, ih () within, Suspended.pullEvents_note,
            Suspended.afterPulls_note]
          rfl
  | emit item next ih =>
      cases count with
      | zero => rfl
      | succ more =>
          rw [Suspended.take_succ_emit, ih () (Nat.le_of_succ_le_succ within)]
          rfl

/-- Taking more items than there are does what one pull more than there are items does. -/
theorem Run.take_beyond (run : Run A) {count : Nat}
    (beyond : run.transcript.items.length < count) :
    Suspended.take count (fun _ => run) =
      ⟨run.transcript.items, run.transcript.failure.isNone, run.transcript.failure,
        Suspended.pullEvents (run.transcript.items.length + 1) fun _ => run,
        Suspended.ended⟩ := by
  induction run generalizing count with
  | stop =>
      obtain ⟨more, rfl⟩ := Nat.exists_eq_succ_of_ne_zero (Nat.ne_of_gt beyond)
      rfl
  | fail failure =>
      obtain ⟨more, rfl⟩ := Nat.exists_eq_succ_of_ne_zero (Nat.ne_of_gt beyond)
      rfl
  | note event next ih =>
      obtain ⟨more, rfl⟩ := Nat.exists_eq_succ_of_ne_zero (Nat.ne_of_gt (Nat.zero_lt_of_lt beyond))
      rw [Suspended.take_succ_note, ih () beyond, Suspended.pullEvents_note]
      rfl
  | emit item next ih =>
      obtain ⟨more, rfl⟩ := Nat.exists_eq_succ_of_ne_zero (Nat.ne_of_gt (Nat.zero_lt_of_lt beyond))
      rw [Suspended.take_succ_emit, ih () (Nat.lt_of_succ_lt_succ beyond)]
      rfl

/-- Taking everything is taking one item more than there are. -/
theorem Run.takeAll_eq_take (run : Run A) :
    run.takeAll = Suspended.take (run.transcript.items.length + 1) fun _ => run := by
  induction run with
  | stop => rfl
  | fail failure => rfl
  | note event next ih => rw [Run.takeAll_note, ih, Run.transcript_note, Suspended.take_succ_note]
  | emit item next ih =>
      rw [Run.takeAll_emit, ih]
      exact (Suspended.take_succ_emit _ item next).symm

end Harvest

/-- Only a parser without a rule cannot be started. -/
theorem Parser.start_eq (parser : Parser) (text : Text) :
    (∃ shown failure, parser = .broken shown failure ∧ parser.start text = .error failure) ∨
      parser.start text = .ok fun _ => parser.run text := by
  cases parser with
  | broken shown failure => exact Or.inl ⟨shown, failure, rfl, rfl⟩
  | _ => exact Or.inr rfl

/-- Every parser that has a rule can be started on every text. As long as readings are left, each
pull gives the next of them and none fails. The pull after them gives the failure that cuts the
readings off, if there is one, and every other pull finds the end. -/
theorem Parser.pulls_refine_readings (parser : Parser) (text : Text) :
    let readings := parser.readings text
    match parser.start text with
    | .error failure => ∃ shown, parser = .broken shown failure
    | .ok iterator =>
        (∀ count ≤ readings.items.length,
          Suspended.pulls count iterator =
            (readings.items.take count).map fun reading => .ok (some reading)) ∧
        ∀ extra,
          Suspended.pulls (readings.items.length + 1 + extra) iterator =
            readings.items.map (fun reading => .ok (some reading)) ++
              readings.ending :: List.replicate extra (.ok none) := by
  rcases parser.start_eq text with ⟨shown, failure, same, failed⟩ | started
  · rw [failed]
    exact ⟨shown, same⟩
  · rw [started, ← Parser.transcript_run]
    exact ⟨fun count within => Run.pulls_within _ count within, Run.pulls_beyond _⟩

end Diplomacy
