/-
This file holds the outcome of an ordinary function that may fail and that leaves traces.
-/

import Diplomacy.Event

namespace Diplomacy

/-- An answer keeps what happened on the way, also when it is a failure. -/
structure Answer (A : Type) where
  events : List Event
  result : Except Failure A

def Answer.pure {A : Type} (value : A) : Answer A :=
  ⟨[], .ok value⟩

def Answer.fail {A : Type} (failure : Failure) : Answer A :=
  ⟨[], .error failure⟩

def Answer.note (event : Event) : Answer Unit :=
  ⟨[event], .ok ()⟩

def Answer.log (record : Record) : Answer Unit :=
  Answer.note (.logged record)

def Answer.ofExcept {A : Type} (result : Except Failure A) : Answer A :=
  ⟨[], result⟩

/-- The second step runs only after a success and adds its events at the end. -/
def Answer.bind {A B : Type} (answer : Answer A) (next : A → Answer B) : Answer B :=
  match answer.result with
  | .ok value =>
      let later := next value
      ⟨answer.events ++ later.events, later.result⟩
  | .error failure => ⟨answer.events, .error failure⟩

/-- The events stay as they are. -/
def Answer.map {A B : Type} (change : A → B) (answer : Answer A) : Answer B :=
  ⟨answer.events, answer.result.map change⟩

instance : Monad Answer where
  pure := Answer.pure
  bind := Answer.bind
  map := Answer.map

variable {A B : Type}

instance : LawfulMonad Answer := LawfulMonad.mk' Answer
  (by
    intro A answer
    show Answer.map id answer = answer
    obtain ⟨events, result⟩ := answer
    cases result <;> rfl)
  (by
    intro A B value next
    show Answer.bind (Answer.pure value) next = next value
    simp [Answer.bind, Answer.pure])
  (by
    intro A B C answer second third
    show Answer.bind (Answer.bind answer second) third =
      Answer.bind answer fun value => Answer.bind (second value) third
    obtain ⟨events, result⟩ := answer
    cases result with
    | error failure => rfl
    | ok value =>
        simp only [Answer.bind]
        cases (second value).result <;> simp)
  (by intros; rfl)
  (by intros; rfl)
  (by intros; rfl)
  (by
    intro A B change answer
    show Answer.bind answer (fun value => Answer.pure (change value)) = Answer.map change answer
    obtain ⟨events, result⟩ := answer
    cases result <;> simp [Answer.bind, Answer.pure, Answer.map, Except.map])

@[simp] theorem Answer.events_pure (value : A) : (Pure.pure value : Answer A).events = [] := rfl

@[simp] theorem Answer.result_pure (value : A) :
    (Pure.pure value : Answer A).result = .ok value := rfl

@[simp] theorem Answer.fail_bind (failure : Failure) (next : A → Answer B) :
    Answer.fail failure >>= next = Answer.fail failure := rfl

@[simp] theorem Answer.ofExcept_ok (value : A) :
    (Answer.ofExcept (.ok value) : Answer A) = Pure.pure value := rfl

theorem Answer.bind_of_ok {answer : Answer A} {value : A} (next : A → Answer B)
    (accepted : answer.result = .ok value) :
    answer >>= next = ⟨answer.events ++ (next value).events, (next value).result⟩ := by
  show Answer.bind answer next = _
  simp [Answer.bind, accepted]

theorem Answer.bind_of_error {answer : Answer A} {failure : Failure} (next : A → Answer B)
    (failed : answer.result = .error failure) :
    answer >>= next = ⟨answer.events, .error failure⟩ := by
  show Answer.bind answer next = _
  simp [Answer.bind, failed]

end Diplomacy
