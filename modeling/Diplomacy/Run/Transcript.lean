/-
This file lists at once what a run gives step by step.
-/

import Diplomacy.Run.Pull

namespace Diplomacy

variable {A B : Type}

/-- A transcript holds the items of a run and the failure that cut it off, and leaves out the
events. -/
structure Transcript (A : Type) where
  items : List A
  failure : Option Failure

def Transcript.empty : Transcript A := ⟨[], none⟩

def Transcript.one (item : A) : Transcript A := ⟨[item], none⟩

def Transcript.fail (failure : Failure) : Transcript A := ⟨[], some failure⟩

def Transcript.cons (item : A) (rest : Transcript A) : Transcript A :=
  ⟨item :: rest.items, rest.failure⟩

/-- Nothing follows a failure. -/
def Transcript.append (first second : Transcript A) : Transcript A :=
  match first.failure with
  | some _ => first
  | none => ⟨first.items ++ second.items, second.failure⟩

def Transcript.map (change : A → B) (transcript : Transcript A) : Transcript B :=
  ⟨transcript.items.map change, transcript.failure⟩

/-- The transcripts of the items follow each other up to the first failure. -/
def Transcript.join (ending : Transcript B) (follow : A → Transcript B) : List A → Transcript B
  | [] => ending
  | item :: rest => (follow item).append (Transcript.join ending follow rest)

def Transcript.bind (transcript : Transcript A) (follow : A → Transcript B) : Transcript B :=
  Transcript.join ⟨[], transcript.failure⟩ follow transcript.items

def Transcript.ofExcept : Except Failure A → Transcript A
  | .ok item => .one item
  | .error failure => .fail failure

def Run.transcript : Run A → Transcript A
  | .stop => .empty
  | .fail failure => .fail failure
  | .note _ next => (next ()).transcript
  | .emit item next => (next ()).transcript.cons item

@[simp] theorem Run.transcript_stop : (Run.stop : Run A).transcript = .empty := rfl

@[simp] theorem Run.transcript_fail (failure : Failure) :
    (Run.fail failure : Run A).transcript = .fail failure := rfl

@[simp] theorem Run.transcript_note (event : Event) (next : Unit → Run A) :
    (Run.note event next).transcript = (next ()).transcript := rfl

@[simp] theorem Run.transcript_emit (item : A) (next : Unit → Run A) :
    (Run.emit item next).transcript = (next ()).transcript.cons item := rfl

@[simp] theorem Run.transcript_one (item : A) : (Run.one item).transcript = .one item := rfl

@[simp] theorem Run.transcript_append (first : Run A) (second : Unit → Run A) :
    (first.append second).transcript = first.transcript.append (second ()).transcript := by
  induction first with
  | stop => simp [Run.append, Transcript.append, Transcript.empty]
  | fail failure => simp [Run.append, Transcript.append, Transcript.fail]
  | note event next ih => simp [Run.append, ih]
  | emit item next ih =>
      simp only [Run.append, Run.transcript_emit, ih, Transcript.append, Transcript.cons]
      cases failed : (next ()).transcript.failure <;> simp [failed]

@[simp] theorem Run.transcript_map (change : A → B) (run : Run A) :
    (run.map change).transcript = run.transcript.map change := by
  induction run with
  | stop => rfl
  | fail failure => rfl
  | note event next ih => simp [Run.map, ih]
  | emit item next ih => simp [Run.map, ih, Transcript.map, Transcript.cons]

@[simp] theorem Run.transcript_bind (run : Run A) (follow : A → Run B) :
    (run.bind follow).transcript = run.transcript.bind fun item => (follow item).transcript := by
  induction run with
  | stop => rfl
  | fail failure => rfl
  | note event next ih => simp [Run.bind, ih]
  | emit item next ih =>
      simp [Run.bind, ih, Transcript.bind, Transcript.cons, Transcript.join]

@[simp] theorem Run.transcript_ofAnswer (answer : Answer A) :
    (Run.ofAnswer answer).transcript = Transcript.ofExcept answer.result := by
  obtain ⟨events, result⟩ := answer
  induction events with
  | nil => cases result <;> rfl
  | cons event rest ih => exact ih

end Diplomacy
