import Diplomacy.Parser.Complete
import Diplomacy.Parser.Basic

namespace Diplomacy

variable {A B C : Type}

/-- A run without events gives the items of a list. -/
def Run.ofList : List A → Run A
  | [] => .stop
  | item :: rest => .emit item fun _ => Run.ofList rest

/-- A find is reported together with the events that led to it. -/
def Answer.announce : Option (List Event × A) → Answer (Option A)
  | none => do return none
  | some (events, value) => ⟨events, .ok (some value)⟩

/-- Something else is made from what was found. -/
def Answer.assemble (make : A → Except Failure B) : Option A → Answer (Option B)
  | none => do return none
  | some value => some <$> Answer.ofExcept (make value)

@[simp] theorem Run.first?_stop : (Run.stop : Run A).first? = pure none := rfl

@[simp] theorem Run.first?_fail (failure : Failure) :
    (Run.fail failure : Run A).first? = Answer.fail failure := rfl

@[simp] theorem Run.first?_emit (item : A) (next : Unit → Run A) :
    (Run.emit item next).first? = pure (some item) := rfl

@[simp] theorem Run.first?_one (item : A) : (Run.one item).first? = pure (some item) := rfl

@[simp] theorem Run.first?_note (event : Event) (next : Unit → Run A) :
    (Run.note event next).first? = Answer.note event >>= fun _ => (next ()).first? := by
  rw [Run.first?, Run.pull_note]
  rfl

@[simp] theorem Run.first?_ofOption (item : Option A) :
    (Run.ofOption item).first? = pure item := by
  cases item <;> rfl

@[simp] theorem Run.ofOption_none : Run.ofOption (none : Option A) = .stop := rfl

@[simp] theorem Run.ofOption_some (item : A) : Run.ofOption (some item) = .one item := rfl

@[simp] theorem Run.stop_bind (follow : A → Run B) : Run.stop.bind follow = .stop := rfl

/-- The second run is looked at only if the first has no item. -/
theorem Run.first?_append (run : Run A) (second : Unit → Run A) :
    (run.append second).first? = (do
      match ← run.first? with
      | some item => pure (some item)
      | none => (second ()).first?) := by
  induction run with
  | stop => simp [Run.append]
  | fail failure => simp [Run.append]
  | note event next ih => simp [Run.append, ih]
  | emit item next ih => simp [Run.append]

/-- What happened before a run happens before everything that follows from it. -/
theorem Run.after_bind (events : List Event) (run : Run A) (follow : A → Run B) :
    (Run.after events run).bind follow = Run.after events (run.bind follow) := by
  induction events with
  | nil => rfl
  | cons event rest ih => simp [Run.after, Run.bind, ih]

/-- The items of a list are tried in turn, up to the first that gives something. -/
theorem Run.first?_bind_ofList (items : List A) (follow : A → Run B) :
    ((Run.ofList items).bind follow).first? =
      items.findSomeM? fun item => (follow item).first? := by
  induction items with
  | nil => rfl
  | cons item rest ih =>
      rw [List.findSomeM?_cons, ← ih]
      exact Run.first?_append _ _

/-- A list of at most one item makes a run of it. -/
theorem Run.ofList_toList (item : Option A) : Run.ofList item.toList = Run.ofOption item := by
  cases item <;> rfl

/-- Every item of a list gives an item of the run or nothing. -/
theorem Run.ofList_bind_ofOption (items : List A) (find : A → Option B) :
    ((Run.ofList items).bind fun item => Run.ofOption (find item)) =
      Run.ofList (items.filterMap find) := by
  induction items with
  | nil => rfl
  | cons item rest ih =>
      rw [Run.ofList, Run.bind, ih, List.filterMap_cons]
      cases find item with
      | none => rfl
      | some value => rfl

/-- What was found is passed on behind the events that led to it. -/
theorem Answer.announce_some_bind (events : List Event) (value : A)
    (next : Option A → Answer B) :
    Answer.announce (some (events, value)) >>= next =
      ⟨events ++ (next (some value)).events, (next (some value)).result⟩ := rfl

/-- What is made at the end may as well be made inside the search. -/
theorem Answer.findSomeM?_assemble (items : List A) (find : A → Answer (Option B))
    (make : B → Except Failure C) :
    items.findSomeM? find >>= Answer.assemble make =
      items.findSomeM? fun item => find item >>= Answer.assemble make := by
  induction items with
  | nil => rfl
  | cons item rest ih =>
      rw [List.findSomeM?_cons, List.findSomeM?_cons, bind_assoc, bind_assoc]
      refine bind_congr fun found => ?_
      cases found with
      | none => simpa [Answer.assemble] using ih
      | some value => simp [Answer.assemble]

/-- A search among finds that are only announced when they are reached announces the first. -/
theorem Answer.findSomeM?_announce (items : List A) (find : A → Option (List Event × B)) :
    items.findSomeM? (fun item => Answer.announce (find item)) =
      Answer.announce (items.findSome? find) := by
  induction items with
  | nil => rfl
  | cons item rest ih =>
      rw [List.findSomeM?_cons, List.findSome?_cons, ih]
      cases found : find item with
      | none => simp [Answer.announce]
      | some value =>
          obtain ⟨events, value⟩ := value
          rw [Answer.announce_some_bind]
          simp [Answer.announce]

/-- The names behind what was read come one after the other. -/
theorem namesAfter_eq_ofList (read text : Text) :
    namesAfter read text =
      Run.ofList ((nameEndings text).map fun (name, rest) => (read.reverse ++ name, rest)) := by
  induction text generalizing read with
  | nil => rfl
  | cons character rest ih =>
      simp only [namesAfter, nameEndings]
      split <;> simp [ih, Run.ofList, Function.comp_def]

/-- The names at the start of a text come one after the other. -/
theorem findNames_eq_ofList (text : Text) : findNames text = Run.ofList (placeNames text) := by
  simp [findNames, placeNames, namesAfter_eq_ofList]

/-- The parsers run one after the other, and each starts where the one before it ended. -/
def Parser.runAll : List Parser → Text → Run (List Value × Text)
  | [], text => .one ([], text)
  | parser :: rest, text =>
      (parser.run text).bind fun (value, after) =>
        (Parser.runAll rest after).bind fun (values, remainder) => .one (value :: values, remainder)

/-- A sequence puts the values of its parts in one flat tuple. -/
theorem Parser.run_sequence (parts : List Parser) (text : Text) :
    (Parser.sequence parts).run text =
      (Parser.runAll parts text).bind fun (values, rest) => .one (.tuple values, rest) := by
  induction parts generalizing text with
  | nil => simp [Parser.sequence, Parser.run, Parser.runAll]
  | cons parser rest ih =>
      cases rest with
      | nil =>
          simp only [Parser.sequence, Parser.run, Parser.runAll, Run.bind_assoc, Run.one_bind]
          rfl
      | cons next rest =>
          simp only [Parser.sequence, Parser.run, ih, Parser.runAll, Run.bind_assoc,
            Run.map_eq_bind, Run.one_bind]
          rfl

@[simp] theorem Parser.runAll_nil (text : Text) : Parser.runAll [] text = .one ([], text) := rfl

/-- Only the readings that leave nothing over count as complete. -/
theorem Parser.complete_sequence (parts : List Parser) (text : Text) :
    (Parser.sequence parts).complete text =
      (Parser.runAll parts text).bind fun (values, rest) =>
        Run.ofOption (Reading.complete? (.tuple values, rest)) := by
  simp only [Parser.complete, Parser.run_sequence, Run.bind_assoc, Run.one_bind]

/-- Each name that is listed makes one reading. -/
theorem Parser.run_placeName (text : Text) :
    Parser.placeName.run text =
      (Run.ofList (placeNames text)).bind fun (name, after) => .one (.text name, after) := by
  rw [Parser.run, findNames_eq_ofList, Run.map_eq_bind]

end Diplomacy
