import Diplomacy.Session.Desk

namespace Diplomacy

/-- A cell does not point beyond so many boxes. -/
def Cell.Within (count : Nat) : Cell → Prop
  | .plain _ => True
  | .box index => index < count

/-- Whatever the names and the boxes hold lies on the desk. -/
structure Desk.Sound (desk : Desk) : Prop where
  names : ∀ entry ∈ desk.names, entry.2.Within desk.boxes.length
  boxes : ∀ box ∈ desk.boxes, box.content.Within desk.boxes.length

/-- Placing an argument adds boxes behind the others and changes nothing else. -/
structure Desk.Places (desk placed : Desk) (cell : Cell) : Prop where
  added : ∃ boxes, placed = { desk with boxes := desk.boxes ++ boxes }
  sound : desk.Sound → placed.Sound ∧ cell.Within placed.boxes.length

/-- Only these steps give a name a value. -/
def DeskStep.binds? : DeskStep → Option Text
  | .make name _ => some name
  | .keep name _ => some name
  | .read name _ _ => some name
  | _ => none

/-- A step that succeeds only looks at the desk, binds a name or replaces the content of a box. -/
inductive Desk.Change (desk : Desk) (step : DeskStep) : Desk → Prop where
  | looked : Desk.Change desk step desk
  | bound {placed : Desk} {name : Text} {cell : Cell} (places : desk.Places placed cell)
      (binds : step.binds? = some name) : Desk.Change desk step (placed.bind name cell)
  | replaced {placed : Desk} {content : Cell} (index : Nat) (places : desk.Places placed content) :
      Desk.Change desk step { placed with
        boxes := placed.boxes.modify index fun box => { box with content := content } }

/-- A later desk keeps every name with its cell, every box with its tag, and all that happened. -/
structure Desk.Extends (desk later : Desk) : Prop where
  names : desk.names <:+ later.names
  tags : desk.boxes.map Box.tag <+: later.boxes.map Box.tag
  events : desk.events <+: later.events

section Property

/-- A name stands for the property that has it. -/
theorem Property.ofName?_eq_some_iff {name : Text} {property : Property} :
    Property.ofName? name = some property ↔ property.name = name := by
  constructor
  · intro found
    simpa using List.find?_some found
  · rintro rfl
    exact Property.ofName?_name property

/-- Asking for a property fails only if the value has none of that name, and the failure tells the
value and the name. -/
theorem Value.get_eq_error_iff {value : Value} {name : Text} {failure : Failure} :
    value.get name = .error failure ↔ failure = .noAttribute value name ∧
      ∀ property : Property, property.name = name → value.property? property = Option.none := by
  have absent : (Property.ofName? name).bind value.property? = Option.none ↔
      ∀ property : Property, property.name = name → value.property? property = Option.none := by
    simp only [Option.bind_eq_none_iff, Property.ofName?_eq_some_iff]
  rw [← absent, Value.get]
  cases (Property.ofName? name).bind value.property? with
  | none =>
      constructor
      · intro failed
        exact ⟨(Except.error.inj failed).symm, rfl⟩
      · rintro ⟨rfl, -⟩
        rfl
  | some found =>
      refine iff_of_false nofun ?_
      rintro ⟨-, missing⟩
      cases missing

/-- Which properties an order has depends on its kind alone. -/
theorem Order.property?_isSome_of_kind {first second : Order} (same : first.kind = second.kind)
    (property : Property) :
    (first.property? property).isSome = (second.property? property).isSome := by
  cases first <;> cases second <;> cases same <;> cases property <;> rfl

end Property

section Results

variable {A B : Type} {value : B}

/-- Both steps have succeeded if the second has. -/
theorem exists_ok_of_bind {first : Except Failure A} {next : A → Except Failure B}
    (done : first >>= next = .ok value) :
    ∃ middle, first = .ok middle ∧ next middle = .ok value := by
  cases first with
  | error failure => cases done
  | ok middle => exact ⟨middle, rfl, done⟩

/-- The first step has succeeded if all of it has, whatever happened on the way. -/
theorem Answer.exists_ok_of_bind {first : Answer A} {next : A → Answer B}
    (done : (first >>= next).result = .ok value) :
    ∃ middle, first.result = .ok middle ∧ (next middle).result = .ok value := by
  cases answered : first.result with
  | error failure =>
      rw [Answer.bind_of_error next answered] at done
      cases done
  | ok middle =>
      rw [Answer.bind_of_ok next answered] at done
      exact ⟨middle, rfl, done⟩

end Results

section Place

variable {desk placed : Desk} {cell : Cell}

theorem Cell.Within.mono {count more : Nat} (within : cell.Within count) (grown : count ≤ more) :
    cell.Within more := by
  cases cell with
  | plain value => trivial
  | box index => exact Nat.lt_of_lt_of_le within grown

theorem Desk.Places.plain (desk : Desk) (value : Value) : desk.Places desk (.plain value) :=
  ⟨⟨[], by rw [List.append_nil]⟩, fun sound => ⟨sound, trivial⟩⟩

/-- A name that is found stands on the desk with its cell. -/
theorem Desk.mem_of_find {name : Text} (found : desk.find name = .ok cell) :
    (name, cell) ∈ desk.names := by
  unfold Desk.find at found
  cases search : desk.names.lookup name with
  | none =>
      rw [search] at found
      cases found
  | some other =>
      rw [search] at found
      cases found
      obtain ⟨before, after, split, -⟩ := List.lookup_eq_some_iff.1 search
      rw [split]
      simp

/-- The cell of a name lies on the desk. -/
theorem Desk.Sound.within_of_find (sound : desk.Sound) {name : Text}
    (found : desk.find name = .ok cell) : cell.Within desk.boxes.length :=
  sound.names (name, cell) (Desk.mem_of_find found)

/-- A new box comes last and holds a cell that was there before it. -/
theorem Desk.Sound.push (sound : desk.Sound) (within : cell.Within desk.boxes.length) (tag : Tag) :
    Desk.Sound { desk with boxes := desk.boxes ++ [⟨tag, cell⟩] } := by
  have grown : desk.boxes.length ≤ (desk.boxes ++ [Box.mk tag cell]).length := by simp
  refine ⟨fun entry member => (sound.names entry member).mono grown, ?_⟩
  intro box member
  rcases List.mem_append.1 member with old | new
  · exact (sound.boxes box old).mono grown
  · rw [List.mem_singleton.1 new]
    exact within.mono grown

/-- The induction follows the tags of the argument from the inside. -/
theorem Desk.places_of_place {argument : Argument}
    (done : desk.place argument = .ok (placed, cell)) : desk.Places placed cell := by
  induction argument generalizing placed cell with
  | plain value =>
      cases done
      exact Desk.Places.plain desk value
  | named name =>
      obtain ⟨other, found, returned⟩ := exists_ok_of_bind done
      cases returned
      exact ⟨⟨[], by rw [List.append_nil]⟩, fun sound => ⟨sound, sound.within_of_find found⟩⟩
  | tagged tag content ih =>
      obtain ⟨⟨inner, held⟩, placedInner, returned⟩ := exists_ok_of_bind done
      cases returned
      obtain ⟨⟨boxes, rfl⟩, keeps⟩ := ih placedInner
      refine ⟨⟨boxes ++ [⟨tag, held⟩], by rw [List.append_assoc]⟩, fun sound => ?_⟩
      obtain ⟨innerSound, within⟩ := keeps sound
      exact ⟨innerSound.push within tag, by simp [Cell.Within]⟩

end Place

/-- The tags do not change with the content of a box. -/
theorem map_tag_modify (boxes : List Box) (index : Nat) (content : Cell) :
    (boxes.modify index fun box => { box with content := content }).map Box.tag =
      boxes.map Box.tag := by
  apply List.ext_getElem?
  intro place
  rw [List.getElem?_map, List.getElem?_modify, List.getElem?_map]
  cases boxes[place]? with
  | none => rfl
  | some box => by_cases here : index = place <;> simp [here]

section Step

variable {desk later : Desk} {step : DeskStep}

/-- Every successful step makes one of the three changes. -/
theorem Desk.change_of_act {reply : DeskReply}
    (done : (desk.act step).result = .ok (later, reply)) : desk.Change step later := by
  have unchanged {answer : Except Failure DeskReply}
      (looked : (desk.unchanged answer).result = .ok (later, reply)) : desk.Change step later := by
    obtain ⟨given, -, returned⟩ := Answer.exists_ok_of_bind looked
    cases returned
    exact .looked
  cases step with
  | make name draft =>
      obtain ⟨resolved, -, checked⟩ := exists_ok_of_bind done
      obtain ⟨value, -, returned⟩ := exists_ok_of_bind checked
      cases returned
      exact .bound (Desk.Places.plain desk value) rfl
  | keep name argument =>
      obtain ⟨⟨placed, cell⟩, places, rest⟩ := exists_ok_of_bind done
      obtain ⟨isLeft, -, returned⟩ := exists_ok_of_bind rest
      cases returned
      exact .bound (Desk.places_of_place places) rfl
  | read name text strict =>
      obtain ⟨order, -, returned⟩ := Answer.exists_ok_of_bind done
      cases returned
      exact .bound (Desk.Places.plain desk (.order order)) rfl
  | get name property => exact unchanged done
  | set name property argument =>
      obtain ⟨target, -, rest⟩ := exists_ok_of_bind done
      obtain ⟨⟨placed, content⟩, places, replaced⟩ := exists_ok_of_bind rest
      cases target with
      | plain value => cases replaced
      | box index =>
          dsimp only at replaced
          split at replaced
          · cases replaced
            exact .replaced index (Desk.places_of_place places)
          · cases replaced
  | erase name property => exact unchanged done
  | compare first second => exact unchanged done
  | distinct arguments => exact unchanged done
  | reread name strict =>
      obtain ⟨given, -, returned⟩ := Answer.exists_ok_of_bind done
      cases returned
      exact .looked

/-- A step makes a change if it succeeds, and in any case it notes what happened. -/
theorem Desk.step_cases (desk : Desk) (step : DeskStep) :
    (∃ failure, desk.step step = (desk.note (desk.act step).events, .error failure)) ∨
      ∃ later reply, desk.Change step later ∧
        desk.step step = (later.note (desk.act step).events, .ok reply) := by
  rw [Desk.step]
  cases answered : (desk.act step).result with
  | error failure => exact Or.inl ⟨failure, rfl⟩
  | ok given => exact Or.inr ⟨given.1, given.2, Desk.change_of_act answered, rfl⟩

theorem Desk.erase_fails (desk : Desk) (name property : Text) :
    ∃ failure, (desk.step (.erase name property)).2 = .error failure := by
  cases found : desk.find name with
  | error failure => exact ⟨failure, by simp only [Desk.step, Desk.act, found]; rfl⟩
  | ok cell => exact ⟨_, by simp only [Desk.step, Desk.act, found]; rfl⟩

/-- Nothing of a plain value can be replaced, whatever is put in its place. -/
theorem Desk.set_fails {name : Text} {value : Value} (found : desk.find name = .ok (.plain value))
    (property : Text) (argument : Argument) :
    ∃ failure, (desk.step (.set name property argument)).2 = .error failure := by
  cases placed : desk.place argument with
  | error failure =>
      exact ⟨failure, by simp only [Desk.step, Desk.act, Desk.set, found, placed]; rfl⟩
  | ok given => exact ⟨_, by simp only [Desk.step, Desk.act, Desk.set, found, placed]; rfl⟩

/-- A failed step leaves the names and the boxes as they were. -/
theorem Desk.step_of_failed {failure : Failure} (failed : (desk.step step).2 = .error failure) :
    (desk.step step).1.names = desk.names ∧ (desk.step step).1.boxes = desk.boxes := by
  rcases desk.step_cases step with ⟨other, answered⟩ | ⟨later, reply, -, answered⟩
  · rw [answered]
    exact ⟨rfl, rfl⟩
  · rw [answered] at failed
    cases failed

/-- No change makes a cell point beyond the boxes. -/
theorem Desk.Change.sound (change : desk.Change step later) (sound : desk.Sound) : later.Sound := by
  cases change with
  | looked => exact sound
  | bound places binds =>
      obtain ⟨placedSound, within⟩ := places.sound sound
      exact ⟨List.forall_mem_cons.2 ⟨within, placedSound.names⟩, placedSound.boxes⟩
  | replaced index places =>
      obtain ⟨placedSound, within⟩ := places.sound sound
      refine ⟨?_, ?_⟩
      · intro entry member
        rw [List.length_modify]
        exact placedSound.names entry member
      · intro box member
        rw [List.length_modify]
        obtain ⟨place, bound, rfl⟩ := List.mem_iff_getElem.1 member
        rw [List.getElem_modify]
        split
        · exact within
        · exact placedSound.boxes _ (List.getElem_mem _)

/-- No change takes a name or a box away. -/
theorem Desk.Change.extends (change : desk.Change step later) : desk.Extends later := by
  cases change with
  | looked => exact ⟨List.suffix_rfl, List.prefix_rfl, List.prefix_rfl⟩
  | bound places binds =>
      obtain ⟨boxes, rfl⟩ := places.added
      refine ⟨List.suffix_cons _ _, ?_, List.prefix_rfl⟩
      show desk.boxes.map Box.tag <+: (desk.boxes ++ boxes).map Box.tag
      rw [List.map_append]
      exact List.prefix_append _ _
  | replaced index places =>
      obtain ⟨boxes, rfl⟩ := places.added
      refine ⟨List.suffix_rfl, ?_, List.prefix_rfl⟩
      refine ⟨boxes.map Box.tag, ?_⟩
      rw [map_tag_modify, List.map_append]

/-- A step keeps the desk sound, whether it succeeds or fails. -/
theorem Desk.step_sound (sound : desk.Sound) (step : DeskStep) : (desk.step step).1.Sound := by
  rcases desk.step_cases step with ⟨failure, answered⟩ | ⟨later, reply, change, answered⟩
  · rw [answered]
    exact ⟨sound.names, sound.boxes⟩
  · rw [answered]
    exact ⟨(change.sound sound).names, (change.sound sound).boxes⟩

/-- A step adds to the desk and takes nothing away. -/
theorem Desk.step_extends (desk : Desk) (step : DeskStep) : desk.Extends (desk.step step).1 := by
  rcases desk.step_cases step with ⟨failure, answered⟩ | ⟨later, reply, change, answered⟩
  · rw [answered]
    exact ⟨List.suffix_rfl, List.prefix_rfl, List.prefix_append _ _⟩
  · rw [answered]
    have kept := change.extends
    exact ⟨kept.names, kept.tags, kept.events.trans (List.prefix_append _ _)⟩

/-- A step leaves the cells of all names but the one that it binds. -/
theorem Desk.find_step (desk : Desk) {step : DeskStep} {name : Text}
    (free : step.binds? ≠ some name) : (desk.step step).1.find name = desk.find name := by
  rcases desk.step_cases step with ⟨failure, answered⟩ | ⟨later, reply, change, answered⟩
  · rw [answered]
    rfl
  · rw [answered]
    cases change with
    | looked => rfl
    | @bound placed bound cell places binds =>
        obtain ⟨boxes, rfl⟩ := places.added
        have apart : name ≠ bound := fun same => free (same ▸ binds)
        simp only [Desk.find, Desk.note, Desk.bind, List.lookup_cons, beq_false_of_ne apart]
    | replaced index places =>
        obtain ⟨boxes, rfl⟩ := places.added
        rfl

end Step

section Play

variable {desk : Desk}

theorem Desk.play_cons (desk : Desk) (step : DeskStep) (rest : List DeskStep) :
    desk.play (step :: rest) =
      (((desk.step step).1.play rest).1,
        (desk.step step).2 :: ((desk.step step).1.play rest).2) := rfl

/-- A run of steps keeps the desk sound. The induction goes over the steps. -/
theorem Desk.play_sound (sound : desk.Sound) (steps : List DeskStep) :
    (desk.play steps).1.Sound := by
  induction steps generalizing desk with
  | nil => exact sound
  | cons step rest ih =>
      rw [Desk.play_cons]
      exact ih (desk.step_sound sound step)

/-- Every run starts from an empty desk, which holds nothing that could point anywhere. -/
theorem Desk.play_empty_sound (steps : List DeskStep) : (Desk.empty.play steps).1.Sound := by
  refine Desk.play_sound ⟨?_, ?_⟩ steps
  · simp [Desk.empty]
  · simp [Desk.empty]

theorem Desk.play_extends (desk : Desk) (steps : List DeskStep) :
    desk.Extends (desk.play steps).1 := by
  induction steps generalizing desk with
  | nil => exact ⟨List.suffix_rfl, List.prefix_rfl, List.prefix_rfl⟩
  | cons step rest ih =>
      rw [Desk.play_cons]
      have first := desk.step_extends step
      have others := ih (desk.step step).1
      exact ⟨first.names.trans others.names, first.tags.trans others.tags,
        first.events.trans others.events⟩

/-- A run of steps leaves the cells of all names that no step binds. -/
theorem Desk.find_play (desk : Desk) {steps : List DeskStep} {name : Text}
    (free : ∀ step ∈ steps, step.binds? ≠ some name) :
    (desk.play steps).1.find name = desk.find name := by
  induction steps generalizing desk with
  | nil => rfl
  | cons step rest ih =>
      obtain ⟨first, others⟩ := List.forall_mem_cons.1 free
      rw [Desk.play_cons, ih _ others, desk.find_step first]

/-- A box on the desk shows its tag around something. -/
theorem Desk.exists_view {index : Nat} (inside : index < desk.boxes.length) :
    ∃ content, desk.view (.box index) = .tagged desk.boxes[index].tag content := by
  obtain ⟨below, size⟩ : ∃ below, desk.boxes.length = below + 1 :=
    ⟨desk.boxes.length - 1, by omega⟩
  refine ⟨desk.look below desk.boxes[index].content, ?_⟩
  rw [Desk.view, size, Desk.look, List.getElem?_eq_getElem inside]

/-- A later desk has the same tag at the same place. -/
theorem Desk.Extends.tag_eq {later : Desk} (extended : desk.Extends later) {index : Nat}
    (inside : index < desk.boxes.length) :
    ∃ still : index < later.boxes.length, desk.boxes[index].tag = later.boxes[index].tag := by
  have longer := extended.tags.length_le
  rw [List.length_map, List.length_map] at longer
  refine ⟨Nat.lt_of_lt_of_le inside longer, ?_⟩
  have same := extended.tags.getElem (i := index) (by rwa [List.length_map])
  rwa [List.getElem_map, List.getElem_map] at same

/-- What a name shows keeps its shape until a step binds the name again. A plain value stays as it
is, and so does the tag of a tagged value, whose content alone can be replaced. -/
theorem Desk.play_keeps (sound : desk.Sound) {name : Text} {cell : Cell}
    (found : desk.find name = .ok cell) {steps : List DeskStep}
    (free : ∀ step ∈ steps, step.binds? ≠ some name) :
    let later := (desk.play steps).1
    later.Sound ∧ later.find name = .ok cell ∧
      match cell with
      | .plain value => later.view cell = value
      | .box _ => ∃ tag before after,
          desk.view cell = .tagged tag before ∧ later.view cell = .tagged tag after := by
  refine ⟨desk.play_sound sound steps, (desk.find_play free).trans found, ?_⟩
  cases cell with
  | plain value =>
      show Desk.look _ _ _ = _
      rw [Desk.look]
  | box index =>
      have inside : index < desk.boxes.length := sound.within_of_find found
      obtain ⟨still, same⟩ := (desk.play_extends steps).tag_eq inside
      obtain ⟨before, shown⟩ := Desk.exists_view inside
      obtain ⟨after, shownLater⟩ := Desk.exists_view still
      exact ⟨_, before, after, shown, same ▸ shownLater⟩

end Play

end Diplomacy
