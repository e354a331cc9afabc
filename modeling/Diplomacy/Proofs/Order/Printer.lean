import Diplomacy.Proofs.Text.Quoted
import Diplomacy.Value

namespace Diplomacy

section Fields

variable {A B C : Type} {write : A → Text} {fields : A → List Text}

/-- A form of the parts of an item is a form of the item if no two items have the same parts. -/
theorem SelfDelimiting.comp (delimits : SelfDelimiting write) (parts : B → A)
    (injective : Function.Injective parts) : SelfDelimiting fun item => write (parts item) := by
  intro first second rest later equal
  obtain ⟨same, remaining⟩ := delimits _ _ rest later equal
  exact ⟨injective same, remaining⟩

/-- One more field in front does not hide where the fields end. -/
theorem SelfDelimiting.joinFields_cons (delimits : SelfDelimiting write)
    (others : B → List Text)
    (following : SelfDelimiting fun item => joinFields (others item))
    (present : ∀ item, others item ≠ []) :
    SelfDelimiting fun pair : A × B => joinFields (write pair.1 :: others pair.2) := by
  have joined (item : A) (other : B) (rest : Text) :
      joinFields (write item :: others other) ++ rest =
        write item ++ (", ".toList ++ (joinFields (others other) ++ rest)) := by
    cases fields : others other with
    | nil => exact absurd fields (present other)
    | cons field more => simp only [joinFields, List.append_assoc]
  rintro ⟨first, firstOther⟩ ⟨second, secondOther⟩ rest later equal
  rw [joined, joined] at equal
  obtain ⟨rfl, behind⟩ := delimits first second _ _ equal
  obtain ⟨rfl, same⟩ :=
    following firstOther secondOther rest later (List.append_cancel_left behind)
  exact ⟨rfl, same⟩

/-- A record ends at the bracket behind its last field. -/
theorem SelfDelimiting.record (name : Text)
    (delimits : SelfDelimiting fun item => joinFields (fields item)) :
    SelfDelimiting fun item => describeRecord name (fields item) := by
  intro first second rest later equal
  simp only [describeRecord, List.append_assoc, List.cons_append] at equal
  obtain ⟨rfl, behind⟩ :=
    delimits first second _ _ (List.cons.inj (List.append_cancel_left equal)).2
  exact ⟨rfl, (List.cons.inj behind).2⟩

/-- A record of two fields ends where its second field does. -/
theorem SelfDelimiting.record_pair (name : Text) (delimits : SelfDelimiting write)
    {second : B → Text} (secondDelimits : SelfDelimiting second) :
    SelfDelimiting fun item : A × B => describeRecord name [write item.1, second item.2] :=
  .record name (delimits.joinFields_cons (fun item => [second item]) secondDelimits nofun)

theorem SelfDelimiting.record_triple (name : Text) (delimits : SelfDelimiting write)
    {second : B → Text} (secondDelimits : SelfDelimiting second) {third : C → Text}
    (thirdDelimits : SelfDelimiting third) :
    SelfDelimiting fun item : A × B × C =>
      describeRecord name [write item.1, second item.2.1, third item.2.2] := by
  have following : SelfDelimiting fun item : B × C =>
      joinFields [second item.1, third item.2] :=
    secondDelimits.joinFields_cons (fun item => [third item]) thirdDelimits nofun
  exact .record name
    (delimits.joinFields_cons (fun item : B × C => [second item.1, third item.2]) following nofun)

end Fields

/-- The first characters of the names tell the kinds of orders apart. -/
theorem OrderKind.eq_of_head? (first second : OrderKind) :
    first.name.head? = second.name.head? → first = second := by
  cases first <;> cases second <;> decide

/-- A record begins with the first character of its name. -/
theorem OrderKind.head?_describeRecord (kind : OrderKind) (fields : List Text) (rest : Text) :
    (describeRecord kind.name fields ++ rest).head? = kind.name.head? := by
  cases kind <;> rfl

/-- Records of orders that are written alike are of one kind. -/
theorem OrderKind.eq_of_describeRecord {first second : OrderKind} {fields others : List Text}
    {rest later : Text}
    (equal : describeRecord first.name fields ++ rest =
      describeRecord second.name others ++ later) : first = second := by
  apply OrderKind.eq_of_head?
  rw [← first.head?_describeRecord fields rest, equal, second.head?_describeRecord]

section Describe

variable (printable : Char → Bool)

theorem Piece.name_injective : Function.Injective Piece.name := by
  intro first second equal
  have found := Piece.ofName?_name first
  rw [equal, Piece.ofName?_name] at found
  exact (Option.some.inj found).symm

/-- A missing unit is written without quotes and a named one with them, so they are told apart. -/
theorem describeUnitBy_selfDelimiting : SelfDelimiting (describeUnitBy printable) := by
  have unquoted (piece : Piece) (rest later : Text) :
      describeUnitBy printable none ++ rest ≠ describeUnitBy printable (some piece) ++ later := by
    intro equal
    have initial : 'N' = quoteFor piece.name := (List.cons.inj equal).1
    rcases isQuote_quoteFor piece.name with single | double
    · exact absurd (initial.trans single) (by decide)
    · exact absurd (initial.trans double) (by decide)
  intro first second rest later equal
  match first, second with
  | none, none => exact ⟨rfl, List.append_cancel_left equal⟩
  | none, some piece => exact absurd equal (unquoted piece rest later)
  | some piece, none => exact absurd equal.symm (unquoted piece later rest)
  | some piece, some other =>
      obtain ⟨same, remaining⟩ :=
        (Text.quotedBy_selfDelimiting printable).comp Piece.name Piece.name_injective piece other
          rest later equal
      exact ⟨congrArg some same, remaining⟩

/-- The full form of a hold tells where it ends. -/
theorem Hold.describeBy_selfDelimiting : SelfDelimiting (Hold.describeBy printable) := by
  have record := (describeUnitBy_selfDelimiting printable).record_pair OrderKind.hold.name
    (Text.quotedBy_selfDelimiting printable)
  refine record.comp (fun order : Hold => (order.unit, order.place)) ?_
  rintro ⟨unit, place⟩ ⟨otherUnit, other⟩ same
  cases same
  rfl

theorem Move.describeBy_selfDelimiting : SelfDelimiting (Move.describeBy printable) := by
  have record := (describeUnitBy_selfDelimiting printable).record_triple OrderKind.move.name
    (Text.quotedBy_selfDelimiting printable) (Text.quotedBy_selfDelimiting printable)
  refine record.comp (fun order : Move => (order.unit, order.source, order.destination)) ?_
  rintro ⟨unit, source, destination⟩ ⟨otherUnit, otherSource, otherDestination⟩ same
  cases same
  rfl

/-- A hold and a move that are helped along are told apart by their names. -/
theorem Aided.describeBy_selfDelimiting : SelfDelimiting (Aided.describeBy printable) := by
  intro first second rest later equal
  match first, second with
  | .hold order, .hold other =>
      obtain ⟨rfl, remaining⟩ :=
        Hold.describeBy_selfDelimiting printable order other rest later equal
      exact ⟨rfl, remaining⟩
  | .move order, .move other =>
      obtain ⟨rfl, remaining⟩ :=
        Move.describeBy_selfDelimiting printable order other rest later equal
      exact ⟨rfl, remaining⟩
  | .hold order, .move other => exact nomatch OrderKind.eq_of_describeRecord equal
  | .move order, .hold other => exact nomatch OrderKind.eq_of_describeRecord equal

/-- The full form of an order tells where it ends. Orders of different kinds differ in the first
character already. -/
theorem Order.describeBy_selfDelimiting : SelfDelimiting (Order.describeBy printable) := by
  have unit := describeUnitBy_selfDelimiting printable
  have place := Text.quotedBy_selfDelimiting printable
  have support := unit.record_triple OrderKind.support.name place
    (Aided.describeBy_selfDelimiting printable)
  have convoy := unit.record_triple OrderKind.convoy.name place
    (Move.describeBy_selfDelimiting printable)
  intro first second rest later equal
  match first, second with
  | .hold order, .hold other =>
      obtain ⟨rfl, remaining⟩ :=
        Hold.describeBy_selfDelimiting printable order other rest later equal
      exact ⟨rfl, remaining⟩
  | .move order, .move other =>
      obtain ⟨rfl, remaining⟩ :=
        Move.describeBy_selfDelimiting printable order other rest later equal
      exact ⟨rfl, remaining⟩
  | .support unit place aided, .support otherUnit other otherAided =>
      obtain ⟨same, remaining⟩ :=
        support (unit, place, aided) (otherUnit, other, otherAided) rest later equal
      cases same
      exact ⟨rfl, remaining⟩
  | .convoy unit place carried, .convoy otherUnit other otherCarried =>
      obtain ⟨same, remaining⟩ :=
        convoy (unit, place, carried) (otherUnit, other, otherCarried) rest later equal
      cases same
      exact ⟨rfl, remaining⟩
  | .hold _, .move _ | .hold _, .support _ _ _ | .hold _, .convoy _ _ _
  | .move _, .hold _ | .move _, .support _ _ _ | .move _, .convoy _ _ _
  | .support _ _ _, .hold _ | .support _ _ _, .move _ | .support _ _ _, .convoy _ _ _
  | .convoy _ _ _, .hold _ | .convoy _ _ _, .move _ | .convoy _ _ _, .support _ _ _ =>
      exact nomatch OrderKind.eq_of_describeRecord equal

end Describe

/-- Orders count as equal exactly if they are the same. -/
theorem Value.same_order_iff (first second : Order) :
    (Value.order first).same (.order second) = true ↔ first = second := by
  simp [Value.same]

/-- Two orders are described alike exactly if they count as equal, whatever their places hold and
whichever characters are shown as they are. -/
theorem describeBy_eq_iff_same (printable : Char → Bool) (first second : Order) :
    first.describeBy printable = second.describeBy printable ↔
      (Value.order first).same (.order second) = true := by
  rw [Value.same_order_iff]
  constructor
  · intro alike
    exact (Order.describeBy_selfDelimiting printable).injective alike
  · exact congrArg (Order.describeBy printable)

end Diplomacy
