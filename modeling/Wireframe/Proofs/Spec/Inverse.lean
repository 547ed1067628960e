import Wireframe.Proofs.Spec.Written

/-! # Writing and reading are inverse

A spec that was read, from whatever document, is read again from what is written of it. What comes
back equals the spec without the props that are null: nothing else is dropped, at any depth, and
everything stands in its order. Coordinates are compared by value, since a zero that was left out of
the document comes back as the double zero.
-/

namespace Wireframe

/-- Equality of numbers as fields: one number, or two of one value. -/
def Number.Equal (m n : Number) : Prop := m = n ∨ m.same n = true

structure Point.Equal (p q : Point Number) : Prop where
  x : p.x.Equal q.x
  y : p.y.Equal q.y

namespace Screen

structure Equal (s t : Screen Number) : Prop where
  id : s.id = t.id
  name : s.name = t.name
  position : Option.Rel Point.Equal s.position t.position
  elements : s.elements = t.elements

def withoutNulls (s : Screen Number) : Screen Number :=
  { s with elements := s.elements.map Element.withoutNulls }

end Screen

namespace Spec

structure Equal (spec other : Spec Number) : Prop where
  appName : spec.appName = other.appName
  screens : List.Forall₂ Screen.Equal spec.screens other.screens
  flows : spec.flows = other.flows

def withoutNulls (spec : Spec Number) : Spec Number :=
  { spec with screens := spec.screens.map Screen.withoutNulls }

end Spec

/-- Written and read, a coordinate keeps its value. -/
theorem Number.equal_toDouble {n : Number} (h : n.IsCoordinate) :
    (Number.double n.toDouble).Equal n := by
  rcases h with rfl | ⟨x, rfl⟩
  · exact .inr (by decide +kernel)
  · exact .inl rfl

theorem Point.saved_equal {p : Point Number} (hx : p.x.IsCoordinate) (hy : p.y.IsCoordinate) :
    p.saved.Equal p :=
  ⟨Number.equal_toDouble hx, Number.equal_toDouble hy⟩

theorem Screen.saved_equal {s : Screen Number} (regular : s.Regular) :
    s.saved.Equal s.withoutNulls := by
  refine ⟨rfl, rfl, ?_, rfl⟩
  show Option.Rel Point.Equal (s.position.map Point.saved) s.position
  cases hp : s.position with
  | none => exact .none
  | some p =>
      obtain ⟨hx, hy⟩ := regular.coordinates p hp
      exact .some (Point.saved_equal hx hy)

namespace Spec

theorem saved_equal {spec : Spec Number} (regular : ∀ s ∈ spec.screens, s.Regular) :
    spec.saved.Equal spec.withoutNulls := by
  refine ⟨rfl, ?_, rfl⟩
  show List.Forall₂ Screen.Equal (spec.screens.map Screen.saved)
    (spec.screens.map Screen.withoutNulls)
  rw [List.forall₂_map_left_iff, List.forall₂_map_right_iff, List.forall₂_same]
  exact fun s hs => Screen.saved_equal (regular s hs)

/-- Whatever document a spec was read from, what is written of it is read again, to a spec that
equals it without the props that are null. -/
theorem read_write_of_read {document : Value} {spec : Spec Number}
    (h : Spec.read document = .ok spec) :
    ∃ again, Spec.read spec.write = .ok again ∧ again.Equal spec.withoutNulls := by
  have regular := regular_screens h
  exact ⟨spec.saved, read_write regular, saved_equal regular⟩

def propKeys (spec : Spec Number) : List (List String) :=
  (spec.screens.flatMap fun s => Tree.preorderAll s.elements).map fun head => head.props.map Prod.fst

/-- A document with names and numbers that are coerced, a coordinate that is left out, and null
props at two depths; the null inside of a prop stays. -/
theorem read_write_of_read_shop :
    let text : Value := .object [("content", .string "Hi"), ("style", .null),
      ("data", .object [("price", .null)]), ("type", .string "text")]
    let document : Value := .object [("app_name", .string "Shop"), ("screens", .list [.object
      [("id", .number 7), ("position", .object [("y", .int 40)]), ("elements", .list [.object
        [("id", .int 1), ("icon", .null), ("children", .list [text])]])]]), ("flows", .null)]
    ∃ spec again, Spec.read document = .ok spec ∧ Spec.read spec.write = .ok again ∧
      again.Equal spec.withoutNulls ∧ spec.propKeys = [["icon"], ["content", "style", "data"]] ∧
      again.propKeys = [[], ["content", "data"]] := by
  intro text document
  have hkeys : ((Spec.read document).toOption.any fun spec =>
      spec.propKeys == [["icon"], ["content", "style", "data"]] &&
        (Spec.read spec.write).toOption.any fun again =>
          again.propKeys == [[], ["content", "data"]]) = true := by
    decide +kernel
  cases h : Spec.read document with
  | error faults => simp [h, Except.toOption] at hkeys
  | ok spec =>
      obtain ⟨again, hagain, hequal⟩ := read_write_of_read h
      simp only [h, hagain, Except.toOption, Option.any_some, Bool.and_eq_true, beq_iff_eq] at hkeys
      exact ⟨spec, again, rfl, hagain, hequal, hkeys⟩

end Spec

end Wireframe
