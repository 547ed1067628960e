import Wireframe.Plan.Rule
import Wireframe.Text.Word

/-! # What a plan node names

A target looks up what a node of a plan names: colours by their tokens, the drawing of an icon, the
word that a class is made with. Colours are the library's own; the other two may be a value of the
element, at the root of its plan alone.
-/

namespace Wireframe

def Token.colorNames : List String := colors.map Prod.fst

/-- The role of a node that a rule draws: a plain word, and not the one that marks elements. -/
def PlanHead.isRole (role : String) : Bool := Text.isPlain role && role != "element"

def Paint.tokens (paint : Paint) : List String :=
  paint.fill.toList ++ (paint.gradient.toList.flatMap fun ends => [ends.1, ends.2]) ++
    paint.stroke.toList

def Paint.isKnown (paint : Paint) : Bool := paint.tokens.all Token.colorNames.contains

namespace PlanHead

def tokens (head : PlanHead) : List String :=
  (head.textStyle.map (·.color)).toList ++ head.paint.tokens

/-- The value that the node gives for the name of its drawing. -/
def glyphName? (head : PlanHead) : Option Value :=
  match head.kind with
  | .icon => some (head.prop "name")
  | .input => some (head.prop "icon")
  | _ => none

def classValue? (head : PlanHead) : Option Value :=
  match head.kind with
  | .text =>
      if head.role = "text" then some (head.propOr "style" (.string "body"))
      else if head.role = "badge" then some (head.propOr "variant" (.string "neutral"))
      else none
  | .button =>
      if head.role = "card-action" then none
      else some (head.propOr "variant" (.string "primary"))
  | .image =>
      if head.role = "card-image" then none else some (head.propOr "size" (.string "medium"))
  | .spacer => some (head.propOr "size" (.string "medium"))
  | .container =>
      if head.role = "box" then some (head.propOr "variant" (.string "card"))
      else if head.role = "card" then some (head.propOr "imagePosition" (.string "left"))
      else none
  | _ => none

def labelValue? (head : PlanHead) : Option Value :=
  match head.kind with
  | .icon => some (head.prop "label")
  | .input => some (head.prop "label")
  | _ => none

def shown (head : PlanHead) : List Value :=
  match head.kind with
  | .text => [head.propOr "content" (.string "")]
  | .button => [head.prop "content"]
  | .input => [head.prop "placeholder"]
  | .image => if head.role = "image" then [head.propOr "label" (.string "Image")] else []
  | _ => []

def showsStrings (head : PlanHead) : Bool := head.shown.all (·.string?.isSome)

/-- The class of a text that is a part of something is named after its role alone. -/
theorem classValue?_text {head : PlanHead} (kind : head.kind = .text)
    (hrole : ["text", "badge"].contains head.role = false) : head.classValue? = none := by
  have hne : head.role ≠ "text" ∧ head.role ≠ "badge" := by simpa using hrole
  rw [classValue?, kind]
  exact (if_neg hne.1).trans (if_neg hne.2)

theorem classValue?_container {head : PlanHead} (kind : head.kind = .container)
    (hrole : ["box", "card"].contains head.role = false) : head.classValue? = none := by
  have hne : head.role ≠ "box" ∧ head.role ≠ "card" := by simpa using hrole
  rw [classValue?, kind]
  exact (if_neg hne.1).trans (if_neg hne.2)

end PlanHead

/-- The prop of an element type that names a drawing. -/
def glyphProp? : String → Option String
  | "icon" => some "name"
  | "input" => some "icon"
  | _ => none

def labelProp? : String → Option String
  | "icon" => some "label"
  | "input" => some "label"
  | _ => none

/-- The prop of an element type that a class is named after. -/
def classProp? : String → Option String
  | "text" => some "style"
  | "button" => some "variant"
  | "image" => some "size"
  | "spacer" => some "size"
  | "badge" => some "variant"
  | "box" => some "variant"
  | "card" => some "imagePosition"
  | _ => none

end Wireframe
