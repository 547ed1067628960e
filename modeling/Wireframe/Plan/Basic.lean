import Wireframe.Tree
import Wireframe.Value.Basic

/-! # Plans

A plan says, for no target in particular, what is drawn for an element: a tree of primitive nodes
below containers, with effective props, text style, paint and layout. Every target materializes the
same plans, so what two targets have in common is what the plan says.
-/

namespace Wireframe

inductive PlanKind where
  | text
  | button
  | input
  | image
  | icon
  | divider
  | spacer
  | switch
  | container
  deriving DecidableEq

def PlanKind.name : PlanKind → String
  | text => "text"
  | button => "button"
  | input => "input"
  | image => "image"
  | icon => "icon"
  | divider => "divider"
  | spacer => "spacer"
  | switch => "switch"
  | container => "container"

def PlanKind.all : List PlanKind :=
  [text, button, input, image, icon, divider, spacer, switch, container]

def PlanKind.named? (name : String) : Option PlanKind := all.find? fun kind => kind.name == name

inductive Direction where
  | vertical
  | horizontal
  deriving DecidableEq

def Direction.name : Direction → String
  | vertical => "vertical"
  | horizontal => "horizontal"

inductive Sizing where
  | fill
  | hug
  | fixed
  deriving DecidableEq

def Sizing.name : Sizing → String
  | fill => "fill"
  | hug => "hug"
  | fixed => "fixed"

inductive Align where
  | min
  | center
  deriving DecidableEq

def Align.name : Align → String
  | min => "min"
  | center => "center"

structure TextStyle where
  style : Value
  size : Number
  weight : String
  color : String
  align : Align := .min

structure Paint where
  fill : Option String := none
  fillOpacity : Number := 1
  gradient : Option (String × String) := none
  gradientAlpha : Number × Number := (1, 1)
  stroke : Option String := none
  strokeWeight : Number := 0
  cornerRadius : Number := 0

structure Layout where
  direction : Option Direction := none
  /-- Above and below, then left and right. -/
  padding : Number × Number := (0, 0)
  gap : Number := 0
  align : Align := .min
  crossAlign : Align := .min
  widthSizing : Sizing := .fill
  heightSizing : Sizing := .hug
  width : Option Number := none
  height : Option Number := none

structure PlanHead where
  kind : PlanKind
  elementType : String
  role : String
  props : Members := []
  elementId : Option String := none
  isElement : Bool := false
  textStyle : Option TextStyle := none
  paint : Paint := {}
  layout : Layout := {}
  /-- Whether the element's type was unknown. -/
  isFallback : Bool := false

abbrev Plan := Tree PlanHead

namespace PlanHead

def isContainer (head : PlanHead) : Bool := head.kind == .container

def prop (head : PlanHead) (name : String) : Value := head.props.value name

def propOr (head : PlanHead) (name : String) (default : Value) : Value :=
  (head.props.value? name).getD default

end PlanHead

namespace Plan

def walk (plan : Plan) : List PlanHead := plan.preorder

/-- The nesting of kinds and roles, which is the same on every target. -/
def shape (plan : Plan) : Tree (PlanKind × String) :=
  plan.map fun head => (head.kind, head.role)

def leaf (head : PlanHead) : Plan := .node head []

def asElement (id : Option String) (type : String) (isFallback : Bool) (plan : Plan) : Plan :=
  plan.mapRoot fun head =>
    { head with elementId := id, elementType := type, isElement := true, isFallback }

end Plan

/-! ## Targets

A target turns plans into nodes of its own. It says how a leaf and a container are drawn and how the
layout of a plan is applied to its node; the walk over the plan is the same for every target, so
every target nests its nodes alike. -/

/-- How nodes of type `ν` are made, with failures of type `ε`. -/
structure Target (ε ν : Type) where
  leaf : PlanHead → Except ε ν
  /-- The node of a container around the nodes of its parts. -/
  container : PlanHead → List ν → Except ε ν
  layout : PlanHead → ν → ν

namespace Target

variable {ε ν : Type}

mutual

/-- The node of a plan, its parts first and in order. -/
def materialize (target : Target ε ν) : Plan → Except ε ν
  | .node head parts =>
      if head.isContainer then
        match materializeAll target parts with
        | .error cause => .error cause
        | .ok nodes => (target.container head nodes).map (target.layout head)
      else (target.leaf head).map (target.layout head)

def materializeAll (target : Target ε ν) : List Plan → Except ε (List ν)
  | [] => .ok []
  | plan :: plans =>
      match materialize target plan with
      | .error cause => .error cause
      | .ok node => (materializeAll target plans).map (node :: ·)

end

end Target

end Wireframe
