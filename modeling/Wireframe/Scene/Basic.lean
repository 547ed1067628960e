import Wireframe.Plan.Basic
import Wireframe.Plan.Token

/-! # Scenes

The node graph of a design tool: frames that hold nodes, texts and lines, each a box with paints and
a size. Only frames have children.
-/

namespace Wireframe

structure FontName where
  family : String
  style : String
  deriving DecidableEq

structure GradientStop where
  position : Number
  color : Token.Color
  alpha : Number

inductive ScenePaint where
  | solid (color : Token.Color) (opacity : Number)
  | gradient (stops : List GradientStop)

structure SceneBox where
  name : Value := .string ""
  fills : List ScenePaint := []
  strokes : List ScenePaint := []
  strokeWeight : Number := 0
  x : Number := 0
  y : Number := 0
  width : Number := 0
  height : Number := 0
  sizingHorizontal : Sizing := .hug
  sizingVertical : Sizing := .hug

inductive AxisAlign where
  | min
  | center
  | max
  deriving DecidableEq

def AxisAlign.ofAlign : Align → AxisAlign
  | .min => .min
  | .center => .center

structure FrameStyle where
  direction : Option Direction := none
  primaryAlign : AxisAlign := .min
  counterAlign : AxisAlign := .min
  paddingTop : Number := 0
  paddingBottom : Number := 0
  paddingLeft : Number := 0
  paddingRight : Number := 0
  itemSpacing : Number := 0
  cornerRadius : Number := 0
  clipsContent : Bool := false

structure TextRun where
  characters : Value
  fontSize : Number
  font : FontName
  align : Align

inductive Scene where
  | frame (box : SceneBox) (style : FrameStyle) (children : List Scene)
  | text (box : SceneBox) (run : TextRun)
  | line (box : SceneBox)

namespace FrameStyle

def layoutMode (style : FrameStyle) : String :=
  match style.direction with
  | some direction => direction.name.toUpper
  | none => "NONE"

/-- Sets the padding above and below, and left and right. -/
def pad (style : FrameStyle) (vertical horizontal : Number) : FrameStyle :=
  { style with
    paddingTop := vertical, paddingBottom := vertical
    paddingLeft := horizontal, paddingRight := horizontal }

end FrameStyle

namespace Scene

def box : Scene → SceneBox
  | frame box _ _ => box
  | text box _ => box
  | line box => box

def mapBox (f : SceneBox → SceneBox) : Scene → Scene
  | frame box style children => frame (f box) style children
  | text box run => text (f box) run
  | line box => line (f box)

/-- Changes the style of a frame; other nodes have none. -/
def mapStyle (f : FrameStyle → FrameStyle) : Scene → Scene
  | frame box style children => frame box (f style) children
  | node => node

mutual

def texts : Scene → List TextRun
  | frame _ _ children => textsAll children
  | text _ run => [run]
  | line _ => []

def textsAll : List Scene → List TextRun
  | [] => []
  | node :: nodes => texts node ++ textsAll nodes

end

theorem textsAll_eq_flatMap (nodes : List Scene) : textsAll nodes = nodes.flatMap texts := by
  induction nodes with
  | nil => rfl
  | cons node nodes ih => simp [textsAll, ih]

end Scene

end Wireframe
