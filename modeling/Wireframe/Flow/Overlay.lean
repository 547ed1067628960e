import Wireframe.Flow.Route
import Wireframe.Markup.Basic

/-! # The flow overlay

Routed edges as one SVG element over the canvas: the marker definitions, then one group per path
with its line and, where it has one, its label.
-/

namespace Wireframe.Flow

def strokeColor : String := "#333333"

def markerDefinitions : Tag :=
  .node { name := "defs" } [
    .node {
      name := "marker"
      attributes := [
        ("id", startMarker), ("markerWidth", "8"), ("markerHeight", "8"), ("refX", "4"),
        ("refY", "4"), ("orient", "auto")] } [
      .node {
        name := "circle"
        attributes := [("cx", "4"), ("cy", "4"), ("r", "3"), ("fill", strokeColor)]
        isVoid := true } []],
    .node {
      name := "marker"
      attributes := [
        ("id", endMarker), ("markerWidth", "10"), ("markerHeight", "10"), ("refX", "9"),
        ("refY", "5"), ("orient", "auto"), ("markerUnits", "strokeWidth")] } [
      .node {
        name := "path"
        attributes := [("d", "M 0 0 L 10 5 L 0 10 L 2 5 Z"), ("fill", strokeColor)]
        isVoid := true } []]]

def lineTag (path : Path Number) : Tag :=
  .node {
    name := "path"
    attributes := [
      ("d", pathText path.commands), ("stroke", strokeColor), ("stroke-width", "2"),
      ("fill", "none"), ("marker-start", s!"url(#{startMarker})"),
      ("marker-end", s!"url(#{endMarker})"), ("stroke-linecap", "round"),
      ("stroke-linejoin", "round")]
    isVoid := true } []

def labelTags (label : Label Number) : List Tag := [
  .node {
    name := "rect"
    attributes := [
      ("x", label.box.x.compact), ("y", label.box.y.compact),
      ("width", label.box.width.compact), ("height", label.box.height.compact),
      ("rx", label.box.cornerRadius.compact), ("fill", strokeColor)]
    isVoid := true } [],
  .node {
    name := "text"
    attributes := [
      ("x", label.x.compact), ("y", label.y.compact), ("fill", "#ffffff"), ("font-size", "10"),
      ("font-family", "sans-serif"), ("dominant-baseline", "middle")]
    text := label.text } []]

def pathTag (path : Path Number) : Tag :=
  .node {
    name := "g"
    attributes := [
      ("class", "flow-arrow"), ("data-from", path.source), ("data-to", path.target)] }
    (lineTag path :: (path.label.map labelTags).getD [])

def overlayTag (paths : List (Path Number)) : Tag :=
  .node {
    name := "svg"
    attributes := [
      ("class", "flow-arrows"),
      ("style", "position: absolute; top: 0; left: 0; width: 100%; height: 100%; "
        ++ "pointer-events: none; overflow: visible; z-index: 100;")] }
    (markerDefinitions :: paths.map pathTag)

def Label.isWritable (label : Label Number) : Bool :=
  let box := label.box
  [label.x, label.y, box.x, box.y, box.width, box.height, box.cornerRadius].all Number.inRange

/-- The text of the overlay; empty when there is nothing to draw. -/
def overlay (paths : List (Path Number)) : Calculation String :=
  if paths.isEmpty then .ok ""
  else if (paths.filterMap (·.label)).all Label.isWritable then .ok (overlayTag paths).html
  else .error .beyondDoubles

end Wireframe.Flow
