import Wireframe.Plan.Build
import Wireframe.Registry.Table
import Wireframe.Spec.Basic

/-! # Element rules

One rule per element type: the operative defaults of its props and its expansion into primitives
and containers. A new element type is a new rule here and nothing else.
-/

namespace Wireframe

/-- What an expansion gets: the element's own props, the defaults under them, and the plans of the
nested elements, which only a container type asks for. -/
structure Resolution where
  own : Members
  defaults : Members
  children : Except ResolveError (List Plan)

namespace Resolution

def supplied (r : Resolution) (name : String) : Bool := (r.own.value name).isSupplied

/-- The effective value of a prop: what the producer supplied, else the default. -/
def prop (r : Resolution) (name : String) : Value :=
  if r.supplied name then r.own.value name else r.defaults.value name

def text (r : Resolution) (name : String) : Except ResolveError String :=
  (r.prop name).display .overlong

def has (r : Resolution) (name : String) : Bool := (r.prop name).truthy

end Resolution

structure Rule where
  typeName : String
  defaults : Members
  expand : Resolution → Except ResolveError Plan

namespace Rule

open Plan (leaf)

/-- Cards, stats and boxes of that variant share a paint. -/
def cardPaint : Paint where
  fill := some "surface"
  fillOpacity := Token.thousandths 500
  stroke := some "border"
  strokeWeight := 1
  cornerRadius := Token.radiusLarge

def boxPaints : Table Paint := [
  ("card", cardPaint),
  ("highlight", {
    gradient := some ("primary", "secondary")
    gradientAlpha := (Token.thousandths 150, Token.thousandths 100)
    cornerRadius := Token.radiusLarge }),
  ("outline", { stroke := some "border", strokeWeight := 1, cornerRadius := Token.radiusLarge })]

/-- The box variants that have padding without asking for it. -/
def paddedBoxes : Table Unit := [("card", ()), ("highlight", ()), ("outline", ())]

def textRule : Rule where
  typeName := "text"
  defaults := [("content", .string "Text"), ("style", .string "body")]
  expand r := do
    let content ← r.text "content"
    Plan.styledText content (r.prop "style") "text"

def buttonRule : Rule where
  typeName := "button"
  defaults := [
    ("content", .string "Button"), ("variant", .string "primary"), ("size", .string "medium")]
  expand r := do
    let content ← r.text "content"
    return Plan.button content (r.prop "variant") "button" .fill [("size", r.prop "size")]

def inputRule : Rule where
  typeName := "input"
  defaults := [
    ("placeholder", .string "Enter text..."), ("icon", .string "search"),
    ("inputType", .string "text")]
  expand r := do
    let placeholder ← r.text "placeholder"
    return leaf {
      kind := .input
      elementType := "input"
      role := "input"
      props := [
        ("placeholder", .string placeholder),
        ("icon", r.prop "icon"),
        ("label", r.prop "label"),
        ("inputType", r.prop "inputType")]
      textStyle := some (Plan.knownStyle "body" (some "textMuted") none)
      paint := {
        fill := some "surface", stroke := some "border", strokeWeight := 1
        cornerRadius := Token.radiusMedium }
      layout := {
        direction := some .horizontal, padding := (14, 16), gap := 12, crossAlign := .center } }

def switch (isOn : Bool) : Plan :=
  leaf {
    kind := .switch
    elementType := "toggle"
    role := "toggle-switch"
    props := [("checked", .bool isOn)]
    paint := { fill := some (if isOn then "primary" else "border"), cornerRadius := 12 }
    layout := {
      widthSizing := .fixed, heightSizing := .fixed, width := some 44, height := some 24 } }

def toggleRule : Rule where
  typeName := "toggle"
  defaults := [("label", .string "Toggle"), ("checked", .bool false)]
  expand r := do
    let isOn := r.has "checked"
    let label ← r.text "label"
    return Plan.container "toggle" "toggle"
      [Plan.text label "body" "toggle-label" {}, switch isOn] {}
      { direction := some .horizontal, gap := Token.spacingMedium, crossAlign := .center }
      [("checked", .bool isOn)]

def imageRule : Rule where
  typeName := "image"
  defaults := [
    ("label", .string "Image"), ("size", .string "medium"), ("shape", .string "rounded")]
  expand r := do
    let label ← r.text "label"
    Plan.image (r.prop "size") "image" label (r.prop "shape")

def iconRule : Rule where
  typeName := "icon"
  defaults := [("name", .string "star"), ("size", .string "medium")]
  expand r := Plan.labelledIcon (r.prop "name") (r.prop "label") (r.prop "size")

/-- The padding of a box: what it asks for, or the usual one of a variant that is padded. -/
def boxPadding (r : Resolution) : Except ResolveError Number := do
  let isPadded ← Table.find? paddedBoxes (r.prop "variant")
  if isPadded.isSome || r.supplied "padding" then
    Table.findOr Token.boxSpacing (r.prop "padding") Token.spacingMedium
  else return 0

def boxRule : Rule where
  typeName := "box"
  defaults := [
    ("variant", .string "card"), ("padding", .string "medium"), ("gap", .string "medium")]
  expand r := do
    let variant := r.prop "variant"
    let isRow := variant.is "row"
    let padding ← boxPadding r
    let children ← r.children
    let paint ← Table.findOr boxPaints variant {}
    let gap ← Table.findOr Token.boxSpacing (r.prop "gap") Token.spacingMedium
    return Plan.container "box" "box" children paint
      { direction := some (if isRow then .horizontal else .vertical)
        padding := (padding, padding)
        gap
        crossAlign := if isRow then .center else .min }
      [("variant", variant)]

def dividerRule : Rule where
  typeName := "divider"
  defaults := []
  expand _ :=
    return leaf {
      kind := .divider
      elementType := "divider"
      role := "divider"
      paint := { stroke := some "border", strokeWeight := 1 }
      layout := { widthSizing := .fill, heightSizing := .fixed, height := some 0 } }

def spacerRule : Rule where
  typeName := "spacer"
  defaults := [("size", .string "medium")]
  expand r := do
    let size := r.prop "size"
    return leaf {
      kind := .spacer
      elementType := "spacer"
      role := "spacer"
      props := [("size", size)]
      layout := {
        widthSizing := .fill
        heightSizing := .fixed
        width := some 1
        height := some (← Table.findOr Token.spacerSizes size 16) } }

def column (role : String) (gap : Number) (children : List Plan) : Plan :=
  Plan.container role "box" children {} { direction := some .vertical, gap } []

def optionalText (r : Resolution) (name style role : String) (options : Plan.TextOptions) :
    Except ResolveError (List Plan) := do
  if r.has name then
    let content ← r.text name
    return [Plan.text content style role options]
  else return []

def listLeading (r : Resolution) : Except ResolveError (List Plan) := do
  if r.has "leadingImage" then
    return [← Plan.image (.string "small") "list-leading" "Image" (.string "rounded")]
  else if r.has "leadingIcon" then
    let icon ← r.text "leadingIcon"
    return [Plan.icon icon "list-leading" "text"]
  else return []

/-- What ends a list item: a text if there is one, else an icon. -/
def listTrailing (r : Resolution) : Except ResolveError Plan := do
  if r.has "trailingText" then
    let content ← r.text "trailingText"
    return Plan.text content "body" "list-trailing" { color := some "primary", sizing := .hug }
  else
    let icon ← r.text "trailingIcon"
    return Plan.icon icon "list-trailing" "textMuted"

def listItemRule : Rule where
  typeName := "listItem"
  defaults := [("title", .string "List Item"), ("trailingIcon", .string "arrow-right")]
  expand r := do
    let leading ← listLeading r
    let title ← r.text "title"
    let subtitle ← optionalText r "subtitle" "muted" "list-subtitle" {}
    let content := Plan.text title "body" "list-title" { weight := some "Medium" } :: subtitle
    let trailing ← listTrailing r
    return Plan.container "list-item" "listItem"
      (leading ++ [column "list-content" 2 content, trailing])
      { fill := some "surface", fillOpacity := Token.thousandths 500
        cornerRadius := Token.radiusMedium }
      { direction := some .horizontal
        padding := (Token.spacingMedium, Token.spacingMedium)
        gap := Token.spacingMedium
        crossAlign := .center }
      []

def cardTexts (r : Resolution) : Except ResolveError (List Plan) := do
  let title ← r.text "title"
  let badge ← optionalText r "badge" "label" "card-badge"
    { color := some "secondary", sizing := .hug }
  let subtitle ← optionalText r "subtitle" "muted" "card-subtitle" {}
  let description ← optionalText r "description" "body" "card-desc" {}
  let price ← optionalText r "price" "heading" "card-price" { color := some "secondary" }
  return Plan.text title "subheading" "card-title" {} :: badge ++ subtitle ++ description ++ price

/-- The image of a card, which only the boolean false leaves out. -/
def cardImage (r : Resolution) : Except ResolveError (List Plan) :=
  match r.prop "image" with
  | .bool false => return []
  | _ => return [← Plan.image (.string "medium") "card-image" "Image" (.string "rounded")]

def cardAction (r : Resolution) : Except ResolveError (List Plan) := do
  if r.has "action" then
    let content ← r.text "action"
    return [Plan.button content (.string "primary") "card-action" .hug []]
  else return []

def cardRule : Rule where
  typeName := "card"
  defaults := [
    ("title", .string "Card Title"), ("image", .bool true), ("imagePosition", .string "left")]
  expand r := do
    let image ← cardImage r
    let texts ← cardTexts r
    let action ← cardAction r
    return Plan.container "card" "card"
      (image ++ column "card-content" Token.spacingExtraSmall texts :: action) cardPaint
      { direction := some .horizontal
        padding := (Token.spacingMedium, Token.spacingMedium)
        gap := Token.spacingMedium }
      [("imagePosition", r.prop "imagePosition")]

def trends : Table (String × String) := [("up", ("↑", "positive")), ("down", ("↓", "negative"))]

def statTrend (r : Resolution) : Except ResolveError (List Plan) := do
  if r.has "trendValue" then
    let trend := r.prop "trend"
    let found ← Table.find? trends trend
    let change ← r.text "trendValue"
    let (content, color) := match found with
      | some (arrow, color) => (arrow ++ " " ++ change, color)
      | none => (change, "textMuted")
    return [Plan.text content "label" "stat-trend"
      { color := some color, extra := [("trend", trend)] }]
  else return []

def statRule : Rule where
  typeName := "stat"
  defaults := [("value", .string "0"), ("label", .string "Stat")]
  expand r := do
    let value ← r.text "value"
    let label ← r.text "label"
    let trend ← statTrend r
    return Plan.container "stat" "stat"
      (Plan.text value "heading" "stat-value" {}
        :: Plan.text label "muted" "stat-label" {} :: trend)
      cardPaint
      { direction := some .vertical
        padding := (Token.spacingMedium, Token.spacingMedium)
        gap := Token.spacingExtraSmall }
      []

def badgeRule : Rule where
  typeName := "badge"
  defaults := [("content", .string "Badge"), ("variant", .string "neutral")]
  expand r := do
    let variant := r.prop "variant"
    let color ← Table.findOr Token.badgeColors variant "textMuted"
    let content ← r.text "content"
    return Plan.text content "label" "badge"
      { color := some color, sizing := .hug, extra := [("variant", variant)] }

def navigationEntry (label : String) (isActive : Bool) : Plan :=
  let color := if isActive then "primary" else "textMuted"
  Plan.container "nav-item" "box"
    [Plan.icon ((Token.navigationIcons.entry? label).getD "home") "nav-icon" color,
      Plan.text label "label" "nav-label" { color := some color, sizing := .hug }]
    {}
    { direction := some .vertical
      gap := Token.spacingExtraSmall
      crossAlign := .center
      widthSizing := .hug }
    [("active", .bool isActive)]

def usualEntries : List String := ["Home", "Search", "Cart", "Profile"]

/-- Labels drawn in order, each told whether it stands at the active index. -/
def drawItems (draw : String → Bool → Plan) (labels : List String) (active : Int) : List Plan :=
  labels.mapIdx fun i label => draw label ((i : Int) == active)

def navbarRule : Rule where
  typeName := "navbar"
  defaults := [
    ("items", .list (usualEntries.map Value.string)), ("active", .int 0)]
  expand r := do
    let active ← (r.prop "active").index
    let labels ← (r.prop "items").texts usualEntries
    return Plan.container "navbar" "navbar" (drawItems navigationEntry labels active)
      { fill := some "surface" }
      { direction := some .horizontal
        padding := (Token.spacingSmall, Token.spacingMedium)
        gap := Token.spacingMedium
        align := .center }
      [("active", .int active)]

/-- What stands at the end of a header: an icon if the action names one, else a text. -/
def headerAction (r : Resolution) : Except ResolveError (List Plan) := do
  if r.has "rightAction" then
    let action ← r.text "rightAction"
    if Registry.iconNames.any (r.prop "rightAction").is then
      return [Plan.icon action "header-action" "text"]
    else
      return [Plan.text action "body" "header-action"
        { color := some "primary", sizing := .hug }]
  else return []

def headerRule : Rule where
  typeName := "header"
  defaults := [("title", .string "Screen Title"), ("showBack", .bool false)]
  expand r := do
    let back := if r.has "showBack" then [Plan.icon "back" "header-back" "text"] else []
    let title ← r.text "title"
    let action ← headerAction r
    return Plan.container "header" "header"
      (back ++ Plan.text title "subheading" "header-title" {} :: action) {}
      { direction := some .horizontal, gap := Token.spacingSmall, crossAlign := .center } []

def tab (label : String) (isActive : Bool) : Plan :=
  Plan.text label "body" "tab"
    { color := some (if isActive then "text" else "textMuted")
      weight := if isActive then some "Semi Bold" else none
      sizing := .hug
      extra := [("active", .bool isActive)] }

def usualTabs : List String := ["Tab 1", "Tab 2", "Tab 3"]

def tabsRule : Rule where
  typeName := "tabs"
  defaults := [("items", .list (usualTabs.map Value.string)), ("active", .int 0)]
  expand r := do
    let active ← (r.prop "active").index
    let labels ← (r.prop "items").texts usualTabs
    return Plan.container "tabs" "tabs" (drawItems tab labels active)
      { fill := some "surface", cornerRadius := Token.radiusMedium }
      { direction := some .horizontal
        padding := (Token.spacingExtraSmall, Token.spacingExtraSmall)
        gap := Token.spacingExtraSmall }
      [("active", .int active)]

end Rule

abbrev Rules := List Rule

namespace Rules

def rule? (rules : Rules) (typeName : String) : Option Rule :=
  rules.find? fun rule => rule.typeName == typeName

def builtin : Rules := [
  Rule.textRule, Rule.buttonRule, Rule.inputRule, Rule.toggleRule, Rule.imageRule, Rule.iconRule,
  Rule.boxRule, Rule.dividerRule, Rule.spacerRule, Rule.listItemRule, Rule.cardRule,
  Rule.statRule, Rule.badgeRule, Rule.navbarRule, Rule.headerRule, Rule.tabsRule]

def only (rules : Rules) (typeNames : List String) : Rules := typeNames.filterMap rules.rule?

/-- Every registered type has a rule and every rule a registered type. -/
theorem types_builtin : builtin.map (·.typeName) = Registry.builtin.types := by decide +kernel

end Rules

end Wireframe
