import Wireframe.Registry.Schema

/-! # The built-in element types -/

namespace Wireframe.Registry

def iconNames : List String := [
  "heart", "star", "cart", "user", "settings", "bell", "home", "search", "menu", "back", "send",
  "plus", "trash", "edit", "check", "close", "arrow-right", "arrow-left", "calendar", "clock",
  "dollar", "percent", "chart", "download", "upload", "share", "copy", "filter", "sort"]

private def sizeScale : List String := ["small", "medium", "large"]

private def spacingScale : List String := ["none", "small", "medium", "large"]

private def required (name description : String) : PropSchema :=
  { name, kind := .string, required := true, description }

private def string (name description : String) : PropSchema :=
  { name, kind := .string, description }

private def stringOr (name default description : String) : PropSchema :=
  { name, kind := .string, default := .string default, description }

private def choice (name : String) (choices : List String) (description : String) : PropSchema :=
  { name, kind := .enum, choices := some choices, description }

private def choiceOr (name : String) (choices : List String) (default description : String) :
    PropSchema :=
  { name, kind := .enum, choices := some choices, default := .string default, description }

private def flag (name : String) (default : Bool) : PropSchema :=
  { name, kind := .boolean, default := .bool default }

private def index (name description : String) : PropSchema :=
  { name, kind := .number, default := .int 0, description }

private def items (description : String) : PropSchema :=
  { name := "items", kind := .array, required := true, description }

private def textTypes : Registry := [
  { typeName := "text", name := "Text", description := "Text content with various styles"
    props := [
      required "content" "Text content",
      choiceOr "style" ["heading", "subheading", "body", "muted", "label", "caption"] "body"
        "Text style/size"] }]

private def interactiveTypes : Registry := [
  { typeName := "button", name := "Button", description := "Clickable button"
    props := [
      required "content" "Button label",
      choiceOr "variant" ["primary", "secondary", "outline", "ghost", "danger"] "primary"
        "Button style variant",
      choiceOr "size" ["small", "medium", "large", "full"] "medium" "Button size",
      string "icon" "Optional icon name"] },
  { typeName := "input", name := "Input", description := "Text input field"
    props := [
      stringOr "placeholder" "Enter text..." "Placeholder text",
      string "label" "Optional label above input",
      choice "icon" ["search", "user", "mail", "lock", "phone", "calendar", "dollar"]
        "Optional leading icon",
      choiceOr "inputType" ["text", "password", "email", "number", "textarea"] "text" ""] },
  { typeName := "toggle", name := "Toggle", description := "On/off switch"
    props := [required "label" "Toggle label", flag "checked" false] }]

private def mediaTypes : Registry := [
  { typeName := "image", name := "Image", description := "Image placeholder"
    props := [
      stringOr "label" "Image" "Image description",
      choiceOr "size" ["avatar", "thumbnail", "small", "medium", "large", "banner", "full"]
        "medium" "",
      choiceOr "shape" ["square", "rounded", "circle"] "rounded" ""] },
  { typeName := "icon", name := "Icon", description := "Icon with optional label"
    props := [
      { name := "name", kind := .enum, required := true, choices := some iconNames },
      string "label" "Optional label next to icon",
      choiceOr "size" sizeScale "medium" ""] }]

private def layoutTypes : Registry := [
  { typeName := "box", name := "Box", description := "Container for grouping elements"
    props := [
      choiceOr "variant" ["card", "row", "column", "highlight", "outline", "transparent"] "card"
        "",
      choiceOr "padding" spacingScale "medium" "",
      choiceOr "gap" spacingScale "medium" "",
      { name := "children", kind := .array, description := "Nested elements" }] },
  { typeName := "divider", name := "Divider", description := "Horizontal separator line"
    props := [] },
  { typeName := "spacer", name := "Spacer", description := "Vertical spacing"
    props := [choiceOr "size" ["small", "medium", "large", "xlarge"] "medium" ""] }]

private def compositeTypes : Registry := [
  { typeName := "listItem", name := "List Item"
    description := "Row with icon, title, subtitle, and action"
    props := [
      required "title" "",
      string "subtitle" "",
      string "leadingIcon" "Icon name for left side",
      { name := "leadingImage", kind := .boolean
        description := "Show image placeholder instead of icon" },
      stringOr "trailingIcon" "arrow-right" "",
      string "trailingText" "Right-aligned text (e.g. price, time)"] },
  { typeName := "card", name := "Card"
    description := "Content card with optional image and actions"
    props := [
      required "title" "",
      string "subtitle" "",
      string "description" "",
      flag "image" true,
      choiceOr "imagePosition" ["top", "left", "right"] "left" "",
      string "badge" "Optional badge text",
      string "action" "Optional action button text",
      string "price" "Optional price display"] },
  { typeName := "stat", name := "Stat", description := "Statistic display with value and label"
    props := [
      required "value" "Main value (e.g. \"$1,234\")",
      required "label" "Stat label",
      choice "trend" ["up", "down", "neutral"] "Optional trend indicator",
      string "trendValue" "Trend value (e.g. \"+12%\")"] },
  { typeName := "badge", name := "Badge", description := "Small status pill"
    props := [
      required "content" "Badge text",
      choiceOr "variant" ["neutral", "success", "warning", "danger"] "neutral" ""] }]

private def navigationTypes : Registry := [
  { typeName := "navbar", name := "Navigation Bar", description := "Bottom tab navigation"
    props := [
      items "Array of tab names (e.g. [\"Home\", \"Search\", \"Profile\"])",
      index "active" "Active tab index"] },
  { typeName := "header", name := "Screen Header"
    description := "Top header with title and optional actions"
    props := [
      required "title" "",
      flag "showBack" false,
      string "rightAction" "Right button text or icon"] },
  { typeName := "tabs", name := "Tab Bar", description := "Horizontal tab selection"
    props := [items "", index "active" ""] }]

def builtin : Registry :=
  textTypes ++ interactiveTypes ++ mediaTypes ++ layoutTypes ++ compositeTypes ++ navigationTypes

theorem types_builtin_nodup : builtin.types.Nodup := by decide +kernel

end Wireframe.Registry
