import Wireframe.Value.Basic

/-! # Design tokens

The named sizes, weights and colours that plans are made of.
-/

namespace Wireframe

abbrev Table (α : Type) := List (String × α)

def Table.entry? {α : Type} (table : Table α) (name : String) : Option α := table.lookup name

namespace Token

def thousandths (n : Nat) : Number := .double (Double.ofDecimal false ⟨n, -3⟩)

structure Color where
  red : Number
  green : Number
  blue : Number

def colors : Table Color := [
  ("primary", ⟨thousandths 545, thousandths 361, thousandths 965⟩),
  ("secondary", ⟨thousandths 24, thousandths 714, thousandths 831⟩),
  ("background", ⟨thousandths 94, thousandths 94, thousandths 106⟩),
  ("surface", ⟨thousandths 149, thousandths 149, thousandths 161⟩),
  ("text", ⟨1, 1, 1⟩),
  ("textMuted", ⟨thousandths 443, thousandths 443, thousandths 478⟩),
  ("border", ⟨thousandths 212, thousandths 212, thousandths 224⟩),
  ("positive", ⟨thousandths 133, thousandths 773, thousandths 369⟩),
  ("negative", ⟨thousandths 937, thousandths 267, thousandths 267⟩),
  ("warning", ⟨thousandths 961, thousandths 620, thousandths 43⟩)]

def spacingExtraSmall : Number := 4

def spacingSmall : Number := 8

def spacingMedium : Number := 16

def spacingLarge : Number := 24

def radiusMedium : Number := 12

def radiusLarge : Number := 16

/-- Text styles by name: font size and weight. -/
def textStyles : Table (Number × String) := [
  ("heading", (24, "Bold")),
  ("subheading", (18, "Semi Bold")),
  ("body", (14, "Regular")),
  ("muted", (12, "Regular")),
  ("label", (11, "Medium")),
  ("caption", (11, "Regular"))]

def mutedStyles : List String := ["muted", "label"]

/-- The font weights that plans ask for, in the order in which they are acquired. -/
def fontWeights : List String := ["Regular", "Medium", "Semi Bold", "Bold"]

def imageSizes : Table (Nat × Nat) := [
  ("avatar", (40, 40)),
  ("thumbnail", (64, 64)),
  ("small", (48, 48)),
  ("medium", (72, 72)),
  ("large", (100, 100)),
  ("banner", (353, 140)),
  ("full", (353, 200))]

def spacerSizes : Table Number := [("small", 8), ("medium", 16), ("large", 28), ("xlarge", 40)]

def iconSizes : Table Number := [("small", 16), ("medium", 20), ("large", 28)]

def boxSpacing : Table Number := [
  ("none", 0), ("small", spacingSmall), ("medium", spacingMedium), ("large", spacingLarge)]

def navigationIcons : Table String := [
  ("Home", "home"),
  ("Search", "search"),
  ("Cart", "cart"),
  ("Profile", "user"),
  ("Settings", "settings"),
  ("Chat", "send"),
  ("Help", "bell"),
  ("Orders", "cart"),
  ("Activity", "bell"),
  ("Messages", "mail")]

def badgeColors : Table String := [
  ("neutral", "textMuted"),
  ("success", "positive"),
  ("warning", "warning"),
  ("danger", "negative")]

end Token

end Wireframe
