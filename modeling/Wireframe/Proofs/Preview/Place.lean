import Wireframe.Json.Decode
import Wireframe.Markup.Basic
import Wireframe.Proofs.Double.Significant
import Wireframe.Proofs.Flow.Coordinates
import Wireframe.Proofs.Json.Numeral
import Wireframe.Renderer
import Wireframe.Scalar

/-! # Places on a canvas

A screen of a canvas is placed by a style: `left` and `top` come first, each a length in pixels.
`readPlace?` reads the two numbers as they are written, exactly and not as doubles, so that what a
page says of a place can be compared with the place. The lengths are written with six significant
digits, so that a coordinate is read as it was exactly when it has no more of them.
-/

namespace Wireframe

namespace Preview

def after? (word s : List Char) : Option (List Char) :=
  if word.isPrefixOf s then some (s.drop word.length) else none

/-- The exact value of the numeral at the front of a text, and what follows it. -/
def readValue? (s : List Char) : Option (Rat × List Char) :=
  let (negative, magnitude) := Text.splitSign s
  let (digits, rest) := Json.spanDigits magnitude
  if digits.isEmpty then none
  else do
    let ((fraction, exponent), rest) ← Json.readTail rest
    let value := (Decimal.ofDigits digits (fraction.getD []) (exponent.getD 0)).toRat
    some (if negative then -value else value, rest)

/-- The place that a style gives, in pixels from the left and from the top. -/
def readPlace? (style : String) : Option (Point Rat) := do
  let rest ← after? "left: ".toList style.toList
  let (x, rest) ← readValue? rest
  let rest ← after? "px; top: ".toList rest
  let (y, rest) ← readValue? rest
  let _ ← after? "px;".toList rest
  some ⟨x, y⟩

/-- The place that a canvas gives the screen at an index. -/
def placeAt? (page : Markup) (index : Nat) : Option (Point Rat) := do
  let node ← page.children[index]?
  let style ← (node.label.attributes.value? "style").bind Value.string?
  readPlace? style

example : readPlace? "left: -1.5e+03px; top: 0.25px;" = some ⟨-1500, 1 / 4⟩ := by decide +kernel
example : readPlace? "left: infpx; top: 0px;" = none := by decide +kernel

/-! ## Reading back -/

open Json (EndsNumeral)

variable {rest : List Char}

theorem after?_append (word rest : List Char) : after? word (word ++ rest) = some rest := by
  simp [after?]

theorem splitSign_digit {c : Char} (hc : c.isDigit = true) (s : List Char) :
    Text.splitSign (c :: s) = (false, c :: s) := by
  unfold Text.splitSign
  split
  · next heq =>
    cases heq
    cases hc
  · next heq =>
    cases heq
    cases hc
  · rfl

theorem readValue?_numeral {n : NumberStyle.Numeral} {d : Decimal} (denotes : n.Denotes d)
    (negative : Bool) (hrest : EndsNumeral rest) :
    readValue? ((if negative then ['-'] else []) ++ n.chars ++ rest) =
      some (if negative then -d.toRat else d.toRat, rest) := by
  have hsplit : Text.splitSign ((if negative then ['-'] else []) ++ n.chars ++ rest) =
      (negative, n.chars ++ rest) := by
    cases negative with
    | true => rfl
    | false =>
        obtain ⟨c, more, hcons⟩ := List.exists_cons_of_ne_nil denotes.digits.nonempty
        have hc : c.isDigit = true := denotes.digits.digit c (by simp [hcons])
        have hchars : n.chars ++ rest = c :: (more ++ n.tail ++ rest) := by
          rw [NumberStyle.Numeral.chars, hcons]
          rfl
        exact (congrArg Text.splitSign hchars).trans
          ((splitSign_digit hc _).trans (by rw [hchars]))
  have hspan : Json.spanDigits (n.chars ++ rest) = (n.digits, n.tail ++ rest) := by
    rw [NumberStyle.Numeral.chars, List.append_assoc]
    exact Json.spanDigits_append denotes.digits.digit (denotes.head_append hrest)
  have hvalue : (Decimal.ofDigits n.digits (n.fraction.getD []) (n.exponent.getD 0)).toRat =
      d.toRat := denotes.value
  unfold readValue?
  rw [hsplit]
  dsimp only
  rw [hspan]
  simp [denotes.digits.nonempty, denotes.tail rest hrest, hvalue]

/-- A length is read as six significant digits of the number, which are the number exactly when it
has no more of them. -/
theorem readValue?_generalText {x : Double} {q : Rat} (hx : x.toRat? = some q) :
    ∃ value, (value = q ↔ HasDigits 6 q) ∧ ∀ rest, EndsNumeral rest →
      readValue? (x.generalText.toList ++ rest) = some (value, rest) := by
  cases x with
  | infinite negative => cases hx
  | nan => cases hx
  | finite negative m exponent stored =>
      have hsuffix : NumberStyle.general.wholeSuffix = ".0" ∨
          NumberStyle.general.wholeSuffix = "" := .inr rfl
      obtain ⟨n, htext, denotes, -⟩ :=
        NumberStyle.exists_numeral hsuffix (Double.significant 6 m exponent)
      have hchars : (Double.finite negative m exponent stored).generalText.toList =
          (if negative then ['-'] else []) ++ n.chars := by
        rw [← htext, Double.generalText, String.toList_ofList]
        rfl
      have hdigits := Double.significant_toRat_eq_iff 6 m exponent
      refine ⟨if negative then -(Double.significant 6 m exponent).toRat
        else (Double.significant 6 m exponent).toRat, ?_, fun rest hrest => ?_⟩
      · have hq : (if negative then -Double.magnitude m exponent
            else Double.magnitude m exponent) = q := Option.some.inj hx
        rw [← hq]
        cases negative with
        | true =>
            rw [if_pos rfl, if_pos rfl, neg_inj, hdigits, hasDigits_neg]
        | false => exact hdigits
      · rw [hchars]
        exact readValue?_numeral denotes negative hrest

end Preview

/-- The number has a value, and so has the double near it. -/
structure Number.IsExactly (n : Number) (q : Rat) : Prop where
  value : n.toRat? = some q
  double : n.toDouble.toRat? = some q

namespace Renderer

open Preview

/-- The two lengths that place a screen stand in front of those of its size. -/
theorem toList_placeStyle (renderer : Renderer) (place : Point Number) :
    ∃ size, (renderer.placeStyle place).toList =
      "left: ".toList ++ (place.x.toDouble.generalText.toList ++ ("px; top: ".toList ++
        (place.y.toDouble.generalText.toList ++ ("px;".toList ++ size)))) := by
  have hbetween : "px; top: ".toList = "px".toList ++ "; top: ".toList := rfl
  have hbehind : "px;".toList = "px".toList ++ [';'] := rfl
  have hsize : "; width: ".toList = [';'] ++ " width: ".toList := rfl
  refine ⟨" width: ".toList ++ (renderer.settings.screenWidth.generalText ++ "px; height: " ++
    renderer.settings.screenHeight.generalText ++ "px;").toList, ?_⟩
  show ("left: " ++ (place.x.toDouble.generalText ++ "px") ++ "; top: " ++
    (place.y.toDouble.generalText ++ "px") ++ "; width: " ++
    (renderer.settings.screenWidth.generalText ++ "px") ++ "; height: " ++
    (renderer.settings.screenHeight.generalText ++ "px") ++ ";").toList = _
  simp only [String.toList_append, hbetween, hbehind, hsize, List.append_assoc]
  rfl

/-- A style is read as a place, and each coordinate as it was exactly when it has no more than six
significant digits. -/
theorem readPlace?_placeStyle (renderer : Renderer) {place : Point Number} {x y : Rat}
    (hx : place.x.IsExactly x) (hy : place.y.IsExactly y) :
    ∃ drawn, readPlace? (renderer.placeStyle place) = some drawn ∧
      (drawn.x = x ↔ HasDigits 6 x) ∧ (drawn.y = y ↔ HasDigits 6 y) := by
  obtain ⟨left, hleft, hreadLeft⟩ := readValue?_generalText hx.double
  obtain ⟨top, htop, hreadTop⟩ := readValue?_generalText hy.double
  obtain ⟨size, htext⟩ := toList_placeStyle renderer place
  have hends : ∀ rest, Json.EndsNumeral ('p' :: rest) := by
    rintro rest _ ⟨⟩
    decide
  refine ⟨⟨left, top⟩, ?_, hleft, htop⟩
  have hreadLeft := hreadLeft ("px; top: ".toList ++ (place.y.toDouble.generalText.toList ++
    ("px;".toList ++ size))) (hends _)
  have hreadTop := hreadTop ("px;".toList ++ size) (hends _)
  simp only [readPlace?, htext, after?_append, hreadLeft, hreadTop, Option.bind_eq_bind,
    Option.bind_some]

end Renderer

end Wireframe
