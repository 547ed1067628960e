/-! # Characters and integers in text

What stands around a text, which characters are digits, and how an integer is written: a sign and
decimal digits, between which single underscores may stand. Two classes of blanks are in use.
`isSpace` is the Unicode property White_Space, which is what may surround a number; `isBlank` adds
the four ASCII information separators and is what may surround a response.
-/

namespace Wireframe.Text

def inRanges (ranges : List (Nat × Nat)) (c : Char) : Bool :=
  ranges.any fun (first, last) => first ≤ c.toNat && c.toNat ≤ last

/-! ## Blanks -/

/-- The Unicode property White_Space. -/
def isSpace (c : Char) : Bool :=
  let code := c.toNat
  (0x9 ≤ code && code ≤ 0xd) || code == 0x20 || code == 0x85 || code == 0xa0 || code == 0x1680
    || (0x2000 ≤ code && code ≤ 0x200a) || code == 0x2028 || code == 0x2029 || code == 0x202f
    || code == 0x205f || code == 0x3000

/-- White space and the information separators U+001C to U+001F. -/
def isBlank (c : Char) : Bool := isSpace c || (0x1c ≤ c.toNat && c.toNat ≤ 0x1f)

def trimBy (blank : Char → Bool) (s : List Char) : List Char :=
  ((s.dropWhile blank).reverse.dropWhile blank).reverse

def trim (s : List Char) : List Char := trimBy isBlank s

@[simp] theorem trimBy_nil (blank : Char → Bool) : trimBy blank [] = [] := rfl

/-! ## Digits -/

/-- The zeros of all scripts; the ten digits of a script stand in a row. -/
def digitZeros : List Nat := [
  0x30, 0x660, 0x6f0, 0x7c0, 0x966, 0x9e6, 0xa66, 0xae6, 0xb66, 0xbe6, 0xc66, 0xce6, 0xd66, 0xde6,
  0xe50, 0xed0, 0xf20, 0x1040, 0x1090, 0x17e0, 0x1810, 0x1946, 0x19d0, 0x1a80, 0x1a90, 0x1b50,
  0x1bb0, 0x1c40, 0x1c50, 0xa620, 0xa8d0, 0xa900, 0xa9d0, 0xa9f0, 0xaa50, 0xabf0, 0xff10, 0x104a0,
  0x10d30, 0x11066, 0x110f0, 0x11136, 0x111d0, 0x112f0, 0x11450, 0x114d0, 0x11650, 0x116c0,
  0x11730, 0x118e0, 0x11950, 0x11c50, 0x11d50, 0x11da0, 0x16a60, 0x16ac0, 0x16b50, 0x1d7ce,
  0x1d7d8, 0x1d7e2, 0x1d7ec, 0x1d7f6, 0x1e140, 0x1e2f0, 0x1e950, 0x1fbf0
  ]

/-- The value of a decimal digit of any script. -/
def digitValue? (c : Char) : Option Nat :=
  (digitZeros.find? fun first => first ≤ c.toNat && c.toNat < first + 10).map (c.toNat - ·)

example : digitValue? '7' = some 7 ∧ digitValue? 'a' = none := by decide +kernel
example : digitValue? (Char.ofNat 0x662) = some 2 := by decide +kernel

/-! ## Integers -/

/-- A text without its sign, and whether that was a minus. -/
def splitSign : List Char → Bool × List Char
  | '-' :: rest => (true, rest)
  | '+' :: rest => (false, rest)
  | s => (false, s)

/-- The values of the digits of a text, single underscores between digits passed over. -/
def groupedDigits? (digit? : Char → Option Nat) : List Char → Option (List Nat)
  | [] => none
  | [c] => (digit? c).map fun d => [d]
  | c :: '_' :: rest => do
      let d ← digit? c
      let ds ← groupedDigits? digit? rest
      some (d :: ds)
  | c :: rest => do
      let d ← digit? c
      let ds ← groupedDigits? digit? rest
      some (d :: ds)

def ofDigitValues (digits : List Nat) : Nat := digits.foldl (fun n d => 10 * n + d) 0

def asciiDigit? (c : Char) : Option Nat := if c.isDigit then some (c.toNat - 48) else none

/-- The most digits of an integer that is read from a text or written into one. -/
def maxIntegerDigits : Nat := 4300

def overlongMessage : String := "Exceeds the limit (4300 digits) for integer string conversion"

@[irreducible] def isWritable (n : Int) : Bool := n.natAbs < Nat.pow 10 maxIntegerDigits

theorem isWritable_iff {n : Int} :
    isWritable n = true ↔ n.natAbs < Nat.pow 10 maxIntegerDigits := by
  unfold isWritable
  exact decide_eq_true_iff

theorem isWritable_zero : isWritable 0 = true := by
  have hpos : ∀ digits, 0 < Nat.pow 10 digits := fun digits => Nat.pow_pos (by decide)
  exact isWritable_iff.mpr (hpos maxIntegerDigits)

/-- An index in a text: an integer in the digits of any script, with white space around it. -/
def readIndex? (s : String) : Option Int := do
  let (negative, magnitude) := splitSign (trimBy isSpace s.toList)
  let digits ← groupedDigits? digitValue? magnitude
  if maxIntegerDigits < digits.length then none
  else some (if negative then -(ofDigitValues digits : Int) else ofDigitValues digits)

example : readIndex? " +1_0 " = some 10 ∧ readIndex? "1__0" = none ∧ readIndex? "-" = none := by
  decide +kernel

end Wireframe.Text
