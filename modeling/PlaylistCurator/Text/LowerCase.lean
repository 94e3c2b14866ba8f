import PlaylistCurator.Text.LowerCase.Table

/-!
# Lower-casing

The full lower-case form of a text. A character is replaced by its simple lower-case form, with
two exceptions: `İ` becomes an `i` followed by a combining dot, and the capital sigma becomes the
final sigma `ς` at the end of a word and `σ` elsewhere. A sigma ends a word when, leaving out
case-ignorable characters, a cased character stands right before it and none right after it.

* `lower`: the lower-case form of a text.
-/

namespace PlaylistCurator.Text

/-- Whether a code point lies in one of the ranges. -/
def inRanges (ranges : List (Nat × Nat)) (n : Nat) : Bool :=
  ranges.any fun range => range.1 ≤ n && n ≤ range.2

/-- Whether a character has the Unicode property `Case_Ignorable`. -/
def isCaseIgnorable (c : Char) : Bool :=
  inRanges caseIgnorableRanges c.toNat

/-- Whether a character that is not case-ignorable has the Unicode property `Cased`. -/
def isCased (c : Char) : Bool :=
  inRanges casedRanges c.toNat

/-- Whether a run maps a code point. -/
def LowerCaseRun.covers (run : LowerCaseRun) (n : Nat) : Bool :=
  run.first ≤ n && n ≤ run.last && (n - run.first) % run.stride == 0

/-- The simple lower-case form of a character. -/
def lowerChar (c : Char) : Char :=
  match lowerCaseRuns.find? (·.covers c.toNat) with
  | none => c
  | some run => Char.ofNat ((c.toNat : Int) + run.shift).toNat

/-- Whether the first character that is not case-ignorable is a cased one. -/
def casedFirst (text : List Char) : Bool :=
  match text.find? (!isCaseIgnorable ·) with
  | none => false
  | some c => isCased c

/-- The lower-case form of `c` between the characters `before`, nearest first, and `after`. -/
def lowerAt (before : List Char) (c : Char) (after : List Char) : List Char :=
  if c = 'Σ' then
    if casedFirst before && !casedFirst after then ['ς'] else ['σ']
  else if c = 'İ' then ['i', '\u0307']
  else [lowerChar c]

/-- The lower-case form of a text that follows the characters `before`, nearest first. -/
def lowerAfter (before : List Char) : List Char → List Char
  | [] => []
  | c :: after => lowerAt before c after ++ lowerAfter (c :: before) after

/-- The full lower-case form of a text. -/
def lower (text : List Char) : List Char :=
  lowerAfter [] text

example : lower "ΟΔΟΣ, ΣΑΣ".toList = "οδος, σας".toList := by decide +kernel
example : lower "İ Ünal ẞ".toList = "i̇ ünal ß".toList := by decide +kernel

end PlaylistCurator.Text
