/-!
# Blank characters and trimming

The characters with the Unicode property `White_Space`, and the removal of such characters from
both ends of a text. Texts are lists of characters here, so that recursion and induction follow
them.

* `trim_eq_nil_iff`: trimming leaves nothing exactly when every character is blank.
-/

namespace PlaylistCurator.Text

/-- Whether a character has the Unicode property `White_Space`. -/
def isBlank (c : Char) : Bool :=
  let n := c.toNat
  (0x09 ≤ n && n ≤ 0x0D) || n == 0x20 || n == 0x85 || n == 0xA0 || n == 0x1680 ||
    (0x2000 ≤ n && n ≤ 0x200A) || n == 0x2028 || n == 0x2029 || n == 0x202F || n == 0x205F ||
    n == 0x3000

/-- The text without the blank characters at its start. -/
def trimStart (text : List Char) : List Char :=
  text.dropWhile isBlank

/-- The text without the blank characters at its end. -/
def trimEnd (text : List Char) : List Char :=
  (text.reverse.dropWhile isBlank).reverse

/-- The text without the blank characters at either end. -/
def trim (text : List Char) : List Char :=
  trimEnd (trimStart text)

/-- Whether a text holds nothing but blank characters. -/
def allBlank (text : List Char) : Bool :=
  text.all isBlank

/-- Dropping a leading run leaves nothing exactly when the run is the whole text. -/
theorem dropWhile_isBlank_eq_nil_iff {text : List Char} :
    text.dropWhile isBlank = [] ↔ allBlank text = true := by
  induction text with
  | nil => simp [allBlank]
  | cons c rest ih =>
    cases h : isBlank c <;> simp_all [allBlank]

/-- Trimming leaves nothing exactly when every character is blank. -/
theorem trim_eq_nil_iff {text : List Char} : trim text = [] ↔ allBlank text = true := by
  unfold trim trimEnd trimStart
  rw [List.reverse_eq_nil_iff, dropWhile_isBlank_eq_nil_iff]
  constructor
  · intro h
    rw [← dropWhile_isBlank_eq_nil_iff]
    cases hd : text.dropWhile isBlank with
    | nil => rfl
    | cons c rest =>
      have hc : isBlank c = false := by
        have := List.head?_dropWhile_not isBlank text
        simpa [hd] using this
      rw [hd] at h
      simp [allBlank, hc] at h
  · intro h
    rw [dropWhile_isBlank_eq_nil_iff.2 h]
    rfl

end PlaylistCurator.Text
