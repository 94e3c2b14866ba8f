/-!
# Occurrences

Whether a text occurs in another one.

* `occursIn_iff`: an occurrence is a contiguous part.
-/

namespace PlaylistCurator.Text

/-- Whether a text occurs somewhere in another one. -/
def occursIn (part : List Char) : (text : List Char) → Bool
  | [] => part.isEmpty
  | c :: rest => part.isPrefixOf (c :: rest) || occursIn part rest

/-- A text occurs in another one exactly when it is a contiguous part of it. -/
theorem occursIn_iff {part text : List Char} : occursIn part text = true ↔ part <:+: text := by
  induction text with
  | nil => rw [occursIn, List.isEmpty_iff, List.infix_nil]
  | cons c rest ih =>
    rw [occursIn, Bool.or_eq_true, ih, List.isPrefixOf_iff_prefix, List.infix_cons_iff]

end PlaylistCurator.Text
