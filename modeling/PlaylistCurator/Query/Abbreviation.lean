/-!
# Tables of abbreviations

A table of abbreviations names identifiers by short words. A token stands for the identifier of
the longest abbreviation that it starts with, so that an abbreviation may be spelled out further:
with `s` for a size, the tokens `s`, `si` and `size` all name it.

The entries stand in the order of their abbreviations, with no two equal neighbours, and an
abbreviation is searched for by halves.

* `AbbreviationTable.ofList`: the table of some registrations.
* `AbbreviationTable.find`: the identifier that a token names.
* `AbbreviationTable.collisions`: the pairs of abbreviations that make the meaning of a token depend
  on how far it is spelled out.
-/

namespace PlaylistCurator

/-- A token that starts with no abbreviation of a table. -/
structure UnknownToken where
  /-- The token as it was looked up. -/
  token : String
  deriving DecidableEq, Repr

/-- What a reader is told about an unknown token. -/
def UnknownToken.message (unknown : UnknownToken) : String :=
  s!"no entry found for '{unknown.token}'"

/-- Abbreviations with the identifiers that they stand for. -/
structure AbbreviationTable (ι : Type) where
  /-- The abbreviations, each with an identifier. -/
  entries : List (String × ι)
  /-- The abbreviations ascend. -/
  ascending : entries.Pairwise fun a b => a.1 ≤ b.1
  deriving Repr

section Neighbours

variable {α : Type} [BEq α]

theorem eraseReps_loop_sublist (last : α) (rest kept : List α) :
    (List.eraseRepsBy.loop (· == ·) last rest kept).Sublist (kept.reverse ++ last :: rest) := by
  induction rest generalizing last kept with
  | nil => simp [List.eraseRepsBy.loop]
  | cons next rest ih =>
    rw [List.eraseRepsBy.loop]
    split
    · have hskip : (last :: rest).Sublist (last :: next :: rest) :=
        (List.sublist_cons_self next rest).cons_cons last
      exact (ih last kept).trans (hskip.append_left _)
    · simpa using ih next (last :: kept)

/-- Leaving out repeated neighbours leaves a part of a list, in its order. -/
theorem eraseReps_sublist (xs : List α) : xs.eraseReps.Sublist xs := by
  cases xs with
  | nil => exact List.Sublist.slnil
  | cons first rest => exact eraseReps_loop_sublist first rest []

end Neighbours

namespace AbbreviationTable

variable {ι : Type}

/-! ## Making a table -/

/-- The entries with one more, which goes before the first that its abbreviation does not exceed. -/
def place (entry : String × ι) : List (String × ι) → List (String × ι)
  | [] => [entry]
  | other :: rest => if entry.1 ≤ other.1 then entry :: other :: rest else other :: place entry rest

theorem mem_place {entry other : String × ι} {entries : List (String × ι)} :
    other ∈ place entry entries ↔ other = entry ∨ other ∈ entries := by
  induction entries with
  | nil => simp [place]
  | cons first rest ih =>
    rw [place]
    split
    · exact List.mem_cons
    · rw [List.mem_cons, ih, List.mem_cons, or_left_comm]

/-- One more entry is placed so that the abbreviations go on ascending. -/
theorem pairwise_place (entry : String × ι) {entries : List (String × ι)}
    (h : entries.Pairwise fun a b => a.1 ≤ b.1) :
    (place entry entries).Pairwise fun a b => a.1 ≤ b.1 := by
  induction entries with
  | nil => exact List.pairwise_singleton _ _
  | cons first rest ih =>
    obtain ⟨hfirst, hrest⟩ := List.pairwise_cons.1 h
    rw [place]
    split
    next hle =>
      refine List.pairwise_cons.2 ⟨fun other hother => ?_, h⟩
      rcases List.mem_cons.1 hother with rfl | hother
      · exact hle
      · exact String.le_trans hle (hfirst other hother)
    next hgt =>
      refine List.pairwise_cons.2 ⟨fun other hother => ?_, ih hrest⟩
      rcases mem_place.1 hother with rfl | hother
      · exact (String.le_total first.1 other.1).resolve_right hgt
      · exact hfirst other hother

theorem pairwise_foldr_place (registrations : List (String × ι)) :
    (registrations.foldr place []).Pairwise fun a b => a.1 ≤ b.1 := by
  induction registrations with
  | nil => exact List.Pairwise.nil
  | cons entry rest ih => exact pairwise_place entry ih

/-- The table of the given registrations. Those of one abbreviation keep their order, and a
registration equal to the one before it is left out. -/
def ofList [DecidableEq ι] (registrations : List (String × ι)) : AbbreviationTable ι where
  entries := (registrations.foldr place []).eraseReps
  ascending := (pairwise_foldr_place registrations).sublist (eraseReps_sublist _)

theorem entries_ofList [DecidableEq ι] (registrations : List (String × ι)) :
    (ofList registrations).entries = (registrations.foldr place []).eraseReps := rfl

/-- The abbreviations of a table in ascending order, one for each entry. -/
def abbreviations (table : AbbreviationTable ι) : List String :=
  table.entries.map (·.1)

/-! ## Finding tokens -/

/-- The search of a table by halves: the entry in the middle decides in which half to go on. -/
def searchHalves (word : String) : List (String × ι) → Option ι
  | [] => none
  | [entry] => if entry.1 = word then some entry.2 else none
  | first :: second :: rest =>
    let entries := first :: second :: rest
    let middle := entries.length / 2
    have hmiddle : middle < entries.length := Nat.div_lt_self (Nat.succ_pos _) Nat.one_lt_two
    if word < entries[middle].1 then
      searchHalves word (entries.take middle)
    else searchHalves word (entries.drop middle)
termination_by entries => entries.length
decreasing_by
  · exact Nat.lt_of_le_of_lt (List.length_take_le middle entries) hmiddle
  · have hpositive : 0 < middle := Nat.div_pos (Nat.le_add_left 2 rest.length) Nat.two_pos
    rw [List.length_drop]
    exact Nat.sub_lt (Nat.succ_pos _) hpositive

/-- The identifier of the longest abbreviation among the first `1`, …, `length` characters of
`token`. -/
def longestWithin (table : AbbreviationTable ι) (token : List Char) : (length : Nat) → Option ι
  | 0 => none
  | length + 1 =>
    match searchHalves (String.ofList (token.take (length + 1))) table.entries with
    | some identifier => some identifier
    | none => table.longestWithin token length

/-- The identifier of the longest non-empty abbreviation that the token starts with. -/
def find? (table : AbbreviationTable ι) (token : String) : Option ι :=
  table.longestWithin token.toList token.length

/-- The identifier that a token names. An absent token is looked up as the empty one, which names
nothing. -/
def find (table : AbbreviationTable ι) (token : Option String) : Except UnknownToken ι :=
  let token := token.getD ""
  match table.find? token with
  | some identifier => .ok identifier
  | none => .error ⟨token⟩

/-- The empty token names nothing. -/
@[simp]
theorem find?_empty (table : AbbreviationTable ι) : table.find? "" = none := rfl

/-! ## Ambiguous tokens -/

/-- Whether the token of one entry can turn into the token of another with a different meaning:
the first abbreviation starts the second. Of two entries with the same abbreviation only the
earlier one counts as the shorter. -/
def collides [DecidableEq ι] (short long : (String × ι) × Nat) : Bool :=
  short.1.1.toList.isPrefixOf long.1.1.toList && short.1.2 ≠ long.1.2 &&
    (short.1.1 ≠ long.1.1 || short.2 < long.2)

/-- The pairs of a shorter and a longer abbreviation with different identifiers, the shorter one
starting the longer one. -/
def collisions [DecidableEq ι] (table : AbbreviationTable ι) : List (String × String) :=
  let numbered := table.entries.zipIdx
  numbered.flatMap fun short =>
    (numbered.filter (collides short ·)).map fun long => (short.1.1, long.1.1)

end AbbreviationTable

end PlaylistCurator
