import PlaylistCurator.Proofs.Query.Collisions
import PlaylistCurator.Query.Operator
import PlaylistCurator.Query.Sort

/-!
# Words that name identifiers

In a table without collisions it does not matter which of its abbreviations a word begins with: all
of them stand for one identifier, which is the one that the longest of them finds. This holds for
the words of fields, operators and directions. Main statements:

* `AbbreviationTable.find?_ofList_eq_some_iff`: a word finds an identifier if and only if it begins
  with an abbreviation for it;
* `Field.find_eq_ok_iff`, `Operator.find_eq_ok_iff`: the same for the words of the two registries;
* `Direction.find_eq_descending_iff`: a direction is decided by its first letter.
-/

namespace PlaylistCurator

variable {ι : Type}

/-- A word names an identifier if it begins with a registered abbreviation for it. -/
def IsNamedBy (registrations : List (String × ι)) (identifier : ι) (word : List Char) : Prop :=
  ∃ abbreviation, (abbreviation, identifier) ∈ registrations ∧ abbreviation.toList <+: word

namespace AbbreviationTable

variable [DecidableEq ι] {registrations : List (String × ι)} {token : String} {identifier : ι}

/-- What a token finds in a table that is made of registrations without collisions. -/
theorem find?_ofList_eq_some_iff (htable : (ofList registrations).collisions = [])
    (hne : ∀ entry ∈ registrations, entry.1 ≠ "") :
    (ofList registrations).find? token = some identifier ↔
      IsNamedBy registrations identifier token.toList := by
  rw [(collisions_eq_nil_iff.1 htable).find?_eq_some_iff]
  refine exists_congr fun abbreviation => ?_
  rw [mem_entries_ofList]
  exact and_congr_right fun hmem => and_iff_right (hne _ hmem)

theorem find_ofList_eq_ok_iff (htable : (ofList registrations).collisions = [])
    (hne : ∀ entry ∈ registrations, entry.1 ≠ "") :
    (ofList registrations).find (some token) = .ok identifier ↔
      IsNamedBy registrations identifier token.toList := by
  rw [← find?_ofList_eq_some_iff htable hne, find_eq_ok_iff, Option.getD_some]

theorem find_ofList_eq_error_iff (htable : (ofList registrations).collisions = [])
    (hne : ∀ entry ∈ registrations, entry.1 ≠ "") {unknown : UnknownToken} :
    (ofList registrations).find (some token) = .error unknown ↔
      unknown = ⟨token⟩ ∧ ∀ identifier, ¬ IsNamedBy registrations identifier token.toList := by
  simp only [← find?_ofList_eq_some_iff htable hne]
  rw [find_eq_error_iff, Option.getD_some, Option.eq_none_iff_forall_ne_some]

end AbbreviationTable

/-! ## The registries -/

/-- No word for an operator changes its meaning when it is spelled out further. -/
theorem Operator.collisions_table : Operator.table.collisions = [] := by decide +kernel

/-- No word for a direction changes its meaning when it is spelled out further. -/
theorem Direction.collisions_table : Direction.table.collisions = [] := by decide +kernel

/-- No word for a field is empty. -/
theorem Field.abbreviation_ne_empty : ∀ entry ∈ Field.abbreviations, entry.1 ≠ "" := by
  decide +kernel

/-- No word for an operator is empty. -/
theorem Operator.abbreviation_ne_empty : ∀ entry ∈ Operator.abbreviations, entry.1 ≠ "" := by
  decide +kernel

/-- No word for a direction is empty. -/
theorem Direction.abbreviation_ne_empty : ∀ entry ∈ Direction.abbreviations, entry.1 ≠ "" := by
  decide +kernel

variable {token : String} {unknown : UnknownToken}

/-- A token finds a field if and only if it begins with one of the words for it. -/
theorem Field.find_eq_ok_iff {field : Field} :
    Field.find (some token) = .ok field ↔ IsNamedBy Field.abbreviations field token.toList :=
  AbbreviationTable.find_ofList_eq_ok_iff Field.collisions_table Field.abbreviation_ne_empty

theorem Field.find_eq_error_iff :
    Field.find (some token) = .error unknown ↔
      unknown = ⟨token⟩ ∧ ∀ field, ¬ IsNamedBy Field.abbreviations field token.toList :=
  AbbreviationTable.find_ofList_eq_error_iff Field.collisions_table Field.abbreviation_ne_empty

/-- A token finds an operator if and only if it begins with one of the words for it. -/
theorem Operator.find_eq_ok_iff {operator : Operator} :
    Operator.find (some token) = .ok operator ↔
      IsNamedBy Operator.abbreviations operator token.toList :=
  AbbreviationTable.find_ofList_eq_ok_iff Operator.collisions_table Operator.abbreviation_ne_empty

theorem Operator.find_eq_error_iff :
    Operator.find (some token) = .error unknown ↔
      unknown = ⟨token⟩ ∧ ∀ operator, ¬ IsNamedBy Operator.abbreviations operator token.toList :=
  AbbreviationTable.find_ofList_eq_error_iff Operator.collisions_table
    Operator.abbreviation_ne_empty

/-- A word stands for the descending direction if and only if it begins with `r` or `d`. -/
theorem Direction.isNamedBy_descending_iff {word : List Char} :
    IsNamedBy Direction.abbreviations .descending word ↔
      word.head? = some 'r' ∨ word.head? = some 'd' := by
  constructor
  · rintro ⟨abbreviation, hmem, rest, rfl⟩
    have hfirst : ∀ entry ∈ Direction.abbreviations, entry.2 = .descending →
        entry.1.toList.head? = some 'r' ∨ entry.1.toList.head? = some 'd' := by
      decide +kernel
    refine (hfirst _ hmem rfl).imp ?_ ?_
    all_goals
      intro hletter
      rw [List.head?_append, hletter, Option.some_or]
  · -- Both letters are words of the table by themselves.
    rintro (hletter | hletter)
    · obtain ⟨rest, rfl⟩ := List.head?_eq_some_iff.1 hletter
      exact ⟨"r", by decide, List.prefix_append ['r'] rest⟩
    · obtain ⟨rest, rfl⟩ := List.head?_eq_some_iff.1 hletter
      exact ⟨"d", by decide, List.prefix_append ['d'] rest⟩

/-- A direction is descending if and only if it begins with `r` or `d`. -/
theorem Direction.find_eq_descending_iff :
    Direction.find (some token) = .descending ↔
      token.toList.head? = some 'r' ∨ token.toList.head? = some 'd' := by
  have hfound : Direction.table.find? token = some .descending ↔ _ :=
    AbbreviationTable.find?_ofList_eq_some_iff Direction.collisions_table
      Direction.abbreviation_ne_empty
  rw [← Direction.isNamedBy_descending_iff, ← hfound, Direction.find, Option.getD_some]
  -- A word that names nothing means upwards.
  cases Direction.table.find? token <;> simp

end PlaylistCurator
