import Mathlib.Data.List.TakeWhile
import PlaylistCurator.Proofs.Query.FilterReading
import PlaylistCurator.Proofs.Query.Sorting
import PlaylistCurator.Proofs.Text.Trimming

/-!
# What a sort expression says

A clause of a sort expression is cut at its first colon, and whatever stands behind it is a
direction, later colons included. No direction is wrong, but the field has to be known. Main
statements:

* `SortKey.parseClause_eq_ok_iff`, `SortKey.parseClause_eq_error_iff`: what is read from a clause;
* `readsSortKeys`: an expression is read if the fields of all its clauses are known, and otherwise
  refused for the first one whose field is not.
-/

namespace PlaylistCurator

/-! ## The two sides of a clause -/

/-- What stands before the first colon of a clause, and what stands behind it, if there is one. -/
inductive IsCut : List Char → List Char → Option (List Char) → Prop
  | whole {clause : List Char} (hclause : ':' ∉ clause) : IsCut clause clause none
  | colon {first rest : List Char} (hfirst : ':' ∉ first) :
      IsCut (first ++ ':' :: rest) first (some rest)

variable {clause first : List Char} {rest : Option (List Char)}

/-- Cutting is taking characters up to the first colon. -/
theorem isCut_iff :
    IsCut clause first rest ↔
      clause.takeWhile (· ≠ ':') = first ∧ (clause.dropWhile (· ≠ ':')).tail? = rest := by
  constructor
  · intro h
    have hsides : ∀ first : List Char, ':' ∉ first → ∀ c ∈ first, decide (c ≠ ':') = true := by
      rintro first hfirst c hc
      exact decide_eq_true (ne_of_mem_of_not_mem hc hfirst)
    cases h with
    | whole hclause =>
      have hall := hsides clause hclause
      rw [List.takeWhile_eq_self_iff.2 hall, List.dropWhile_eq_nil_iff.2 hall]
      exact ⟨rfl, rfl⟩
    | colon hfirst =>
      have hall := hsides first hfirst
      rw [List.takeWhile_append_of_pos hall, List.dropWhile_append_of_pos hall]
      simp
  · rintro ⟨rfl, rfl⟩
    have hfirst : ':' ∉ clause.takeWhile (· ≠ ':') := by
      intro hmem
      simpa using List.mem_takeWhile_imp hmem
    have hclause : clause.takeWhile (· ≠ ':') ++ clause.dropWhile (· ≠ ':') = clause :=
      List.takeWhile_append_dropWhile
    -- What is not taken is nothing, or it begins with the colon that ended the taking.
    cases hdrop : clause.dropWhile (· ≠ ':') with
    | nil =>
      rw [hdrop, List.append_nil] at hclause
      rw [hclause] at hfirst ⊢
      exact .whole hfirst
    | cons c rest =>
      have hc : c = ':' := by
        have hhead := List.head?_dropWhile_not (· ≠ ':') clause
        rw [hdrop] at hhead
        simpa using hhead
      subst hc
      rw [hdrop] at hclause
      have hcut : IsCut (clause.takeWhile (· ≠ ':') ++ ':' :: rest) _ (some rest) := .colon hfirst
      rwa [hclause] at hcut

/-- Every clause can be cut. -/
theorem exists_isCut (clause : List Char) : ∃ first rest, IsCut clause first rest :=
  ⟨_, _, isCut_iff.2 ⟨rfl, rfl⟩⟩

/-- Every clause can be cut in one way only. -/
theorem IsCut.eq {first' : List Char} {rest' : Option (List Char)} (h : IsCut clause first rest)
    (h' : IsCut clause first' rest') : first = first' ∧ rest = rest' := by
  obtain ⟨rfl, rfl⟩ := isCut_iff.1 h
  exact isCut_iff.1 h'

/-- Of the blanks around a clause each side keeps those that are its own. -/
theorem IsCut.trim (h : IsCut clause first rest) :
    ∃ first' rest', IsCut (Text.trim clause) first' rest' ∧ Text.trim first' = Text.trim first ∧
      rest'.map Text.trim = rest.map Text.trim := by
  cases h with
  | whole hclause =>
    exact ⟨_, none, .whole (mt Text.mem_of_mem_trim hclause), Text.trim_trim _, rfl⟩
  | @colon first rest hfirst =>
    refine ⟨Text.trimStart first, some (Text.trimEnd rest), ?_, Text.trim_trimStart first, ?_⟩
    · rw [Text.trim_append_cons (by decide)]
      exact .colon (mt Text.mem_of_mem_trimStart hfirst)
    · rw [Option.map_some, Option.map_some, Text.trim_trimEnd]

/-! ## What a clause says -/

/-- A word for the descending direction begins, in lower case and without the blanks around it, with
`r` or `d`. -/
def IsDownward (part : List Char) : Prop :=
  (Text.lower (Text.trim part)).head? = some 'r' ∨ (Text.lower (Text.trim part)).head? = some 'd'

/-- There are no more than two directions. -/
theorem Direction.eq_of_descending_iff {direction other : Direction}
    (h : direction = .descending ↔ other = .descending) : direction = other := by
  cases direction <;> cases other <;> simp at h ⊢

namespace SortKey

variable {key : SortKey}

/-- A clause says a key: it names the field before its first colon, and if the direction of the key
is the descending one, and only then, it has a word for that behind the colon. -/
inductive IsSaidBy (key : SortKey) (clause : List Char) : Prop
  | of_cut {first : List Char} {rest : Option (List Char)} (hcut : IsCut clause first rest)
      (hfield : PartNames Field.abbreviations first key.field)
      (hdirection : key.direction = .descending ↔ ∃ part, rest = some part ∧ IsDownward part)

/-- The direction of what stands behind the colon of a clause. -/
def directionOf (rest : Option (List Char)) : Direction :=
  Direction.find (rest.map fun part => Predicate.lookupWord (Text.trim part))

theorem directionOf_eq_descending_iff :
    directionOf rest = .descending ↔ ∃ part, rest = some part ∧ IsDownward part := by
  cases rest with
  | none => simp [directionOf, Direction.find]
  | some part =>
    simp [directionOf, Direction.find_eq_descending_iff, Predicate.lookupWord, IsDownward]

theorem parseClause_of_isCut (h : IsCut clause first rest) :
    parseClause clause =
      (Field.find (some (Predicate.lookupWord (Text.trim first))) >>= fun field =>
        .ok ⟨field, directionOf rest⟩).mapError
          (.invalidSort (String.ofList (Text.trim clause))) := by
  obtain ⟨first', rest', hcut, hfirst, hrest⟩ := h.trim
  obtain ⟨hfirst', hrest'⟩ := isCut_iff.1 hcut
  have hdirection : directionOf rest' = directionOf rest := by
    have hmap := congrArg (Option.map Predicate.lookupWord) hrest
    rw [Option.map_map, Option.map_map] at hmap
    exact congrArg Direction.find hmap
  rw [← hfirst, ← hdirection, ← hfirst', ← hrest']
  rfl

/-- What is read from a clause is what it says. -/
theorem parseClause_eq_ok_iff : parseClause clause = .ok key ↔ key.IsSaidBy clause := by
  obtain ⟨first, rest, hcut⟩ := exists_isCut clause
  rw [parseClause_of_isCut hcut, mapError_eq_ok_iff, bind_eq_ok_iff]
  simp only [Field.find_lookupWord_eq_ok_iff]
  constructor
  · rintro ⟨field, hfield, hkey⟩
    obtain rfl := Except.ok.inj hkey
    exact .of_cut hcut hfield directionOf_eq_descending_iff
  · rintro ⟨hother, hfield, hdirection⟩
    obtain ⟨rfl, rfl⟩ := hcut.eq hother
    rw [← directionOf_eq_descending_iff] at hdirection
    refine ⟨key.field, hfield, ?_⟩
    rw [← Direction.eq_of_descending_iff hdirection]

/-- A clause is refused if what stands before its first colon names no field. -/
theorem parseClause_eq_error_iff {error : QueryError} :
    parseClause clause = .error error ↔
      ∃ first rest, IsCut clause first rest ∧
        (∀ field, ¬ PartNames Field.abbreviations first field) ∧
          error = .invalidSort (String.ofList (Text.trim clause))
            ⟨Predicate.lookupWord (Text.trim first)⟩ := by
  obtain ⟨first, rest, hcut⟩ := exists_isCut clause
  rw [parseClause_of_isCut hcut, mapError_eq_error_iff]
  simp only [bind_eq_error_iff, Field.find_lookupWord_eq_error_iff, reduceCtorEq, and_false,
    exists_false, or_false]
  constructor
  · rintro ⟨unknown, ⟨rfl, hunknown⟩, rfl⟩
    exact ⟨first, rest, hcut, hunknown, rfl⟩
  · rintro ⟨first', rest', hother, hunknown, rfl⟩
    obtain ⟨rfl, rfl⟩ := hcut.eq hother
    exact ⟨_, ⟨rfl, hunknown⟩, rfl⟩

/-- Any clause that names a field says a key. -/
theorem exists_isSaidBy_iff :
    (∃ key : SortKey, key.IsSaidBy clause) ↔
      ∃ first rest field, IsCut clause first rest ∧ PartNames Field.abbreviations first field := by
  constructor
  · rintro ⟨key, hcut, hfield, -⟩
    exact ⟨_, _, _, hcut, hfield⟩
  · rintro ⟨first, rest, field, hcut, hfield⟩
    exact ⟨⟨field, directionOf rest⟩, .of_cut hcut hfield directionOf_eq_descending_iff⟩

end SortKey

/-! ## Reading an expression -/

/-- What is read from a sort expression: a key from each of its clauses, up to the first that does
not name a field. -/
structure ReadsSortKeys (text : String) : Prop where
  /-- An expression is read if all of its clauses name a field before their first colon. -/
  isSort_iff : IsSort (some text) ↔ ∀ clause ∈ text.toList.splitOn ',', ∃ first rest field,
    IsCut clause first rest ∧ PartNames Field.abbreviations first field
  /-- What is read are the keys that the clauses say, one for each and in their order. -/
  parse_eq_ok_iff : ∀ keys, SortKey.parse (some text) = .ok keys ↔
    List.Forall₂ SortKey.IsSaidBy keys (text.toList.splitOn ',')
  /-- An expression is refused for the first clause that names no field, which the error names. -/
  parse_eq_error_iff : ∀ error, SortKey.parse (some text) = .error error ↔
    ∃ before clause after first rest, text.toList.splitOn ',' = before ++ clause :: after ∧
      (∀ earlier ∈ before, ∃ first rest field,
        IsCut earlier first rest ∧ PartNames Field.abbreviations first field) ∧
      IsCut clause first rest ∧ (∀ field, ¬ PartNames Field.abbreviations first field) ∧
        error = .invalidSort (String.ofList (Text.trim clause))
          ⟨Predicate.lookupWord (Text.trim first)⟩
  /-- Two expressions can be read together if each of them can, and give the keys of both. -/
  joined_eq_ok_iff : ∀ second : String, Text.allBlank second.toList = false → ∀ keys,
    SortKey.parse (some (joined text second)) = .ok keys ↔
      ∃ own others, SortKey.parse (some text) = .ok own ∧
        SortKey.parse (some second) = .ok others ∧ keys = own ++ others

/-- Reading an expression agrees with what its clauses say. -/
theorem readsSortKeys {text : String} (h : Text.allBlank text.toList = false) :
    ReadsSortKeys text where
  isSort_iff := by
    simp only [IsSort, SortKey.parse_of_allBlank_eq_false h, mapM_eq_ok_iff, exists_forall₂_iff,
      SortKey.parseClause_eq_ok_iff, SortKey.exists_isSaidBy_iff]
  parse_eq_ok_iff keys := by
    rw [SortKey.parse_of_allBlank_eq_false h, mapM_eq_ok_iff]
    simp only [SortKey.parseClause_eq_ok_iff]
  parse_eq_error_iff error := by
    rw [SortKey.parse_of_allBlank_eq_false h, mapM_eq_error_iff]
    simp only [SortKey.parseClause_eq_ok_iff, SortKey.parseClause_eq_error_iff,
      SortKey.exists_isSaidBy_iff, exists_and_left]
  joined_eq_ok_iff second hsecond keys := by
    rw [SortKey.parse_joined_eq_bind h hsecond, bind_eq_ok_iff]
    constructor
    · rintro ⟨own, hown, hbind⟩
      obtain ⟨others, hothers, hkeys⟩ := bind_eq_ok_iff.1 hbind
      exact ⟨own, others, hown, hothers, (Except.ok.inj hkeys).symm⟩
    · rintro ⟨own, others, hown, hothers, rfl⟩
      exact ⟨own, hown, bind_eq_ok_iff.2 ⟨others, hothers, rfl⟩⟩

/-- An expression with a direction that goes on behind a second colon, by itself and before another
one. -/
theorem readsSortKeys_sizes :
    Text.allBlank "size : Down:up, n".toList = false ∧
      SortKey.parse (some "size : Down:up, n") =
        .ok [⟨.size, .descending⟩, ⟨.name, .ascending⟩] ∧
      List.Forall₂ SortKey.IsSaidBy [⟨.size, .descending⟩, ⟨.name, .ascending⟩]
        ("size : Down:up, n".toList.splitOn ',') ∧
      SortKey.parse (some (joined "size : Down:up, n" " Owner : reversed")) =
        .ok [⟨.size, .descending⟩, ⟨.name, .ascending⟩, ⟨.owner, .descending⟩] := by
  have hblank : Text.allBlank "size : Down:up, n".toList = false := by decide
  have hkeys : SortKey.parse (some "size : Down:up, n") =
      .ok [⟨.size, .descending⟩, ⟨.name, .ascending⟩] := by
    decide +kernel
  have hothers : SortKey.parse (some " Owner : reversed") = .ok [⟨.owner, .descending⟩] := by
    decide +kernel
  refine ⟨hblank, hkeys, ((readsSortKeys hblank).parse_eq_ok_iff _).1 hkeys, ?_⟩
  refine ((readsSortKeys hblank).joined_eq_ok_iff _ (by decide) _).2 ?_
  exact ⟨_, _, hkeys, hothers, rfl⟩

end PlaylistCurator
