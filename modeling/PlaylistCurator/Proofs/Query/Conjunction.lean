import PlaylistCurator.Proofs.Query.Clauses
import PlaylistCurator.Query.Filter

/-!
# Filtering as a conjunction

Grouping the clauses of an expression by field and narrowing the records down by one clause after
the other comes to asking of each record whether it satisfies all clauses, in whatever order they
are written. So an expression that consists of two others filters by the one after the other.

* `FilterSet.narrow_ofPredicates`: narrowing is filtering by all clauses;
* `filtersByClauses`: what passes an expression, and an expression made of two.
-/

namespace PlaylistCurator

namespace Predicate

/-- A record satisfies a clause if it has the field and the operator accepts its value. -/
theorem accepts_eq_true_iff {predicate : Predicate} {record : Record} :
    predicate.accepts record = true ↔
      ∃ value, record.get predicate.field = some value ∧
        predicate.operator.accepts predicate.value value = true := by
  unfold accepts
  cases record.get predicate.field <;> simp

end Predicate

/-- A clause of an expression, as it is written, holds for a record: the clause can be read, the
record has its field, and its operator accepts the value of that field. -/
def Record.Satisfies (record : Record) (clause : List Char) : Prop :=
  ∃ predicate, Predicate.parse clause = .ok predicate ∧
    ∃ value, record.get predicate.field = some value ∧
      predicate.operator.accepts predicate.value value = true

theorem Record.satisfies_iff_accepts {record : Record} {clause : List Char} {predicate : Predicate}
    (h : Predicate.parse clause = .ok predicate) :
    record.Satisfies clause ↔ predicate.accepts record = true := by
  rw [Predicate.accepts_eq_true_iff, Satisfies]
  constructor
  · rintro ⟨other, hother, haccepts⟩
    obtain rfl := Except.ok.inj (h.symm.trans hother)
    exact haccepts
  · intro haccepts
    exact ⟨predicate, h, haccepts⟩

instance (record : Record) (clause : List Char) : Decidable (record.Satisfies clause) :=
  match h : Predicate.parse clause with
  | .ok _ => decidable_of_iff _ (Record.satisfies_iff_accepts h).symm
  | .error _ => .isFalse fun ⟨_, hother, _⟩ => by rw [h] at hother; cases hother

namespace FilterSet

/-- Narrowing down by one test after the other is filtering by all of them. -/
theorem foldl_filter {γ : Type} (tests : List γ) (passes : γ → Record → Bool)
    (records : List Record) :
    tests.foldl (fun left test => left.filter (passes test)) records =
      records.filter fun record => tests.all (passes · record) := by
  induction tests generalizing records with
  | nil => exact (List.filter_eq_self.2 fun _ _ => rfl).symm
  | cons test rest ih =>
    rw [List.foldl_cons, ih, List.filter_filter]
    refine List.filter_congr fun record _ => ?_
    rw [List.all_cons, Bool.and_comm]

/-- The groups are the clauses of each field that has any. -/
theorem mem_groups_ofPredicates {predicates : List Predicate} {group : Field × List Predicate} :
    group ∈ (ofPredicates predicates).groups ↔
      group.2 = predicates.filter (·.field = group.1) ∧ group.2 ≠ [] := by
  rw [ofPredicates, List.mem_filterMap]
  constructor
  · rintro ⟨field, -, hgroup⟩
    split at hgroup
    next => cases hgroup
    next hne =>
      obtain rfl := Option.some.inj hgroup
      exact ⟨rfl, hne⟩
  · rintro ⟨hgroup, hne⟩
    refine ⟨group.1, Field.mem_all _, ?_⟩
    split
    next hnil => exact absurd (hgroup.trans hnil) hne
    next => rw [← hgroup]

/-- Every clause is in the group of its field, so that all groups are satisfied exactly if all
clauses are. -/
theorem all_groups_ofPredicates (predicates : List Predicate) (test : Predicate → Bool) :
    ((ofPredicates predicates).groups.all fun group => group.2.all test) = predicates.all test := by
  rw [Bool.eq_iff_iff, List.all_eq_true, List.all_eq_true]
  constructor
  · intro hgroups predicate hpredicate
    -- The group of the clause's field is there, since it holds at least this clause.
    have hmem : predicate ∈ predicates.filter (·.field = predicate.field) := by
      simp [hpredicate]
    have hgroup : (predicate.field, predicates.filter (·.field = predicate.field)) ∈
        (ofPredicates predicates).groups :=
      mem_groups_ofPredicates.2 ⟨rfl, List.ne_nil_of_mem hmem⟩
    exact List.all_eq_true.1 (hgroups _ hgroup) predicate hmem
  · intro hall group hgroup
    refine List.all_eq_true.2 fun predicate hpredicate => ?_
    rw [(mem_groups_ofPredicates.1 hgroup).1] at hpredicate
    exact hall predicate (List.mem_filter.1 hpredicate).1

/-- Narrowing down clause by clause is filtering by all clauses. -/
theorem narrowBy_eq_filter (records : List Record) (predicates : List Predicate) :
    narrowBy records predicates = records.filter fun record => predicates.all (·.accepts record) :=
  foldl_filter predicates Predicate.accepts records

/-- Narrowing down group by group is filtering by all groups. -/
theorem narrow_eq_filter (filters : FilterSet) (records : List Record) :
    filters.narrow records = records.filter fun record =>
      filters.groups.all fun group => group.2.all (·.accepts record) := by
  rw [narrow]
  simp only [narrowBy_eq_filter]
  exact foldl_filter filters.groups (fun group record => group.2.all (·.accepts record)) records

/-- Narrowing down by the groups of some clauses is filtering by all clauses. -/
theorem narrow_ofPredicates (predicates : List Predicate) (records : List Record) :
    (ofPredicates predicates).narrow records =
      records.filter fun record => predicates.all (·.accepts record) := by
  rw [narrow_eq_filter]
  refine List.filter_congr fun record _ => ?_
  exact all_groups_ofPredicates predicates (·.accepts record)

/-! ## Reading clauses -/

theorem all_accepts_iff_satisfies {clauses : List (List Char)} {predicates : List Predicate}
    (h : clauses.mapM Predicate.parse = .ok predicates) (record : Record) :
    predicates.all (·.accepts record) = true ↔ ∀ clause ∈ clauses, record.Satisfies clause := by
  have hclauses := mapM_eq_ok_iff.1 h
  clear h
  induction hclauses with
  | nil => simp
  | cons hclause _ ih =>
    rw [List.all_cons, Bool.and_eq_true, List.forall_mem_cons]
    exact and_congr (Record.satisfies_iff_accepts hclause).symm ih

/-- The clauses of two expressions, one after the other, are read in turn. -/
theorem parseClauses_append (first second : List Char) :
    parseClauses (first ++ ',' :: second) = do
      let predicates ← parseClauses first
      let others ← parseClauses second
      return predicates ++ others := by
  rw [parseClauses, List.splitOn_append_cons_self, List.mapM_append]
  rfl

theorem parse_eq_map_parseClauses {text : String} (h : Text.allBlank text.toList = false) :
    parse (some text) = (parseClauses text.toList).map ofPredicates := by
  simp [parse, h]

/-- The error of an expression is that of its clauses. -/
theorem parseClauses_of_parse_eq_error {text : String} (h : Text.allBlank text.toList = false)
    {error : QueryError} (hparse : parse (some text) = .error error) :
    parseClauses text.toList = .error error := by
  rw [parse_eq_map_parseClauses h] at hparse
  cases hclauses : parseClauses text.toList with
  | error other =>
    rw [hclauses] at hparse
    obtain rfl := Except.error.inj hparse
    rfl
  | ok predicates =>
    rw [hclauses] at hparse
    cases hparse

end FilterSet

/-- The expression made of two, the clauses of the first one before those of the second one. -/
def joined (first second : String) : String :=
  first ++ "," ++ second

theorem toList_joined (first second : String) :
    (joined first second).toList = first.toList ++ ',' :: second.toList := by
  simp [joined]

/-- An expression with a comma is not blank. -/
theorem allBlank_joined (first second : String) :
    Text.allBlank (joined first second).toList = false := by
  rw [toList_joined]
  simp [Text.allBlank, Text.isBlank]

/-- The clauses of an expression made of two are read in turn. -/
theorem parse_joined (first second : String) :
    FilterSet.parse (some (joined first second)) = (do
      let predicates ← FilterSet.parseClauses first.toList
      let others ← FilterSet.parseClauses second.toList
      return FilterSet.ofPredicates (predicates ++ others)) := by
  rw [FilterSet.parse_eq_map_parseClauses (allBlank_joined first second), toList_joined,
    FilterSet.parseClauses_append]
  cases FilterSet.parseClauses first.toList with
  | error error => rfl
  | ok predicates =>
    cases FilterSet.parseClauses second.toList with
    | error error => rfl
    | ok others => rfl

/-! ## What passes an expression -/

/-- An expression by which records can be filtered. -/
def IsFilter (text : String) : Prop :=
  ∃ filters, FilterSet.parse (some text) = .ok filters

instance (text : String) : Decidable (IsFilter text) :=
  match h : FilterSet.parse (some text) with
  | .ok filters => .isTrue ⟨filters, h⟩
  | .error _ => .isFalse fun ⟨_, hother⟩ => by rw [h] at hother; cases hother

/-- The clauses of an expression that can be read. -/
theorem IsFilter.exists_parseClauses {text : String} (h : IsFilter text)
    (hblank : Text.allBlank text.toList = false) :
    ∃ predicates, FilterSet.parseClauses text.toList = .ok predicates := by
  obtain ⟨filters, hparse⟩ := h
  rw [FilterSet.parse_eq_map_parseClauses hblank] at hparse
  cases hclauses : FilterSet.parseClauses text.toList with
  | error error =>
    rw [hclauses] at hparse
    cases hparse
  | ok predicates => exact ⟨predicates, rfl⟩

/-- What passes an expression whose clauses can be read. -/
theorem filterRecords_of_parseClauses {text : String} {predicates : List Predicate}
    (hblank : Text.allBlank text.toList = false)
    (h : FilterSet.parseClauses text.toList = .ok predicates) (records : List Record) :
    filterRecords records (some text) =
      .ok (records.filter fun record => predicates.all (·.accepts record)) := by
  rw [filterRecords, FilterSet.parse_eq_map_parseClauses hblank, h]
  simp only [Except.map, FilterSet.narrow_ofPredicates]

/-- What passes an expression made of two whose clauses can be read. -/
theorem filterRecords_joined {first second : String} {predicates others : List Predicate}
    (hfirst : FilterSet.parseClauses first.toList = .ok predicates)
    (hsecond : FilterSet.parseClauses second.toList = .ok others) (records : List Record) :
    filterRecords records (some (joined first second)) =
      .ok (records.filter fun record =>
        predicates.all (·.accepts record) && others.all (·.accepts record)) := by
  have hparse : FilterSet.parse (some (joined first second)) =
      .ok (FilterSet.ofPredicates (predicates ++ others)) := by
    rw [parse_joined, hfirst, hsecond]
    rfl
  rw [filterRecords, hparse]
  simp only [Except.map, FilterSet.narrow_ofPredicates, List.all_append]

/-- How expressions filter a list of records: an absent or blank one lets all of them pass, any
other one those that satisfy all of its clauses, and one made of two those that pass the one and
then the other. -/
structure FiltersByClauses (records : List Record) : Prop where
  /-- An absent expression passes every record. -/
  absent : filterRecords records none = .ok records
  /-- A blank expression passes every record. -/
  blank : ∀ text : String, Text.allBlank text.toList = true →
    filterRecords records (some text) = .ok records
  /-- Another expression passes the records that satisfy all clauses between its commas. -/
  conjunction : ∀ text : String, Text.allBlank text.toList = false → IsFilter text →
    filterRecords records (some text) =
      .ok (records.filter fun record => ∀ clause ∈ text.toList.splitOn ',', record.Satisfies clause)
  /-- Filtering by two expressions at once is filtering by the one after the other. -/
  in_turn : ∀ first second : String, Text.allBlank first.toList = false →
    Text.allBlank second.toList = false → IsFilter first → IsFilter second →
    filterRecords records (some (joined first second)) =
      (filterRecords records (some first)).bind (filterRecords · (some second))
  /-- It does not matter which of two expressions comes first. -/
  comm : ∀ first second : String, Text.allBlank first.toList = false →
    Text.allBlank second.toList = false → IsFilter first → IsFilter second →
    filterRecords records (some (joined first second)) =
      filterRecords records (some (joined second first))
  /-- Of two expressions the first one that is refused says why. -/
  refused_first : ∀ (first second : String) (error : QueryError),
    Text.allBlank first.toList = false → Text.allBlank second.toList = false →
    FilterSet.parse (some first) = .error error →
    filterRecords records (some (joined first second)) = .error error
  /-- If the first expression is not refused, the second one says why. -/
  refused_second : ∀ (first second : String) (error : QueryError),
    Text.allBlank first.toList = false → Text.allBlank second.toList = false → IsFilter first →
    FilterSet.parse (some second) = .error error →
    filterRecords records (some (joined first second)) = .error error

/-- Filtering is asking of each record whether it satisfies all clauses. -/
theorem filtersByClauses (records : List Record) : FiltersByClauses records where
  absent := filterRecords_none records
  blank text htext := by
    simp [filterRecords, FilterSet.parse, htext, Except.map]
  conjunction text htext hfilter := by
    obtain ⟨predicates, hpredicates⟩ := hfilter.exists_parseClauses htext
    rw [filterRecords_of_parseClauses htext hpredicates]
    refine congrArg Except.ok (List.filter_congr fun record _ => ?_)
    rw [Bool.eq_iff_iff, decide_eq_true_iff]
    exact FilterSet.all_accepts_iff_satisfies hpredicates record
  in_turn first second hfirst hsecond hfilter hother := by
    obtain ⟨predicates, hpredicates⟩ := hfilter.exists_parseClauses hfirst
    obtain ⟨others, hothers⟩ := hother.exists_parseClauses hsecond
    rw [filterRecords_joined hpredicates hothers, filterRecords_of_parseClauses hfirst hpredicates]
    simp only [Except.bind]
    -- Filtering twice asks for the clauses of the second expression first.
    rw [filterRecords_of_parseClauses hsecond hothers, List.filter_filter]
    refine congrArg Except.ok (List.filter_congr fun record _ => ?_)
    exact Bool.and_comm _ _
  comm first second hfirst hsecond hfilter hother := by
    obtain ⟨predicates, hpredicates⟩ := hfilter.exists_parseClauses hfirst
    obtain ⟨others, hothers⟩ := hother.exists_parseClauses hsecond
    rw [filterRecords_joined hpredicates hothers, filterRecords_joined hothers hpredicates]
    refine congrArg Except.ok (List.filter_congr fun record _ => ?_)
    exact Bool.and_comm _ _
  refused_first first second error hfirst _ herror := by
    rw [filterRecords, parse_joined, FilterSet.parseClauses_of_parse_eq_error hfirst herror]
    rfl
  refused_second first second error hfirst hsecond hfilter herror := by
    obtain ⟨predicates, hpredicates⟩ := hfilter.exists_parseClauses hfirst
    rw [filterRecords, parse_joined, hpredicates,
      FilterSet.parseClauses_of_parse_eq_error hsecond herror]
    rfl

/-- Records with a size that is a number, a text or missing. -/
def crates : List Record := [
  { id := "1", name := some (.text "Now"), size := some (.number 300) },
  { id := "2", name := some (.text "Overplayed"), size := some (.number 640) },
  { id := "3", size := some (.text "400") },
  { id := "4", name := some (.text "Now and Then") }]

/-- Of the crates with at least 300 tracks one has a name with `now` in it. -/
theorem filtersByClauses_crates :
    IsFilter "size:geq:300" ∧ IsFilter "n:NOW" ∧
      filterRecords crates (some "size:geq:300") = .ok (crates.filter fun record =>
        ∀ clause ∈ "size:geq:300".toList.splitOn ',', record.Satisfies clause) ∧
      filterRecords crates (some (joined "n:NOW" "size:geq:300")) =
        (filterRecords crates (some "n:NOW")).bind (filterRecords · (some "size:geq:300")) ∧
      (filterRecords crates (some (joined "n:NOW" "size:geq:300"))).toOption =
        some (crates.take 1) := by
  have hsize : IsFilter "size:geq:300" := by decide +kernel
  have hname : IsFilter "n:NOW" := by decide +kernel
  refine ⟨hsize, hname, ?_, ?_, by decide +kernel⟩
  · exact (filtersByClauses crates).conjunction _ (by decide) hsize
  · exact (filtersByClauses crates).in_turn _ _ (by decide) (by decide) hname hsize

end PlaylistCurator
