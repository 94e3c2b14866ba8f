import Mathlib.Data.List.Perm.Subperm
import PlaylistCurator.Proofs.Query.Clauses
import PlaylistCurator.Proofs.Query.Conjunction
import PlaylistCurator.Proofs.Query.Naming

/-!
# What a filter expression says

The clauses that can be read, what each of them says, and what is wrong with the others are
described without regard to how a clause is read. Reading agrees with this description. Main
statements:

* `Predicate.ofClause_eq_ok_iff`, `Predicate.ofClause_eq_error_iff`: what is read from a clause;
* `FilterSet.isGrouping_iff`: a filter set groups the clauses of each field, in canonical order;
* `readsFilters`: an expression is read if all of its clauses can be, and otherwise refused for the
  first one that cannot.
-/

namespace PlaylistCurator

/-! ## The parts of a clause -/

/-- The field, the operator, if there is one, and the value of a clause with one or two colons. -/
inductive HasParts : List Char → List Char → Option (List Char) → List Char → Prop
  | pair {first last : List Char} (hfirst : ':' ∉ first) (hlast : ':' ∉ last) :
      HasParts (first ++ ':' :: last) first none last
  | triple {first second last : List Char} (hfirst : ':' ∉ first) (hsecond : ':' ∉ second)
      (hlast : ':' ∉ last) :
      HasParts (first ++ ':' :: (second ++ ':' :: last)) first (some second) last

variable {clause first last : List Char} {second : Option (List Char)}

/-- A clause that has no such parts has another number of parts. -/
theorem exists_hasParts_or (clause : List Char) :
    (∃ first second last, HasParts clause first second last) ∨
      (clause.splitOn ':').length ≠ 2 ∧ (clause.splitOn ':').length ≠ 3 := by
  by_cases htwo : (clause.splitOn ':').length = 2
  · obtain ⟨first, last, hparts⟩ := List.length_eq_two.1 htwo
    obtain ⟨hfirst, hlast, rfl⟩ := splitOn_eq_pair_iff.1 hparts
    exact .inl ⟨first, none, last, .pair hfirst hlast⟩
  · by_cases hthree : (clause.splitOn ':').length = 3
    · obtain ⟨first, second, last, hparts⟩ := List.length_eq_three.1 hthree
      obtain ⟨hfirst, hsecond, hlast, rfl⟩ := splitOn_eq_triple_iff.1 hparts
      exact .inl ⟨first, some second, last, .triple hfirst hsecond hlast⟩
    · exact .inr ⟨htwo, hthree⟩

/-- A part of a clause names what its lower-case form without the blanks around it names. -/
def PartNames {ι : Type} (registrations : List (String × ι)) (part : List Char) (identifier : ι) :
    Prop :=
  IsNamedBy registrations identifier (Text.lower (Text.trim part))

/-- Without an operator a clause asks whether the field contains the value. -/
def AsksFor : Option (List Char) → Operator → Prop
  | none, operator => operator = .contains
  | some second, operator => PartNames Operator.abbreviations second operator

/-! ## What a clause says -/

/-- A clause says a predicate: it names the field and asks for the operator of the predicate, and
what remains of its last part without the blanks around it is the value. A numeric operator takes a
size and an integer. -/
inductive Predicate.IsSaidBy (predicate : Predicate) (clause : List Char) : Prop
  | of_parts {first : List Char} {second : Option (List Char)} {last : List Char}
      (hparts : HasParts clause first second last)
      (hfirst : PartNames Field.abbreviations first predicate.field)
      (hoperator : AsksFor second predicate.operator)
      (hnumeric : predicate.operator.isNumeric = true →
        predicate.field = .size ∧ (Text.int64? (Text.trim last)).isSome = true)
      (hvalue : predicate.value = String.ofList (Text.trim last))

/-- What is wrong with a clause that says nothing. Its parts are looked at from the left. -/
inductive FilterFault.IsFoundIn : FilterFault → List Char → Prop
  | partCount {clause : List Char} (htwo : (clause.splitOn ':').length ≠ 2)
      (hthree : (clause.splitOn ':').length ≠ 3) :
      IsFoundIn (.partCount (clause.splitOn ':').length) clause
  | unknownField {clause first last : List Char} {second : Option (List Char)}
      (hparts : HasParts clause first second last)
      (hfirst : ∀ field, ¬ PartNames Field.abbreviations first field) :
      IsFoundIn (.unknownField ⟨Predicate.lookupWord (Text.trim first)⟩) clause
  | unknownOperator {clause first second last : List Char} {field : Field}
      (hparts : HasParts clause first (some second) last)
      (hfirst : PartNames Field.abbreviations first field)
      (hoperator : ∀ operator, ¬ PartNames Operator.abbreviations second operator) :
      IsFoundIn (.unknownOperator ⟨Predicate.lookupWord (Text.trim second)⟩) clause
  | textField {clause first last : List Char} {second : Option (List Char)} {field : Field}
      {operator : Operator} (hparts : HasParts clause first second last)
      (hfirst : PartNames Field.abbreviations first field) (hoperator : AsksFor second operator)
      (hnumeric : operator.isNumeric = true) (hfield : field ≠ .size) :
      IsFoundIn (.textField operator field) clause
  | notAnInteger {clause first last : List Char} {second : Option (List Char)} {operator : Operator}
      (hparts : HasParts clause first second last)
      (hfirst : PartNames Field.abbreviations first .size) (hoperator : AsksFor second operator)
      (hnumeric : operator.isNumeric = true) (hvalue : Text.int64? (Text.trim last) = none) :
      IsFoundIn (.notAnInteger operator (String.ofList (Text.trim last))) clause

/-! ## Reading a clause -/

/-- Sizes are the only numbers. -/
theorem Field.isNumeric_iff {field : Field} : field.isNumeric = true ↔ field = .size := by
  cases field <;> decide

/-- The field that a part of a clause is read as. -/
theorem Field.find_lookupWord_eq_ok_iff {part : List Char} {field : Field} :
    Field.find (some (Predicate.lookupWord (Text.trim part))) = .ok field ↔
      PartNames Field.abbreviations part field := by
  rw [Field.find_eq_ok_iff, Predicate.lookupWord, String.toList_ofList, PartNames]

/-- A part that names no field is unknown as the word that was looked up. -/
theorem Field.find_lookupWord_eq_error_iff {part : List Char} {unknown : UnknownToken} :
    Field.find (some (Predicate.lookupWord (Text.trim part))) = .error unknown ↔
      unknown = ⟨Predicate.lookupWord (Text.trim part)⟩ ∧
        ∀ field, ¬ PartNames Field.abbreviations part field := by
  rw [Field.find_eq_error_iff]
  simp only [PartNames, Predicate.lookupWord, String.toList_ofList]

namespace Predicate

variable {predicate : Predicate} {fault : FilterFault} {field : Field} {operator : Operator}

theorem checked_eq_ok_iff :
    checked field operator last = .ok predicate ↔
      (operator.isNumeric = true → field = .size ∧ (Text.int64? last).isSome = true) ∧
        predicate = ⟨field, operator, String.ofList last⟩ := by
  rw [← Field.isNumeric_iff, checked]
  cases operator.isNumeric <;> cases field.isNumeric <;> cases Text.int64? last <;>
    simp [eq_comm]

theorem checked_eq_error_iff :
    checked field operator last = .error fault ↔
      operator.isNumeric = true ∧
        (field ≠ .size ∧ fault = .textField operator field ∨
          field = .size ∧ Text.int64? last = none ∧
            fault = .notAnInteger operator (String.ofList last)) := by
  rw [Ne, ← Field.isNumeric_iff, checked]
  cases operator.isNumeric <;> cases field.isNumeric <;> cases Text.int64? last <;>
    simp [eq_comm]

theorem findField_eq_ok_iff :
    (Field.find (some (lookupWord (Text.trim first)))).mapError FilterFault.unknownField =
      .ok field ↔ PartNames Field.abbreviations first field := by
  rw [mapError_eq_ok_iff, Field.find_lookupWord_eq_ok_iff]

theorem findField_eq_error_iff :
    (Field.find (some (lookupWord (Text.trim first)))).mapError FilterFault.unknownField =
      .error fault ↔
        (∀ field, ¬ PartNames Field.abbreviations first field) ∧
          fault = .unknownField ⟨lookupWord (Text.trim first)⟩ := by
  rw [mapError_eq_error_iff]
  simp only [Field.find_lookupWord_eq_error_iff]
  constructor
  · rintro ⟨unknown, ⟨rfl, hunknown⟩, rfl⟩
    exact ⟨hunknown, rfl⟩
  · rintro ⟨hunknown, rfl⟩
    exact ⟨_, ⟨rfl, hunknown⟩, rfl⟩

/-- The operator that a clause is read as asking for. -/
def findOperator : Option (List Char) → Except FilterFault Operator
  | none => .ok .contains
  | some second => (Operator.find (some (lookupWord second))).mapError .unknownOperator

theorem findOperator_eq_ok_iff :
    findOperator (second.map Text.trim) = .ok operator ↔ AsksFor second operator := by
  cases second with
  | none => simp [findOperator, AsksFor, eq_comm]
  | some second =>
    rw [Option.map_some, findOperator, mapError_eq_ok_iff, Operator.find_eq_ok_iff, lookupWord,
      String.toList_ofList, AsksFor, PartNames]

theorem findOperator_eq_error_iff :
    findOperator (second.map Text.trim) = .error fault ↔
      ∃ part, second = some part ∧ (∀ operator, ¬ PartNames Operator.abbreviations part operator) ∧
        fault = .unknownOperator ⟨lookupWord (Text.trim part)⟩ := by
  cases second with
  | none => simp [findOperator]
  | some part =>
    rw [Option.map_some, findOperator, mapError_eq_error_iff]
    simp only [Operator.find_eq_error_iff, PartNames, lookupWord, String.toList_ofList]
    grind

theorem ofParts_eq_bind (first : List Char) (second : Option (List Char)) (last : List Char) :
    ofParts first second last =
      (Field.find (some (lookupWord first))).mapError .unknownField >>= fun field =>
        findOperator second >>= fun operator => checked field operator last := by
  cases second <;> rfl

theorem ofClause_of_hasParts (h : HasParts clause first second last) :
    ofClause clause = ofParts (Text.trim first) (second.map Text.trim) (Text.trim last) := by
  cases h with
  | pair hfirst hlast =>
    rw [ofClause, splitOn_eq_pair_iff.2 ⟨hfirst, hlast, rfl⟩]
    rfl
  | triple hfirst hsecond hlast =>
    rw [ofClause, splitOn_eq_triple_iff.2 ⟨hfirst, hsecond, hlast, rfl⟩]
    rfl

theorem ofClause_of_length (htwo : (clause.splitOn ':').length ≠ 2)
    (hthree : (clause.splitOn ':').length ≠ 3) :
    ofClause clause = .error (.partCount (clause.splitOn ':').length) := by
  rw [ofClause]
  split
  next first last hparts =>
    have hlength := congrArg List.length hparts
    rw [List.length_map] at hlength
    exact absurd hlength htwo
  next first second last hparts =>
    have hlength := congrArg List.length hparts
    rw [List.length_map] at hlength
    exact absurd hlength hthree
  next => rw [List.length_map]

theorem ofClause_eq_ok_iff_of_hasParts (h : HasParts clause first second last) :
    ofClause clause = .ok predicate ↔
      PartNames Field.abbreviations first predicate.field ∧ AsksFor second predicate.operator ∧
        (predicate.operator.isNumeric = true →
          predicate.field = .size ∧ (Text.int64? (Text.trim last)).isSome = true) ∧
        predicate.value = String.ofList (Text.trim last) := by
  rw [ofClause_of_hasParts h, ofParts_eq_bind, bind_eq_ok_iff]
  simp only [bind_eq_ok_iff, findField_eq_ok_iff, findOperator_eq_ok_iff, checked_eq_ok_iff]
  constructor
  · rintro ⟨field, hfield, operator, hoperator, hnumeric, rfl⟩
    exact ⟨hfield, hoperator, hnumeric, rfl⟩
  · rintro ⟨hfield, hoperator, hnumeric, hvalue⟩
    exact ⟨_, hfield, _, hoperator, hnumeric, hvalue ▸ rfl⟩

/-- What is read from a clause is what it says. -/
theorem ofClause_eq_ok_iff : ofClause clause = .ok predicate ↔ predicate.IsSaidBy clause := by
  constructor
  · intro h
    rcases exists_hasParts_or clause with ⟨first, second, last, hparts⟩ | ⟨htwo, hthree⟩
    · obtain ⟨hfirst, hoperator, hnumeric, hvalue⟩ := (ofClause_eq_ok_iff_of_hasParts hparts).1 h
      exact .of_parts hparts hfirst hoperator hnumeric hvalue
    · rw [ofClause_of_length htwo hthree] at h
      cases h
  · rintro ⟨hparts, hfirst, hoperator, hnumeric, hvalue⟩
    exact (ofClause_eq_ok_iff_of_hasParts hparts).2 ⟨hfirst, hoperator, hnumeric, hvalue⟩

/-- A clause is refused for what is wrong with it. -/
theorem ofClause_eq_error_iff : ofClause clause = .error fault ↔ fault.IsFoundIn clause := by
  constructor
  · intro h
    rcases exists_hasParts_or clause with ⟨first, second, last, hparts⟩ | ⟨htwo, hthree⟩
    · rw [ofClause_of_hasParts hparts, ofParts_eq_bind, bind_eq_error_iff] at h
      simp only [bind_eq_error_iff, findField_eq_ok_iff, findField_eq_error_iff,
        findOperator_eq_ok_iff, findOperator_eq_error_iff, checked_eq_error_iff] at h
      -- The field comes first, then the operator, and the value only once both are known.
      rcases h with ⟨hfirst, rfl⟩ | ⟨field, hfield, ⟨part, rfl, hoperator, rfl⟩ |
        ⟨operator, hoperator, hnumeric, ⟨hsize, rfl⟩ | ⟨rfl, hvalue, rfl⟩⟩⟩
      · exact .unknownField hparts hfirst
      · exact .unknownOperator hparts hfield hoperator
      · exact .textField hparts hfield hoperator hnumeric hsize
      · exact .notAnInteger hparts hfield hoperator hnumeric hvalue
    · rw [ofClause_of_length htwo hthree] at h
      obtain rfl := Except.error.inj h
      exact .partCount htwo hthree
  · intro h
    cases h with
    | partCount htwo hthree => exact ofClause_of_length htwo hthree
    | unknownField hparts hfirst =>
      rw [ofClause_of_hasParts hparts, ofParts_eq_bind, bind_eq_error_iff, findField_eq_error_iff]
      exact .inl ⟨hfirst, rfl⟩
    | unknownOperator hparts hfirst hoperator =>
      rw [ofClause_of_hasParts hparts, ofParts_eq_bind, bind_eq_error_iff]
      refine .inr ⟨_, findField_eq_ok_iff.2 hfirst, bind_eq_error_iff.2 (.inl ?_)⟩
      exact findOperator_eq_error_iff.2 ⟨_, rfl, hoperator, rfl⟩
    | textField hparts hfirst hoperator hnumeric hfield =>
      rw [ofClause_of_hasParts hparts, ofParts_eq_bind, bind_eq_error_iff]
      refine .inr ⟨_, findField_eq_ok_iff.2 hfirst, bind_eq_error_iff.2 (.inr ?_)⟩
      refine ⟨_, findOperator_eq_ok_iff.2 hoperator, checked_eq_error_iff.2 ?_⟩
      exact ⟨hnumeric, .inl ⟨hfield, rfl⟩⟩
    | notAnInteger hparts hfirst hoperator hnumeric hvalue =>
      rw [ofClause_of_hasParts hparts, ofParts_eq_bind, bind_eq_error_iff]
      refine .inr ⟨_, findField_eq_ok_iff.2 hfirst, bind_eq_error_iff.2 (.inr ?_)⟩
      refine ⟨_, findOperator_eq_ok_iff.2 hoperator, checked_eq_error_iff.2 ?_⟩
      exact ⟨hnumeric, .inr ⟨rfl, hvalue, rfl⟩⟩

/-- An expression's clause, without the blanks around it, gives what it says. -/
theorem parse_eq_ok_iff : parse clause = .ok predicate ↔ predicate.IsSaidBy (Text.trim clause) := by
  rw [parse, mapError_eq_ok_iff, ofClause_eq_ok_iff]

theorem parse_eq_error_iff {error : QueryError} :
    parse clause = .error error ↔
      ∃ fault, fault.IsFoundIn (Text.trim clause) ∧
        error = .invalidFilter (String.ofList (Text.trim clause)) fault := by
  rw [parse, mapError_eq_error_iff]
  exact exists_congr fun fault => and_congr ofClause_eq_error_iff eq_comm

end Predicate

/-! ## Groups of clauses -/

namespace FilterSet

variable {filters : FilterSet} {predicates : List Predicate}

/-- The clauses of each field that has any, in their order, and the fields in canonical order. -/
structure IsGrouping (filters : FilterSet) (predicates : List Predicate) : Prop where
  /-- The fields stand in canonical order, and none of them twice. -/
  canonical : (filters.groups.map (·.1)).Sublist Field.all
  /-- No group is empty. -/
  nonempty : ∀ group ∈ filters.groups, group.2 ≠ []
  /-- A group holds the clauses of its field and no others, in the order they are written in. -/
  own : ∀ group ∈ filters.groups, group.2 = predicates.filter (·.field = group.1)
  /-- Every clause's field has a group. -/
  complete : ∀ predicate ∈ predicates, predicate.field ∈ filters.groups.map (·.1)

theorem map_fst_filterMap_sublist {α γ : Type} {f : α → Option (α × γ)}
    (hf : ∀ a pair, f a = some pair → pair.1 = a) (xs : List α) :
    ((xs.filterMap f).map (·.1)).Sublist xs := by
  induction xs with
  | nil => exact List.Sublist.slnil
  | cons a rest ih =>
    cases hpair : f a with
    | none =>
      rw [List.filterMap_cons_none hpair]
      exact ih.cons a
    | some pair =>
      rw [List.filterMap_cons_some hpair, List.map_cons, hf a pair hpair]
      exact ih.cons_cons a

theorem isGrouping_ofPredicates (predicates : List Predicate) :
    (ofPredicates predicates).IsGrouping predicates where
  canonical := by
    apply map_fst_filterMap_sublist
    intro field group hgroup
    split at hgroup
    next => cases hgroup
    next =>
      obtain rfl := Option.some.inj hgroup
      rfl
  nonempty := fun _ hgroup => (mem_groups_ofPredicates.1 hgroup).2
  own := fun _ hgroup => (mem_groups_ofPredicates.1 hgroup).1
  complete := fun predicate hpredicate => by
    have hgroup : (predicate.field, predicates.filter (·.field = predicate.field)) ∈
        (ofPredicates predicates).groups := by
      refine mem_groups_ofPredicates.2 ⟨rfl, List.ne_nil_of_mem (a := predicate) ?_⟩
      simp [hpredicate]
    exact List.mem_map.2 ⟨_, hgroup, rfl⟩

/-- The fields of the groups are those that some clause is about. -/
theorem IsGrouping.mem_fields_iff (h : filters.IsGrouping predicates) {field : Field} :
    field ∈ filters.groups.map (·.1) ↔ ∃ predicate ∈ predicates, predicate.field = field := by
  constructor
  · intro hfield
    obtain ⟨group, hgroup, rfl⟩ := List.mem_map.1 hfield
    obtain ⟨predicate, hpredicate⟩ := List.exists_mem_of_ne_nil _ (h.nonempty group hgroup)
    rw [h.own group hgroup, List.mem_filter] at hpredicate
    exact ⟨predicate, hpredicate.1, of_decide_eq_true hpredicate.2⟩
  · rintro ⟨predicate, hpredicate, rfl⟩
    exact h.complete predicate hpredicate

/-- The groups follow from their fields. -/
theorem IsGrouping.groups_eq (h : filters.IsGrouping predicates) :
    filters.groups = (filters.groups.map (·.1)).map fun field =>
      (field, predicates.filter (·.field = field)) := by
  rw [List.map_map]
  refine (List.map_id _).symm.trans (List.map_congr_left fun group hgroup => ?_)
  exact Prod.ext rfl (h.own group hgroup)

/-- There is one way to group clauses. -/
theorem IsGrouping.eq {other : FilterSet} (h : filters.IsGrouping predicates)
    (hother : other.IsGrouping predicates) : filters = other := by
  have hall : Field.all.Nodup := by decide
  have hfields : filters.groups.map (·.1) = other.groups.map (·.1) := by
    apply (List.Nodup.perm_iff_eq_of_sublist hall h.canonical hother.canonical).1
    apply (List.perm_ext_iff_of_nodup (h.canonical.nodup hall) (hother.canonical.nodup hall)).2
    intro field
    rw [h.mem_fields_iff, hother.mem_fields_iff]
  have hgroups : filters.groups = other.groups := by
    rw [h.groups_eq, hother.groups_eq, hfields]
  cases filters
  cases other
  exact congrArg FilterSet.mk hgroups

/-- The clauses of an expression are grouped by field. -/
theorem isGrouping_iff : filters.IsGrouping predicates ↔ filters = ofPredicates predicates := by
  constructor
  · intro h
    exact h.eq (isGrouping_ofPredicates predicates)
  · rintro rfl
    exact isGrouping_ofPredicates predicates

end FilterSet

/-! ## Reading an expression -/

/-- What is read from a filter expression: nothing from a blank one, from another one what its
clauses say, up to the first that says nothing. -/
structure ReadsFilters (text : String) : Prop where
  /-- A blank expression holds no clauses. -/
  blank : Text.allBlank text.toList = true → FilterSet.parse (some text) = .ok ⟨[]⟩
  /-- An expression that is not blank is read if each of its clauses says something. -/
  isFilter_iff : Text.allBlank text.toList = false →
    (IsFilter text ↔ ∀ clause ∈ text.toList.splitOn ',',
      ∃ predicate : Predicate, predicate.IsSaidBy (Text.trim clause))
  /-- What is read are the groups of what the clauses say. -/
  parse_eq_ok_iff : Text.allBlank text.toList = false → ∀ filters,
    FilterSet.parse (some text) = .ok filters ↔
      ∃ predicates, filters.IsGrouping predicates ∧
        List.Forall₂ (fun predicate clause => predicate.IsSaidBy (Text.trim clause)) predicates
          (text.toList.splitOn ',')
  /-- An expression is refused for the first clause that has a fault, which the error names. -/
  parse_eq_error_iff : Text.allBlank text.toList = false → ∀ error,
    FilterSet.parse (some text) = .error error ↔
      ∃ before clause after fault, text.toList.splitOn ',' = before ++ clause :: after ∧
        (∀ earlier ∈ before, ∃ predicate : Predicate, predicate.IsSaidBy (Text.trim earlier)) ∧
        fault.IsFoundIn (Text.trim clause) ∧
          error = .invalidFilter (String.ofList (Text.trim clause)) fault

namespace FilterSet

variable {text : List Char}

theorem parseClauses_eq_ok_iff {predicates : List Predicate} :
    parseClauses text = .ok predicates ↔
      List.Forall₂ (fun predicate clause => predicate.IsSaidBy (Text.trim clause)) predicates
        (text.splitOn ',') := by
  rw [parseClauses, mapM_eq_ok_iff]
  simp only [Predicate.parse_eq_ok_iff]

theorem parseClauses_eq_error_iff {error : QueryError} :
    parseClauses text = .error error ↔
      ∃ before clause after fault, text.splitOn ',' = before ++ clause :: after ∧
        (∀ earlier ∈ before, ∃ predicate : Predicate, predicate.IsSaidBy (Text.trim earlier)) ∧
        fault.IsFoundIn (Text.trim clause) ∧
          error = .invalidFilter (String.ofList (Text.trim clause)) fault := by
  rw [parseClauses, mapM_eq_error_iff]
  simp only [Predicate.parse_eq_ok_iff, Predicate.parse_eq_error_iff, exists_and_left]

/-- An expression can be read if its clauses can. -/
theorem isFilter_iff_exists_parseClauses {text : String}
    (h : Text.allBlank text.toList = false) :
    IsFilter text ↔ ∃ predicates, parseClauses text.toList = .ok predicates := by
  constructor
  · intro hfilter
    exact hfilter.exists_parseClauses h
  · rintro ⟨predicates, hpredicates⟩
    refine ⟨ofPredicates predicates, ?_⟩
    rw [parse_eq_map_parseClauses h, hpredicates]
    rfl

end FilterSet

/-- Reading an expression agrees with what its clauses say. -/
theorem readsFilters (text : String) : ReadsFilters text where
  blank hblank := by simp [FilterSet.parse, hblank]
  isFilter_iff hblank := by
    rw [FilterSet.isFilter_iff_exists_parseClauses hblank]
    simp only [FilterSet.parseClauses_eq_ok_iff]
    exact exists_forall₂_iff
  parse_eq_ok_iff hblank filters := by
    simp only [FilterSet.isGrouping_iff, ← FilterSet.parseClauses_eq_ok_iff]
    rw [FilterSet.parse_eq_map_parseClauses hblank]
    cases FilterSet.parseClauses text.toList with
    | error error => simp [Except.map]
    | ok predicates => simp [Except.map, eq_comm]
  parse_eq_error_iff hblank error := by
    rw [← FilterSet.parseClauses_eq_error_iff, FilterSet.parse_eq_map_parseClauses hblank]
    cases FilterSet.parseClauses text.toList with
    | error other => simp [Except.map]
    | ok predicates => simp [Except.map]

/-- An expression that is read, and one that is refused for the first of its two bad clauses. -/
theorem readsFilters_sizes :
    (∃ filters, FilterSet.parse (some " SIZE : geq : +5 , n:Rock") = .ok filters ∧
      ∃ predicates, filters.IsGrouping predicates ∧
        List.Forall₂ (fun predicate clause => predicate.IsSaidBy (Text.trim clause)) predicates
          (" SIZE : geq : +5 , n:Rock".toList.splitOn ',')) ∧
      FilterSet.parse (some "n:a, size:gt:many ,x") =
        .error (.invalidFilter "size:gt:many" (.notAnInteger .greater "many")) ∧
      ∃ before clause after fault, "n:a, size:gt:many ,x".toList.splitOn ',' =
          before ++ clause :: after ∧
        (∀ earlier ∈ before, ∃ predicate : Predicate, predicate.IsSaidBy (Text.trim earlier)) ∧
        fault.IsFoundIn (Text.trim clause) ∧
          QueryError.invalidFilter "size:gt:many" (.notAnInteger .greater "many") =
            .invalidFilter (String.ofList (Text.trim clause)) fault := by
  have hok : FilterSet.parse (some " SIZE : geq : +5 , n:Rock") =
      .ok ⟨[(.name, [⟨.name, .contains, "Rock"⟩]), (.size, [⟨.size, .greaterEqual, "+5"⟩])]⟩ := by
    decide +kernel
  have herror : FilterSet.parse (some "n:a, size:gt:many ,x") =
      .error (.invalidFilter "size:gt:many" (.notAnInteger .greater "many")) := by
    decide +kernel
  refine ⟨⟨_, hok, ?_⟩, herror, ?_⟩
  · exact ((readsFilters _).parse_eq_ok_iff (by decide) _).1 hok
  · exact ((readsFilters _).parse_eq_error_iff (by decide) _).1 herror

end PlaylistCurator
