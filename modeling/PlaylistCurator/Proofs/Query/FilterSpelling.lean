import PlaylistCurator.Proofs.Query.FilterReading
import PlaylistCurator.Proofs.Text.LowerCasing
import PlaylistCurator.Proofs.Text.Trimming

/-!
# Writing filter expressions

A clause can be written in many ways: with any of the words for its field and its operator, spelled
out further, in letters of either case, and with blanks around them. All of these are read as the
clause. What can be written in this way is all that is ever read, so that an expression can be
written again without a change of its meaning. Main statements:

* `IsWordFor.partNames`: a word is found however it is spelled;
* `Predicate.IsSpelledBy.isSaidBy`: a clause is read however it is spelled;
* `FilterSet.IsGrouping.regroup`: clauses that stand in groups are grouped in the same way;
* `expressionsRoundTrip`: expressions are read as they were written, and can be written again.
-/

namespace PlaylistCurator

/-! ## Words -/

/-- A character that can be part of a word. -/
def IsPlain (c : Char) : Prop :=
  c ≠ ',' ∧ c ≠ ':' ∧ Text.isBlank c = false

instance (c : Char) : Decidable (IsPlain c) :=
  inferInstanceAs (Decidable (c ≠ ',' ∧ c ≠ ':' ∧ Text.isBlank c = false))

/-- A word for an identifier: one of its abbreviations, in letters of either case, and after it any
other characters that can be part of a word. -/
def IsWordFor {ι : Type} (registrations : List (String × ι)) (identifier : ι) (word : List Char) :
    Prop :=
  ∃ abbreviation start rest, (abbreviation, identifier) ∈ registrations ∧
    start.map Char.toLower = abbreviation.toList ∧ (∀ c ∈ rest, IsPlain c) ∧ word = start ++ rest

/-- The words of a table are made of lower-case letters. -/
def IsLettered {ι : Type} (registrations : List (String × ι)) : Prop :=
  ∀ entry ∈ registrations, entry.1.toList.all Char.isLower = true

theorem Field.isLettered_abbreviations : IsLettered Field.abbreviations := by
  unfold IsLettered
  decide +kernel

theorem Operator.isLettered_abbreviations : IsLettered Operator.abbreviations := by
  unfold IsLettered
  decide +kernel

/-- A letter can be part of a word. -/
theorem isPlain_of_isLower_toLower {c : Char} (h : c.toLower.isLower = true) : IsPlain c := by
  have hall : ∀ n < 128, (Char.ofNat n).toLower.isLower = true →
      Char.ofNat n ≠ ',' ∧ Char.ofNat n ≠ ':' ∧ Text.isBlank (Char.ofNat n) = false := by
    decide +kernel
  have hplain := hall c.toNat (Text.lt_of_isLower_toLower h)
  rw [Char.ofNat_toNat] at hplain
  exact hplain h

section Words

variable {ι : Type} {registrations : List (String × ι)} {identifier : ι} {word padded : List Char}

theorem isLower_of_map_toLower (hletters : IsLettered registrations) {abbreviation : String}
    (hmem : (abbreviation, identifier) ∈ registrations) {start : List Char}
    (hstart : start.map Char.toLower = abbreviation.toList) :
    ∀ c ∈ start, c.toLower.isLower = true := by
  intro c hc
  apply List.all_eq_true.1 (hletters _ hmem)
  rw [← hstart]
  exact List.mem_map_of_mem hc

/-- An abbreviation is a word by itself. -/
theorem isWordFor_of_mem (hletters : IsLettered registrations) {abbreviation : String}
    (hmem : (abbreviation, identifier) ∈ registrations) :
    IsWordFor registrations identifier abbreviation.toList := by
  refine ⟨abbreviation, abbreviation.toList, [], hmem, ?_, by simp, by simp⟩
  refine (List.map_congr_left fun c hc => ?_).trans (List.map_id _)
  exact Text.toLower_of_isLower (List.all_eq_true.1 (hletters _ hmem) c hc)

/-- A word holds neither separators nor blanks. -/
theorem IsWordFor.isPlain (hletters : IsLettered registrations)
    (h : IsWordFor registrations identifier word) : ∀ c ∈ word, IsPlain c := by
  obtain ⟨abbreviation, start, rest, hmem, hstart, hrest, rfl⟩ := h
  intro c hc
  rcases List.mem_append.1 hc with hc | hc
  · exact isPlain_of_isLower_toLower (isLower_of_map_toLower hletters hmem hstart c hc)
  · exact hrest c hc

/-- The lower-case form of a word begins with the abbreviation that the word was made of. -/
theorem IsWordFor.isNamedBy_lower (hletters : IsLettered registrations)
    (h : IsWordFor registrations identifier word) :
    IsNamedBy registrations identifier (Text.lower word) := by
  obtain ⟨abbreviation, start, rest, hmem, hstart, -, rfl⟩ := h
  have hascii : ∀ c ∈ start, c.toNat < 128 := fun c hc =>
    Text.lt_of_isLower_toLower (isLower_of_map_toLower hletters hmem hstart c hc)
  refine ⟨abbreviation, hmem, ?_⟩
  rw [Text.lower_append, Text.lowerBetween_of_ascii hascii, hstart]
  exact List.prefix_append _ _

/-- A word is found however it is spelled. -/
theorem IsWordFor.partNames (hletters : IsLettered registrations)
    (h : IsWordFor registrations identifier word) (hpadded : Text.IsPadded word padded) :
    PartNames registrations padded identifier := by
  have hblank : ∀ c ∈ word, Text.isBlank c = false := fun c hc => (h.isPlain hletters c hc).2.2
  have htrim : Text.trim word = word := by
    refine Text.trim_eq_self_iff.2 ⟨?_, ?_⟩
    · intro c hc
      exact hblank c (List.mem_of_mem_head? hc)
    · intro c hc
      exact hblank c (List.mem_of_mem_getLast? hc)
  rw [PartNames, hpadded.trim_eq, htrim]
  exact h.isNamedBy_lower hletters

theorem IsWordFor.not_mem (hletters : IsLettered registrations)
    (h : IsWordFor registrations identifier word) (hpadded : Text.IsPadded word padded) :
    ',' ∉ padded ∧ ':' ∉ padded := by
  constructor
  · exact hpadded.not_mem (by decide) fun hmem => (h.isPlain hletters _ hmem).1 rfl
  · exact hpadded.not_mem (by decide) fun hmem => (h.isPlain hletters _ hmem).2.1 rfl

end Words

/-! ## Clauses -/

namespace Predicate

/-- A clause that can be written: its value holds no separators and has no blanks around it, and a
numeric operator stands with a size and an integer. -/
structure IsExpressible (predicate : Predicate) : Prop where
  /-- The value holds no comma. -/
  comma : ',' ∉ predicate.value.toList
  /-- The value holds no colon. -/
  colon : ':' ∉ predicate.value.toList
  /-- The value does not begin with a blank. -/
  start : ∀ c ∈ predicate.value.toList.head?, Text.isBlank c = false
  /-- The value does not end with a blank. -/
  stop : ∀ c ∈ predicate.value.toList.getLast?, Text.isBlank c = false
  /-- A numeric operator compares a size with a signed 64-bit integer. -/
  numeric : predicate.operator.isNumeric = true →
    predicate.field = .size ∧ (Text.int64? predicate.value.toList).isSome = true

/-- The ways to write a clause: words for its field and its operator, and its value, with colons
between them and any blanks around them. Containing needs no word. -/
inductive IsSpelledBy (predicate : Predicate) : List Char → Prop
  | explicit {field operator first second last : List Char}
      (hfield : IsWordFor Field.abbreviations predicate.field field)
      (hoperator : IsWordFor Operator.abbreviations predicate.operator operator)
      (hfirst : Text.IsPadded field first) (hsecond : Text.IsPadded operator second)
      (hlast : Text.IsPadded predicate.value.toList last) :
      IsSpelledBy predicate (first ++ ':' :: (second ++ ':' :: last))
  | implicit {field first last : List Char} (hcontains : predicate.operator = .contains)
      (hfield : IsWordFor Field.abbreviations predicate.field field)
      (hfirst : Text.IsPadded field first) (hlast : Text.IsPadded predicate.value.toList last) :
      IsSpelledBy predicate (first ++ ':' :: last)

variable {predicate : Predicate} {clause : List Char}

theorem IsExpressible.trim_value (h : predicate.IsExpressible) :
    Text.trim predicate.value.toList = predicate.value.toList :=
  Text.trim_eq_self_iff.2 ⟨h.start, h.stop⟩

/-- A written clause holds a colon and no comma. -/
theorem IsSpelledBy.marks (h : predicate.IsSpelledBy clause) (hvalue : predicate.IsExpressible) :
    ':' ∈ clause ∧ ',' ∉ clause := by
  cases h with
  | explicit hfield hoperator hfirst hsecond hlast =>
    have hfirst := (hfield.not_mem Field.isLettered_abbreviations hfirst).1
    have hsecond := (hoperator.not_mem Operator.isLettered_abbreviations hsecond).1
    have hlast := hlast.not_mem (by decide) hvalue.comma
    simp [hfirst, hsecond, hlast]
  | implicit hcontains hfield hfirst hlast =>
    have hfirst := (hfield.not_mem Field.isLettered_abbreviations hfirst).1
    have hlast := hlast.not_mem (by decide) hvalue.comma
    simp [hfirst, hlast]

/-- A written clause has parts that stand for the field, the operator and the value. -/
theorem IsSpelledBy.exists_hasParts (h : predicate.IsSpelledBy clause)
    (hvalue : predicate.IsExpressible) :
    ∃ first second last, HasParts clause first second last ∧
      PartNames Field.abbreviations first predicate.field ∧ AsksFor second predicate.operator ∧
        Text.IsPadded predicate.value.toList last := by
  cases h with
  | explicit hfield hoperator hfirst hsecond hlast =>
    have hparts := HasParts.triple (hfield.not_mem Field.isLettered_abbreviations hfirst).2
      (hoperator.not_mem Operator.isLettered_abbreviations hsecond).2
      (hlast.not_mem (by decide) hvalue.colon)
    exact ⟨_, _, _, hparts, hfield.partNames Field.isLettered_abbreviations hfirst,
      hoperator.partNames Operator.isLettered_abbreviations hsecond, hlast⟩
  | implicit hcontains hfield hfirst hlast =>
    have hparts := HasParts.pair (hfield.not_mem Field.isLettered_abbreviations hfirst).2
      (hlast.not_mem (by decide) hvalue.colon)
    exact ⟨_, _, _, hparts, hfield.partNames Field.isLettered_abbreviations hfirst, hcontains,
      hlast⟩

/-- A clause says what it was written for. -/
theorem IsSpelledBy.isSaidBy (h : predicate.IsSpelledBy clause) (hvalue : predicate.IsExpressible) :
    predicate.IsSaidBy clause := by
  obtain ⟨first, second, last, hparts, hfirst, hoperator, hlast⟩ := h.exists_hasParts hvalue
  -- What trimming takes from the last part are the blanks that were put around the value.
  have htrim : Text.trim last = predicate.value.toList := hlast.trim_eq.trans hvalue.trim_value
  refine .of_parts hparts hfirst hoperator ?_ ?_
  · rw [htrim]
    exact hvalue.numeric
  · rw [htrim, String.ofList_toList]

/-- Every clause can be written. -/
theorem exists_isSpelledBy (predicate : Predicate) : ∃ clause, predicate.IsSpelledBy clause := by
  have hfield : ∃ entry ∈ Field.abbreviations, entry.2 = predicate.field := by
    cases predicate.field <;> decide
  have hoperator : ∃ entry ∈ Operator.abbreviations, entry.2 = predicate.operator := by
    cases predicate.operator <;> decide
  obtain ⟨⟨fieldWord, field⟩, hfieldWord, hfield⟩ := hfield
  obtain ⟨⟨operatorWord, operator⟩, hoperatorWord, hoperator⟩ := hoperator
  obtain rfl : field = predicate.field := hfield
  obtain rfl : operator = predicate.operator := hoperator
  exact ⟨_, .explicit (isWordFor_of_mem Field.isLettered_abbreviations hfieldWord)
    (isWordFor_of_mem Operator.isLettered_abbreviations hoperatorWord) (Text.IsPadded.refl _)
    (Text.IsPadded.refl _) (Text.IsPadded.refl _)⟩

end Predicate

/-- The parts of a clause without the blanks around it. -/
theorem HasParts.trim {clause first last : List Char} {second : Option (List Char)}
    (h : HasParts clause first second last) :
    HasParts (Text.trim clause) (Text.trimStart first) second (Text.trimEnd last) := by
  have hcolon : Text.isBlank ':' = false := by decide
  cases h with
  | pair hfirst hlast =>
    rw [Text.trim_append_cons hcolon]
    exact .pair (mt Text.mem_of_mem_trimStart hfirst) (mt Text.mem_of_mem_trimEnd hlast)
  | triple hfirst hsecond hlast =>
    rw [Text.trim_append_cons hcolon, Text.trimEnd_append_cons hcolon]
    exact .triple (mt Text.mem_of_mem_trimStart hfirst) hsecond
      (mt Text.mem_of_mem_trimEnd hlast)

/-- Blanks around a clause do not change what it says. -/
theorem Predicate.IsSaidBy.trim {predicate : Predicate} {clause : List Char}
    (h : predicate.IsSaidBy clause) : predicate.IsSaidBy (Text.trim clause) := by
  obtain ⟨hparts, hfirst, hoperator, hnumeric, hvalue⟩ := h
  rw [← Text.trim_trimEnd] at hnumeric hvalue
  rw [PartNames, ← Text.trim_trimStart] at hfirst
  exact .of_parts hparts.trim hfirst hoperator hnumeric hvalue

/-- What an expression's clause says can be written. -/
theorem Predicate.IsSaidBy.isExpressible {predicate : Predicate} {clause : List Char}
    (h : predicate.IsSaidBy clause) (hcomma : ',' ∉ clause) : predicate.IsExpressible := by
  obtain @⟨first, second, last, hparts, -, -, hnumeric, hvalue⟩ := h
  have hmarks : ',' ∉ last ∧ ':' ∉ last := by
    cases hparts with
    | pair hfirst hlast =>
      refine ⟨fun hmem => hcomma ?_, hlast⟩
      simp [hmem]
    | triple hfirst hsecond hlast =>
      refine ⟨fun hmem => hcomma ?_, hlast⟩
      simp [hmem]
  have htext : predicate.value.toList = Text.trim last := by rw [hvalue, String.toList_ofList]
  have hends := Text.trim_eq_self_iff.1 (Text.trim_trim last)
  rw [← htext] at hends hnumeric
  constructor
  case comma => exact htext ▸ mt Text.mem_of_mem_trim hmarks.1
  case colon => exact htext ▸ mt Text.mem_of_mem_trim hmarks.2
  case start => exact hends.1
  case stop => exact hends.2
  case numeric => exact hnumeric

/-! ## Groups -/

namespace FilterSet

/-- The clauses of a filter set, group by group. -/
def predicates (filters : FilterSet) : List Predicate :=
  filters.groups.flatMap (·.2)

variable {filters : FilterSet} {written : List Predicate} {group : Field × List Predicate}
  {predicate : Predicate}

/-- A group holds clauses about its field only. -/
theorem IsGrouping.mem_group_iff (h : filters.IsGrouping written)
    (hgroup : group ∈ filters.groups) :
    predicate ∈ group.2 ↔ predicate ∈ written ∧ predicate.field = group.1 := by
  rw [h.own group hgroup, List.mem_filter, decide_eq_true_eq]

theorem IsGrouping.mem_predicates_iff (h : filters.IsGrouping written) :
    predicate ∈ filters.predicates ↔ predicate ∈ written := by
  rw [predicates, List.mem_flatMap]
  constructor
  · rintro ⟨group, hgroup, hmem⟩
    exact ((h.mem_group_iff hgroup).1 hmem).1
  · intro hmem
    obtain ⟨group, hgroup, hfield⟩ := List.mem_map.1 (h.complete predicate hmem)
    exact ⟨group, hgroup, (h.mem_group_iff hgroup).2 ⟨hmem, hfield.symm⟩⟩

/-- Of all groups only that of a field holds clauses about it. -/
theorem IsGrouping.filter_predicates (h : filters.IsGrouping written)
    (hgroup : group ∈ filters.groups) :
    filters.predicates.filter (·.field = group.1) = group.2 := by
  obtain ⟨before, after, hgroups⟩ := List.append_of_mem hgroup
  have hnodup : ((group :: (before ++ after)).map (·.1)).Nodup := by
    have hall : (filters.groups.map (·.1)).Nodup := h.canonical.nodup (by decide)
    rw [hgroups] at hall
    exact ((List.perm_middle.map _).nodup_iff).1 hall
  have hfield : group.1 ∉ (before ++ after).map (·.1) := (List.nodup_cons.1 hnodup).1
  -- The other groups are about other fields, and so are all of their clauses.
  have hnone : ∀ others : List (Field × List Predicate), others.Sublist (before ++ after) →
      (others.flatMap (·.2)).filter (·.field = group.1) = [] := by
    intro others hothers
    rw [List.filter_eq_nil_iff]
    intro predicate hpredicate heq
    obtain ⟨other, hother, hpredicate⟩ := List.mem_flatMap.1 hpredicate
    have hmem : other ∈ before ++ after := hothers.mem hother
    have hfilters : other ∈ filters.groups := by
      rw [hgroups]
      exact List.perm_middle.mem_iff.2 (List.mem_cons_of_mem group hmem)
    have hsame : other.1 = group.1 :=
      ((h.mem_group_iff hfilters).1 hpredicate).2.symm.trans (of_decide_eq_true heq)
    exact hfield (List.mem_map.2 ⟨other, hmem, hsame⟩)
  have hown : group.2.filter (·.field = group.1) = group.2 := by
    rw [List.filter_eq_self]
    intro predicate hpredicate
    exact decide_eq_true ((h.mem_group_iff hgroup).1 hpredicate).2
  rw [predicates, hgroups, List.flatMap_append, List.flatMap_cons, List.filter_append,
    List.filter_append, hnone before (List.sublist_append_left _ _), hown,
    hnone after (List.sublist_append_right _ _), List.nil_append, List.append_nil]

/-- Clauses that stand in groups are grouped in the same way. -/
theorem IsGrouping.regroup (h : filters.IsGrouping written) :
    filters.IsGrouping filters.predicates where
  canonical := h.canonical
  nonempty := h.nonempty
  own _ hgroup := (h.filter_predicates hgroup).symm
  complete predicate hpredicate := h.complete predicate (h.mem_predicates_iff.1 hpredicate)

end FilterSet

/-! ## Expressions -/

/-- The expression that consists of the given clauses. -/
def expression (clauses : List (List Char)) : String :=
  String.ofList ([','].intercalate clauses)

/-- Filter expressions are read as they were written, and what was read can be written again. -/
structure ExpressionsRoundTrip : Prop where
  /-- Clauses that can be written are read as they are, grouped by field, however they are written
  and in whatever number. -/
  written : ∀ predicates clauses, predicates ≠ [] →
    (∀ predicate ∈ predicates, predicate.IsExpressible) →
    List.Forall₂ Predicate.IsSpelledBy predicates clauses →
    ∃ filters, FilterSet.parse (some (expression clauses)) = .ok filters ∧
      filters.IsGrouping predicates
  /-- What an expression was read as are clauses that can be written, and they are read as the same
  however they are written. -/
  rewritten : ∀ text filters, Text.allBlank text.toList = false →
    FilterSet.parse (some text) = .ok filters →
    filters.predicates ≠ [] ∧ (∀ predicate ∈ filters.predicates, predicate.IsExpressible) ∧
      (∃ clauses, List.Forall₂ Predicate.IsSpelledBy filters.predicates clauses) ∧
      ∀ clauses, List.Forall₂ Predicate.IsSpelledBy filters.predicates clauses →
        FilterSet.parse (some (expression clauses)) = .ok filters

namespace FilterSet

variable {filters : FilterSet} {written : List Predicate} {clauses : List (List Char)}

/-- Every written clause holds a colon and no comma. -/
theorem marks_of_forall₂ (hvalues : ∀ predicate ∈ written, predicate.IsExpressible)
    (hclauses : List.Forall₂ Predicate.IsSpelledBy written clauses) :
    ∀ clause ∈ clauses, ':' ∈ clause ∧ ',' ∉ clause := by
  intro clause hclause
  have hboth := (List.forall₂_and_left _ _).2 ⟨hvalues, hclauses⟩
  obtain ⟨predicate, hvalue, hspelled⟩ := exists_forall₂_iff.1 ⟨_, hboth⟩ clause hclause
  exact hspelled.marks hvalue

/-- An expression that holds a clause is not blank. -/
theorem allBlank_expression (hne : clauses ≠ []) (hmarks : ∀ clause ∈ clauses, ':' ∈ clause) :
    Text.allBlank (expression clauses).toList = false := by
  have hcolon : ':' ∈ (expression clauses).toList := by
    rw [expression, String.toList_ofList]
    cases clauses with
    | nil => exact absurd rfl hne
    | cons first rest =>
      have hfirst : ':' ∈ first := hmarks first List.mem_cons_self
      cases rest with
      | nil => simpa using hfirst
      | cons second rest => simp [hfirst]
  refine Bool.eq_false_iff.2 fun hblank => ?_
  exact absurd (Text.allBlank_iff.1 hblank ':' hcolon) (by decide)

/-- Clauses are read as what they were written for. -/
theorem parseClauses_expression (hne : clauses ≠ [])
    (hvalues : ∀ predicate ∈ written, predicate.IsExpressible)
    (hclauses : List.Forall₂ Predicate.IsSpelledBy written clauses) :
    parseClauses (expression clauses).toList = .ok written := by
  have hcut : (expression clauses).toList.splitOn ',' = clauses := by
    refine splitOn_eq_iff.2 ⟨hne, fun clause hclause => ?_, String.toList_ofList⟩
    exact (marks_of_forall₂ hvalues hclauses clause hclause).2
  rw [parseClauses_eq_ok_iff, hcut]
  refine ((List.forall₂_and_left _ _).2 ⟨hvalues, hclauses⟩).imp ?_
  rintro predicate clause ⟨hvalue, hspelled⟩
  exact (hspelled.isSaidBy hvalue).trim

theorem parse_expression (hne : written ≠ [])
    (hvalues : ∀ predicate ∈ written, predicate.IsExpressible)
    (hclauses : List.Forall₂ Predicate.IsSpelledBy written clauses) :
    parse (some (expression clauses)) = .ok (ofPredicates written) := by
  have hcut : clauses ≠ [] := by
    rintro rfl
    exact hne (List.forall₂_nil_right_iff.1 hclauses)
  have hmarks := marks_of_forall₂ hvalues hclauses
  rw [parse_eq_map_parseClauses (allBlank_expression hcut fun clause h => (hmarks clause h).1),
    parseClauses_expression hcut hvalues hclauses]
  rfl

/-- What an expression was read as is made of clauses that can be written. -/
theorem exists_isGrouping_of_parse {text : String} (htext : Text.allBlank text.toList = false)
    (h : parse (some text) = .ok filters) :
    ∃ written, written ≠ [] ∧ (∀ predicate ∈ written, predicate.IsExpressible) ∧
      filters.IsGrouping written := by
  rw [parse_eq_map_parseClauses htext] at h
  cases hclauses : parseClauses text.toList with
  | error error =>
    rw [hclauses] at h
    cases h
  | ok written =>
    rw [hclauses] at h
    obtain rfl := Except.ok.inj h
    have hsaid := parseClauses_eq_ok_iff.1 hclauses
    refine ⟨written, ?_, ?_, isGrouping_ofPredicates written⟩
    · rintro rfl
      exact List.splitOn_ne_nil _ _ (List.forall₂_nil_left_iff.1 hsaid)
    · intro predicate hpredicate
      have hcut : ∀ clause ∈ text.toList.splitOn ',', ',' ∉ clause := fun clause hclause =>
        not_mem_of_mem_splitOn hclause
      have hboth := (List.forall₂_and_left _ _).2 ⟨hcut, hsaid.flip⟩
      obtain ⟨clause, hcomma, hsays⟩ := exists_forall₂_iff.1 ⟨_, hboth⟩ predicate hpredicate
      exact Predicate.IsSaidBy.isExpressible hsays (mt Text.mem_of_mem_trim hcomma)

end FilterSet

/-- Reading an expression undoes writing it. -/
theorem expressionsRoundTrip : ExpressionsRoundTrip where
  written predicates clauses hne hvalues hclauses :=
    ⟨_, FilterSet.parse_expression hne hvalues hclauses,
      FilterSet.isGrouping_ofPredicates predicates⟩
  rewritten text filters htext h := by
    obtain ⟨written, hne, hvalues, hgrouping⟩ := FilterSet.exists_isGrouping_of_parse htext h
    have hnonempty : filters.predicates ≠ [] := by
      obtain ⟨predicate, hpredicate⟩ := List.exists_mem_of_ne_nil _ hne
      exact List.ne_nil_of_mem (hgrouping.mem_predicates_iff.2 hpredicate)
    have hgrouped : ∀ predicate ∈ filters.predicates, predicate.IsExpressible :=
      fun predicate hpredicate => hvalues predicate (hgrouping.mem_predicates_iff.1 hpredicate)
    refine ⟨hnonempty, hgrouped, ?_, ?_⟩
    · choose spell hspell using Predicate.exists_isSpelledBy
      refine ⟨filters.predicates.map spell, List.forall₂_map_right_iff.2 ?_⟩
      exact List.forall₂_same.2 fun predicate _ => hspell predicate
    · intro clauses hclauses
      rw [FilterSet.parse_expression hnonempty hgrouped hclauses,
        ← FilterSet.isGrouping_iff.1 hgrouping.regroup]

/-- A size above five with its words in capitals and spelled out further, and a name that contains
a text, without a word for that. -/
theorem expressionsRoundTrip_capitals :
    ∃ filters,
      FilterSet.parse (some (expression [
        " SIZE".toList ++ ':' :: ("GTx ".toList ++ ':' :: "5".toList),
        "nAmed".toList ++ ':' :: " On Songs".toList])) = .ok filters ∧
      filters.IsGrouping [⟨.size, .greater, "5"⟩, ⟨.name, .contains, "On Songs"⟩] := by
  have hsize : Predicate.IsExpressible ⟨.size, .greater, "5"⟩ :=
    ⟨by decide, by decide, by rintro c ⟨⟩; decide, by rintro c ⟨⟩; decide, by decide⟩
  have hname : Predicate.IsExpressible ⟨.name, .contains, "On Songs"⟩ :=
    ⟨by decide, by decide, by rintro c ⟨⟩; decide, by rintro c ⟨⟩; decide, by decide⟩
  have hsizeWord : IsWordFor Field.abbreviations .size "SIZE".toList :=
    ⟨"size", "SIZE".toList, [], by decide, by decide, List.forall_mem_nil _, by decide⟩
  have hgreaterWord : IsWordFor Operator.abbreviations .greater "GTx".toList :=
    ⟨"gt", "GT".toList, ['x'], by decide, by decide, List.forall_mem_singleton.2 (by decide),
      by decide⟩
  have hnameWord : IsWordFor Field.abbreviations .name "nAmed".toList :=
    ⟨"name", "nAme".toList, ['d'], by decide, by decide, List.forall_mem_singleton.2 (by decide),
      by decide⟩
  refine expressionsRoundTrip.written _ _ (by decide) (by simp [hsize, hname]) ?_
  refine .cons (.explicit hsizeWord hgreaterWord ?_ ?_ (.refl _))
    (.cons (.implicit rfl hnameWord (.refl _) ?_) .nil)
  · exact ⟨[' '], [], by decide, by decide, by decide⟩
  · exact ⟨[], [' '], by decide, by decide, by decide⟩
  · exact ⟨[' '], [], by decide, by decide, by decide⟩

end PlaylistCurator
