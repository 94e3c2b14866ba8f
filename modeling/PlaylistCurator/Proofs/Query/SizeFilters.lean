import PlaylistCurator.Proofs.Query.FilterSpelling

/-!
# Filters by size

The four numeric operators compare the sizes of records, be they numbers or texts, with the integer
of a clause. Main statements:

* `Operator.accepts_eq_any`: what a numeric operator asks of a value;
* `filterRecords_sizeFilter`: the records that pass a clause about the size;
* `partitionsBySize`: the operators split the records that have a size, and two of them together
  single out one size.
-/

namespace PlaylistCurator

/-! ## Two parts of a list -/

/-- Two lists split a third one: what it holds is in one of them and not in the other one, in its
order. -/
structure IsSplit {α : Type} [DecidableEq α] (whole first second : List α) : Prop where
  /-- Nothing is in both parts. -/
  disjoint : first.Disjoint second
  /-- The first part is a part of the list, in its order and with all repeats. -/
  first_eq : first = whole.filter (· ∈ first)
  /-- The second part is a part of the list, in its order and with all repeats. -/
  second_eq : second = whole.filter (· ∈ second)
  /-- Nothing is left out. -/
  mem_or_mem : ∀ a ∈ whole, a ∈ first ∨ a ∈ second

/-- A test splits a list into what passes it and what does not. -/
theorem isSplit_filter {α : Type} [DecidableEq α] {whole : List α} {keep drop : α → Bool}
    (h : ∀ a ∈ whole, drop a = !keep a) :
    IsSplit whole (whole.filter keep) (whole.filter drop) where
  disjoint a hkeep hdrop := by
    obtain ⟨hmem, hkeep⟩ := List.mem_filter.1 hkeep
    have hdrop := (List.mem_filter.1 hdrop).2
    rw [h a hmem, hkeep] at hdrop
    cases hdrop
  first_eq := List.filter_congr fun a ha => by simp [ha]
  second_eq := List.filter_congr fun a ha => by simp [ha]
  mem_or_mem a ha := by
    cases hkeep : keep a with
    | true => exact .inl (List.mem_filter.2 ⟨ha, hkeep⟩)
    | false => exact .inr (List.mem_filter.2 ⟨ha, by rw [h a ha, hkeep]; rfl⟩)

/-! ## Spelled integers -/

namespace Text

theorem isDigit_of_digits? {text : List Char} {n : Nat} (h : digits? text = some n) :
    ∀ c ∈ text, c.isDigit = true := by
  unfold digits? at h
  split at h
  next => cases h
  next hdigits => simp_all

/-- An integer is spelled with digits and a sign. -/
theorem isDigit_or_sign_of_integer? {text : List Char} {n : Int} (h : integer? text = some n) :
    ∀ c ∈ text, c.isDigit = true ∨ c = '+' ∨ c = '-' := by
  unfold integer? at h
  split at h
  all_goals
    obtain ⟨_, hrun, -⟩ := Option.map_eq_some_iff.1 h
    obtain ⟨m, hrun, -⟩ := Option.bind_eq_some_iff.1 hrun
    have hdigits := isDigit_of_digits? hrun
  next => simp +contextual [hdigits]
  next => simp +contextual [hdigits]
  next => exact fun c hc => .inl (hdigits c hc)

/-- An integer is spelled without the marks that part clauses and their parts. -/
theorem not_mem_of_int64? {text : List Char} {n : Int64} (h : int64? text = some n) :
    ',' ∉ text ∧ ':' ∉ text := by
  obtain ⟨m, hinteger, -⟩ := Option.bind_eq_some_iff.1 h
  have hspelled := isDigit_or_sign_of_integer? hinteger
  exact ⟨fun hmem => absurd (hspelled _ hmem) (by decide),
    fun hmem => absurd (hspelled _ hmem) (by decide)⟩

end Text

/-! ## What numeric operators ask -/

/-- The integer that a record has for its size, if it has one. -/
def Record.sizeNumber? (record : Record) : Option Int64 :=
  record.size.bind Value.integer?

namespace Operator

/-- What a numeric operator asks of a size and the bound that it is compared with. -/
def relates : Operator → Int64 → Int64 → Bool
  | .greater, size, bound => bound < size
  | .greaterEqual, size, bound => bound ≤ size
  | .less, size, bound => size < bound
  | .lessEqual, size, bound => size ≤ bound
  | .contains, _, _ | .equals, _, _ | .starts, _, _ | .ends, _, _ => false

theorem relates_lessEqual (size bound : Int64) :
    lessEqual.relates size bound = !greater.relates size bound := by
  simp [relates, ← Int64.not_lt]

theorem relates_greaterEqual (size bound : Int64) :
    greaterEqual.relates size bound = !less.relates size bound := by
  simp [relates, ← Int64.not_lt]

/-- A size is its bound if and only if it is neither less nor greater. -/
theorem relates_and_relates (size bound : Int64) :
    (greaterEqual.relates size bound && lessEqual.relates size bound) =
      decide (size = bound) := by
  rw [Bool.eq_iff_iff]
  simp only [relates, Bool.and_eq_true, decide_eq_true_eq]
  exact ⟨fun h => Int64.le_antisymm h.2 h.1, fun h => h ▸ ⟨Int64.le_refl _, Int64.le_refl _⟩⟩

/-- A numeric operator with an integer to compare with accepts the values that are related
integers. -/
theorem accepts_eq_any {operator : Operator} (hnumeric : operator.isNumeric = true) {test : String}
    {bound : Int64} (htest : Text.int64? (Text.trim test.toList) = some bound) (actual : Value) :
    operator.accepts test actual = actual.integer?.any (operator.relates · bound) := by
  cases operator
  case greater | greaterEqual | less | lessEqual =>
    rw [accepts, comparesIntegers, htest]
    cases actual.integer? with
    | none => rfl
    | some number => simp [relates, Int64.lt_iff_toInt_lt, Int64.le_iff_toInt_le]
  all_goals cases hnumeric

end Operator

/-- The filter expression with one clause, about the size. -/
def sizeFilter (word number : String) : String :=
  "size:" ++ word ++ ":" ++ number

example : sizeFilter "gt" "+5" = "size:gt:+5" := by decide

section Clause

variable {word number : String} {operator : Operator} {bound : Int64} {records : List Record}

/-- The clause of an expression about the size. -/
theorem parseClauses_sizeFilter
    (hword : IsWordFor Operator.abbreviations operator word.toList)
    (hnumber : Text.int64? (Text.trim number.toList) = some bound) :
    FilterSet.parseClauses (sizeFilter word number).toList =
      .ok [⟨.size, operator, String.ofList (Text.trim number.toList)⟩] := by
  have htext : sizeFilter word number =
      expression ["size".toList ++ ':' :: (word.toList ++ ':' :: number.toList)] := by
    refine String.toList_inj.1 ?_
    simp [sizeFilter, expression]
  -- The value is the number without the blanks around it, and so it holds digits and a sign only.
  have hmarks := Text.not_mem_of_int64? hnumber
  have hends := Text.trim_eq_self_iff.1 (Text.trim_trim number.toList)
  have hvalue : Predicate.IsExpressible
      ⟨.size, operator, String.ofList (Text.trim number.toList)⟩ := by
    constructor <;> rw [String.toList_ofList]
    case comma => exact hmarks.1
    case colon => exact hmarks.2
    case start => exact hends.1
    case stop => exact hends.2
    case numeric => exact fun _ => ⟨rfl, by rw [hnumber]; rfl⟩
  have hsize : IsWordFor Field.abbreviations .size "size".toList :=
    isWordFor_of_mem Field.isLettered_abbreviations (by decide)
  have hspelled : Predicate.IsSpelledBy ⟨.size, operator, String.ofList (Text.trim number.toList)⟩
      ("size".toList ++ ':' :: (word.toList ++ ':' :: number.toList)) := by
    refine .explicit hsize hword (.refl _) (.refl _) ?_
    rw [String.toList_ofList]
    exact Text.isPadded_trim _
  rw [htext]
  exact FilterSet.parseClauses_expression (by simp) (by simpa using hvalue)
    (.cons hspelled .nil)

/-- A clause about the size accepts the records with a related integer for it. -/
theorem accepts_sizeClause (hnumeric : operator.isNumeric = true)
    (hnumber : Text.int64? (Text.trim number.toList) = some bound) (record : Record) :
    Predicate.accepts ⟨.size, operator, String.ofList (Text.trim number.toList)⟩ record =
      record.sizeNumber?.any (operator.relates · bound) := by
  -- The comparison trims the value once more than the clause was, which changes nothing.
  have htest : Text.int64? (Text.trim (String.ofList (Text.trim number.toList)).toList) =
      some bound := by
    rw [String.toList_ofList, Text.trim_trim, hnumber]
  rw [Predicate.accepts, Record.get, Record.sizeNumber?]
  cases record.size with
  | none => rfl
  | some value => exact Operator.accepts_eq_any hnumeric htest value

/-- The records that pass a clause about the size are those with a related integer for it. -/
theorem filterRecords_sizeFilter (hword : IsWordFor Operator.abbreviations operator word.toList)
    (hnumeric : operator.isNumeric = true)
    (hnumber : Text.int64? (Text.trim number.toList) = some bound) (records : List Record) :
    filterRecords records (some (sizeFilter word number)) =
      .ok (records.filter (·.sizeNumber?.any (operator.relates · bound))) := by
  have hblank : Text.allBlank (sizeFilter word number).toList = false := by
    simp [sizeFilter, Text.allBlank, Text.isBlank]
  rw [filterRecords_of_parseClauses hblank (parseClauses_sizeFilter hword hnumber)]
  simp only [List.all_cons, List.all_nil, Bool.and_true, accepts_sizeClause hnumeric hnumber]

/-- The records that pass two clauses about the size. -/
theorem filterRecords_joined_sizeFilter {otherWord : String} {other : Operator}
    (hword : IsWordFor Operator.abbreviations operator word.toList)
    (hotherWord : IsWordFor Operator.abbreviations other otherWord.toList)
    (hnumeric : operator.isNumeric = true) (hother : other.isNumeric = true)
    (hnumber : Text.int64? (Text.trim number.toList) = some bound) (records : List Record) :
    filterRecords records (some (joined (sizeFilter word number) (sizeFilter otherWord number))) =
      .ok (records.filter fun record => record.sizeNumber?.any (operator.relates · bound) &&
        record.sizeNumber?.any (other.relates · bound)) := by
  rw [filterRecords_joined (parseClauses_sizeFilter hword hnumber)
    (parseClauses_sizeFilter hotherWord hnumber)]
  simp only [List.all_cons, List.all_nil, Bool.and_true, accepts_sizeClause hnumeric hnumber,
    accepts_sizeClause hother hnumber]

end Clause

/-- The clauses of whatever is read can be written. -/
theorem FilterSet.isExpressible_of_parse {text : Option String} {filters : FilterSet}
    (h : FilterSet.parse text = .ok filters) :
    ∀ predicate ∈ filters.predicates, predicate.IsExpressible := by
  cases text with
  | none =>
    obtain rfl := Except.ok.inj h
    exact List.forall_mem_nil _
  | some text =>
    cases htext : Text.allBlank text.toList with
    | true =>
      rw [FilterSet.parse, if_pos htext] at h
      obtain rfl := Except.ok.inj h
      exact List.forall_mem_nil _
    | false =>
      obtain ⟨written, -, hvalues, hgrouping⟩ := exists_isGrouping_of_parse htext h
      exact fun predicate hpredicate =>
        hvalues predicate (hgrouping.mem_predicates_iff.1 hpredicate)

/-! ## The records on either side of a bound -/

/-- How clauses with an integer part the records by their size. -/
structure PartitionsBySize (records : List Record) (number : String) (bound : Int64) : Prop where
  /-- A numeric operator, by any word for it, selects the records with a related integer for their
  size. -/
  selects : ∀ (word : String) (operator : Operator),
    IsWordFor Operator.abbreviations operator word.toList → operator.isNumeric = true →
    filterRecords records (some (sizeFilter word number)) =
      .ok (records.filter (·.sizeNumber?.any (operator.relates · bound)))
  /-- The records with an integer for their size are split into the greater ones and the others. -/
  greater_lessEqual : ∃ above notAbove,
    filterRecords records (some (sizeFilter "gt" number)) = .ok above ∧
    filterRecords records (some (sizeFilter "leq" number)) = .ok notAbove ∧
    IsSplit (records.filter (·.sizeNumber?.isSome)) above notAbove
  /-- They are split into the smaller ones and the others. -/
  less_greaterEqual : ∃ below notBelow,
    filterRecords records (some (sizeFilter "lt" number)) = .ok below ∧
    filterRecords records (some (sizeFilter "geq" number)) = .ok notBelow ∧
    IsSplit (records.filter (·.sizeNumber?.isSome)) below notBelow
  /-- Those that are not smaller and not greater have the integer itself for their size. -/
  exactly :
    filterRecords records (some (joined (sizeFilter "geq" number) (sizeFilter "leq" number))) =
      .ok (records.filter (·.sizeNumber? = some bound))
  /-- Of the greater ones none is left. -/
  nothing_left : (filterRecords records (some (sizeFilter "gt" number))).bind
    (filterRecords · (some (sizeFilter "leq" number))) = .ok []
  /-- Whatever expression a numeric clause is read from, it has an integer to compare with. -/
  coerces : ∀ text filters, FilterSet.parse text = .ok filters → ∀ predicate ∈ filters.predicates,
    predicate.operator.isNumeric = true →
    ∃ test, Text.int64? (Text.trim predicate.value.toList) = some test ∧
      ∀ actual, predicate.operator.accepts predicate.value actual =
        actual.integer?.any (predicate.operator.relates · test)

/-- The records with an integer for their size are split by tests that contradict each other. -/
theorem isSplit_sizes {test other : Int64 → Bool} (h : ∀ size, other size = !test size)
    (records : List Record) :
    IsSplit (records.filter (·.sizeNumber?.isSome)) (records.filter (·.sizeNumber?.any test))
      (records.filter (·.sizeNumber?.any other)) := by
  -- A record that passes a test has an integer for its size.
  have hsized : ∀ test : Int64 → Bool, records.filter (·.sizeNumber?.any test) =
      (records.filter (·.sizeNumber?.isSome)).filter (·.sizeNumber?.any test) := by
    intro test
    rw [List.filter_filter]
    refine List.filter_congr fun record _ => ?_
    cases record.sizeNumber? <;> simp
  rw [hsized test, hsized other]
  refine isSplit_filter fun record hrecord => ?_
  obtain ⟨size, hsize⟩ := Option.isSome_iff_exists.1 (List.mem_filter.1 hrecord).2
  rw [hsize, Option.any_some, Option.any_some, h size]

/-- The numeric operators partition the records by their size. -/
theorem partitionsBySize {number : String} {bound : Int64}
    (hnumber : Text.int64? (Text.trim number.toList) = some bound) (records : List Record) :
    PartitionsBySize records number bound := by
  have hword : ∀ word operator, (word, operator) ∈ Operator.abbreviations →
      IsWordFor Operator.abbreviations operator word.toList := fun word operator =>
    isWordFor_of_mem Operator.isLettered_abbreviations
  have hgreater := hword "gt" .greater (by decide)
  have hgreaterEqual := hword "geq" .greaterEqual (by decide)
  have hless := hword "lt" .less (by decide)
  have hlessEqual := hword "leq" .lessEqual (by decide)
  constructor
  case selects => exact fun word operator hword hnumeric =>
    filterRecords_sizeFilter hword hnumeric hnumber records
  case greater_lessEqual =>
    exact ⟨_, _, filterRecords_sizeFilter hgreater rfl hnumber records,
      filterRecords_sizeFilter hlessEqual rfl hnumber records,
      isSplit_sizes (Operator.relates_lessEqual · bound) records⟩
  case less_greaterEqual =>
    exact ⟨_, _, filterRecords_sizeFilter hless rfl hnumber records,
      filterRecords_sizeFilter hgreaterEqual rfl hnumber records,
      isSplit_sizes (Operator.relates_greaterEqual · bound) records⟩
  case exactly =>
    rw [filterRecords_joined_sizeFilter hgreaterEqual hlessEqual rfl rfl hnumber]
    refine congrArg Except.ok (List.filter_congr fun record _ => ?_)
    cases record.sizeNumber? with
    | none => rfl
    | some size =>
      rw [Option.any_some, Option.any_some, Operator.relates_and_relates]
      simp
  case nothing_left =>
    rw [filterRecords_sizeFilter hgreater rfl hnumber]
    simp only [Except.bind]
    rw [filterRecords_sizeFilter hlessEqual rfl hnumber]
    -- What is left would have to be greater than the integer, and not.
    rw [List.filter_filter]
    refine congrArg Except.ok (List.filter_eq_nil_iff.2 fun record _ => ?_)
    cases record.sizeNumber? with
    | none => simp
    | some size => simp [Operator.relates_lessEqual]
  case coerces =>
    intro text filters hparse predicate hpredicate hnumeric
    -- The integer was checked when the clause was read, on the text that is compared now.
    have hvalue := FilterSet.isExpressible_of_parse hparse predicate hpredicate
    obtain ⟨test, htest⟩ := Option.isSome_iff_exists.1 (hvalue.numeric hnumeric).2
    rw [← hvalue.trim_value] at htest
    exact ⟨test, htest, Operator.accepts_eq_any hnumeric htest⟩

/-- Records with a size of 300 that is a number, a text or a text with blanks and a zero, and with
other sizes or none. -/
def bundles : List Record := [
  { id := "1", size := some (.number 300) },
  { id := "2", size := some (.text "300") },
  { id := "3", size := some (.text "many") },
  { id := "4", size := some (.number (-7)) },
  { id := "5", size := some (.text " 0300\n") },
  { id := "6" }]

/-- Three of the bundles have the size 300, and one has less. -/
theorem partitionsBySize_bundles :
    Text.int64? (Text.trim " +300 ".toList) = some 300 ∧ PartitionsBySize bundles " +300 " 300 ∧
      (filterRecords bundles (some "size:geq: +300 ,size:leq: +300 ")).toOption =
        some (bundles.filter (·.id ∈ ["1", "2", "5"])) ∧
      (filterRecords bundles (some "size:lt: +300 ")).toOption =
        some (bundles.filter (·.id ∈ ["4"])) := by
  have hnumber : Text.int64? (Text.trim " +300 ".toList) = some 300 := by decide
  exact ⟨hnumber, partitionsBySize hnumber bundles, by decide +kernel, by decide +kernel⟩

end PlaylistCurator
