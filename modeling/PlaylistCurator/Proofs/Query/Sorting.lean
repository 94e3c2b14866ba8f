import PlaylistCurator.Proofs.Query.Conjunction
import PlaylistCurator.Proofs.Query.StableSort
import PlaylistCurator.Query.Sort

/-!
# Sorting by the keys of an expression

Values, whatever mix of numbers, texts and absent ones, are ranked by each key, and so records are
ranked by a list of keys. Sorting gives the stable sort of that ranking, from which it follows how
sorting goes together with itself and with filtering. Main statements:

* `isRanking_compareBy`: a list of keys ranks the records;
* `sortBy_append`, `filter_sortBy`: sorting key by key, and sorting what has been filtered;
* `sortsStably`, `sortRecords_joined`, `filterRecords_sortRecords`: the same for expressions.
-/

namespace PlaylistCurator

open Std

/-! ## The ranking of values -/

namespace Value

instance : TransCmp compareText :=
  inferInstanceAs (TransCmp (compareOn display))

instance : OrientedCmp compareNumeric where
  eq_swap {a b} := by
    unfold compareNumeric
    cases a.integer? with
    | none =>
      cases b.integer? with
      | none =>
        change a.compareText b = (b.compareText a).swap
        exact OrientedCmp.eq_swap
      | some n => rfl
    | some m =>
      cases b.integer? with
      | none => rfl
      | some n =>
        change compare m.toInt n.toInt = (compare n.toInt m.toInt).swap
        exact OrientedOrd.eq_swap

/-- Numbers are ranked among themselves, other values as texts, and all numbers come first. -/
instance : TransCmp compareNumeric where
  isLE_trans {a b c} hab hbc := by
    unfold compareNumeric at *
    -- A value that is not greater than a number holds a number, and so the middle one decides.
    cases hb : b.integer? with
    | none =>
      rw [hb] at hab hbc
      cases hc : c.integer? with
      | none =>
        rw [hc] at hbc
        cases ha : a.integer? with
        | none =>
          rw [ha] at hab
          change (a.compareText b).isLE at hab
          exact TransCmp.isLE_trans hab hbc
        | some m => rfl
      | some p =>
        rw [hc] at hbc
        cases hbc
    | some n =>
      rw [hb] at hab hbc
      cases ha : a.integer? with
      | none =>
        rw [ha] at hab
        cases hab
      | some m =>
        cases hc : c.integer? with
        | none => rfl
        | some p =>
          rw [ha] at hab
          rw [hc] at hbc
          change (compare m.toInt n.toInt).isLE at hab
          exact TransOrd.isLE_trans hab hbc

end Value

/-- Turning a ranking round in a direction gives a ranking. -/
instance Direction.transCmp_apply (direction : Direction) {α : Type} {cmp : α → α → Ordering}
    [TransCmp cmp] : TransCmp fun a b => direction.apply (cmp a b) := by
  cases direction with
  | ascending => exact inferInstanceAs (TransCmp cmp)
  | descending =>
    have hswap : (fun a b => Direction.descending.apply (cmp a b)) = fun a b => cmp b a :=
      funext₂ fun _ _ => OrientedCmp.eq_swap.symm
    rw [hswap]
    infer_instance

namespace SortKey

/-- The order of two values that are there. -/
def comparePresent (field : Field) (a b : Value) : Ordering :=
  if field.isNumeric then a.compareNumeric b else a.compareText b

instance (field : Field) : TransCmp (comparePresent field) := by
  unfold comparePresent
  cases field.isNumeric with
  | true => exact inferInstanceAs (TransCmp Value.compareNumeric)
  | false => exact inferInstanceAs (TransCmp Value.compareText)

instance (field : Field) : OrientedCmp (compareValues field) where
  eq_swap {a b} := by
    cases a with
    | none => cases b <;> rfl
    | some a =>
      cases b with
      | none => rfl
      | some b =>
        change comparePresent field a b = (comparePresent field b a).swap
        exact OrientedCmp.eq_swap

instance (field : Field) : TransCmp (compareValues field) where
  isLE_trans {a b c} hab hbc := by
    cases a with
    | none => cases c <;> rfl
    | some a =>
      -- What is not greater than a second value that is absent, is absent itself.
      cases b with
      | none => cases hab
      | some b =>
        cases c with
        | none => cases hbc
        | some c =>
          change (comparePresent field a c).isLE
          exact TransCmp.isLE_trans hab hbc

/-- A key ranks records by the values of its field. -/
instance (key : SortKey) : TransCmp key.compare := by
  have hfield : TransCmp fun a b : Record =>
      compareValues key.field (a.get key.field) (b.get key.field) :=
    { eq_swap := OrientedCmp.eq_swap, isLE_trans := TransCmp.isLE_trans }
  exact key.direction.transCmp_apply

end SortKey

/-! ## The ranking of records -/

theorem compareBy_cons (key : SortKey) (keys : List SortKey) :
    compareBy (key :: keys) = compareLex key.compare (compareBy keys) := rfl

instance (keys : List SortKey) : TransCmp (compareBy keys) := by
  induction keys with
  | nil => exact { eq_swap := rfl, isLE_trans := fun _ _ => rfl }
  | cons key keys ih =>
    rw [compareBy_cons]
    infer_instance

/-- The keys of two lists decide one after the other. -/
theorem compareBy_append (keys others : List SortKey) :
    compareBy (keys ++ others) = compareLex (compareBy keys) (compareBy others) := by
  induction keys with
  | nil => rfl
  | cons key keys ih =>
    rw [List.cons_append, compareBy_cons, compareBy_cons, ih]
    funext a b
    exact (Ordering.then_assoc ..).symm

/-- A list of keys ranks the records, whatever values their fields hold. -/
theorem isRanking_compareBy (keys : List SortKey) : IsRanking (compareBy keys) :=
  isRanking_of_transCmp _

/-! ## Sorting -/

variable {records : List Record}

/-- Sorting gives the stable sort by the keys. -/
theorem isStableSort_sortBy (keys : List SortKey) (records : List Record) :
    IsStableSort (compareBy keys) records (sortBy keys records) :=
  isStableSort_mergeSort _ records

/-- The stable sort by some keys is what sorting gives. -/
theorem eq_sortBy_of_isStableSort {keys : List SortKey} {sorted : List Record}
    (h : IsStableSort (compareBy keys) records sorted) : sorted = sortBy keys records :=
  h.eq (isStableSort_sortBy keys records)

/-- Sorting again changes nothing. -/
theorem sortBy_sortBy (keys : List SortKey) (records : List Record) :
    sortBy keys (sortBy keys records) = sortBy keys records := by
  have hsorted := (isStableSort_sortBy keys records).pairwise
  exact (eq_sortBy_of_isStableSort (.of_pairwise hsorted)).symm

/-- Sorting by some keys before others is sorting by the others first. -/
theorem sortBy_append (keys others : List SortKey) (records : List Record) :
    sortBy (keys ++ others) records = sortBy keys (sortBy others records) := by
  have hsorted := (isStableSort_sortBy others records).andThen
    (isStableSort_sortBy keys (sortBy others records))
  rw [← compareBy_append] at hsorted
  exact (eq_sortBy_of_isStableSort hsorted).symm

/-- Filtering what is sorted is sorting what is filtered. -/
theorem filter_sortBy (keys : List SortKey) (keep : Record → Bool) (records : List Record) :
    (sortBy keys records).filter keep = sortBy keys (records.filter keep) :=
  eq_sortBy_of_isStableSort ((isStableSort_sortBy keys records).filter keep)

/-- Narrowing down what is sorted is sorting what is narrowed down. -/
theorem FilterSet.narrow_sortBy (filters : FilterSet) (keys : List SortKey)
    (records : List Record) :
    filters.narrow (sortBy keys records) = sortBy keys (filters.narrow records) := by
  rw [narrow_eq_filter, narrow_eq_filter, filter_sortBy]

/-! ## Reading expressions -/

/-- An expression by which records can be sorted; an absent one is such an expression. -/
def IsSort (expression : Option String) : Prop :=
  ∃ keys, SortKey.parse expression = .ok keys

instance (expression : Option String) : Decidable (IsSort expression) :=
  match h : SortKey.parse expression with
  | .ok keys => .isTrue ⟨keys, h⟩
  | .error _ => .isFalse fun ⟨_, hother⟩ => by rw [h] at hother; cases hother

/-- What an expression that can be read sorts. -/
theorem sortRecords_of_parse {expression : Option String} {keys : List SortKey}
    (h : SortKey.parse expression = .ok keys) (records : List Record) :
    sortRecords records expression = .ok (sortBy keys records) := by
  rw [sortRecords, h]
  rfl

/-- An expression that is not blank holds the keys of its clauses. -/
theorem SortKey.parse_of_allBlank_eq_false {text : String}
    (h : Text.allBlank text.toList = false) :
    SortKey.parse (some text) = (text.toList.splitOn ',').mapM SortKey.parseClause := by
  simp [SortKey.parse, h]

/-- An expression made of two is read as the one and then as the other. -/
theorem SortKey.parse_joined_eq_bind {first second : String}
    (hfirst : Text.allBlank first.toList = false) (hsecond : Text.allBlank second.toList = false) :
    parse (some (joined first second)) = do
      let keys ← parse (some first)
      let others ← parse (some second)
      return keys ++ others := by
  rw [parse_of_allBlank_eq_false hfirst, parse_of_allBlank_eq_false hsecond,
    parse_of_allBlank_eq_false (allBlank_joined first second), toList_joined,
    List.splitOn_append_cons_self, List.mapM_append]

/-- An expression made of two holds the keys of the first one and then those of the second one. -/
theorem SortKey.parse_joined {first second : String} {keys others : List SortKey}
    (hfirst : Text.allBlank first.toList = false) (hsecond : Text.allBlank second.toList = false)
    (hkeys : SortKey.parse (some first) = .ok keys)
    (hothers : SortKey.parse (some second) = .ok others) :
    SortKey.parse (some (joined first second)) = .ok (keys ++ others) := by
  rw [SortKey.parse_joined_eq_bind hfirst hsecond, hkeys, hothers]
  rfl

/-! ## Sorting by expressions -/

/-- How expressions sort a list of records. -/
structure SortsStably (records : List Record) : Prop where
  /-- The keys that an expression may hold rank all records. -/
  isRanking : ∀ keys, IsRanking (compareBy keys)
  /-- Sorting by an expression succeeds, and gives the one stable sort by its keys. -/
  isStableSort_iff : ∀ expression keys, SortKey.parse expression = .ok keys →
    ∃ sorted, sortRecords records expression = .ok sorted ∧
      ∀ other, IsStableSort (compareBy keys) records other ↔ other = sorted
  /-- Sorting again by the same expression changes nothing. -/
  again : ∀ expression sorted, sortRecords records expression = .ok sorted →
    sortRecords sorted expression = .ok sorted

/-- Sorting by an expression gives the one stable sort by its keys, which rank all records. -/
theorem sortsStably (records : List Record) : SortsStably records where
  isRanking := isRanking_compareBy
  isStableSort_iff expression keys hkeys := by
    refine ⟨sortBy keys records, sortRecords_of_parse hkeys records, fun other => ?_⟩
    constructor
    · exact eq_sortBy_of_isStableSort
    · rintro rfl
      exact isStableSort_sortBy keys records
  again expression sorted hsorted := by
    cases hkeys : SortKey.parse expression with
    | error error =>
      rw [sortRecords, hkeys] at hsorted
      cases hsorted
    | ok keys =>
      rw [sortRecords_of_parse hkeys] at hsorted
      obtain rfl := Except.ok.inj hsorted
      rw [sortRecords_of_parse hkeys, sortBy_sortBy]

/-- Sizes that are numbers, texts that read as numbers, another text, or absent. -/
def shelves : List Record := [
  { id := "1", name := some (.text "Zed"), size := some (.text "many") },
  { id := "2", name := some (.text "alpha"), size := some (.number 9) },
  { id := "3", name := some (.text "Beta"), size := some (.text " +10 ") },
  { id := "4", size := some (.number 10) },
  { id := "5", name := some (.text "Gamma") }]

/-- By size, the shelf without one comes first and the one whose size is no number last, and the two
with a size of ten keep their order. -/
theorem sortsStably_shelves :
    SortKey.parse (some "SIZE") = .ok [⟨.size, .ascending⟩] ∧
      sortRecords shelves (some "SIZE") =
        .ok (["5", "2", "3", "4", "1"].filterMap fun id => shelves.find? (·.id = id)) := by
  have hparse : SortKey.parse (some "SIZE") = .ok [⟨.size, .ascending⟩] := by decide +kernel
  have hstable : IsStableSort (compareBy [⟨.size, .ascending⟩]) shelves
      (["5", "2", "3", "4", "1"].filterMap fun id => shelves.find? (·.id = id)) := by
    decide +kernel
  obtain ⟨sorted, hsorted, hiff⟩ := (sortsStably shelves).isStableSort_iff _ _ hparse
  refine ⟨hparse, ?_⟩
  rw [hsorted, (hiff _).1 hstable]

/-- Sorting by an expression made of two is sorting by the second one and then by the first one. -/
theorem sortRecords_joined {first second : String}
    (hfirst : Text.allBlank first.toList = false) (hsecond : Text.allBlank second.toList = false)
    (hsort : IsSort (some first)) (hother : IsSort (some second)) (records : List Record) :
    ∃ middle sorted, sortRecords records (some second) = .ok middle ∧
      sortRecords middle (some first) = .ok sorted ∧
      sortRecords records (some (joined first second)) = .ok sorted := by
  obtain ⟨keys, hkeys⟩ := hsort
  obtain ⟨others, hothers⟩ := hother
  refine ⟨sortBy others records, sortBy keys (sortBy others records),
    sortRecords_of_parse hothers records, sortRecords_of_parse hkeys _, ?_⟩
  rw [sortRecords_of_parse (SortKey.parse_joined hfirst hsecond hkeys hothers), sortBy_append]

/-- The shelves by size downwards and then by name and owner. -/
theorem sortRecords_joined_shelves :
    IsSort (some "size:desc") ∧ IsSort (some "n, owner:up") ∧
      ∃ middle sorted, sortRecords shelves (some "n, owner:up") = .ok middle ∧
        sortRecords middle (some "size:desc") = .ok sorted ∧
        sortRecords shelves (some (joined "size:desc" "n, owner:up")) = .ok sorted := by
  have hsize : IsSort (some "size:desc") := by decide +kernel
  have hname : IsSort (some "n, owner:up") := by decide +kernel
  exact ⟨hsize, hname, sortRecords_joined (by decide) (by decide) hsize hname shelves⟩

/-- It makes no difference whether records are sorted before they are filtered or after it. -/
theorem filterRecords_sortRecords {filter sort : Option String}
    (hfilter : ∃ filters, FilterSet.parse filter = .ok filters) (hsort : IsSort sort)
    (records : List Record) :
    ∃ listed, (sortRecords records sort).bind (filterRecords · filter) = .ok listed ∧
      (filterRecords records filter).bind (sortRecords · sort) = .ok listed := by
  obtain ⟨filters, hfilters⟩ := hfilter
  obtain ⟨keys, hkeys⟩ := hsort
  refine ⟨sortBy keys (filters.narrow records), ?_, ?_⟩
  · rw [sortRecords_of_parse hkeys]
    simp only [Except.bind, filterRecords, hfilters, Except.map, FilterSet.narrow_sortBy]
  · rw [filterRecords, hfilters]
    exact sortRecords_of_parse hkeys _

/-- The shelves of at least ten, with the names downwards. -/
theorem filterRecords_sortRecords_shelves :
    IsFilter "size:geq:10" ∧ IsSort (some "n:rev") ∧
      ∃ listed,
        (sortRecords shelves (some "n:rev")).bind (filterRecords · (some "size:geq:10")) =
          .ok listed ∧
        (filterRecords shelves (some "size:geq:10")).bind (sortRecords · (some "n:rev")) =
          .ok listed := by
  have hfilter : IsFilter "size:geq:10" := by decide +kernel
  have hsort : IsSort (some "n:rev") := by decide +kernel
  exact ⟨hfilter, hsort, filterRecords_sortRecords hfilter hsort shelves⟩

end PlaylistCurator
