import Mathlib.Data.List.ProdSigma
import PlaylistCurator.Proofs.Query.LongestPrefix

/-!
# Collisions of abbreviations

Two registrations are in conflict if the abbreviation of the first one begins that of the second one
and they are made for different identifiers. The collisions of a table are the conflicts among its
entries. A table without any is one in which the meaning of a token does not change when it is
spelled out further. Main statements:

* `mem_collisions_iff`, `collisions_eq_nil_iff`: what is reported, and when nothing is;
* `collides_swap`: a conflict between two entries is reported from one of them only;
* `IsUnambiguous.find?_eq_some_iff`: in a table without collisions any beginning decides;
* `decidesAmbiguity`: the same for a table that is made of registrations.
-/

namespace PlaylistCurator

variable {ι : Type}

/-- The first of two registrations can turn into the second one, which means something else. -/
def InConflict (short long : String × ι) : Prop :=
  short.1.toList <+: long.1.toList ∧ short.2 ≠ long.2

/-- No registration is in conflict with itself. -/
theorem InConflict.index_ne {short long : String × ι} (h : InConflict short long)
    {entries : List (String × ι)} {i j : Nat} (hi : entries[i]? = some short)
    (hj : entries[j]? = some long) : i ≠ j := by
  rintro rfl
  obtain rfl := Option.some.inj (hi.symm.trans hj)
  exact h.2 rfl

namespace AbbreviationTable

variable {table : AbbreviationTable ι} {short long : String × ι}

/-- Two abbreviations that begin each other are the same one. -/
theorem eq_of_prefix_both {first second : String} (h : first.toList <+: second.toList)
    (hother : second.toList <+: first.toList) : first = second :=
  String.toList_inj.1 (h.eq_of_length_le hother.length_le)

/-- An abbreviation that begins another one stands for the same identifier. -/
def IsUnambiguous (table : AbbreviationTable ι) : Prop :=
  ∀ short ∈ table.entries, ∀ long ∈ table.entries, short.1.toList <+: long.1.toList →
    short.2 = long.2

/-- Of two abbreviations that a token begins with one begins the other. -/
theorem IsUnambiguous.eq_of_prefix (htable : table.IsUnambiguous) {token : List Char}
    {first second : String × ι} (hfirst : first ∈ table.entries) (hsecond : second ∈ table.entries)
    (hbegins : first.1.toList <+: token) (hother : second.1.toList <+: token) :
    first.2 = second.2 := by
  rcases List.prefix_or_prefix_of_prefix hbegins hother with hshort | hshort
  · exact htable first hfirst second hsecond hshort
  · exact (htable second hsecond first hfirst hshort).symm

/-- In an unambiguous table a token finds an identifier if and only if it begins with an
abbreviation for it, be it the longest or not. -/
theorem IsUnambiguous.find?_eq_some_iff (htable : table.IsUnambiguous) {token : String}
    {identifier : ι} :
    table.find? token = some identifier ↔
      ∃ abbreviation, (abbreviation, identifier) ∈ table.entries ∧ abbreviation ≠ "" ∧
        abbreviation.toList <+: token.toList := by
  constructor
  · intro h
    obtain ⟨abbreviation, hlongest⟩ := exists_isLongestStart_of_find? h
    exact ⟨abbreviation, hlongest.registered, hlongest.ne_empty, hlongest.begins⟩
  · rintro ⟨abbreviation, hmem, hne, hbegins⟩
    cases hfound : table.find? token with
    | none => exact absurd hbegins (find?_eq_none_iff.1 hfound _ hmem hne)
    | some other =>
      obtain ⟨longer, hlongest⟩ := exists_isLongestStart_of_find? hfound
      have hsame := htable.eq_of_prefix hmem hlongest.registered hbegins hlongest.begins
      exact congrArg some hsame.symm

/-! ## What is reported -/

variable [DecidableEq ι]

theorem collides_iff {i j : Nat} :
    collides (short, i) (long, j) = true ↔
      InConflict short long ∧ (short.1 ≠ long.1 ∨ i < j) := by
  simp [collides, InConflict]

/-- The entries whose conflicts are reported, each with the one that it can turn into. -/
def reports (table : AbbreviationTable ι) : List ((String × ι) × (String × ι)) :=
  ((table.entries.zipIdx ×ˢ table.entries.zipIdx).filter fun pair => collides pair.1 pair.2).map
    fun pair => (pair.1.1, pair.2.1)

/-- The collisions are the abbreviations of what is reported. -/
theorem collisions_eq_map_reports (table : AbbreviationTable ι) :
    table.collisions = table.reports.map fun report => (report.1.1, report.2.1) := by
  simp only [collisions, reports, SProd.sprod, List.product, List.filter_flatMap, List.map_flatMap,
    List.filter_map, List.map_map]
  rfl

theorem mem_reports_iff :
    (short, long) ∈ table.reports ↔
      ∃ i j, table.entries[i]? = some short ∧ table.entries[j]? = some long ∧
        collides (short, i) (long, j) = true := by
  rw [reports, List.mem_map]
  constructor
  · rintro ⟨⟨⟨_, i⟩, ⟨_, j⟩⟩, hpair, ⟨⟩⟩
    obtain ⟨hboth, hcollides⟩ := List.mem_filter.1 hpair
    obtain ⟨hi, hj⟩ := List.pair_mem_product.1 hboth
    exact ⟨i, j, List.mk_mem_zipIdx_iff_getElem?.1 hi, List.mk_mem_zipIdx_iff_getElem?.1 hj,
      hcollides⟩
  · rintro ⟨i, j, hi, hj, hcollides⟩
    have hboth := List.pair_mem_product.2
      ⟨List.mk_mem_zipIdx_iff_getElem?.2 hi, List.mk_mem_zipIdx_iff_getElem?.2 hj⟩
    exact ⟨((short, i), (long, j)), List.mem_filter.2 ⟨hboth, hcollides⟩, rfl⟩

/-- A conflict between two entries is reported from one of them and not from the other. -/
theorem collides_swap (h : InConflict short long) {i j : Nat} (hij : i ≠ j) :
    collides (long, j) (short, i) = !collides (short, i) (long, j) := by
  rw [Bool.eq_not_iff, Ne, Bool.eq_iff_iff, collides_iff, collides_iff]
  by_cases hsame : short.1 = long.1
  · -- Both abbreviations are the same one, and the earlier entry counts as the shorter.
    have hswap : InConflict long short := ⟨hsame ▸ List.prefix_rfl, h.2.symm⟩
    simp only [h, hswap, hsame, true_and, ne_eq, not_true_eq_false, false_or]
    omega
  · have hswap : ¬ InConflict long short := fun hlong =>
      hsame (eq_of_prefix_both h.1 hlong.1)
    simp [h, hswap, hsame]

/-- Entries in conflict are reported, in the one order or in the other. -/
theorem mem_reports_or_mem_reports (hshort : short ∈ table.entries) (hlong : long ∈ table.entries)
    (h : InConflict short long) : (short, long) ∈ table.reports ∨
      short.1 = long.1 ∧ (long, short) ∈ table.reports := by
  obtain ⟨i, hi⟩ := List.mem_iff_getElem?.1 hshort
  obtain ⟨j, hj⟩ := List.mem_iff_getElem?.1 hlong
  cases hcollides : collides (short, i) (long, j) with
  | true => exact .inl (mem_reports_iff.2 ⟨i, j, hi, hj, hcollides⟩)
  | false =>
    have hswap := collides_swap h (h.index_ne hi hj)
    rw [hcollides] at hswap
    have hsame : short.1 = long.1 := eq_of_prefix_both h.1 (collides_iff.1 hswap).1.1
    exact .inr ⟨hsame, mem_reports_iff.2 ⟨j, i, hj, hi, hswap⟩⟩

theorem inConflict_of_mem_reports (h : (short, long) ∈ table.reports) :
    short ∈ table.entries ∧ long ∈ table.entries ∧ InConflict short long := by
  obtain ⟨i, j, hi, hj, hcollides⟩ := mem_reports_iff.1 h
  exact ⟨List.mem_of_getElem? hi, List.mem_of_getElem? hj, (collides_iff.1 hcollides).1⟩

/-- The collisions are the pairs of abbreviations with entries in conflict. -/
theorem mem_collisions_iff {first second : String} :
    (first, second) ∈ table.collisions ↔
      ∃ identifier other, (first, identifier) ∈ table.entries ∧ (second, other) ∈ table.entries ∧
        InConflict (first, identifier) (second, other) := by
  rw [collisions_eq_map_reports, List.mem_map]
  constructor
  · rintro ⟨⟨short, long⟩, hreport, ⟨⟩⟩
    exact ⟨short.2, long.2, inConflict_of_mem_reports hreport⟩
  · rintro ⟨identifier, other, hshort, hlong, hconflict⟩
    rcases mem_reports_or_mem_reports hshort hlong hconflict with hreport | ⟨hsame, hreport⟩
    · exact ⟨_, hreport, rfl⟩
    · exact ⟨_, hreport, Prod.ext hsame.symm hsame⟩

/-- There are no collisions if and only if the meaning of no abbreviation changes when it is spelled
out to another one. -/
theorem collisions_eq_nil_iff : table.collisions = [] ↔ table.IsUnambiguous := by
  rw [List.eq_nil_iff_forall_not_mem]
  constructor
  · intro h short hshort long hlong hbegins
    by_contra hne
    exact h (short.1, long.1)
      (mem_collisions_iff.2 ⟨short.2, long.2, hshort, hlong, hbegins, hne⟩)
  · rintro h ⟨first, second⟩ hmem
    obtain ⟨identifier, other, hshort, hlong, hbegins, hne⟩ := mem_collisions_iff.1 hmem
    exact hne (h _ hshort _ hlong hbegins)

/-! ## Tables made of registrations -/

/-- What the collisions of the table of some registrations say: between which of them there are
conflicts, and whether a token can change its meaning when it is spelled out further. -/
structure DecidesAmbiguity (registrations : List (String × ι)) : Prop where
  /-- There are no collisions if and only if all abbreviations that begin a token stand for one
  identifier, for every token. -/
  collisions_eq_nil_iff : (ofList registrations).collisions = [] ↔
    ∀ token : String, ∀ entry ∈ registrations, ∀ other ∈ registrations,
      entry.1.toList <+: token.toList → other.1.toList <+: token.toList → entry.2 = other.2
  /-- The collisions are the pairs of abbreviations that were registered in conflict. -/
  mem_collisions_iff : ∀ short long, (short, long) ∈ (ofList registrations).collisions ↔
    ∃ first second, (short, first) ∈ registrations ∧ (long, second) ∈ registrations ∧
      InConflict (short, first) (long, second)
  /-- No pair of different abbreviations is reported in both orders. -/
  eq_of_mem_collisions : ∀ short long, (short, long) ∈ (ofList registrations).collisions →
    (long, short) ∈ (ofList registrations).collisions → short = long
  /-- A conflict between two entries is reported from one of them only, also where they have the
  same abbreviation. -/
  collides_swap : ∀ i j short long, (ofList registrations).entries[i]? = some short →
    (ofList registrations).entries[j]? = some long → InConflict short long →
      collides (long, j) (short, i) = !collides (short, i) (long, j)
  /-- Without collisions a token that finds an identifier goes on finding it when it is spelled out
  further. -/
  find_append : (ofList registrations).collisions = [] → ∀ token rest identifier,
    (ofList registrations).find (some token) = .ok identifier →
      (ofList registrations).find (some (token ++ rest)) = .ok identifier

variable {registrations : List (String × ι)}

theorem isUnambiguous_ofList_iff :
    (ofList registrations).IsUnambiguous ↔
      ∀ token : String, ∀ entry ∈ registrations, ∀ other ∈ registrations,
        entry.1.toList <+: token.toList → other.1.toList <+: token.toList →
          entry.2 = other.2 := by
  constructor
  · intro h token entry hentry other hother
    exact h.eq_of_prefix (mem_entries_ofList.2 hentry) (mem_entries_ofList.2 hother)
  · intro h short hshort long hlong hbegins
    exact h long.1 short (mem_entries_ofList.1 hshort) long (mem_entries_ofList.1 hlong) hbegins
      List.prefix_rfl

/-- The collisions of a table decide whether it is ambiguous. -/
theorem decidesAmbiguity (registrations : List (String × ι)) : DecidesAmbiguity registrations where
  collisions_eq_nil_iff := collisions_eq_nil_iff.trans isUnambiguous_ofList_iff
  mem_collisions_iff short long := by
    rw [mem_collisions_iff]
    simp only [mem_entries_ofList]
  eq_of_mem_collisions short long hmem hswap := by
    obtain ⟨_, _, -, -, hbegins, -⟩ := mem_collisions_iff.1 hmem
    obtain ⟨_, _, -, -, hother, -⟩ := mem_collisions_iff.1 hswap
    exact eq_of_prefix_both hbegins hother
  collides_swap i j short long hi hj hconflict :=
    collides_swap hconflict (hconflict.index_ne hi hj)
  find_append hnone token rest identifier hfound := by
    have htable := collisions_eq_nil_iff.1 hnone
    rw [find_eq_ok_iff, Option.getD_some, htable.find?_eq_some_iff] at hfound ⊢
    obtain ⟨abbreviation, hmem, hne, hbegins⟩ := hfound
    refine ⟨abbreviation, hmem, hne, hbegins.trans ?_⟩
    rw [String.toList_append]
    exact List.prefix_append _ _

/-- A size and a start with the same abbreviation, and a table without collisions in which a token
is spelled out further. -/
theorem decidesAmbiguity_sizes :
    ("s", "size") ∈ (ofList [("s", 1), ("size", 1), ("s", 2)]).collisions ∧
      ("size", "s") ∉ (ofList [("s", 1), ("size", 1), ("s", 2)]).collisions ∧
      (ofList [("s", 1), ("size", 1), ("t", 2)]).collisions = [] ∧
      (ofList [("s", 1), ("size", 1), ("t", 2)]).find (some "si") = .ok 1 ∧
      (ofList [("s", 1), ("size", 1), ("t", 2)]).find (some ("si" ++ "zes")) = .ok 1 := by
  have hconflict : InConflict ("s", 2) ("size", 1) := ⟨by decide, by decide⟩
  have hmem := ((decidesAmbiguity [("s", 1), ("size", 1), ("s", 2)]).mem_collisions_iff _ _).2
    ⟨2, 1, by decide, by decide, hconflict⟩
  have hnone : (ofList [("s", 1), ("size", 1), ("t", 2)]).collisions = [] := by decide +kernel
  have hfound : (ofList [("s", 1), ("size", 1), ("t", 2)]).find (some "si") = .ok 1 := by
    decide +kernel
  refine ⟨hmem, fun hswap => ?_, hnone, hfound, ?_⟩
  · exact absurd ((decidesAmbiguity _).eq_of_mem_collisions _ _ hmem hswap) (by decide)
  · exact (decidesAmbiguity _).find_append hnone _ _ _ hfound

end AbbreviationTable

end PlaylistCurator
