import Mathlib.Data.List.Destutter
import PlaylistCurator.Proofs.Query.StableSort
import PlaylistCurator.Query.Abbreviation

/-!
# The entries of a table

A table is made by sorting its registrations by their abbreviations and leaving out those that
repeat the one before them. Main statements:

* `isStableSort_foldr_place`: the registrations of one abbreviation keep their order;
* `mem_entries_ofList`: the entries are the registrations;
* `nodup_entries_ofList_iff`: when no entry is repeated;
* `pairwise_lt_entries_ofList`: where no abbreviation stands for two identifiers, there is one entry
  for each.
-/

namespace PlaylistCurator

open Std

/-! ## Repeated neighbours -/

section Neighbours

variable {α : Type}

/-- Equal elements stand together, without another one between them. -/
def IsGathered (xs : List α) : Prop :=
  ∀ x y, [x, y, x].Sublist xs → x = y

theorem IsGathered.sublist {xs ys : List α} (h : IsGathered ys) (hsublist : xs.Sublist ys) :
    IsGathered xs :=
  fun x y hxyx => h x y (hxyx.trans hsublist)

/-- If equal elements stand together and none of them is next to the other, there are no two. -/
theorem IsGathered.nodup_of_isChain {xs : List α} (h : IsGathered xs)
    (hchain : xs.IsChain (· ≠ ·)) : xs.Nodup := by
  induction xs with
  | nil => exact List.nodup_nil
  | cons first rest ih =>
    have hrest : IsGathered rest := h.sublist (List.sublist_cons_self first rest)
    refine List.nodup_cons.2 ⟨fun hmem => ?_, ih hrest hchain.tail⟩
    cases rest with
    | nil => exact List.not_mem_nil hmem
    | cons second rest =>
      have hne : first ≠ second := (List.isChain_cons_cons.1 hchain).1
      have hagain : first ∈ rest := (List.mem_cons.1 hmem).resolve_left hne
      exact hne (h first second (((List.singleton_sublist.2 hagain).cons_cons _).cons_cons _))

variable [BEq α] [LawfulBEq α] [DecidableEq α]

theorem eraseReps_loop_eq_append (last : α) (rest kept : List α) :
    List.eraseRepsBy.loop (· == ·) last rest kept =
      kept.reverse ++ rest.destutter' (· ≠ ·) last := by
  induction rest generalizing last kept with
  | nil => simp [List.eraseRepsBy.loop]
  | cons next rest ih =>
    rw [List.eraseRepsBy.loop]
    split
    next hnext =>
      obtain rfl := eq_of_beq hnext
      rw [ih, List.destutter'_cons_neg _ (not_not_intro rfl)]
    next hnext =>
      have hne : last ≠ next := by simpa using hnext
      rw [ih, List.destutter'_cons_pos _ hne, List.reverse_cons, List.append_assoc,
        List.singleton_append]

/-- What is left without repeated neighbours is the list of those elements that differ from the one
before them. -/
theorem eraseReps_eq_destutter (xs : List α) : xs.eraseReps = xs.destutter (· ≠ ·) := by
  cases xs with
  | nil => rfl
  | cons first rest => exact eraseReps_loop_eq_append first rest []

theorem eraseReps_cons_cons (first second : α) (rest : List α) :
    (first :: second :: rest).eraseReps =
      if first = second then (second :: rest).eraseReps
      else first :: (second :: rest).eraseReps := by
  rw [eraseReps_eq_destutter, eraseReps_eq_destutter, List.destutter_cons_cons]
  by_cases heq : first = second
  · rw [if_pos heq, if_neg (not_not_intro heq), List.destutter_cons', heq]
  · rw [if_neg heq, if_pos heq, List.destutter_cons']

/-- Leaving out repeated neighbours loses no element. -/
theorem mem_eraseReps {x : α} {xs : List α} : x ∈ xs.eraseReps ↔ x ∈ xs := by
  refine ⟨(eraseReps_sublist xs).mem, fun hmem => ?_⟩
  induction xs with
  | nil => exact hmem
  | cons first rest ih =>
    cases rest with
    | nil => exact hmem
    | cons second rest =>
      rw [eraseReps_cons_cons]
      split
      next heq =>
        subst heq
        exact ih (by simpa using hmem)
      next =>
        rcases List.mem_cons.1 hmem with rfl | hrest
        · exact List.mem_cons_self
        · exact List.mem_cons_of_mem first (ih hrest)

theorem isGathered_of_nodup_eraseReps {xs : List α} (h : xs.eraseReps.Nodup) : IsGathered xs := by
  induction xs with
  | nil => intro x y hxyx; simp at hxyx
  | cons first rest ih =>
    cases rest with
    | nil => intro x y hxyx; simpa using hxyx.length_le
    | cons second rest =>
      intro x y hxyx
      rw [eraseReps_cons_cons] at h
      split at h
      next heq =>
        subst heq
        -- Of the two equal elements at the start one is enough.
        by_contra hne
        refine hne (ih h x y ?_)
        rcases List.sublist_cons_iff.1 hxyx with hrest | ⟨others, hothers, hrest⟩
        · exact hrest
        · obtain ⟨rfl, rfl⟩ := List.cons.inj hothers
          refine List.Sublist.cons_cons _ ?_
          exact (List.cons_sublist_cons'.1 hrest).resolve_right fun hsame => hne hsame.1.symm
      next hne =>
        obtain ⟨hfirst, hrest⟩ := List.nodup_cons.1 h
        rw [mem_eraseReps] at hfirst
        rcases List.sublist_cons_iff.1 hxyx with hothers | ⟨others, hothers, hlater⟩
        · exact ih hrest x y hothers
        · obtain ⟨rfl, rfl⟩ := List.cons.inj hothers
          exact absurd (hlater.mem (by simp)) hfirst

/-- Without repeated neighbours there are no equal elements at all if and only if equal elements
stand together. -/
theorem nodup_eraseReps_iff {xs : List α} : xs.eraseReps.Nodup ↔ IsGathered xs := by
  refine ⟨isGathered_of_nodup_eraseReps, fun h => ?_⟩
  have hchain : xs.eraseReps.IsChain (· ≠ ·) := by
    rw [eraseReps_eq_destutter]
    exact List.isChain_destutter _ xs
  exact (h.sublist (eraseReps_sublist xs)).nodup_of_isChain hchain

end Neighbours

namespace AbbreviationTable

variable {ι : Type}

/-! ## The order of the entries -/

/-- The order of two entries by their abbreviations. -/
def compareAbbreviations : String × ι → String × ι → Ordering :=
  compareOn Prod.fst

instance : TransCmp (compareAbbreviations (ι := ι)) :=
  inferInstanceAs (TransCmp (compareOn Prod.fst))

variable {a b : String × ι}

theorem compareAbbreviations_eq_iff : compareAbbreviations a b = .eq ↔ a.1 = b.1 :=
  Std.compare_eq_iff_eq

theorem isLE_compareAbbreviations_iff : (compareAbbreviations a b).isLE ↔ a.1 ≤ b.1 :=
  isLE_compareOfLessAndEq String.le_antisymm String.not_le String.le_total

/-- Placing an entry is inserting it before the first one that does not come before it. -/
theorem place_eq_orderedInsert (entry : String × ι) (entries : List (String × ι)) :
    place entry entries =
      entries.orderedInsert (fun a b => (compareAbbreviations a b).isLE) entry := by
  induction entries with
  | nil => rfl
  | cons other rest ih =>
    rw [place, List.orderedInsert_cons, ih]
    simp only [isLE_compareAbbreviations_iff]

theorem foldr_place_eq_insertionSort (registrations : List (String × ι)) :
    registrations.foldr place [] =
      registrations.insertionSort fun a b => (compareAbbreviations a b).isLE := by
  induction registrations with
  | nil => rfl
  | cons entry rest ih =>
    rw [List.foldr_cons, ih, place_eq_orderedInsert, List.insertionSort_cons]

/-- The registrations are sorted by their abbreviations, and those of one abbreviation keep their
order. -/
theorem isStableSort_foldr_place (registrations : List (String × ι)) :
    IsStableSort compareAbbreviations registrations (registrations.foldr place []) := by
  rw [foldr_place_eq_insertionSort]
  exact isStableSort_insertionSort _ registrations

/-! ## Registrations of one abbreviation -/

/-- No abbreviation stands for two identifiers. -/
def IsSingleValued (registrations : List (String × ι)) : Prop :=
  ∀ entry ∈ registrations, ∀ other ∈ registrations, entry.1 = other.1 → entry.2 = other.2

instance [DecidableEq ι] (registrations : List (String × ι)) :
    Decidable (IsSingleValued registrations) :=
  inferInstanceAs (Decidable (∀ entry ∈ registrations, ∀ other ∈ registrations,
    entry.1 = other.1 → entry.2 = other.2))

/-- No registration is made again after another one of the same abbreviation. -/
def IsUninterrupted (registrations : List (String × ι)) : Prop :=
  ∀ abbreviation first second,
    [(abbreviation, first), (abbreviation, second), (abbreviation, first)].Sublist registrations →
      first = second

theorem IsSingleValued.isUninterrupted {registrations : List (String × ι)}
    (h : IsSingleValued registrations) : IsUninterrupted registrations := by
  intro abbreviation first second hsublist
  exact h (abbreviation, first) (hsublist.mem (by simp)) (abbreviation, second)
    (hsublist.mem (by simp)) rfl

/-- Sorting brings equal registrations together unless another one of their abbreviation stands
between them. -/
theorem isGathered_foldr_place_iff {registrations : List (String × ι)} :
    IsGathered (registrations.foldr place []) ↔ IsUninterrupted registrations := by
  have hsorted := isStableSort_foldr_place registrations
  constructor
  · intro h abbreviation first second hsublist
    -- Registrations of one abbreviation are kept in a row.
    have hrow := hsublist.filter (compareAbbreviations (abbreviation, first) · == .eq)
    rw [← hsorted.ties] at hrow
    have hsame := h (abbreviation, first) (abbreviation, second) ?_
    · exact congrArg Prod.snd hsame
    · refine List.Sublist.trans ?_ (hrow.trans List.filter_sublist)
      simp [compareAbbreviations_eq_iff]
  · rintro h ⟨abbreviation, first⟩ ⟨other, second⟩ hsublist
    -- What stands between two registrations of an abbreviation is one of this abbreviation.
    have hpairwise := hsorted.pairwise.sublist hsublist
    simp only [List.pairwise_cons, List.mem_cons, isLE_compareAbbreviations_iff] at hpairwise
    obtain rfl : abbreviation = other :=
      String.le_antisymm (hpairwise.1 (other, second) (.inl rfl))
        (hpairwise.2.1 (abbreviation, first) (.inl rfl))
    have hrow := hsublist.filter (compareAbbreviations (abbreviation, first) · == .eq)
    rw [hsorted.ties] at hrow
    have hidentifier := h abbreviation first second ?_
    · rw [hidentifier]
    · refine List.Sublist.trans ?_ (hrow.trans List.filter_sublist)
      simp [compareAbbreviations_eq_iff]

variable [DecidableEq ι] {registrations : List (String × ι)}

/-- A table holds the registrations that it is made of. -/
theorem mem_entries_ofList {entry : String × ι} :
    entry ∈ (ofList registrations).entries ↔ entry ∈ registrations := by
  rw [entries_ofList, mem_eraseReps]
  exact (isStableSort_foldr_place registrations).perm.mem_iff

/-- A table holds no entry twice if and only if no registration was made again after another one of
the same abbreviation. -/
theorem nodup_entries_ofList_iff :
    (ofList registrations).entries.Nodup ↔ IsUninterrupted registrations :=
  nodup_eraseReps_iff.trans isGathered_foldr_place_iff

/-- Where no abbreviation stands for two identifiers, the entries of a table are strictly ascending,
and so there is one for each abbreviation. -/
theorem pairwise_lt_entries_ofList (h : IsSingleValued registrations) :
    (ofList registrations).entries.Pairwise fun a b => a.1 < b.1 := by
  have hnodup := nodup_entries_ofList_iff.2 h.isUninterrupted
  refine ((ofList registrations).ascending.and hnodup).imp_of_mem ?_
  rintro a b ha hb ⟨hle, hne⟩
  refine String.not_le.1 fun hge => hne ?_
  have hsame : a.1 = b.1 := String.le_antisymm hle hge
  exact Prod.ext hsame (h a (mem_entries_ofList.1 ha) b (mem_entries_ofList.1 hb) hsame)

end AbbreviationTable

end PlaylistCurator
