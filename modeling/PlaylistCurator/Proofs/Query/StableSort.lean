import Mathlib.Data.List.Sort

/-!
# Stable sorts

A list is a stable sort of another one by a comparison if it holds the same entries, none of them
before a smaller one, and if entries that compare equal stand in the order in which the other list
has them. Main statements, for comparisons that rank the entries:

* `isStableSort_mergeSort`, `isStableSort_insertionSort`: both ways to sort give a stable sort;
* `IsStableSort.eq`: there is no other one;
* `IsStableSort.filter`, `IsStableSort.andThen`: what becomes of a stable sort when entries are
  taken out, and when another one follows.
-/

namespace PlaylistCurator

open Std

/-- A comparison ranks the entries: it is a total preorder, and what it says of two entries it says
the other way round when they change places. -/
structure IsRanking {α : Type} (cmp : α → α → Ordering) : Prop where
  /-- Every entry compares equal with itself. -/
  refl : ∀ a, cmp a a = .eq
  /-- Swapping the arguments reverses the ordering. -/
  swap : ∀ a b, cmp b a = (cmp a b).swap
  /-- Of two entries one is not greater than the other. -/
  total : ∀ a b, (cmp a b).isLE ∨ (cmp b a).isLE
  /-- An entry that is not greater than a second one is not greater than what the second one is not
  greater than. -/
  trans : ∀ a b c, (cmp a b).isLE → (cmp b c).isLE → (cmp a c).isLE

/-- A list is a stable sort of the entries. -/
structure IsStableSort {α : Type} (cmp : α → α → Ordering) (entries sorted : List α) : Prop where
  /-- It holds the same entries. -/
  perm : sorted.Perm entries
  /-- No entry comes after a greater one. -/
  pairwise : sorted.Pairwise fun a b => (cmp a b).isLE
  /-- The entries that compare equal with a given one stand in their old order. -/
  ties : ∀ a, sorted.filter (cmp a · == .eq) = entries.filter (cmp a · == .eq)

section Ranking

variable {α : Type} {cmp : α → α → Ordering} [TransCmp cmp]

/-- Of two entries one is not greater than the other. -/
theorem isLE_or_isLE (cmp : α → α → Ordering) [TransCmp cmp] (a b : α) :
    (cmp a b).isLE ∨ (cmp b a).isLE := by
  have hswap : cmp b a = (cmp a b).swap := OrientedCmp.eq_swap
  rw [hswap]
  cases cmp a b <;> decide

/-- A transitive comparison ranks the entries. -/
theorem isRanking_of_transCmp (cmp : α → α → Ordering) [TransCmp cmp] : IsRanking cmp where
  refl _ := ReflCmp.compare_self
  swap _ _ := OrientedCmp.eq_swap
  total := isLE_or_isLE cmp
  trans _ _ _ := TransCmp.isLE_trans

/-- Entries that compare equal with a given one compare equal among themselves. -/
theorem pairwise_ties (a : α) (entries : List α) :
    (entries.filter (cmp a · == .eq)).Pairwise fun b c => (cmp b c).isLE := by
  refine List.pairwise_of_forall_mem_list ?_
  intro b hb c hc
  have hab : cmp a b = .eq := by simpa using (List.mem_filter.1 hb).2
  have hac : cmp a c = .eq := by simpa using (List.mem_filter.1 hc).2
  rw [← TransCmp.congr_left hab, hac]
  rfl

/-- A way to sort is stable if it leaves in a row what already stands in order. -/
theorem isStableSort_of_forall_sublist {entries sorted : List α} (hperm : sorted.Perm entries)
    (hpairwise : sorted.Pairwise fun a b => (cmp a b).isLE)
    (hrow : ∀ row : List α, (row.Pairwise fun a b => (cmp a b).isLE) → row.Sublist entries →
      row.Sublist sorted) : IsStableSort cmp entries sorted := by
  refine ⟨hperm, hpairwise, fun a => ?_⟩
  -- Entries that tie stand in order, and so they are kept in a row.
  have hkept := (hrow _ (pairwise_ties a entries) List.filter_sublist).filter (cmp a · == .eq)
  rw [List.filter_filter, funext fun b => Bool.and_self (cmp a b == .eq)] at hkept
  exact (hkept.eq_of_length (hperm.filter _).length_eq.symm).symm

/-- Merge sort gives a stable sort. -/
theorem isStableSort_mergeSort (cmp : α → α → Ordering) [TransCmp cmp] (entries : List α) :
    IsStableSort cmp entries (entries.mergeSort fun a b => (cmp a b).isLE) := by
  have htrans : ∀ a b c : α, (cmp a b).isLE → (cmp b c).isLE → (cmp a c).isLE :=
    fun _ _ _ => TransCmp.isLE_trans
  have htotal : ∀ a b : α, (cmp a b).isLE || (cmp b a).isLE := fun a b => by
    rw [Bool.or_eq_true]
    exact isLE_or_isLE cmp a b
  exact isStableSort_of_forall_sublist (List.mergeSort_perm entries _)
    (List.pairwise_mergeSort htrans htotal entries)
    fun _ hrow hsublist => List.sublist_mergeSort htrans htotal hrow hsublist

/-- Insertion sort gives a stable sort. -/
theorem isStableSort_insertionSort (cmp : α → α → Ordering) [TransCmp cmp] (entries : List α) :
    IsStableSort cmp entries (entries.insertionSort fun a b => (cmp a b).isLE) := by
  have htrans : IsTrans α fun a b => (cmp a b).isLE := ⟨fun _ _ _ => TransCmp.isLE_trans⟩
  have htotal : Std.Total fun a b : α => (cmp a b).isLE = true := ⟨isLE_or_isLE cmp⟩
  exact isStableSort_of_forall_sublist (List.perm_insertionSort _ entries)
    (List.pairwise_insertionSort _ entries)
    fun _ hrow hsublist => List.sublist_insertionSort hrow hsublist

/-! ## One stable sort only -/

/-- What one of two lists holds the other holds too, if they have the same ties. -/
theorem mem_of_ties_eq {first second : List α}
    (hties : ∀ a, first.filter (cmp a · == .eq) = second.filter (cmp a · == .eq)) {a : α}
    (ha : a ∈ first) : a ∈ second := by
  have hself : a ∈ first.filter (cmp a · == .eq) :=
    List.mem_filter.2 ⟨ha, beq_iff_eq.2 ReflCmp.compare_self⟩
  rw [hties a] at hself
  exact (List.mem_filter.1 hself).1

/-- No entry of a sorted list is smaller than the first one. -/
theorem isLE_of_mem_of_pairwise {a b : α} {rest : List α}
    (hsorted : (a :: rest).Pairwise fun b c => (cmp b c).isLE) (hb : b ∈ a :: rest) :
    (cmp a b).isLE := by
  rcases List.mem_cons.1 hb with rfl | hb
  · exact ReflCmp.isLE_rfl
  · exact (List.pairwise_cons.1 hsorted).1 b hb

/-- Two sorted lists with the same ties are equal. -/
theorem eq_of_ties_eq {first second : List α}
    (hfirst : first.Pairwise fun a b => (cmp a b).isLE)
    (hsecond : second.Pairwise fun a b => (cmp a b).isLE)
    (hties : ∀ a, first.filter (cmp a · == .eq) = second.filter (cmp a · == .eq)) :
    first = second := by
  -- By induction on the first list; the second one begins with the same entry.
  induction first generalizing second with
  | nil =>
    refine (List.eq_nil_iff_forall_not_mem.2 fun b hb => ?_).symm
    exact List.not_mem_nil (mem_of_ties_eq (fun a => (hties a).symm) hb)
  | cons a rest ih =>
    cases second with
    | nil => exact absurd (mem_of_ties_eq hties List.mem_cons_self) List.not_mem_nil
    | cons b others =>
      -- Both first entries are smallest, and so they tie.
      have hab : cmp a b = .eq := OrientedCmp.isLE_antisymm
        (isLE_of_mem_of_pairwise hfirst
          (mem_of_ties_eq (fun a => (hties a).symm) List.mem_cons_self))
        (isLE_of_mem_of_pairwise hsecond (mem_of_ties_eq hties List.mem_cons_self))
      have haa : cmp a a = .eq := ReflCmp.compare_self
      have hheads := hties a
      rw [List.filter_cons_of_pos (by simp [haa]), List.filter_cons_of_pos (by simp [hab])]
        at hheads
      obtain rfl := (List.cons.inj hheads).1
      congr 1
      refine ih (List.pairwise_cons.1 hfirst).2 (List.pairwise_cons.1 hsecond).2 fun c => ?_
      have hrest := hties c
      by_cases hca : cmp c a = .eq
      · rw [List.filter_cons_of_pos (by simp [hca]), List.filter_cons_of_pos (by simp [hca])]
          at hrest
        exact (List.cons.inj hrest).2
      · rwa [List.filter_cons_of_neg (by simp [hca]), List.filter_cons_of_neg (by simp [hca])]
          at hrest

end Ranking

namespace IsStableSort

variable {α : Type} {cmp : α → α → Ordering} {entries sorted : List α}

/-- A list has one stable sort only. -/
theorem eq [TransCmp cmp] {other : List α} (h : IsStableSort cmp entries sorted)
    (hother : IsStableSort cmp entries other) : sorted = other :=
  eq_of_ties_eq h.pairwise hother.pairwise fun a => (h.ties a).trans (hother.ties a).symm

/-- A sorted list is a stable sort of itself. -/
theorem of_pairwise (h : sorted.Pairwise fun a b => (cmp a b).isLE) :
    IsStableSort cmp sorted sorted :=
  ⟨.refl sorted, h, fun _ => rfl⟩

/-- It is enough to look at the ties of the entries themselves. -/
theorem iff_forall_mem [TransCmp cmp] :
    IsStableSort cmp entries sorted ↔
      sorted.Perm entries ∧ (sorted.Pairwise fun a b => (cmp a b).isLE) ∧
        ∀ a ∈ entries, sorted.filter (cmp a · == .eq) = entries.filter (cmp a · == .eq) := by
  constructor
  · intro h
    exact ⟨h.perm, h.pairwise, fun a _ => h.ties a⟩
  · rintro ⟨hperm, hpairwise, hties⟩
    refine ⟨hperm, hpairwise, fun a => ?_⟩
    by_cases htied : ∃ b ∈ entries, cmp a b = .eq
    · obtain ⟨b, hb, hab⟩ := htied
      simp only [TransCmp.congr_left hab]
      exact hties b hb
    · -- Nothing ties with `a` in either list.
      push Not at htied
      have hentries : entries.filter (cmp a · == .eq) = [] :=
        List.filter_eq_nil_iff.2 fun b hb => by simpa using htied b hb
      have hsorted := hperm.filter (cmp a · == .eq)
      rw [hentries] at hsorted ⊢
      exact hsorted.eq_nil

instance [DecidableEq α] [TransCmp cmp] : Decidable (IsStableSort cmp entries sorted) :=
  decidable_of_iff _ iff_forall_mem.symm

/-- Taking entries out of a list takes them out of its stable sort. -/
theorem filter (h : IsStableSort cmp entries sorted) (keep : α → Bool) :
    IsStableSort cmp (entries.filter keep) (sorted.filter keep) where
  perm := h.perm.filter keep
  pairwise := h.pairwise.filter keep
  ties a := by rw [List.filter_comm, h.ties a, List.filter_comm]

/-- Sorting by one comparison and then by another one is sorting by the later one, with the earlier
one deciding between what ties. -/
theorem andThen {first second : α → α → Ordering} [ReflCmp first] {middle : List α}
    (hsecond : IsStableSort second entries middle) (hfirst : IsStableSort first middle sorted) :
    IsStableSort (compareLex first second) entries sorted where
  perm := hfirst.perm.trans hsecond.perm
  pairwise := by
    rw [List.pairwise_iff_forall_sublist]
    intro a b hab
    have hle := List.pairwise_iff_forall_sublist.1 hfirst.pairwise hab
    cases hcmp : first a b with
    | lt => simp [compareLex, hcmp]
    | gt => simp [hcmp] at hle
    | eq =>
      -- Entries that tie stand as the earlier sort has put them.
      have htied : [a, b].Sublist (sorted.filter (first a · == .eq)) := by
        simpa [hcmp, ReflCmp.compare_self] using hab.filter (first a · == .eq)
      rw [hfirst.ties a] at htied
      have hmiddle := List.pairwise_iff_forall_sublist.1 hsecond.pairwise
        (htied.trans List.filter_sublist)
      simpa [compareLex, hcmp] using hmiddle
  ties a := by
    have hsplit : (fun b => compareLex first second a b == .eq) =
        fun b => (first a b == .eq) && (second a b == .eq) := by
      funext b
      unfold compareLex
      cases first a b <;> rfl
    rw [hsplit, ← List.filter_filter, ← List.filter_filter, List.filter_comm, hfirst.ties a,
      List.filter_comm, hsecond.ties a]

end IsStableSort

end PlaylistCurator
