import Mathlib.Data.List.Nodup
import PlaylistCurator.Proofs.Query.Collisions

/-!
# Repeated registrations

Of equal registrations that stand together once they are sorted, one is kept. They may stand apart,
since the registrations of one abbreviation keep their order: with another one of the same
abbreviation in between, both of them are kept, and a conflict with the one in between is reported
twice. Main statements:

* `eraseReps_eq_eraseDups_iff`: when leaving out repeated neighbours leaves out all repeats;
* `entries_ofList_eraseDups`, `entries_ofList_eq_iff`: the table of the first occurrences, and which
  tables are like it;
* `count_reports_add_count_reports`: without repeated entries a conflict is reported once;
* `collapses_iff`: for which registrations all of this holds.
-/

namespace PlaylistCurator

/-! ## First occurrences -/

section FirstOccurrences

variable {α : Type} [BEq α] [LawfulBEq α]

/-- The last element is kept if it is the first one of its kind. -/
theorem eraseDups_concat (xs : List α) (x : α) :
    (xs ++ [x]).eraseDups = if x ∈ xs then xs.eraseDups else xs.eraseDups ++ [x] := by
  rw [List.eraseDups_append]
  by_cases hmem : x ∈ xs <;> simp [List.removeAll, List.eraseDups_cons, hmem]

theorem eraseDups_sublist (xs : List α) : xs.eraseDups.Sublist xs := by
  induction xs using List.reverseRecOn with
  | nil => exact List.Sublist.slnil
  | append_singleton xs x ih =>
    rw [eraseDups_concat]
    split
    · exact ih.trans (List.sublist_append_left xs [x])
    · exact ih.append_right [x]

theorem nodup_eraseDups (xs : List α) : xs.eraseDups.Nodup := by
  induction xs using List.reverseRecOn with
  | nil => exact List.nodup_nil
  | append_singleton xs x ih =>
    rw [eraseDups_concat]
    split
    next => exact ih
    next hmem =>
      rw [← List.concat_eq_append]
      exact ih.concat (mt List.mem_eraseDups.1 hmem)

/-- Nothing is left out if and only if nothing is repeated. -/
theorem eraseDups_eq_self_iff {xs : List α} : xs.eraseDups = xs ↔ xs.Nodup := by
  refine ⟨fun h => h ▸ nodup_eraseDups xs, fun h => ?_⟩
  have hperm : xs.eraseDups.Perm xs :=
    (List.perm_ext_iff_of_nodup (nodup_eraseDups xs) h).2 fun _ => List.mem_eraseDups
  exact (eraseDups_sublist xs).eq_of_length hperm.length_eq

/-- Taking elements out and leaving out repeats can change places. -/
theorem filter_eraseDups (keep : α → Bool) (xs : List α) :
    xs.eraseDups.filter keep = (xs.filter keep).eraseDups := by
  induction xs using List.reverseRecOn with
  | nil => rfl
  | append_singleton xs x ih =>
    rw [eraseDups_concat, List.filter_append, List.filter_cons, List.filter_nil]
    by_cases hkeep : keep x
    · rw [if_pos hkeep, eraseDups_concat, ← ih]
      simp only [List.mem_filter, hkeep, and_true]
      split <;> simp [hkeep]
    · rw [if_neg hkeep, List.append_nil, ← ih]
      split <;> simp [hkeep]

/-- The first occurrences in a stable sort are a stable sort of the first occurrences. -/
theorem IsStableSort.eraseDups {cmp : α → α → Ordering} {entries sorted : List α}
    (h : IsStableSort cmp entries sorted) :
    IsStableSort cmp entries.eraseDups sorted.eraseDups where
  perm := (List.perm_ext_iff_of_nodup (nodup_eraseDups sorted) (nodup_eraseDups entries)).2
    fun a => by rw [List.mem_eraseDups, List.mem_eraseDups, h.perm.mem_iff]
  pairwise := h.pairwise.sublist (eraseDups_sublist sorted)
  ties a := by rw [filter_eraseDups, filter_eraseDups, h.ties]

variable [DecidableEq α]

/-- Leaving out repeated neighbours does not change which occurrences are first ones. -/
theorem eraseDups_eraseReps (xs : List α) : xs.eraseReps.eraseDups = xs.eraseDups := by
  induction xs with
  | nil => rfl
  | cons first rest ih =>
    cases rest with
    | nil => rfl
    | cons second rest =>
      rw [eraseReps_cons_cons]
      split
      next heq =>
        subst heq
        rw [ih, List.eraseDups_cons, List.eraseDups_cons]
        simp
      next =>
        -- What repeats the first element later on is left out on both sides.
        rw [List.eraseDups_cons, ← filter_eraseDups, ih, filter_eraseDups, ← List.eraseDups_cons]

/-- Leaving out repeated neighbours leaves out all repeats if and only if equal elements stand
together. -/
theorem eraseReps_eq_eraseDups_iff {xs : List α} : xs.eraseReps = xs.eraseDups ↔ IsGathered xs := by
  rw [← nodup_eraseReps_iff, ← eraseDups_eq_self_iff, eraseDups_eraseReps, eq_comm]

/-- Where no element is repeated, nothing is left out. -/
theorem eraseReps_eq_self {xs : List α} (h : xs.Nodup) : xs.eraseReps = xs := by
  have hgathered : IsGathered xs := isGathered_of_nodup_eraseReps (h.sublist (eraseReps_sublist xs))
  rw [eraseReps_eq_eraseDups_iff.2 hgathered, eraseDups_eq_self_iff.2 h]

end FirstOccurrences

namespace AbbreviationTable

variable {ι : Type} [DecidableEq ι]

/-! ## One report for each conflict -/

section Reports

variable {table : AbbreviationTable ι} {short long : String × ι}

omit [DecidableEq ι] in
/-- Without repeated entries an entry has one position. -/
theorem inj_on_zipIdx (h : table.entries.Nodup) : ∀ a ∈ table.entries.zipIdx,
    ∀ b ∈ table.entries.zipIdx, a.1 = b.1 → a = b := by
  intro a ha b hb hentry
  have hfirst : (table.entries.zipIdx.map Prod.fst).Nodup := by rwa [List.zipIdx_map_fst]
  exact List.inj_on_of_nodup_map hfirst ha hb hentry

/-- Without repeated entries there are no repeated reports. -/
theorem nodup_reports (h : table.entries.Nodup) : table.reports.Nodup := by
  have hnumbered : table.entries.zipIdx.Nodup := by
    refine List.Nodup.of_map Prod.fst ?_
    rwa [List.zipIdx_map_fst]
  refine List.Nodup.map_on ?_ ((hnumbered.product hnumbered).filter _)
  rintro ⟨a, b⟩ hab ⟨a', b'⟩ hab' hsame
  obtain ⟨ha, hb⟩ := List.pair_mem_product.1 (List.mem_filter.1 hab).1
  obtain ⟨ha', hb'⟩ := List.pair_mem_product.1 (List.mem_filter.1 hab').1
  obtain ⟨hfirst, hsecond⟩ := Prod.ext_iff.1 hsame
  rw [inj_on_zipIdx h a ha a' ha' hfirst, inj_on_zipIdx h b hb b' hb' hsecond]

/-- Without repeated entries the positions of two entries decide whether they are reported. -/
theorem mem_reports_iff_collides (h : table.entries.Nodup) {i j : Nat}
    (hi : table.entries[i]? = some short) (hj : table.entries[j]? = some long) :
    (short, long) ∈ table.reports ↔ collides (short, i) (long, j) = true := by
  refine ⟨fun hmem => ?_, fun hcollides => mem_reports_iff.2 ⟨i, j, hi, hj, hcollides⟩⟩
  obtain ⟨i', j', hi', hj', hcollides⟩ := mem_reports_iff.1 hmem
  have hfirst : (short, i) = (short, i') := inj_on_zipIdx h _
    (List.mk_mem_zipIdx_iff_getElem?.2 hi) _ (List.mk_mem_zipIdx_iff_getElem?.2 hi') rfl
  have hsecond : (long, j) = (long, j') := inj_on_zipIdx h _
    (List.mk_mem_zipIdx_iff_getElem?.2 hj) _ (List.mk_mem_zipIdx_iff_getElem?.2 hj') rfl
  rwa [hfirst, hsecond]

/-- Without repeated entries a conflict is reported once, in the one order or in the other. -/
theorem count_reports_add_count_reports (h : table.entries.Nodup) (hshort : short ∈ table.entries)
    (hlong : long ∈ table.entries) (hconflict : InConflict short long) :
    table.reports.count (short, long) + table.reports.count (long, short) = 1 := by
  obtain ⟨i, hi⟩ := List.mem_iff_getElem?.1 hshort
  obtain ⟨j, hj⟩ := List.mem_iff_getElem?.1 hlong
  -- Of the two orders exactly one is reported, and no report is repeated.
  have hswap := collides_swap hconflict (hconflict.index_ne hi hj)
  rw [(nodup_reports h).count, (nodup_reports h).count]
  simp only [mem_reports_iff_collides h hi hj, mem_reports_iff_collides h hj hi, hswap]
  cases collides (short, i) (long, j) <;> rfl

end Reports

/-! ## Registrations that collapse -/

/-- The entries of the table of the first occurrences are the first occurrences among the sorted
registrations. -/
theorem entries_ofList_eraseDups (registrations : List (String × ι)) :
    (ofList registrations.eraseDups).entries = (registrations.foldr place []).eraseDups := by
  have hsorted := (isStableSort_foldr_place registrations).eraseDups
  have hsame := (isStableSort_foldr_place registrations.eraseDups).eq hsorted
  rw [entries_ofList, hsame, eraseReps_eq_self (nodup_eraseDups _)]

/-- Only one of equal registrations is kept if and only if none is made again after another one of
the same abbreviation. -/
theorem entries_ofList_eq_iff {registrations : List (String × ι)} :
    (ofList registrations).entries = (ofList registrations.eraseDups).entries ↔
      IsUninterrupted registrations := by
  rw [entries_ofList_eraseDups, ← isGathered_foldr_place_iff]
  exact eraseReps_eq_eraseDups_iff

/-- All that is kept of the registrations is their first occurrences, and each conflict is reported
once. -/
structure Collapses (registrations : List (String × ι)) : Prop where
  /-- The abbreviations are those of the first occurrences. -/
  abbreviations_eq :
    (ofList registrations).abbreviations = (ofList registrations.eraseDups).abbreviations
  /-- The collisions are those of the first occurrences. -/
  collisions_eq : (ofList registrations).collisions = (ofList registrations.eraseDups).collisions
  /-- There is one entry for each registration, be it repeated or not. -/
  entries_perm : (ofList registrations).entries.Perm registrations.eraseDups
  /-- The collisions are reports of conflicts between registrations, and there is one report for
  each pair of registrations in conflict. -/
  reported_once : ∃ reports : List ((String × ι) × (String × ι)),
    (ofList registrations).collisions = reports.map (fun report => (report.1.1, report.2.1)) ∧
    (∀ report ∈ reports, report.1 ∈ registrations ∧ report.2 ∈ registrations ∧
      InConflict report.1 report.2) ∧
    ∀ short ∈ registrations, ∀ long ∈ registrations, InConflict short long →
      reports.count (short, long) + reports.count (long, short) = 1

/-- Registrations collapse if and only if none is made again after another one of the same
abbreviation. -/
theorem collapses_iff {registrations : List (String × ι)} :
    Collapses registrations ↔ IsUninterrupted registrations := by
  constructor
  · intro h
    -- The table of the first occurrences holds a part of what the table holds.
    have hpart :
        (ofList registrations.eraseDups).entries.Sublist (ofList registrations).entries := by
      rw [entries_ofList_eraseDups, ← eraseDups_eraseReps]
      exact eraseDups_sublist _
    have hlength := congrArg List.length h.abbreviations_eq
    simp only [abbreviations, List.length_map] at hlength
    exact entries_ofList_eq_iff.1 (hpart.eq_of_length hlength.symm).symm
  · intro h
    have hentries := entries_ofList_eq_iff.2 h
    have hnodup := nodup_entries_ofList_iff.2 h
    exact
      { abbreviations_eq := by rw [abbreviations, hentries, abbreviations]
        collisions_eq := by rw [collisions, hentries, collisions]
        entries_perm := (List.perm_ext_iff_of_nodup hnodup (nodup_eraseDups registrations)).2
          fun entry => by rw [mem_entries_ofList, List.mem_eraseDups]
        reported_once := by
          refine ⟨_, collisions_eq_map_reports _, fun report hreport => ?_,
            fun short hshort long hlong hconflict => ?_⟩
          · simpa only [mem_entries_ofList] using inConflict_of_mem_reports hreport
          · exact count_reports_add_count_reports hnodup (mem_entries_ofList.2 hshort)
              (mem_entries_ofList.2 hlong) hconflict }

/-- A registration that is made again after another one of its abbreviation is kept twice, and the
conflict between the two is reported twice. -/
theorem not_collapses_interrupted :
    ¬ Collapses [("s", 1), ("s", 2), ("s", 1)] ∧
      (ofList [("s", 1), ("s", 2), ("s", 1)]).abbreviations = ["s", "s", "s"] ∧
      (ofList [("s", 1), ("s", 2), ("s", 1)]).collisions = [("s", "s"), ("s", "s")] ∧
      (ofList [("s", 1), ("s", 2)]).abbreviations = ["s", "s"] ∧
      (ofList [("s", 1), ("s", 2)]).collisions = [("s", "s")] := by
  refine ⟨fun h => ?_, by decide, by decide, by decide, by decide⟩
  exact absurd h.abbreviations_eq (by decide)

end AbbreviationTable

end PlaylistCurator
