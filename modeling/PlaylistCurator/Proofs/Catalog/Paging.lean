import PlaylistCurator.Catalog.Page

/-!
# The pages of a list

A list is handed out in pages of which all but the last are full (`Page.cuts`). This module says
where the pages begin, how many there are and what they hold (`Page.IsPaging`), and that each page
knows where the following one begins.

* `Page.succ_lt_pageCount_iff`: there is a page after a full one exactly if entries are left;
* `Page.isPaging_cuts`: what the pages of a list are like.
-/

namespace PlaylistCurator.Page

variable {α : Type} {size : Nat} {entries : List α}

/-! ## A single page -/

/-- The page after a page of a list, if it is not the last one. -/
theorem next_cut (size : Nat) (entries : List α) {offset : Nat}
    (hoffset : offset ≤ entries.length) :
    (cut size entries offset).next =
      if offset + size < entries.length then some (offset + size) else none := by
  simp only [cut, Nat.min_eq_left hoffset]
  split <;> split <;> simp <;> omega

/-- The entries on a page of a list. -/
theorem items_cut (size : Nat) (entries : List α) {offset : Nat}
    (hoffset : offset ≤ entries.length) :
    (cut size entries offset).items = (entries.drop offset).take size := by
  simp [cut, Nat.min_eq_left hoffset]

/-- A page of a list begins where it was asked for. -/
theorem offset_cut (size : Nat) (entries : List α) {offset : Nat}
    (hoffset : offset ≤ entries.length) : (cut size entries offset).offset = offset :=
  Nat.min_eq_left hoffset

/-! ## How many pages there are -/

/-- The number of pages of a list: its length divided by the size of a page, rounded up, but at
least one. -/
def pageCount (size length : Nat) : Nat :=
  max 1 ((length + size - 1) / size)

/-- There is a page after a full one exactly if entries are left. -/
theorem succ_lt_pageCount_iff (hsize : 0 < size) {number length : Nat} :
    number + 1 < pageCount size length ↔ (number + 1) * size < length := by
  have hroom := Nat.le_div_iff_mul_le (x := number + 1 + 1) (y := length + size - 1) hsize
  rw [Nat.succ_mul] at hroom
  unfold pageCount
  omega

/-- No page begins after the end of the list. -/
theorem mul_le_length_of_lt_pageCount (hsize : 0 < size) {number length : Nat}
    (h : number < pageCount size length) : number * size ≤ length := by
  cases number with
  | zero => simp
  | succ number => exact Nat.le_of_lt ((succ_lt_pageCount_iff hsize).1 h)

/-- The last page has room for the rest of the list. -/
theorem length_le_of_succ_eq_pageCount (hsize : 0 < size) {number length : Nat}
    (h : number + 1 = pageCount size length) : length ≤ (number + 1) * size :=
  Nat.le_of_not_lt fun hlt => absurd ((succ_lt_pageCount_iff hsize).2 hlt) (by omega)

/-- A list has no more pages than entries, but for the one page of an empty list. -/
theorem pageCount_le (hsize : 0 < size) (length : Nat) : pageCount size length ≤ length + 1 := by
  refine Nat.le_of_not_lt fun hmore => ?_
  have hlt := (succ_lt_pageCount_iff hsize).1 hmore
  have hle := Nat.le_mul_of_pos_right (length + 1) hsize
  omega

/-- There is a last page. -/
theorem exists_pageCount_eq_succ (size length : Nat) :
    ∃ last, pageCount size length = last + 1 :=
  Nat.exists_eq_add_of_le' (Nat.le_max_left _ _)

/-! ## All pages -/

/-- The pages from one of them on are this page and those after it. -/
theorem drop_eq_cons_of_getElem? {pages : List (Page α)} {number : Nat} {page : Page α}
    (h : pages[number]? = some page) : pages.drop number = page :: pages.drop (number + 1) := by
  obtain ⟨hnumber, rfl⟩ := List.getElem?_eq_some_iff.1 h
  exact List.drop_eq_getElem_cons hnumber

/-- The pages of a list in order. -/
def cuts (size : Nat) (entries : List α) : List (Page α) :=
  (List.range (pageCount size entries.length)).map fun number => cut size entries (number * size)

@[simp]
theorem length_cuts (size : Nat) (entries : List α) :
    (cuts size entries).length = pageCount size entries.length := by
  simp [cuts]

/-- The pages of a list, numbered from zero. -/
theorem getElem?_cuts_eq_some_iff {number : Nat} {page : Page α} :
    (cuts size entries)[number]? = some page ↔
      number < pageCount size entries.length ∧ cut size entries (number * size) = page := by
  by_cases hnumber : number < pageCount size entries.length
  · simp [cuts, hnumber]
  · simp [cuts, hnumber]

/-- Where a page of a list begins, what it holds and where the following page begins. -/
theorem of_getElem?_cuts (hsize : 0 < size) {number : Nat} {page : Page α}
    (h : (cuts size entries)[number]? = some page) :
    number * size ≤ entries.length ∧ page.offset = number * size ∧
      page.items = (entries.drop (number * size)).take size ∧
      page.next = if number * size + size < entries.length then some (number * size + size)
        else none := by
  obtain ⟨hnumber, rfl⟩ := getElem?_cuts_eq_some_iff.1 h
  have hoffset := mul_le_length_of_lt_pageCount hsize hnumber
  exact ⟨hoffset, offset_cut size entries hoffset, items_cut size entries hoffset,
    next_cut size entries hoffset⟩

/-- The first pages of a list hold its first entries. -/
theorem flatMap_items_range (hsize : 0 < size) {count : Nat}
    (hcount : count ≤ pageCount size entries.length) :
    ((List.range count).map fun number => cut size entries (number * size)).flatMap (·.items) =
      entries.take (count * size) := by
  induction count with
  | zero => simp
  | succ count ih =>
    have hoffset := mul_le_length_of_lt_pageCount hsize hcount
    rw [List.range_succ, List.map_append, List.flatMap_append, ih (Nat.le_of_lt hcount),
      List.map_singleton, List.flatMap_singleton, items_cut size entries hoffset, Nat.succ_mul,
      List.take_add]

/-- Together the pages of a list hold the list. -/
theorem flatMap_items_cuts (hsize : 0 < size) (entries : List α) :
    (cuts size entries).flatMap (·.items) = entries := by
  obtain ⟨final, hfinal⟩ := exists_pageCount_eq_succ size entries.length
  rw [cuts, flatMap_items_range hsize (Nat.le_refl _), hfinal]
  exact List.take_of_length_le (length_le_of_succ_eq_pageCount hsize hfinal.symm)

/-- Pages of at most `size` entries in which a list is handed out. -/
structure IsPaging (size : Nat) (entries : List α) (pages : List (Page α)) : Prop where
  /-- There are as many pages as it takes, but at least one. -/
  length_eq : pages.length = max 1 ((entries.length + size - 1) / size)
  /-- Every page begins as many entries after the one before as fit on a page. -/
  offset_eq : ∀ number page, pages[number]? = some page → page.offset = number * size
  /-- All pages but the last are full. -/
  length_items_eq : ∀ number page, pages[number]? = some page → number + 1 < pages.length →
    page.items.length = size
  /-- The last page is not overfull, and it is empty only for an empty list. -/
  last : ∀ page, pages.getLast? = some page →
    page.items.length ≤ size ∧ (page.items.length = 0 ↔ entries.length = 0)
  /-- Every page stays within the list. -/
  within : ∀ page ∈ pages, page.offset + page.items.length ≤ entries.length
  /-- Every page holds the entries of the list from its offset on. -/
  items_eq : ∀ page ∈ pages, page.items = (entries.drop page.offset).take page.items.length
  /-- Every page but the last says where the following one begins. -/
  next_eq : ∀ number page, pages[number]? = some page →
    page.next = if number + 1 < pages.length then some ((number + 1) * size) else none
  /-- Together the pages hold the list. -/
  flatMap_items : pages.flatMap (·.items) = entries

/-- What the pages of a list are like. -/
theorem isPaging_cuts (hsize : 0 < size) (entries : List α) :
    IsPaging size entries (cuts size entries) := by
  refine
    { length_eq := length_cuts size entries
      offset_eq := fun number page hnumber => (of_getElem?_cuts hsize hnumber).2.1
      length_items_eq := ?_
      last := ?_
      within := ?_
      items_eq := ?_
      next_eq := ?_
      flatMap_items := flatMap_items_cuts hsize entries }
  · intro number page hnumber hmore
    rw [length_cuts, succ_lt_pageCount_iff hsize, Nat.succ_mul] at hmore
    rw [(of_getElem?_cuts hsize hnumber).2.2.1, List.length_take, List.length_drop]
    omega
  · intro page hlast
    obtain ⟨final, hfinal⟩ := exists_pageCount_eq_succ size entries.length
    rw [List.getLast?_eq_getElem?, length_cuts, hfinal, Nat.add_sub_cancel] at hlast
    rw [(of_getElem?_cuts hsize hlast).2.2.1, List.length_take, List.length_drop]
    refine ⟨Nat.min_le_left _ _, ?_⟩
    cases final with
    | zero => omega
    | succ final =>
      -- There would be no second page if the first pages held all entries.
      have hmore : (final + 1) * size < entries.length :=
        (succ_lt_pageCount_iff hsize).1 (by omega)
      omega
  · intro page hmem
    obtain ⟨number, hnumber⟩ := List.mem_iff_getElem?.1 hmem
    obtain ⟨hoffset, hoffsetEq, hitems, -⟩ := of_getElem?_cuts hsize hnumber
    rw [hoffsetEq, hitems, List.length_take, List.length_drop]
    omega
  · intro page hmem
    obtain ⟨number, hnumber⟩ := List.mem_iff_getElem?.1 hmem
    obtain ⟨-, hoffsetEq, hitems, -⟩ := of_getElem?_cuts hsize hnumber
    rw [hoffsetEq, hitems, List.length_take, ← List.take_take, List.take_length]
  · intro number page hnumber
    rw [(of_getElem?_cuts hsize hnumber).2.2.2, length_cuts]
    simp only [succ_lt_pageCount_iff hsize, Nat.succ_mul]

/-- Four entries fill two pages of two, and no empty page follows. -/
example : cuts 2 [1, 2, 3, 4] = [⟨[1, 2], 0, some 2⟩, ⟨[3, 4], 2, none⟩] := by decide

end PlaylistCurator.Page
