/-!
# Pages of a listing

Long listings come in pages. A page says at which entry of the listing it begins and, unless it is
the last one, where the following page begins.

* `Page.cut`: the page of a list at an offset.
* `Page.collect`: the entries of a page and of all pages after it.
* `chunks`: a list in pieces of at most a given length.
-/

namespace PlaylistCurator

/-- One page of a listing. -/
structure Page (α : Type) where
  /-- The entries of the page. -/
  items : List α
  /-- How many entries of the listing come before the page. -/
  offset : Nat := 0
  /-- The offset of the following page; the last page has none. -/
  next : Option Nat := none
  deriving DecidableEq, Repr

/-- A first page, with the number of entries of the whole listing. -/
structure Listed (α : Type) where
  /-- The first page. -/
  page : Page α
  /-- How many entries the listing has. No more pages than that can follow the first one. -/
  total : Nat
  deriving DecidableEq, Repr

namespace Page

variable {α : Type}

/-- The page of at most `size` entries at an offset of a list. -/
def cut (size : Nat) (entries : List α) (offset : Nat) : Page α :=
  let start := min offset entries.length
  let stop := min (start + size) entries.length
  ⟨(entries.drop start).take size, start, if stop < entries.length then some stop else none⟩

/-- The entries of a page and of all pages that follow it, of which there are at most `limit`. The
page after each one is asked for, also after the last. -/
def collect {m : Type → Type} [Monad m] (after : Page α → m (Option (Page α))) :
    (limit : Nat) → Page α → m (List α)
  | 0, page => do
    let _ ← after page
    return page.items
  | limit + 1, page => do
    match ← after page with
    | none => return page.items
    | some following => return page.items ++ (← collect after limit following)

end Page

/-- The pieces of a list, each of `size` entries except for a shorter last one. A size of zero counts
as one. -/
def chunks {α : Type} (size : Nat) (entries : List α) : List (List α) :=
  match entries with
  | [] => []
  | entry :: rest => (entry :: rest).take (max size 1) :: chunks size (rest.drop (max size 1 - 1))
  termination_by entries.length
  decreasing_by
    rw [List.length_drop, List.length_cons]
    omega

/-- Nothing is lost in cutting a list into pieces. -/
theorem flatten_chunks {α : Type} (size : Nat) (entries : List α) :
    (chunks size entries).flatten = entries := by
  fun_induction chunks size entries with
  | case1 => rfl
  | case2 entry rest ih =>
    rw [List.flatten_cons, ih]
    obtain ⟨n, hn⟩ : ∃ n, max size 1 = n + 1 := ⟨max size 1 - 1, by omega⟩
    simp [hn]

/-- No piece exceeds the size. -/
theorem length_le_of_mem_chunks {α : Type} {size : Nat} {entries piece : List α}
    (h : piece ∈ chunks size entries) : piece.length ≤ max size 1 := by
  fun_induction chunks size entries with
  | case1 => simp at h
  | case2 entry rest ih =>
    rcases List.mem_cons.1 h with rfl | h
    · exact List.length_take_le ..
    · exact ih h

end PlaylistCurator
