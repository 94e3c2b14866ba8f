import PlaylistCurator.Catalog.Page

/-!
# Chains of pages

A listing that is given page by page, where the offset of a page is its number. Asking for the page
after one of them can fail. Collecting the entries keeps a record of the pages after which was
asked.
-/

namespace PlaylistCurator

/-- A listing in numbered pages. -/
structure PageChain (α : Type) where
  /-- The entries of the pages. -/
  pages : List (List α)
  /-- The number of the page after which asking for the next one fails. -/
  failsAfter : Option Nat := none
  deriving DecidableEq, Repr

namespace PageChain

variable {α : Type}

/-- The page of a number. -/
def page? (chain : PageChain α) (number : Nat) : Option (Page α) :=
  (chain.pages[number]?).map fun items =>
    ⟨items, number, if number + 1 < chain.pages.length then some (number + 1) else none⟩

/-- Asking for pages: the failure is the number of a page, and the numbers of the pages after which
was asked are recorded in order. -/
abbrev Asking : Type → Type := ExceptT Nat (StateM (List Nat))

/-- Asks for the page after a page. -/
def after (chain : PageChain α) (page : Page α) : Asking (Option (Page α)) := do
  modify (· ++ [page.offset])
  if chain.failsAfter = some page.offset then throw page.offset
  return page.next.bind chain.page?

/-- The entries of all pages, or the number of the page after which asking failed, and the record of
the pages after which was asked. -/
def collect (chain : PageChain α) : Except Nat (List α) × List Nat :=
  match chain.page? 0 with
  | none => (.ok [], [])
  | some first => ((Page.collect chain.after chain.pages.length first).run).run []

example : collect ⟨[[1, 2], [], [3]], none⟩ = (.ok [1, 2, 3], [0, 1, 2]) := by rfl
example : collect ⟨[[1, 2], [], [3]], some 1⟩ = (.error 1, [0, 1]) := by rfl

end PageChain

end PlaylistCurator
