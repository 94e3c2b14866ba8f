import PlaylistCurator.Catalog.Chain
import PlaylistCurator.Proofs.Catalog.Paging

/-!
# Collecting pages

Collecting a listing follows its pages from the first one on. After each page it asks once for the
following one, whatever the page holds, and it ends where there is none. If asking fails, collecting
fails for the same reason: the entries collected so far are given up, and nothing more is asked.

* `Page.run_collect`: this holds however asking is done, if it goes through the pages in order;
* `PageChain.collectsAllOrNothing`: what collecting the pages of a chain comes to.
-/

namespace PlaylistCurator

variable {α ε σ : Type}

namespace Page

/-! ## Any way of asking -/

/-- Asking goes through pages in order. Asking after the page of a number takes the state of that
number to the next one and gives the following page, or else an error, if this is the page after
which asking fails. -/
def GoesThrough (ask : Page α → ExceptT ε (StateM σ) (Option (Page α))) (pages : List (Page α))
    (states : Nat → σ) (failsAfter : Option Nat) (error : Nat → ε) : Prop :=
  ∀ number page, pages[number]? = some page →
    (ask page).run.run (states number) =
      (if failsAfter = some number then .error (error number) else .ok pages[number + 1]?,
        states (number + 1))

/-- The number of the page after which asking fails, if it is one of the pages from a number on. -/
def failureFrom (failsAfter : Option Nat) (number length : Nat) : Option Nat :=
  failsAfter.filter fun failing => number ≤ failing ∧ failing < length

variable {ask : Page α → ExceptT ε (StateM σ) (Option (Page α))} {pages : List (Page α)}
  {states : Nat → σ} {failsAfter : Option Nat} {error : Nat → ε}

/-- A second step is taken where the first one has left off, unless that one failed. -/
theorem run_bind {β γ : Type} (first : ExceptT ε (StateM σ) β)
    (next : β → ExceptT ε (StateM σ) γ) (state : σ) :
    (first >>= next).run.run state =
      match first.run.run state with
      | (.ok result, state) => (next result).run.run state
      | (.error error, state) => (.error error, state) := by
  rw [ExceptT.run_bind, StateT.run_bind]
  rcases first.run.run state with ⟨result | result, state⟩ <;> rfl

/-- The failure after a page is the first one from there on. -/
theorem failureFrom_self {number length : Nat} (h : number < length) :
    failureFrom (some number) number length = some number := by
  simp [failureFrom, h]

/-- A failure after another page is still to come. -/
theorem failureFrom_succ {number length : Nat} (h : failsAfter ≠ some number) :
    failureFrom failsAfter number length = failureFrom failsAfter (number + 1) length := by
  cases failsAfter with
  | none => rfl
  | some failing =>
    have hne : failing ≠ number := fun heq => h (congrArg some heq)
    have hiff : number ≤ failing ↔ number + 1 ≤ failing := by omega
    simp [failureFrom, Option.filter_some, hiff]

/-- No failure comes after the last page. -/
theorem failureFrom_of_le {number length : Nat} (h : length ≤ number) :
    failureFrom failsAfter number length = none := by
  rw [failureFrom, Option.filter_eq_none_iff]
  intro failing _ hfailing
  simp only [decide_eq_true_eq] at hfailing
  omega

/-- What collecting comes to from the page of a number on: the entries from there on, or the error
of the failure that is met, and the state that follows on the last page that is asked after. -/
def collected (pages : List (Page α)) (states : Nat → σ) (failsAfter : Option Nat)
    (error : Nat → ε) (number : Nat) : Except ε (List α) × σ :=
  match failureFrom failsAfter number pages.length with
  | none => (.ok ((pages.drop number).flatMap (·.items)), states pages.length)
  | some failing => (.error (error failing), states (failing + 1))

/-- If asking fails after a page, nothing comes of it. -/
theorem collected_of_fails {number : Nat} (hnumber : number < pages.length)
    (hfails : failsAfter = some number) :
    collected pages states failsAfter error number =
      (.error (error number), states (number + 1)) := by
  rw [collected, hfails, failureFrom_self hnumber]

/-- The last page is all that is collected from it on. -/
theorem collected_of_last {number : Nat} {page : Page α} (hpage : pages[number]? = some page)
    (hlast : pages.length ≤ number + 1) (hfails : failsAfter ≠ some number) :
    collected pages states failsAfter error number = (.ok page.items, states (number + 1)) := by
  have hnumber := (List.getElem?_eq_some_iff.1 hpage).1
  have hlength : pages.length = number + 1 := by omega
  rw [collected, failureFrom_succ hfails, failureFrom_of_le hlast, drop_eq_cons_of_getElem? hpage,
    List.drop_eq_nil_of_le hlast, List.flatMap_singleton, hlength]

/-- Any other page comes before what is collected from the following one on. -/
theorem collected_of_following {number : Nat} {page : Page α} (hpage : pages[number]? = some page)
    (hfails : failsAfter ≠ some number) :
    collected pages states failsAfter error number =
      ((collected pages states failsAfter error (number + 1)).1.map (page.items ++ ·),
        (collected pages states failsAfter error (number + 1)).2) := by
  rw [collected, collected, failureFrom_succ hfails, drop_eq_cons_of_getElem? hpage,
    List.flatMap_cons]
  split <;> rfl

/-- Collecting stops at once where asking fails. -/
theorem run_collect_of_fails (hask : GoesThrough ask pages states failsAfter error) (limit : Nat)
    {number : Nat} {page : Page α} (hpage : pages[number]? = some page)
    (hfails : failsAfter = some number) :
    (collect ask limit page).run.run (states number) =
      collected pages states failsAfter error number := by
  have hstep := hask number page hpage
  rw [if_pos hfails] at hstep
  rw [collected_of_fails (List.getElem?_eq_some_iff.1 hpage).1 hfails]
  cases limit <;> rw [collect, run_bind, hstep]

/-- Collecting goes through the pages from one of them on and asks after each one once, up to the
first failure. How many pages may be followed does not matter, if it is enough. -/
theorem run_collect (hask : GoesThrough ask pages states failsAfter error) {limit number : Nat}
    {page : Page α} (hpage : pages[number]? = some page)
    (hlimit : pages.length ≤ number + limit + 1) :
    (collect ask limit page).run.run (states number) =
      collected pages states failsAfter error number := by
  -- By induction on how many pages may still be followed.
  induction limit generalizing number page with
  | zero =>
    by_cases hfails : failsAfter = some number
    · exact run_collect_of_fails hask 0 hpage hfails
    · rw [collect, run_bind, hask number page hpage, if_neg hfails,
        collected_of_last hpage hlimit hfails]
      rfl
  | succ limit ih =>
    by_cases hfails : failsAfter = some number
    · exact run_collect_of_fails hask (limit + 1) hpage hfails
    · rw [collect, run_bind, hask number page hpage, if_neg hfails]
      cases hnext : pages[number + 1]? with
      | none =>
        rw [collected_of_last hpage (List.getElem?_eq_none_iff.1 hnext) hfails]
        rfl
      | some following =>
        -- The entries of this page are put before those that are collected from there on.
        have hrest := ih hnext (by omega)
        rw [collected_of_following hpage hfails, ← hrest]
        simp only [run_bind]
        rcases (collect ask limit following).run.run (states (number + 1)) with
          ⟨result | result, state⟩ <;> rfl

end Page

namespace PageChain

/-! ## Chains of numbered pages -/

/-- The pages of a chain, as they are handed out. -/
def handedOut (chain : PageChain α) : List (Page α) :=
  chain.pages.mapIdx fun number items =>
    ⟨items, number, if number + 1 < chain.pages.length then some (number + 1) else none⟩

variable (chain : PageChain α)

theorem getElem?_handedOut (number : Nat) : chain.handedOut[number]? = chain.page? number := by
  rw [handedOut, List.getElem?_mapIdx, page?]

theorem length_handedOut : chain.handedOut.length = chain.pages.length := List.length_mapIdx

theorem map_items_handedOut : chain.handedOut.map (·.items) = chain.pages := by
  refine List.ext_getElem? fun number => ?_
  rw [List.getElem?_map, getElem?_handedOut, page?, Option.map_map]
  cases chain.pages[number]? <;> rfl

/-- A page leads to the one with the following number. -/
theorem next_bind_page? {number : Nat} {page : Page α} (hpage : chain.page? number = some page) :
    page.next.bind chain.page? = chain.page? (number + 1) := by
  obtain ⟨items, _, rfl⟩ := Option.map_eq_some_iff.1 hpage
  split
  · rfl
  · rename_i hlast
    rw [page?, List.getElem?_eq_none (Nat.le_of_not_lt hlast)]
    rfl

/-- Asking goes through the pages of a chain and records their numbers. -/
theorem goesThrough_after :
    Page.GoesThrough chain.after chain.handedOut List.range chain.failsAfter id := by
  intro number page hpage
  rw [getElem?_handedOut] at hpage ⊢
  have hoffset : page.offset = number := by
    obtain ⟨items, _, rfl⟩ := Option.map_eq_some_iff.1 hpage
    rfl
  have hrecord : (modify (· ++ [number]) : Asking Unit).run.run (List.range number) =
      (.ok (), List.range (number + 1)) := by
    rw [List.range_succ]
    rfl
  rw [after, hoffset, chain.next_bind_page? hpage, Page.run_bind, hrecord]
  by_cases hfails : chain.failsAfter = some number
  · rw [if_pos hfails, if_pos hfails]
    rfl
  · rw [if_neg hfails, if_neg hfails]
    rfl

/-- Collecting from the first page of a chain on goes through its pages. -/
theorem run_collect_after {first : Page α} (hfirst : chain.page? 0 = some first) {limit : Nat}
    (hlimit : chain.pages.length ≤ limit + 1) :
    (Page.collect chain.after limit first).run.run [] =
      Page.collected chain.handedOut List.range chain.failsAfter id 0 := by
  rw [← getElem?_handedOut] at hfirst
  rw [← length_handedOut, ← Nat.zero_add limit] at hlimit
  exact Page.run_collect chain.goesThrough_after hfirst hlimit

theorem collect_eq_collected :
    chain.collect = Page.collected chain.handedOut List.range chain.failsAfter id 0 := by
  rw [collect]
  cases hfirst : chain.page? 0 with
  | none =>
    -- Without a first page there are no pages at all, and nothing can fail.
    have hnone : chain.handedOut = [] := by
      rw [← List.head?_eq_none_iff, List.head?_eq_getElem?, getElem?_handedOut, hfirst]
    rw [hnone, Page.collected, List.length_nil, Page.failureFrom_of_le (Nat.le_refl 0)]
    rfl
  | some first => exact chain.run_collect_after hfirst (Nat.le_succ _)

/-- What collecting the pages of a chain comes to. -/
structure CollectsAllOrNothing (chain : PageChain α) : Prop where
  /-- If asking fails after none of the pages, the entries of all pages are collected in order, and
  each page is asked after once, the last one included. -/
  all : (∀ failing < chain.pages.length, chain.failsAfter ≠ some failing) →
    chain.collect = (.ok chain.pages.flatten, List.range chain.pages.length)
  /-- If it fails after one of them, there are no entries but only this failure. Each page up to
  there is asked after once, and none beyond. -/
  nothing : ∀ failing < chain.pages.length, chain.failsAfter = some failing →
    chain.collect = (.error failing, List.range (failing + 1))
  /-- A limit on how many pages may follow the first one makes no difference, if it lets all pages
  of the chain through. -/
  unlimited : ∀ first limit, chain.page? 0 = some first → chain.pages.length ≤ limit + 1 →
    (Page.collect chain.after limit first).run.run [] = chain.collect

/-- Collecting the pages of a chain is all or nothing. -/
theorem collectsAllOrNothing (chain : PageChain α) : chain.CollectsAllOrNothing where
  all := by
    intro hspared
    have hnone : Page.failureFrom chain.failsAfter 0 chain.pages.length = none := by
      rw [Page.failureFrom, Option.filter_eq_none_iff]
      intro failing hfailing hreached
      simp only [decide_eq_true_eq] at hreached
      exact hspared failing hreached.2 hfailing
    rw [collect_eq_collected, Page.collected, length_handedOut, hnone, List.drop_zero,
      List.flatMap_def, map_items_handedOut]
  nothing := by
    intro failing hreached hfails
    have hsome : Page.failureFrom chain.failsAfter 0 chain.pages.length = some failing := by
      simp [Page.failureFrom, hfails, hreached]
    rw [collect_eq_collected, Page.collected, length_handedOut, hsome]
    rfl
  unlimited := by
    intro first limit hfirst hlimit
    rw [chain.run_collect_after hfirst hlimit, collect_eq_collected]

end PageChain

end PlaylistCurator
