import PlaylistCurator.Curation.Reading
import PlaylistCurator.Proofs.Catalog.Paging
import PlaylistCurator.Proofs.Library.Contents
import PlaylistCurator.Proofs.Service.Course

/-!
# Draining the listings of a library

A library hands out its playlists, and the items of a playlist, page by page. Following the pages
from the first one on gives the whole list and comes to an end by itself: after the last page the
library has no other one, and after every page is asked once.

* `Library.Drains`: what it means that a list is handed out in pages and can be drained;
* `drainsListings`: all lists of a library are.
-/

namespace PlaylistCurator

open Dialogue

variable {α : Type} {newId : IdSource} {library : Library} {entries : List α}
  {opening : Dialogue (Listed α)} {ask : Page α → Dialogue (Option (Page α))}
  {openingCall : Call} {callAfter : Page α → Call} {pages : List (Page α)}

/-! ## Following pages -/

/-- Following pages from one of them on gives the entries from there on and asks after each page
once, if as many pages may be followed as there are. -/
theorem yields_collect
    (hafter : ∀ number page, pages[number]? = some page →
      (ask page).Yields newId library pages[number + 1]? library [callAfter page])
    {limit number : Nat} {page : Page α} (hpage : pages[number]? = some page)
    (hlimit : pages.length ≤ number + limit + 1) :
    (Page.collect ask limit page).Yields newId library ((pages.drop number).flatMap (·.items))
      library ((pages.drop number).map callAfter) := by
  -- By induction on how many pages may be followed; whether there is a following page decides what
  -- is left to do.
  induction limit generalizing number page with
  | zero =>
    have hend : pages.drop (number + 1) = [] := List.drop_eq_nil_of_le hlimit
    rw [Page.drop_eq_cons_of_getElem? hpage, hend, Page.collect, List.flatMap_singleton,
      List.map_singleton]
    exact (hafter number page hpage).bind (yields_done library page.items)
  | succ limit ih =>
    rw [Page.drop_eq_cons_of_getElem? hpage, List.flatMap_cons, List.map_cons, Page.collect]
    have hask := hafter number page hpage
    cases hnext : pages[number + 1]? with
    | none =>
      have hend : pages.drop (number + 1) = [] :=
        List.drop_eq_nil_of_le (List.getElem?_eq_none_iff.1 hnext)
      rw [hnext] at hask
      rw [hend, List.flatMap_nil, List.append_nil]
      exact hask.bind (yields_done library page.items)
    | some following =>
      have hrest := ih hnext (by omega)
      rw [hnext] at hask
      refine hask.bind ?_
      rw [← List.append_nil (List.map _ _)]
      exact hrest.bind (yields_done library _)

/-- A list of a library is handed out in pages: `opening` gives the first one and `ask` the one
after a page, each by a single call. -/
structure Library.Drains (newId : IdSource) (library : Library) (entries : List α)
    (opening : Dialogue (Listed α)) (ask : Page α → Dialogue (Option (Page α)))
    (openingCall : Call) (callAfter : Page α → Call) (pages : List (Page α)) : Prop where
  /-- The pages are those of the list. -/
  isPaging : Page.IsPaging library.pageSize entries pages
  /-- The first page comes with the length of the list. -/
  first : ∃ page, pages[0]? = some page ∧
    opening.Yields newId library ⟨page, entries.length⟩ library [openingCall]
  /-- Asking after a page gives the following one, and nothing after the last page. -/
  after : ∀ number page, pages[number]? = some page →
    (ask page).Yields newId library pages[number + 1]? library [callAfter page]
  /-- Following the pages from the first one on gives the list and asks after each page once. How
  many pages may be followed does not matter, if it is enough. -/
  collect : ∀ limit page, pages.length ≤ limit + 1 → pages[0]? = some page →
    (Page.collect ask limit page).Yields newId library entries library (pages.map callAfter)

namespace Library

/-- A list whose pages the library cuts can be drained. -/
theorem drains_cuts
    (hopening : opening.Yields newId library (library.firstPage entries) library [openingCall])
    (hask : ∀ page, (ask page).Yields newId library (library.pageAt entries page.next) library
      [callAfter page]) :
    library.Drains newId entries opening ask openingCall callAfter
      (Page.cuts library.pageSize entries) := by
  have hpaging := Page.isPaging_cuts library.pageSize_pos entries
  have hafter : ∀ number page, (Page.cuts library.pageSize entries)[number]? = some page →
      (ask page).Yields newId library (Page.cuts library.pageSize entries)[number + 1]? library
        [callAfter page] := by
    intro number page hnumber
    have hanswer := hask page
    rw [pageAt, hpaging.next_eq number page hnumber] at hanswer
    by_cases hmore : number + 1 < (Page.cuts library.pageSize entries).length
    · -- The following page is cut where this one says.
      rw [if_pos hmore, Option.map_some] at hanswer
      rw [Page.length_cuts] at hmore
      rwa [Page.getElem?_cuts_eq_some_iff.2 ⟨hmore, rfl⟩]
    · rw [if_neg hmore, Option.map_none] at hanswer
      rwa [List.getElem?_eq_none (Nat.le_of_not_lt hmore)]
  obtain ⟨final, hfinal⟩ := Page.exists_pageCount_eq_succ library.pageSize entries.length
  refine
    { isPaging := hpaging
      first := ⟨Page.cut library.pageSize entries 0, ?_, hopening⟩
      after := hafter
      collect := fun limit page hlimit hfirst => ?_ }
  · exact Page.getElem?_cuts_eq_some_iff.2 ⟨by omega, by rw [Nat.zero_mul]⟩
  · have hcollect := yields_collect hafter hfirst (show _ ≤ 0 + limit + 1 by omega)
    rwa [List.drop_zero, hpaging.flatMap_items] at hcollect

/-- Opening a list and following its pages gives the list, with a call for the first page and one
after each page. -/
theorem Drains.yields
    (h : library.Drains newId entries opening ask openingCall callAfter pages) :
    (opening >>= fun first => Page.collect ask first.total first.page).Yields newId library entries
      library (openingCall :: pages.map callAfter) := by
  obtain ⟨page, hfirst, hopening⟩ := h.first
  have hlimit : pages.length ≤ entries.length + 1 := by
    rw [h.isPaging.length_eq]
    exact Page.pageCount_le library.pageSize_pos entries.length
  exact hopening.bind (h.collect _ page hlimit hfirst)

end Library

/-- Draining a list changes nothing if its calls only read. -/
theorem isWrite_eq_false_of_mem_drain (hopening : openingCall.isWrite = false)
    (hafter : ∀ page, (callAfter page).isWrite = false) :
    ∀ call ∈ openingCall :: pages.map callAfter, call.isWrite = false := by
  rw [List.forall_mem_cons, List.forall_mem_map]
  exact ⟨hopening, fun page _ => hafter page⟩

/-! ## The listings of a library -/

namespace Curation

/-- The call after a page of the playlists. -/
def playlistsAfter (page : Page Playlist) : Call :=
  .playlistsAfter page.offset page.next

/-- The call after a page of a playlist's items. -/
def itemsAfter (id : String) (page : Page Item) : Call :=
  .itemsAfter id page.offset page.next

theorem drains_playlists (newId : IdSource) (library : Library) :
    library.Drains newId library.listing (call .playlists (some .fetchPlaylists))
      (fun page => call (playlistsAfter page) (some .fetchPlaylists)) .playlists playlistsAfter
      (Page.cuts library.pageSize library.listing) :=
  Library.drains_cuts (yields_call rfl) fun _ => yields_call rfl

theorem drains_items {id : String} {stored : StoredPlaylist}
    (hfind : library.find? id = some stored) :
    library.Drains newId stored.items (call (.items id) (some (.fetchTracks id)))
      (fun page => call (itemsAfter id page) (some (.fetchTracks id))) (.items id) (itemsAfter id)
      (Page.cuts library.pageSize stored.items) := by
  refine Library.drains_cuts ?_ fun page => ?_
  · have hfirst : library.answer newId (.items id) =
        .ok (library.firstPage stored.items, library) := by
      simp only [Library.answer, hfind]
    exact yields_call hfirst
  · -- Asking after a last page needs no playlist.
    have hnext : library.answer newId (.itemsAfter id page.offset page.next) =
        .ok (library.pageAt stored.items page.next, library) := by
      cases hpage : page.next with
      | none => rfl
      | some offset => simp only [Library.answer, hfind]
    exact yields_call hnext

/-- All playlists of the user are read by a call for the first page and one after each page. -/
theorem yields_allPlaylists (newId : IdSource) (library : Library) :
    allPlaylists.Yields newId library library.listing library
      (.playlists :: (Page.cuts library.pageSize library.listing).map playlistsAfter) :=
  (drains_playlists newId library).yields

/-- All items of a playlist are read by a call for the first page and one after each page. -/
theorem yields_allItems {id : String} {stored : StoredPlaylist}
    (hfind : library.find? id = some stored) :
    (allItems id).Yields newId library stored.items library
      (.items id :: (Page.cuts library.pageSize stored.items).map (itemsAfter id)) :=
  (drains_items hfind).yields

/-- The tracks of a playlist are those of the first stored playlist with its id. -/
theorem yields_tracksOf {id : String} {stored : StoredPlaylist}
    (hfind : library.find? id = some stored) :
    (tracksOf id).Yields newId library stored.trackIds library
      (.items id :: (Page.cuts library.pageSize stored.items).map (itemsAfter id)) := by
  rw [tracksOf, ← bind_pure_comp, ← List.append_nil (_ :: _)]
  exact (yields_allItems hfind).bind (yields_done library stored.trackIds)

/-- Looking a playlist up by name in the listing is looking it up in the library. -/
theorem findNamed?_listing (library : Library) (name : String) :
    findNamed? library.listing name = (library.firstNamed? name).map (·.playlist) := by
  rw [findNamed?, Library.listing, List.find?_map]
  rfl

/-- All lists of a library can be drained. -/
structure DrainsListings (newId : IdSource) (library : Library) : Prop where
  /-- The playlists can be drained. -/
  playlists : library.Drains newId library.listing (call .playlists (some .fetchPlaylists))
    (fun page => call (playlistsAfter page) (some .fetchPlaylists)) .playlists playlistsAfter
    (Page.cuts library.pageSize library.listing)
  /-- The items of the first playlist with an id can be drained. -/
  items : ∀ id stored, library.find? id = some stored →
    library.Drains newId stored.items (call (.items id) (some (.fetchTracks id)))
      (fun page => call (itemsAfter id page) (some (.fetchTracks id))) (.items id) (itemsAfter id)
      (Page.cuts library.pageSize stored.items)
  /-- Reading all playlists drains them. -/
  allPlaylists : allPlaylists.Yields newId library library.listing library
    (.playlists :: (Page.cuts library.pageSize library.listing).map playlistsAfter)
  /-- Reading all items of a playlist drains them. -/
  allItems : ∀ id stored, library.find? id = some stored →
    (allItems id).Yields newId library stored.items library
      (.items id :: (Page.cuts library.pageSize stored.items).map (itemsAfter id))
  /-- Where ids are distinct, the tracks of the first playlist of a name are those that are read by
  the id of the first listed playlist of the name. -/
  tracksOf : library.ids.Nodup → ∀ name playlist,
    findNamed? library.listing name = some playlist → ∃ tracks calls,
      library.trackIdsNamed? name = some tracks ∧
        (tracksOf playlist.id).Yields newId library tracks library calls
  /-- There are no tracks of a name that is not listed. -/
  unlisted : ∀ name, findNamed? library.listing name = none → library.trackIdsNamed? name = none

/-- The playlists of every library and the items of every playlist can be drained. -/
theorem drainsListings (newId : IdSource) (library : Library) : DrainsListings newId library where
  playlists := drains_playlists newId library
  items := fun _ _ hfind => drains_items hfind
  allPlaylists := yields_allPlaylists newId library
  allItems := fun _ _ hfind => yields_allItems hfind
  tracksOf := by
    intro hids name playlist hlisted
    rw [findNamed?_listing] at hlisted
    obtain ⟨stored, hstored, rfl⟩ := Option.map_eq_some_iff.1 hlisted
    -- The id leads back to the playlist that has been found by its name.
    have hfind := Library.find?_of_mem hids (List.mem_of_find?_eq_some hstored)
    refine ⟨stored.trackIds, _, ?_, yields_tracksOf hfind⟩
    rw [Library.trackIdsNamed?_eq_map, hstored, Option.map_some]
  unlisted := by
    intro name hunlisted
    rw [findNamed?_listing, Option.map_eq_none_iff] at hunlisted
    rw [Library.trackIdsNamed?_eq_map, hunlisted, Option.map_none]

end Curation

end PlaylistCurator
