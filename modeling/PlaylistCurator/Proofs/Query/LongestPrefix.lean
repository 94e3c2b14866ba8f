import PlaylistCurator.Proofs.Query.TableEntries

/-!
# The longest abbreviation

A token stands for the identifier of the longest abbreviation that it begins with, whether or not a
shorter one stands for something else. Which one is longest does not depend on the order of the
registrations, nor on how often each of them was made. Main statements:

* `mem_of_searchHalves`, `ne_of_searchHalves_eq_none`: what a search by halves finds, and what it
  means that it finds nothing;
* `searchHalves_eq_lookup`: where each word has one entry, it finds what going through all of them
  finds;
* `find?_eq_some_iff_isLongestStart`: what a token finds;
* `findsLongest`: the same for a table that is made of registrations.
-/

namespace PlaylistCurator

variable {ι : Type}

/-- The longest abbreviation, other than the empty one, that a token begins with, and an identifier
that it is registered for. -/
structure IsLongestStart (registrations : List (String × ι)) (token abbreviation : String)
    (identifier : ι) : Prop where
  /-- The abbreviation is registered for the identifier. -/
  registered : (abbreviation, identifier) ∈ registrations
  /-- The empty abbreviation does not count. -/
  ne_empty : abbreviation ≠ ""
  /-- The token begins with the abbreviation. -/
  begins : abbreviation.toList <+: token.toList
  /-- The token begins with no longer abbreviation. -/
  longest : ∀ entry ∈ registrations, entry.1.toList <+: token.toList →
    entry.1.length ≤ abbreviation.length

namespace AbbreviationTable

variable {registrations others : List (String × ι)} {token abbreviation : String} {identifier : ι}

/-- The longest abbreviation does not depend on the order of the registrations and on how often each
was made. -/
theorem isLongestStart_congr (h : ∀ entry, entry ∈ others ↔ entry ∈ registrations) :
    IsLongestStart others token abbreviation identifier ↔
      IsLongestStart registrations token abbreviation identifier := by
  constructor
  · rintro ⟨hregistered, hne, hbegins, hlongest⟩
    exact ⟨(h _).1 hregistered, hne, hbegins, fun entry hentry => hlongest entry ((h _).2 hentry)⟩
  · rintro ⟨hregistered, hne, hbegins, hlongest⟩
    exact ⟨(h _).2 hregistered, hne, hbegins, fun entry hentry => hlongest entry ((h _).1 hentry)⟩

/-- Two longest abbreviations are the same one, which stands for one identifier. -/
theorem eq_of_isLongestStart {other : String} {second : ι} (hsingle : IsSingleValued registrations)
    (h : IsLongestStart registrations token abbreviation identifier)
    (hother : IsLongestStart registrations token other second) : identifier = second := by
  have hlength : abbreviation.toList.length = other.toList.length := by
    rw [String.length_toList, String.length_toList]
    exact Nat.le_antisymm (hother.longest _ h.registered h.begins)
      (h.longest _ hother.registered hother.begins)
  have hsame : abbreviation.toList = other.toList := by
    rw [List.prefix_iff_eq_take.1 h.begins, List.prefix_iff_eq_take.1 hother.begins, hlength]
  exact hsingle _ h.registered _ hother.registered (String.toList_inj.1 hsame)

/-! ## Searching by halves -/

section SearchingByHalves

variable {word : String} {entries : List (String × ι)}

/-- What is found stands in an entry of the word, in whatever order the entries are. -/
theorem mem_of_searchHalves (h : searchHalves word entries = some identifier) :
    (word, identifier) ∈ entries := by
  fun_induction searchHalves word entries with
  | case1 => cases h
  | case2 entry hword =>
    obtain rfl := Option.some.inj h
    exact List.mem_singleton.2 (Prod.ext hword.symm rfl)
  | case3 => cases h
  | case4 first second rest entries middle hmiddle hword ih => exact List.mem_of_mem_take (ih h)
  | case5 first second rest entries middle hmiddle hword ih => exact List.mem_of_mem_drop (ih h)

/-- Where the entries ascend, a word that is not found has no entry. -/
theorem ne_of_searchHalves_eq_none (h : entries.Pairwise fun a b => a.1 ≤ b.1)
    (hnone : searchHalves word entries = none) : ∀ entry ∈ entries, entry.1 ≠ word := by
  fun_induction searchHalves word entries with
  | case1 => exact fun entry hentry => absurd hentry List.not_mem_nil
  | case2 => cases hnone
  | case3 entry hword => exact List.forall_mem_singleton.2 hword
  | case4 first second rest entries middle hmiddle hbefore ih =>
    change ∀ entry ∈ entries, entry.1 ≠ word
    change entries.Pairwise _ at h
    rw [← List.take_append_drop middle entries] at h ⊢
    obtain ⟨hearlier, hlater, -⟩ := List.pairwise_append.1 h
    refine List.forall_mem_append.2 ⟨ih hearlier hnone, ?_⟩
    -- From the middle on there are only later words.
    rw [List.drop_eq_getElem_cons hmiddle] at hlater ⊢
    refine List.forall_mem_cons.2 ⟨(String.ne_of_lt hbefore).symm, fun entry hentry => ?_⟩
    rintro rfl
    exact String.not_lt.2 ((List.pairwise_cons.1 hlater).1 entry hentry) hbefore
  | case5 first second rest entries middle hmiddle hnot ih =>
    change ∀ entry ∈ entries, entry.1 ≠ word
    change entries.Pairwise _ at h
    rw [← List.take_append_drop middle entries] at h ⊢
    obtain ⟨-, hlater, hacross⟩ := List.pairwise_append.1 h
    refine List.forall_mem_append.2 ⟨fun entry hentry => ?_, ih hlater hnone⟩
    rintro rfl
    -- If the word has an entry before the middle, then the middle is one as well.
    have hmem : entries[middle] ∈ entries.drop middle := by
      rw [List.drop_eq_getElem_cons hmiddle]
      exact List.mem_cons_self
    refine ih hlater hnone _ hmem (String.le_antisymm (String.not_lt.1 hnot) ?_)
    exact hacross entry hentry _ hmem

/-- Where each word has one entry, searching by halves finds what going through all of them finds. -/
theorem searchHalves_eq_lookup (h : entries.Pairwise fun a b => a.1 < b.1) :
    searchHalves word entries = entries.lookup word := by
  cases hfound : searchHalves word entries with
  | none =>
    have hascending : entries.Pairwise fun a b => a.1 ≤ b.1 := h.imp Std.le_of_lt
    refine (List.lookup_eq_none_iff.2 fun entry hentry => ?_).symm
    simpa using (ne_of_searchHalves_eq_none hascending hfound entry hentry).symm
  | some identifier =>
    obtain ⟨earlier, later, rfl⟩ := List.append_of_mem (mem_of_searchHalves hfound)
    refine (List.lookup_eq_some_iff.2 ⟨earlier, later, rfl, fun entry hentry => ?_⟩).symm
    have hbefore : entry.1 < word :=
      (List.pairwise_append.1 h).2.2 entry hentry _ List.mem_cons_self
    simpa using (String.ne_of_lt hbefore).symm

end SearchingByHalves

/-! ## Going through the beginnings of a token -/

variable {table : AbbreviationTable ι} {characters : List Char} {length : Nat}

/-- No abbreviation of a certain length begins a token if the beginning of that length is none. -/
theorem length_ne_of_searchHalves_take_eq_none
    (h : searchHalves (String.ofList (characters.take length)) table.entries = none)
    {entry : String × ι} (hentry : entry ∈ table.entries)
    (hbegins : entry.1.toList <+: characters) : entry.1.length ≠ length := by
  rintro rfl
  have htake : String.ofList (characters.take entry.1.length) = entry.1 := by
    rw [← String.length_toList, ← List.prefix_iff_eq_take.1 hbegins, String.ofList_toList]
  rw [htake] at h
  exact ne_of_searchHalves_eq_none table.ascending h entry hentry rfl

/-- What is found within some characters stands for the longest abbreviation within them. -/
theorem exists_longest_of_longestWithin (hlength : length ≤ characters.length)
    (h : table.longestWithin characters length = some identifier) :
    ∃ abbreviation, (abbreviation, identifier) ∈ table.entries ∧ abbreviation ≠ "" ∧
      abbreviation.toList <+: characters ∧
      ∀ entry ∈ table.entries, entry.1.toList <+: characters → entry.1.length ≤ length →
        entry.1.length ≤ abbreviation.length := by
  induction length with
  | zero => cases h
  | succ length ih =>
    rw [longestWithin] at h
    split at h
    next found hfound =>
      -- The beginning of this length is itself the longest one.
      obtain rfl := Option.some.inj h
      have hword : (String.ofList (characters.take (length + 1))).length = length + 1 := by
        rw [String.length_ofList, List.length_take_of_le hlength]
      refine ⟨String.ofList (characters.take (length + 1)), mem_of_searchHalves hfound, ?_, ?_, ?_⟩
      · intro hempty
        rw [hempty] at hword
        cases hword
      · rw [String.toList_ofList]
        exact List.take_prefix _ _
      · intro entry _ _ hle
        rw [hword]
        exact hle
    next hnone =>
      -- No abbreviation has this length, so that what is longest below it is longest up to it.
      obtain ⟨abbreviation, hmem, hne, hbegins, hlongest⟩ := ih (by omega) h
      refine ⟨abbreviation, hmem, hne, hbegins, fun entry hentry hstart hle => ?_⟩
      have hshorter := length_ne_of_searchHalves_take_eq_none hnone hentry hstart
      exact hlongest entry hentry hstart (by omega)

/-- A beginning of a token that is an abbreviation is not passed over. -/
theorem longestWithin_ne_none (hmem : (abbreviation, identifier) ∈ table.entries)
    (hbegins : abbreviation.toList <+: characters) (hne : abbreviation ≠ "")
    (hlength : abbreviation.length ≤ length) : table.longestWithin characters length ≠ none := by
  induction length with
  | zero =>
    have hzero : abbreviation.length = 0 := Nat.le_zero.1 hlength
    exact absurd (String.length_eq_zero_iff.1 hzero) hne
  | succ length ih =>
    rw [longestWithin]
    split
    next => exact Option.some_ne_none _
    next hnone =>
      have hshorter : abbreviation.length ≠ length + 1 :=
        length_ne_of_searchHalves_take_eq_none hnone hmem hbegins
      exact ih (by omega)

theorem exists_isLongestStart_of_find? (h : table.find? token = some identifier) :
    ∃ abbreviation, IsLongestStart table.entries token abbreviation identifier := by
  obtain ⟨abbreviation, hmem, hne, hbegins, hlongest⟩ :=
    exists_longest_of_longestWithin String.length_toList.ge h
  refine ⟨abbreviation, hmem, hne, hbegins, fun entry hentry hstart => ?_⟩
  exact hlongest entry hentry hstart hstart.length_le

/-- A token finds nothing if and only if it begins with no abbreviation other than the empty one. -/
theorem find?_eq_none_iff :
    table.find? token = none ↔
      ∀ entry ∈ table.entries, entry.1 ≠ "" → ¬ entry.1.toList <+: token.toList := by
  constructor
  · intro h entry hentry hne hbegins
    exact longestWithin_ne_none hentry hbegins hne hbegins.length_le h
  · intro h
    cases hfound : table.find? token with
    | none => rfl
    | some identifier =>
      obtain ⟨abbreviation, hlongest⟩ := exists_isLongestStart_of_find? hfound
      exact absurd hlongest.begins (h _ hlongest.registered hlongest.ne_empty)

/-- A token finds the identifier of the longest abbreviation that it begins with. -/
theorem find?_eq_some_iff_isLongestStart (hsingle : IsSingleValued table.entries) :
    table.find? token = some identifier ↔
      ∃ abbreviation, IsLongestStart table.entries token abbreviation identifier := by
  refine ⟨exists_isLongestStart_of_find?, ?_⟩
  rintro ⟨abbreviation, hlongest⟩
  cases hfound : table.find? token with
  | none =>
    exact absurd hlongest.begins
      (find?_eq_none_iff.1 hfound _ hlongest.registered hlongest.ne_empty)
  | some other =>
    obtain ⟨_, hother⟩ := exists_isLongestStart_of_find? hfound
    rw [eq_of_isLongestStart hsingle hother hlongest]

theorem find_eq_ok_iff {token : Option String} :
    table.find token = .ok identifier ↔ table.find? (token.getD "") = some identifier := by
  rw [find]
  cases table.find? (token.getD "") <;> simp

/-- A token that finds nothing is unknown as the word that was looked up. -/
theorem find_eq_error_iff {token : Option String} {unknown : UnknownToken} :
    table.find token = .error unknown ↔
      unknown = ⟨token.getD ""⟩ ∧ table.find? (token.getD "") = none := by
  rw [find]
  cases table.find? (token.getD "") <;> simp [eq_comm]

/-! ## Tables made of registrations -/

variable [DecidableEq ι]

/-- What tokens find in the table of some registrations: the longest abbreviation decides. -/
structure FindsLongest (registrations : List (String × ι)) : Prop where
  /-- A token finds the identifier of the longest abbreviation that it begins with. -/
  find_eq_ok_iff : ∀ token identifier, (ofList registrations).find token = .ok identifier ↔
    ∃ abbreviation, IsLongestStart registrations (token.getD "") abbreviation identifier
  /-- A token is unknown if it begins with no abbreviation other than the empty one. -/
  find_eq_error_iff : ∀ token unknown, (ofList registrations).find token = .error unknown ↔
    unknown = ⟨token.getD ""⟩ ∧
      ∀ entry ∈ registrations, entry.1 ≠ "" → ¬ entry.1.toList <+: (token.getD "").toList
  /-- The empty token is unknown, and an absent one is looked up as the empty one. -/
  find_of_empty : ∀ token : Option String, token.getD "" = "" →
    (ofList registrations).find token = .error ⟨""⟩
  /-- The order of the registrations and their repeats make no difference. -/
  find_congr : ∀ others : List (String × ι), (∀ entry, entry ∈ others ↔ entry ∈ registrations) →
    ∀ token, (ofList others).find token = (ofList registrations).find token
  /-- Searching the entries by halves finds what going through all of them finds. -/
  searchHalves_eq : ∀ word, searchHalves word (ofList registrations).entries =
    (ofList registrations).entries.lookup word

theorem find_ofList_eq_ok_iff_isLongestStart (hsingle : IsSingleValued registrations)
    {token : Option String} :
    (ofList registrations).find token = .ok identifier ↔
      ∃ abbreviation, IsLongestStart registrations (token.getD "") abbreviation identifier := by
  have hentries : IsSingleValued (ofList registrations).entries := fun entry hentry other hother =>
    hsingle entry (mem_entries_ofList.1 hentry) other (mem_entries_ofList.1 hother)
  rw [find_eq_ok_iff, find?_eq_some_iff_isLongestStart hentries]
  exact exists_congr fun abbreviation => isLongestStart_congr fun entry => mem_entries_ofList

theorem find_ofList_eq_error_iff_not_begins {token : Option String} {unknown : UnknownToken} :
    (ofList registrations).find token = .error unknown ↔
      unknown = ⟨token.getD ""⟩ ∧
        ∀ entry ∈ registrations, entry.1 ≠ "" → ¬ entry.1.toList <+: (token.getD "").toList := by
  rw [find_eq_error_iff, find?_eq_none_iff]
  simp only [mem_entries_ofList]

/-- Where no abbreviation stands for two identifiers, the longest one decides. -/
theorem findsLongest (hsingle : IsSingleValued registrations) : FindsLongest registrations where
  find_eq_ok_iff _ _ := find_ofList_eq_ok_iff_isLongestStart hsingle
  find_eq_error_iff _ _ := find_ofList_eq_error_iff_not_begins
  find_of_empty token htoken := by
    rw [find, htoken, find?_empty]
  find_congr others hothers token := by
    have hsame : IsSingleValued others := fun entry hentry other hother =>
      hsingle entry ((hothers entry).1 hentry) other ((hothers other).1 hother)
    cases hfound : (ofList registrations).find token with
    | ok identifier =>
      rw [find_ofList_eq_ok_iff_isLongestStart hsingle] at hfound
      rw [find_ofList_eq_ok_iff_isLongestStart hsame]
      exact hfound.imp fun abbreviation => (isLongestStart_congr hothers).2
    | error unknown =>
      rw [find_ofList_eq_error_iff_not_begins] at hfound ⊢
      exact hfound.imp_right fun hnone entry hentry => hnone entry ((hothers entry).1 hentry)
  searchHalves_eq _ := searchHalves_eq_lookup (pairwise_lt_entries_ofList hsingle)

/-- Shades of red, one of them registered twice, with a letter outside of ASCII and with the empty
abbreviation. -/
def shades : List (String × Nat) :=
  [("r", 1), ("rosé", 3), ("ro", 2), ("red", 1), ("", 4), ("ro", 2)]

/-- A shade is found by its longest abbreviation, in whatever order they are registered. -/
theorem findsLongest_shades :
    IsSingleValued shades ∧ IsLongestStart shades "rosy" "ro" 2 ∧
      (ofList shades).find (some "rosy") = .ok 2 ∧
      (ofList shades).find (some "blue") = .error ⟨"blue"⟩ ∧
      (ofList shades).find none = .error ⟨""⟩ ∧
      (ofList shades.reverse).find (some "roséwood") = .ok 3 ∧
      searchHalves "rosé" (ofList shades).entries = some 3 := by
  have hsingle : IsSingleValued shades := by decide
  have hrosy : IsLongestStart shades "rosy" "ro" 2 := ⟨by decide, by decide, by decide, by decide⟩
  have hrose : IsLongestStart shades "roséwood" "rosé" 3 :=
    ⟨by decide, by decide, by decide, by decide⟩
  have hlaws := findsLongest hsingle
  refine ⟨hsingle, hrosy, ?_, ?_, ?_, ?_, ?_⟩
  · exact (hlaws.find_eq_ok_iff _ _).2 ⟨_, hrosy⟩
  · exact (hlaws.find_eq_error_iff _ _).2 ⟨rfl, by decide⟩
  · exact hlaws.find_of_empty none rfl
  · rw [hlaws.find_congr _ (fun _ => List.mem_reverse)]
    exact (hlaws.find_eq_ok_iff _ _).2 ⟨_, hrose⟩
  · rw [hlaws.searchHalves_eq]
    decide +kernel

end AbbreviationTable

end PlaylistCurator
