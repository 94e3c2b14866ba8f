import PlaylistCurator.Text.Blank

/-!
# Trimmed texts

What trimming leaves of a text that is put together from parts. Main statements:

* `IsPadded.trim_eq`, `isPadded_trim`: the blanks around a text are what trimming takes away;
* `trim_append_cons`: where a text has a mark inside, its two sides are trimmed on their own;
* `trim_eq_self_iff`: a text is trimmed if it neither begins nor ends with a blank.
-/

namespace PlaylistCurator.Text

variable {text before after : List Char} {mark : Char}

/-- A text with blanks around it. -/
def IsPadded (text padded : List Char) : Prop :=
  ∃ before after, allBlank before = true ∧ allBlank after = true ∧
    padded = before ++ (text ++ after)

theorem IsPadded.refl (text : List Char) : IsPadded text text :=
  ⟨[], [], rfl, rfl, by simp⟩

theorem allBlank_iff : allBlank text = true ↔ ∀ c ∈ text, isBlank c = true :=
  List.all_eq_true

theorem allBlank_append : allBlank (before ++ after) = (allBlank before && allBlank after) :=
  List.all_append

theorem allBlank_reverse : allBlank text.reverse = allBlank text :=
  List.all_reverse

/-- What is no blank is not among the blanks around a text. -/
theorem IsPadded.not_mem {padded : List Char} (h : IsPadded text padded)
    (hmark : isBlank mark = false) (htext : mark ∉ text) : mark ∉ padded := by
  obtain ⟨before, after, hbefore, hafter, rfl⟩ := h
  have hblank : ∀ blanks, allBlank blanks = true → mark ∉ blanks := by
    intro blanks hblanks hmem
    have htrue := allBlank_iff.1 hblanks mark hmem
    rw [hmark] at htrue
    cases htrue
  simp [hblank before hbefore, hblank after hafter, htext]

/-- A text that is not blank has a character that is none. -/
theorem exists_mark_of_allBlank_eq_false (h : allBlank text = false) :
    ∃ before mark after, isBlank mark = false ∧ text = before ++ mark :: after := by
  obtain ⟨mark, hmem, hmark⟩ := List.all_eq_false.1 h
  obtain ⟨before, after, rfl⟩ := List.append_of_mem hmem
  exact ⟨before, mark, after, Bool.eq_false_iff.2 hmark, rfl⟩

/-! ## The two ends -/

theorem trimStart_append (h : allBlank before = true) :
    trimStart (before ++ text) = trimStart text :=
  List.dropWhile_append_of_pos (allBlank_iff.1 h)

/-- What stands after a mark is kept. -/
theorem trimStart_append_cons (hmark : isBlank mark = false) :
    trimStart (before ++ mark :: after) = trimStart before ++ mark :: after := by
  induction before with
  | nil => simp [trimStart, hmark]
  | cons c rest ih =>
    cases hc : isBlank c with
    | false => simp [trimStart, hc]
    | true => simpa [trimStart, hc] using ih

/-- The end of a text is trimmed as the start of its mirror image. -/
theorem trimEnd_eq_reverse (text : List Char) : trimEnd text = (trimStart text.reverse).reverse :=
  rfl

theorem trimEnd_append (h : allBlank after = true) : trimEnd (text ++ after) = trimEnd text := by
  have hreverse : allBlank after.reverse = true := allBlank_reverse.trans h
  rw [trimEnd_eq_reverse, List.reverse_append, trimStart_append hreverse, ← trimEnd_eq_reverse]

/-- What stands before a mark is kept. -/
theorem trimEnd_append_cons (hmark : isBlank mark = false) :
    trimEnd (before ++ mark :: after) = before ++ mark :: trimEnd after := by
  have hreverse : (before ++ mark :: after).reverse = after.reverse ++ mark :: before.reverse := by
    simp
  rw [trimEnd_eq_reverse, hreverse, trimStart_append_cons hmark, trimEnd_eq_reverse]
  simp

theorem exists_blanks_trimStart (text : List Char) :
    ∃ blanks, allBlank blanks = true ∧ text = blanks ++ trimStart text :=
  ⟨text.takeWhile isBlank, List.all_takeWhile, List.takeWhile_append_dropWhile.symm⟩

theorem exists_trimEnd_blanks (text : List Char) :
    ∃ blanks, allBlank blanks = true ∧ text = trimEnd text ++ blanks := by
  obtain ⟨blanks, hblanks, htext⟩ := exists_blanks_trimStart text.reverse
  refine ⟨blanks.reverse, allBlank_reverse.trans hblanks, ?_⟩
  rw [trimEnd_eq_reverse, ← List.reverse_append, ← htext, List.reverse_reverse]

theorem mem_of_mem_trimStart {c : Char} (h : c ∈ trimStart text) : c ∈ text := by
  obtain ⟨blanks, -, htext⟩ := exists_blanks_trimStart text
  rw [htext]
  exact List.mem_append_right blanks h

theorem mem_of_mem_trimEnd {c : Char} (h : c ∈ trimEnd text) : c ∈ text := by
  obtain ⟨blanks, -, htext⟩ := exists_trimEnd_blanks text
  rw [htext]
  exact List.mem_append_left blanks h

/-! ## Trimming -/

/-- The two sides of a mark are trimmed on their own. -/
theorem trim_append_cons (hmark : isBlank mark = false) :
    trim (before ++ mark :: after) = trimStart before ++ mark :: trimEnd after := by
  rw [trim, trimStart_append_cons hmark, trimEnd_append_cons hmark]

/-- Blanks around a text do not count. -/
theorem IsPadded.trim_eq {padded : List Char} (h : IsPadded text padded) :
    trim padded = trim text := by
  obtain ⟨before, after, hbefore, hafter, rfl⟩ := h
  cases htext : allBlank text with
  | true =>
    -- All of it is blank, and nothing is left on either side.
    rw [trim_eq_nil_iff.2 htext, trim_eq_nil_iff, allBlank_append, allBlank_append, hbefore, htext,
      hafter]
    rfl
  | false =>
    -- Otherwise something in the text parts the blanks before it from those after it.
    obtain ⟨start, mark, rest, hmark, rfl⟩ := exists_mark_of_allBlank_eq_false htext
    calc
      trim (before ++ (start ++ mark :: rest ++ after))
        = trim ((before ++ start) ++ mark :: (rest ++ after)) := by simp
      _ = trimStart start ++ mark :: trimEnd rest := by
        rw [trim_append_cons hmark, trimStart_append hbefore, trimEnd_append hafter]
      _ = trim (start ++ mark :: rest) := (trim_append_cons hmark).symm

/-- A text is what trimming leaves of it, with blanks around it. -/
theorem isPadded_trim (text : List Char) : IsPadded (trim text) text := by
  obtain ⟨before, hbefore, hstart⟩ := exists_blanks_trimStart text
  obtain ⟨after, hafter, hend⟩ := exists_trimEnd_blanks (trimStart text)
  refine ⟨before, after, hbefore, hafter, ?_⟩
  rw [trim, ← hend, ← hstart]

theorem trim_trim (text : List Char) : trim (trim text) = trim text :=
  (isPadded_trim text).trim_eq.symm

theorem trim_trimStart (text : List Char) : trim (trimStart text) = trim text := by
  obtain ⟨blanks, hblanks, htext⟩ := exists_blanks_trimStart text
  have hpadded : IsPadded (trimStart text) text := ⟨blanks, [], hblanks, rfl, by simpa using htext⟩
  exact hpadded.trim_eq.symm

theorem trim_trimEnd (text : List Char) : trim (trimEnd text) = trim text := by
  obtain ⟨blanks, hblanks, htext⟩ := exists_trimEnd_blanks text
  have hpadded : IsPadded (trimEnd text) text := ⟨[], blanks, rfl, hblanks, by simpa using htext⟩
  exact hpadded.trim_eq.symm

theorem trim_sublist (text : List Char) : (trim text).Sublist text := by
  obtain ⟨before, after, -, -, htext⟩ := isPadded_trim text
  have hpadded : (trim text).Sublist (before ++ (trim text ++ after)) :=
    (List.sublist_append_left _ _).trans (List.sublist_append_right _ _)
  rwa [← htext] at hpadded

theorem mem_of_mem_trim {c : Char} (h : c ∈ trim text) : c ∈ text :=
  mem_of_mem_trimStart (mem_of_mem_trimEnd h)

/-- A text that is shorter when it is trimmed is not the trimmed one. -/
theorem trim_ne_self_of_isPadded {shorter : List Char} (h : IsPadded shorter text)
    (hlength : shorter.length < text.length) : trim text ≠ text := by
  intro htrim
  have hle := (trim_sublist shorter).length_le
  rw [← h.trim_eq, htrim] at hle
  omega

/-- A text is trimmed if and only if it neither begins nor ends with a blank. -/
theorem trim_eq_self_iff :
    trim text = text ↔
      (∀ c ∈ text.head?, isBlank c = false) ∧ ∀ c ∈ text.getLast?, isBlank c = false := by
  constructor
  · intro htrim
    constructor
    · intro c hc
      refine Bool.eq_false_iff.2 fun hblank => ?_
      obtain ⟨rest, rfl⟩ := List.head?_eq_some_iff.1 hc
      have hpadded : IsPadded rest (c :: rest) :=
        ⟨[c], [], by simp [allBlank, hblank], rfl, by simp⟩
      exact trim_ne_self_of_isPadded hpadded (by simp) htrim
    · intro c hc
      refine Bool.eq_false_iff.2 fun hblank => ?_
      obtain ⟨rest, rfl⟩ := List.getLast?_eq_some_iff.1 hc
      have hpadded : IsPadded rest (rest ++ [c]) := ⟨[], [c], rfl, by simp [allBlank, hblank], rfl⟩
      exact trim_ne_self_of_isPadded hpadded (by simp) htrim
  · intro h
    obtain ⟨hstart, hend⟩ := h
    have htrimStart : trimStart text = text := by
      cases text with
      | nil => rfl
      | cons c rest => exact List.dropWhile_cons_of_neg (by simp [hstart c rfl])
    -- The last character is the first one of the mirror image.
    have htrimEnd : trimEnd text = text := by
      rw [trimEnd_eq_reverse]
      rw [← List.head?_reverse] at hend
      cases hreverse : text.reverse with
      | nil => exact (List.reverse_eq_nil_iff.1 hreverse).symm
      | cons c rest =>
        have hc : isBlank c = false := hend c (by rw [hreverse]; rfl)
        rw [trimStart, List.dropWhile_cons_of_neg (by simp [hc]), ← hreverse, List.reverse_reverse]
    rw [trim, htrimStart, htrimEnd]

end PlaylistCurator.Text
