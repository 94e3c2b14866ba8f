import Mathlib.Data.List.Basic
import PlaylistCurator.Text.LowerCase

/-!
# Lower-casing part by part

The lower-case form of a text that is put together from parts consists of the forms of the parts,
each of them seen between the others. Letters of the ASCII range take no notice of what is around
them. A sigma does, where the part begins with it or ends in it. Main statements:

* `lowerAfter_append`: a text is lower-cased part by part;
* `lowerBetween_of_ascii`: the letters of the ASCII range are lower-cased one by one;
* `lowerBetween_eq_iff`: the form of a part depends on what its sigmas end;
* `lowerBetween_eq_lower`, `lowerBetween_nil_eq_lower_iff`, `lowerAfter_eq_lower_iff`: when a part
  has the form that it has on its own.
-/

namespace PlaylistCurator.Text

variable {before text after : List Char} {c : Char}

/-- The lower-case form of a text between the characters `before`, nearest first, and `after`. -/
def lowerBetween (before : List Char) : (text after : List Char) → List Char
  | [], _ => []
  | c :: rest, after => lowerAt before c (rest ++ after) ++ lowerBetween (c :: before) rest after

/-- A text is lower-cased part by part. -/
theorem lowerAfter_append (before text after : List Char) :
    lowerAfter before (text ++ after) =
      lowerBetween before text after ++ lowerAfter (text.reverse ++ before) after := by
  induction text generalizing before with
  | nil => rfl
  | cons c rest ih =>
    rw [List.cons_append, lowerAfter, ih, lowerBetween, List.append_assoc, List.reverse_cons,
      List.append_assoc, List.singleton_append]

@[simp]
theorem lowerBetween_nil (before text : List Char) :
    lowerBetween before text [] = lowerAfter before text := by
  simpa [lowerAfter] using (lowerAfter_append before text []).symm

/-- What follows is seen after the first part, which is seen before it. -/
theorem lower_append (text after : List Char) :
    lower (text ++ after) = lowerBetween [] text after ++ lowerAfter text.reverse after := by
  rw [lower, lowerAfter_append, List.append_nil]

/-! ## Letters of the ASCII range -/

theorem le_and_le_of_isLower (h : c.isLower = true) : 97 ≤ c.toNat ∧ c.toNat ≤ 122 := by
  change (decide ('a'.val ≤ c.val) && decide (c.val ≤ 'z'.val)) = true at h
  obtain ⟨ha, hz⟩ := Bool.and_eq_true_iff.1 h
  exact ⟨UInt32.le_iff_toNat_le.1 (of_decide_eq_true ha),
    UInt32.le_iff_toNat_le.1 (of_decide_eq_true hz)⟩

/-- Lower-casing the ASCII range changes nothing behind its capital letters. -/
theorem toLower_of_lt (h : 90 < c.toNat) : c.toLower = c := by
  apply dif_neg
  intro hcapital
  have hZ : c.toNat ≤ 90 := UInt32.le_iff_toNat_le.1 hcapital.2
  omega

theorem toLower_of_isLower (h : c.isLower = true) : c.toLower = c := by
  have hlower := le_and_le_of_isLower h
  apply toLower_of_lt
  omega

/-- The letters of the ASCII range are those with a lower-case form among them. -/
theorem lt_of_isLower_toLower (h : c.toLower.isLower = true) : c.toNat < 128 := by
  by_contra hascii
  have hsame : c.toLower = c := by
    apply toLower_of_lt
    omega
  have hlower := le_and_le_of_isLower (hsame ▸ h)
  omega

theorem lowerChar_of_lt (h : c.toNat < 128) : lowerChar c = c.toLower := by
  have hall : ∀ n < 128, lowerChar (Char.ofNat n) = (Char.ofNat n).toLower := by decide +kernel
  simpa [Char.ofNat_toNat] using hall c.toNat h

/-- Characters of the ASCII range are lower-cased one by one. -/
theorem lowerBetween_of_ascii (h : ∀ c ∈ text, c.toNat < 128) :
    lowerBetween before text after = text.map Char.toLower := by
  induction text generalizing before with
  | nil => rfl
  | cons c rest ih =>
    obtain ⟨hc, hrest⟩ := List.forall_mem_cons.1 h
    have hsigma : c ≠ 'Σ' := by
      rintro rfl
      exact absurd hc (by decide)
    have hdotted : c ≠ 'İ' := by
      rintro rfl
      exact absurd hc (by decide)
    rw [lowerBetween, lowerAt, if_neg hsigma, if_neg hdotted, lowerChar_of_lt hc, ih hrest,
      List.map_cons, List.singleton_append]

theorem lowerAfter_of_ascii (h : ∀ c ∈ text, c.toNat < 128) :
    lowerAfter before text = text.map Char.toLower := by
  rw [← lowerBetween_nil, lowerBetween_of_ascii h]

/-! ## Sigmas -/

/-- A sigma between these characters, those before it nearest first, ends a word. -/
def endsWord (before after : List Char) : Bool :=
  casedFirst before && !casedFirst after

theorem lowerAt_sigma (before after : List Char) :
    lowerAt before 'Σ' after = [if endsWord before after then 'ς' else 'σ'] := by
  rw [lowerAt, if_pos rfl, endsWord]
  split <;> rfl

theorem lowerAt_of_ne (h : c ≠ 'Σ') (before after : List Char) :
    lowerAt before c after = lowerAt [] c [] := by
  rw [lowerAt, lowerAt, if_neg h, if_neg h]

/-- The form of a part has the same length wherever it stands. -/
theorem length_lowerAt (before after : List Char) :
    (lowerAt before c after).length = (lowerAt [] c []).length := by
  by_cases hc : c = 'Σ'
  · subst hc
    rw [lowerAt_sigma, lowerAt_sigma]
    rfl
  · rw [lowerAt_of_ne hc]

theorem length_lowerBetween (before text after : List Char) :
    (lowerBetween before text after).length = (lower text).length := by
  rw [lower]
  generalize [] = other
  induction text generalizing before other with
  | nil => rfl
  | cons c rest ih =>
    rw [lowerBetween, lowerAfter, List.length_append, List.length_append, ih (c :: before),
      length_lowerAt, length_lowerAt other]

variable {before' after' : List Char}

theorem lowerAt_eq_iff :
    lowerAt before c after = lowerAt before' c after' ↔
      (c = 'Σ' → endsWord before after = endsWord before' after') := by
  by_cases hc : c = 'Σ'
  · subst hc
    rw [lowerAt_sigma, lowerAt_sigma]
    cases endsWord before after <;> cases endsWord before' after' <;> decide
  · rw [lowerAt_of_ne hc, lowerAt_of_ne hc before']
    simp [hc]

/-- A part has the same form in two places if the same of its sigmas end a word in both. -/
theorem lowerBetween_eq_iff :
    lowerBetween before text after = lowerBetween before' text after' ↔
      ∀ first last, text = first ++ 'Σ' :: last →
        endsWord (first.reverse ++ before) (last ++ after) =
          endsWord (first.reverse ++ before') (last ++ after') := by
  induction text generalizing before before' with
  | nil => simp [lowerBetween]
  | cons c rest ih =>
    -- What a character becomes has one length, so that equal forms are equal letter by letter.
    have hlength : (lowerAt before c (rest ++ after)).length =
        (lowerAt before' c (rest ++ after')).length := by
      rw [length_lowerAt, length_lowerAt before']
    rw [lowerBetween, lowerBetween]
    constructor
    · intro h first last htext
      obtain ⟨hletter, hrest⟩ := List.append_inj h hlength
      cases first with
      | nil =>
        obtain ⟨rfl, rfl⟩ := List.cons.inj htext
        exact lowerAt_eq_iff.1 hletter rfl
      | cons d others =>
        obtain ⟨rfl, rfl⟩ := List.cons.inj htext
        simpa using ih.1 hrest others last rfl
    · intro h
      have hletter : lowerAt before c (rest ++ after) = lowerAt before' c (rest ++ after') := by
        refine lowerAt_eq_iff.2 ?_
        rintro rfl
        exact h [] rest rfl
      have hrest : lowerBetween (c :: before) rest after =
          lowerBetween (c :: before') rest after' := by
        refine ih.2 ?_
        rintro first last rfl
        simpa using h (c :: first) last rfl
      rw [hletter, hrest]

/-! ## What a part begins with and ends in -/

/-- The last word of a text ends in a sigma. -/
def EndsInSigma (text : List Char) : Prop :=
  ∃ first last, text = first ++ 'Σ' :: last ∧ casedFirst first.reverse = true ∧
    last.all isCaseIgnorable = true

/-- A text begins with a sigma, and no word goes on after it. -/
def BeginsWithSigma (text : List Char) : Prop :=
  ∃ first last, text = first ++ 'Σ' :: last ∧ first.all isCaseIgnorable = true ∧
    casedFirst last = false

theorem EndsInSigma.mem (h : EndsInSigma text) : 'Σ' ∈ text := by
  obtain ⟨first, last, rfl, -, -⟩ := h
  simp

theorem BeginsWithSigma.mem (h : BeginsWithSigma text) : 'Σ' ∈ text := by
  obtain ⟨first, last, rfl, -, -⟩ := h
  simp

theorem casedFirst_append_of_all (h : text.all isCaseIgnorable = true) (after : List Char) :
    casedFirst (text ++ after) = casedFirst after := by
  have hnone : text.find? (!isCaseIgnorable ·) = none := by simpa using h
  rw [casedFirst, List.find?_append, hnone, Option.none_or, casedFirst]

theorem casedFirst_append_of_not_all (h : text.all isCaseIgnorable = false) (after : List Char) :
    casedFirst (text ++ after) = casedFirst text := by
  have hsome : text.find? (!isCaseIgnorable ·) ≠ none := by simpa using h
  obtain ⟨c, hc⟩ := Option.ne_none_iff_exists'.1 hsome
  rw [casedFirst, List.find?_append, hc, Option.some_or, casedFirst, hc]

theorem casedFirst_eq_false_of_all (h : text.all isCaseIgnorable = true) :
    casedFirst text = false := by
  simpa [casedFirst] using casedFirst_append_of_all h []

/-- A part has the form that it has on its own unless a word that it ends goes on after it, or a
word before it goes on in it. -/
theorem lowerBetween_eq_lower (hend : ¬ (EndsInSigma text ∧ casedFirst after = true))
    (hbegin : ¬ (BeginsWithSigma text ∧ casedFirst before = true)) :
    lowerBetween before text after = lower text := by
  rw [lower, ← lowerBetween_nil, lowerBetween_eq_iff]
  intro first last htext
  rw [List.append_nil, List.append_nil, endsWord, endsWord]
  cases hfirst : first.all isCaseIgnorable with
  | true =>
    -- On its own this sigma ends no word, and it ends one here only if a word comes before it.
    have hreverse : first.reverse.all isCaseIgnorable = true := List.all_reverse.trans hfirst
    rw [casedFirst_append_of_all hreverse, casedFirst_eq_false_of_all hreverse]
    cases hcased : casedFirst last with
    | true =>
      have hlast : last.all isCaseIgnorable = false := by
        by_contra hall
        rw [casedFirst_eq_false_of_all (by simpa using hall)] at hcased
        cases hcased
      rw [casedFirst_append_of_not_all hlast, hcased, Bool.not_true, Bool.and_false, Bool.and_false]
    | false =>
      have hbefore : casedFirst before = false := by
        by_contra hbefore
        exact hbegin ⟨⟨first, last, htext, hfirst, hcased⟩, by simpa using hbefore⟩
      rw [hbefore, Bool.false_and, Bool.false_and]
  | false =>
    have hreverse : first.reverse.all isCaseIgnorable = false := List.all_reverse.trans hfirst
    rw [casedFirst_append_of_not_all hreverse]
    cases hlast : last.all isCaseIgnorable with
    | false => rw [casedFirst_append_of_not_all hlast]
    | true =>
      -- This sigma is the end of the part, which may be that of the word.
      cases hcased : casedFirst first.reverse with
      | false => rfl
      | true =>
        have hafter : casedFirst after = false := by
          by_contra hafter
          exact hend ⟨⟨first, last, htext, hcased, hlast⟩, by simpa using hafter⟩
        rw [casedFirst_append_of_all hlast, hafter, casedFirst_eq_false_of_all hlast]

/-- At the start of a text a part has its own form if none of its words goes on after it. -/
theorem lowerBetween_nil_eq_lower_iff :
    lowerBetween [] text after = lower text ↔ ¬ (EndsInSigma text ∧ casedFirst after = true) := by
  constructor
  · rintro h ⟨⟨first, last, htext, hfirst, hlast⟩, hafter⟩
    rw [lower, ← lowerBetween_nil, lowerBetween_eq_iff] at h
    have hends := h first last htext
    rw [List.append_nil, List.append_nil, endsWord, endsWord, casedFirst_append_of_all hlast,
      hafter, casedFirst_eq_false_of_all hlast, hfirst] at hends
    cases hends
  · intro hend
    exact lowerBetween_eq_lower hend (by simp [casedFirst])

/-- At the end of a text a part has its own form if no word before it goes on in it. -/
theorem lowerAfter_eq_lower_iff :
    lowerAfter before text = lower text ↔ ¬ (BeginsWithSigma text ∧ casedFirst before = true) := by
  constructor
  · rintro h ⟨⟨first, last, htext, hfirst, hlast⟩, hbefore⟩
    rw [lower, ← lowerBetween_nil, ← lowerBetween_nil, lowerBetween_eq_iff] at h
    have hends := h first last htext
    have hreverse : first.reverse.all isCaseIgnorable = true := List.all_reverse.trans hfirst
    rw [List.append_nil, List.append_nil, endsWord, endsWord, casedFirst_append_of_all hreverse,
      hbefore, casedFirst_eq_false_of_all hreverse, hlast] at hends
    cases hends
  · intro hbegin
    rw [← lowerBetween_nil]
    exact lowerBetween_eq_lower (by simp [casedFirst]) hbegin

end PlaylistCurator.Text
