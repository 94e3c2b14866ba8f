import PlaylistCurator.Proofs.Text.LowerCasing
import PlaylistCurator.Query.Operator

/-!
# Literal matches

The text operators compare lower-case forms. Where a test text occurs in a value as it is, its form
need not occur in the form of the value: a sigma that ends the test text may be inside a word of the
value, and one that the test text begins with may end a word there. Main statements:

* `acceptsLiterally`: the literal matches that each text operator accepts;
* `starts_rejects_prefix`: one that is not accepted.
-/

namespace PlaylistCurator

/-! ## Parts of the same length -/

section Parts

variable {α : Type} {xs ys zs : List α} {c : α}

theorem isPrefix_append_iff (h : xs.length = ys.length) : xs <+: ys ++ zs ↔ xs = ys := by
  constructor
  · rintro ⟨rest, hrest⟩
    exact List.append_inj_left hrest h
  · rintro rfl
    exact List.prefix_append xs zs

theorem isSuffix_append_iff (h : xs.length = zs.length) : xs <:+ ys ++ zs ↔ xs = zs := by
  constructor
  · rintro ⟨start, hstart⟩
    exact List.append_inj_right' hstart h
  · rintro rfl
    exact List.suffix_append ys xs

/-- What does not end in a certain element is no part that reaches as far as it. -/
theorem eq_of_isInfix_concat (h : xs <:+: ys ++ [c]) (hlength : xs.length = ys.length)
    (hlast : xs.getLast? ≠ some c) : xs = ys := by
  rcases List.infix_concat_iff.1 h with hsuffix | hinfix
  · rcases List.suffix_concat_iff.1 hsuffix with rfl | ⟨start, rfl, -⟩
    · exact (List.length_eq_zero_iff.1 hlength.symm).symm
    · exact absurd List.getLast?_concat hlast
  · exact hinfix.eq_of_length hlength

/-- What does not begin with a certain element is no part that reaches as far back as it. -/
theorem eq_of_isInfix_cons (h : xs <:+: c :: ys) (hlength : xs.length = ys.length)
    (hfirst : xs.head? ≠ some c) : xs = ys := by
  rcases List.infix_cons_iff.1 h with hprefix | hinfix
  · rcases List.prefix_cons_iff.1 hprefix with rfl | ⟨rest, rfl, -⟩
    · exact (List.length_eq_zero_iff.1 hlength.symm).symm
    · exact absurd List.head?_cons hfirst
  · exact hinfix.eq_of_length hlength

end Parts

namespace Operator

variable {test : String} {actual : Value} {before after : List Char}

/-! ## One place of a test text in a value -/

theorem accepts_equals_of_eq (h : actual.display = test) :
    accepts .equals test actual = true := by
  rw [accepts, Value.folded, h]
  exact beq_self_eq_true _

theorem accepts_starts_iff (h : actual.display.toList = test.toList ++ after) :
    accepts .starts test actual = true ↔
      ¬ (Text.EndsInSigma test.toList ∧ Text.casedFirst after = true) := by
  have hlength := Text.length_lowerBetween [] test.toList after
  rw [accepts, Value.folded, h, List.isPrefixOf_iff_prefix, Text.lower_append,
    isPrefix_append_iff hlength.symm, eq_comm, Text.lowerBetween_nil_eq_lower_iff]

theorem accepts_ends_iff (h : actual.display.toList = before ++ test.toList) :
    accepts .ends test actual = true ↔
      ¬ (Text.BeginsWithSigma test.toList ∧ Text.casedFirst before.reverse = true) := by
  have hlength := Text.length_lowerBetween before.reverse test.toList []
  rw [Text.lowerBetween_nil] at hlength
  rw [accepts, Value.folded, h, List.isSuffixOf_iff_suffix, Text.lower_append,
    isSuffix_append_iff hlength.symm, eq_comm, Text.lowerAfter_eq_lower_iff]

theorem accepts_contains_iff :
    accepts .contains test actual = true ↔
      Text.lower test.toList <:+: Text.lower actual.display.toList := by
  rw [accepts, Text.occursIn_iff, Value.folded]

/-- A test text is found in a place where no word goes on over its ends. -/
theorem accepts_contains_of_append
    (h : actual.display.toList = before ++ (test.toList ++ after))
    (hend : ¬ (Text.EndsInSigma test.toList ∧ Text.casedFirst after = true))
    (hbegin : ¬ (Text.BeginsWithSigma test.toList ∧ Text.casedFirst before.reverse = true)) :
    accepts .contains test actual = true := by
  have hmiddle := Text.lowerBetween_eq_lower hend hbegin
  rw [accepts_contains_iff, h, Text.lower_append, Text.lowerAfter_append, hmiddle]
  exact ⟨_, _, List.append_assoc _ _ _⟩

/-! ## A letter beside the test text -/

/-- A letter whose lower-case form is not a given character. -/
theorem exists_letter (c : Option Char) :
    ∃ letter : Char, Text.casedFirst [letter] = true ∧ letter.toNat < 128 ∧
      c ≠ some letter.toLower := by
  by_cases hc : c = some 'a'
  · refine ⟨'B', by decide +kernel, by decide, ?_⟩
    rw [hc]
    decide
  · exact ⟨'A', by decide +kernel, by decide, hc⟩

/-- Where a test text ends in a sigma, it is not found in a word that goes on after it. -/
theorem exists_not_accepts_of_endsInSigma (h : Text.EndsInSigma test.toList) :
    ∃ actual : Value, test.toList <:+: actual.display.toList ∧
      accepts .contains test actual = false := by
  obtain ⟨letter, hcased, hascii, hlast⟩ := exists_letter (Text.lower test.toList).getLast?
  refine ⟨.text (String.ofList (test.toList ++ [letter])), ?_, ?_⟩
  · rw [Value.display, String.toList_ofList]
    exact (List.prefix_append _ _).isInfix
  · refine Bool.eq_false_iff.2 fun haccepts => ?_
    have hletter : ∀ c ∈ [letter], c.toNat < 128 := List.forall_mem_singleton.2 hascii
    rw [accepts_contains_iff, Value.display, String.toList_ofList, Text.lower_append,
      Text.lowerAfter_of_ascii hletter] at haccepts
    -- The form of the test text does not reach the letter, and has to be all that is before it.
    have hsame := eq_of_isInfix_concat haccepts (Text.length_lowerBetween _ _ _).symm hlast
    exact Text.lowerBetween_nil_eq_lower_iff.1 hsame.symm ⟨h, hcased⟩

/-- Where a test text begins with a sigma, it is not found in a word that comes from before it. -/
theorem exists_not_accepts_of_beginsWithSigma (h : Text.BeginsWithSigma test.toList) :
    ∃ actual : Value, test.toList <:+: actual.display.toList ∧
      accepts .contains test actual = false := by
  obtain ⟨letter, hcased, hascii, hfirst⟩ := exists_letter (Text.lower test.toList).head?
  refine ⟨.text (String.ofList ([letter] ++ test.toList)), ?_, ?_⟩
  · rw [Value.display, String.toList_ofList]
    exact (List.suffix_append _ _).isInfix
  · refine Bool.eq_false_iff.2 fun haccepts => ?_
    have hletter : ∀ c ∈ [letter], c.toNat < 128 := List.forall_mem_singleton.2 hascii
    rw [accepts_contains_iff, Value.display, String.toList_ofList, Text.lower_append,
      Text.lowerBetween_of_ascii hletter] at haccepts
    have hlength := Text.length_lowerBetween [letter] test.toList []
    rw [Text.lowerBetween_nil] at hlength
    -- It does not reach back to the letter either, and has to be all that is after it.
    have hsame := eq_of_isInfix_cons haccepts hlength.symm hfirst
    exact Text.lowerAfter_eq_lower_iff.1 hsame.symm ⟨h, hcased⟩

end Operator

/-! ## The operators -/

/-- The values that hold a test text as it is, or begin with it or end in it, and are accepted. -/
structure AcceptsLiterally (test : String) : Prop where
  /-- A value that is the test text is equal to it. -/
  equals : ∀ actual : Value, actual.display = test → Operator.equals.accepts test actual = true
  /-- A value that begins with the test text starts with it unless the last word of the test text
  ends in a sigma and goes on after it. -/
  starts : ∀ (actual : Value) (after : List Char),
    actual.display.toList = test.toList ++ after →
      (Operator.starts.accepts test actual = true ↔
        ¬ (Text.EndsInSigma test.toList ∧ Text.casedFirst after = true))
  /-- A value that ends in the test text ends with it unless the test text begins with a sigma that
  ends a word, and does so only behind what comes before it. -/
  ends : ∀ (actual : Value) (before : List Char),
    actual.display.toList = before ++ test.toList →
      (Operator.ends.accepts test actual = true ↔
        ¬ (Text.BeginsWithSigma test.toList ∧ Text.casedFirst before.reverse = true))
  /-- A value contains a test text that it holds in a place where neither of these is the case. -/
  contains : ∀ (actual : Value) (before after : List Char),
    actual.display.toList = before ++ (test.toList ++ after) →
    ¬ (Text.EndsInSigma test.toList ∧ Text.casedFirst after = true) →
    ¬ (Text.BeginsWithSigma test.toList ∧ Text.casedFirst before.reverse = true) →
      Operator.contains.accepts test actual = true
  /-- All values that hold a test text contain it if it neither ends in a sigma nor begins with
  one, and only then. -/
  contains_all_iff :
    (∀ actual : Value, test.toList <:+: actual.display.toList →
      Operator.contains.accepts test actual = true) ↔
      ¬ Text.EndsInSigma test.toList ∧ ¬ Text.BeginsWithSigma test.toList
  /-- A test text without capital sigmas is found wherever it is. -/
  sigma_free : 'Σ' ∉ test.toList → ∀ actual : Value,
    (test.toList <:+: actual.display.toList → Operator.contains.accepts test actual = true) ∧
      (test.toList <+: actual.display.toList → Operator.starts.accepts test actual = true) ∧
      (test.toList <:+ actual.display.toList → Operator.ends.accepts test actual = true)

/-- What the text operators accept of the values that hold the test text as it is. -/
theorem acceptsLiterally (test : String) : AcceptsLiterally test where
  equals _ h := Operator.accepts_equals_of_eq h
  starts _ _ h := Operator.accepts_starts_iff h
  ends _ _ h := Operator.accepts_ends_iff h
  contains _ _ _ h hend hbegin := Operator.accepts_contains_of_append h hend hbegin
  contains_all_iff := by
    constructor
    · intro hall
      constructor
      · -- A letter after the test text makes its last sigma one inside a word.
        intro hend
        obtain ⟨actual, hholds, hrejects⟩ := Operator.exists_not_accepts_of_endsInSigma hend
        rw [hall actual hholds] at hrejects
        cases hrejects
      · -- A letter in front of the test text makes its first sigma one that ends a word.
        intro hbegin
        obtain ⟨actual, hholds, hrejects⟩ := Operator.exists_not_accepts_of_beginsWithSigma hbegin
        rw [hall actual hholds] at hrejects
        cases hrejects
    · rintro ⟨hend, hbegin⟩ actual ⟨before, after, hvalue⟩
      rw [List.append_assoc] at hvalue
      exact Operator.accepts_contains_of_append hvalue.symm (fun h => hend h.1) fun h => hbegin h.1
  sigma_free hsigma actual := by
    have hend : ¬ Text.EndsInSigma test.toList := fun h => hsigma h.mem
    have hbegin : ¬ Text.BeginsWithSigma test.toList := fun h => hsigma h.mem
    refine ⟨?_, ?_, ?_⟩
    · rintro ⟨before, after, hvalue⟩
      rw [List.append_assoc] at hvalue
      exact Operator.accepts_contains_of_append hvalue.symm (fun h => hend h.1) fun h => hbegin h.1
    · rintro ⟨after, hvalue⟩
      exact (Operator.accepts_starts_iff hvalue.symm).2 fun h => hend h.1
    · rintro ⟨before, hvalue⟩
      exact (Operator.accepts_ends_iff hvalue.symm).2 fun h => hbegin h.1

/-- A name that begins with a test text is rejected, since the sigma at the end of the test text is
inside a word of the name. -/
theorem starts_rejects_prefix :
    "ΜΟΥΣ".toList <+: (Value.text "ΜΟΥΣΙΚΗ").display.toList ∧
      Operator.starts.accepts "ΜΟΥΣ" (.text "ΜΟΥΣΙΚΗ") = false := by
  decide +kernel

end PlaylistCurator
