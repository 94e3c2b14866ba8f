import Mathlib.Data.List.Forall2

/-!
# Reading clause by clause

Filter and sort expressions are cut at their commas, and their clauses are read in turn up to the
first one that is refused. Main statements:

* `splitOn_eq_iff`: the parts of a text hold no separator and give the text when they are joined;
* `mapM_eq_ok_iff`: an expression gives what its clauses give, one after the other;
* `mapM_eq_error_iff`: an expression is refused for the first clause that is refused.
-/

namespace PlaylistCurator

/-! ## The parts of a text -/

variable {mark : Char}

/-- The parts between the separators hold none. -/
theorem not_mem_of_mem_splitOn {text part : List Char} (h : part ∈ text.splitOn mark) :
    mark ∉ part := by
  induction text generalizing part with
  | nil =>
    have hpart : part = [] := by simpa using h
    rw [hpart]
    exact List.not_mem_nil
  | cons c rest ih =>
    rw [List.splitOn_cons_eq_if_modifyHead] at h
    split at h
    next =>
      rcases List.mem_cons.1 h with rfl | hmem
      · exact List.not_mem_nil
      · exact ih hmem
    next hc =>
      -- The character is put before the first of the parts of the rest.
      obtain ⟨first, others, hsplit⟩ := List.exists_cons_of_ne_nil (List.splitOn_ne_nil mark rest)
      rw [hsplit, List.modifyHead_cons] at h
      rcases List.mem_cons.1 h with rfl | hmem
      · have hfirst : mark ∉ first := ih (by rw [hsplit]; exact List.mem_cons_self)
        simpa [Ne.symm (ne_of_beq_false (Bool.eq_false_iff.2 hc))] using hfirst
      · exact ih (by rw [hsplit]; exact List.mem_cons_of_mem first hmem)

/-- The parts of a text are the texts without separator that give it when they are joined. -/
theorem splitOn_eq_iff {text : List Char} {parts : List (List Char)} :
    text.splitOn mark = parts ↔
      parts ≠ [] ∧ (∀ part ∈ parts, mark ∉ part) ∧ text = [mark].intercalate parts := by
  constructor
  · rintro rfl
    refine ⟨List.splitOn_ne_nil _ _, fun part hpart => not_mem_of_mem_splitOn hpart, ?_⟩
    exact (List.intercalate_splitOn mark).symm
  · rintro ⟨hne, hparts, rfl⟩
    exact List.splitOn_intercalate mark hparts hne

theorem splitOn_eq_pair_iff {text first second : List Char} :
    text.splitOn mark = [first, second] ↔
      mark ∉ first ∧ mark ∉ second ∧ text = first ++ mark :: second := by
  rw [splitOn_eq_iff]
  simp [and_assoc]

theorem splitOn_eq_triple_iff {text first second third : List Char} :
    text.splitOn mark = [first, second, third] ↔
      mark ∉ first ∧ mark ∉ second ∧ mark ∉ third ∧
        text = first ++ mark :: (second ++ mark :: third) := by
  rw [splitOn_eq_iff]
  simp [and_assoc]

/-! ## Results and refusals -/

variable {α β ε δ : Type}

theorem mapError_eq_ok_iff {result : Except ε β} {wrap : ε → δ} {b : β} :
    result.mapError wrap = .ok b ↔ result = .ok b := by
  cases result <;> simp [Except.mapError]

theorem mapError_eq_error_iff {result : Except ε β} {wrap : ε → δ} {error : δ} :
    result.mapError wrap = .error error ↔ ∃ inner, result = .error inner ∧ wrap inner = error := by
  cases result <;> simp [Except.mapError]

theorem bind_eq_ok_iff {first : Except ε α} {next : α → Except ε β} {b : β} :
    (first >>= next) = .ok b ↔ ∃ a, first = .ok a ∧ next a = .ok b := by
  cases first with
  | error error => simp [bind, Except.bind]
  | ok a => simp [bind, Except.bind]

theorem bind_eq_error_iff {first : Except ε α} {next : α → Except ε β} {error : ε} :
    (first >>= next) = .error error ↔
      first = .error error ∨ ∃ a, first = .ok a ∧ next a = .error error := by
  cases first with
  | error other => simp [bind, Except.bind]
  | ok a => simp [bind, Except.bind]

variable {read : α → Except ε β} {clauses : List α}

/-- All clauses are read if and only if each of them is. -/
theorem mapM_eq_ok_iff {results : List β} :
    clauses.mapM read = .ok results ↔
      List.Forall₂ (fun result clause => read clause = .ok result) results clauses := by
  induction clauses generalizing results with
  | nil =>
    rw [List.forall₂_nil_right_iff, List.mapM_nil]
    simp [pure, Except.pure, eq_comm]
  | cons clause rest ih =>
    rw [List.mapM_cons, bind_eq_ok_iff, List.forall₂_cons_right_iff]
    constructor
    · rintro ⟨result, hresult, h⟩
      obtain ⟨others, hothers, h⟩ := bind_eq_ok_iff.1 h
      exact ⟨result, others, hresult, ih.1 hothers, (Except.ok.inj h).symm⟩
    · rintro ⟨result, others, hresult, hothers, rfl⟩
      exact ⟨result, hresult, bind_eq_ok_iff.2 ⟨others, ih.2 hothers, rfl⟩⟩

/-- There are results for all clauses if and only if there is one for each. -/
theorem exists_forall₂_iff {R : β → α → Prop} :
    (∃ results, List.Forall₂ R results clauses) ↔
      ∀ clause ∈ clauses, ∃ result, R result clause := by
  induction clauses with
  | nil => simp
  | cons clause rest ih =>
    rw [List.forall_mem_cons, ← ih]
    constructor
    · rintro ⟨_, hresults⟩
      obtain ⟨result, others, hresult, hothers, rfl⟩ := List.forall₂_cons_right_iff.1 hresults
      exact ⟨⟨result, hresult⟩, others, hothers⟩
    · rintro ⟨⟨result, hresult⟩, others, hothers⟩
      exact ⟨result :: others, .cons hresult hothers⟩

theorem mapM_cons_eq_error_iff {clause : α} {error : ε} :
    (clause :: clauses).mapM read = .error error ↔
      read clause = .error error ∨
        ∃ result, read clause = .ok result ∧ clauses.mapM read = .error error := by
  rw [List.mapM_cons, bind_eq_error_iff]
  refine or_congr Iff.rfl (exists_congr fun result => and_congr Iff.rfl ?_)
  rw [bind_eq_error_iff]
  simp [pure, Except.pure]

/-- The first clause that is refused says why. -/
theorem mapM_eq_error_iff {error : ε} :
    clauses.mapM read = .error error ↔
      ∃ before clause after, clauses = before ++ clause :: after ∧
        (∀ earlier ∈ before, ∃ result, read earlier = .ok result) ∧
          read clause = .error error := by
  induction clauses with
  | nil => simp [pure, Except.pure]
  | cons clause rest ih =>
    rw [mapM_cons_eq_error_iff, ih]
    constructor
    · rintro (herror | ⟨result, hresult, before, refused, after, rfl, hearlier, herror⟩)
      · exact ⟨[], clause, rest, rfl, by simp, herror⟩
      · refine ⟨clause :: before, refused, after, rfl, ?_, herror⟩
        exact List.forall_mem_cons.2 ⟨⟨result, hresult⟩, hearlier⟩
    · rintro ⟨before, refused, after, hclauses, hearlier, herror⟩
      -- Either the first clause is the refused one, or it stands before it.
      cases before with
      | nil =>
        obtain ⟨rfl, -⟩ := List.cons.inj hclauses
        exact .inl herror
      | cons first others =>
        obtain ⟨rfl, rfl⟩ := List.cons.inj hclauses
        obtain ⟨⟨result, hresult⟩, hothers⟩ := List.forall_mem_cons.1 hearlier
        exact .inr ⟨result, hresult, others, refused, after, rfl, hothers, herror⟩

end PlaylistCurator
