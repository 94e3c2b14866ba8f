import PlaylistCurator.Proofs.Json.Recognition

/-!
# Putting texts together

The tokens of a text are those of its pieces, if it is not cut in the middle of a token, and every
text can be cut between any two of its tokens. So a text can be put into another one, and what is
read then can be told from the tokens alone.

* `tokenize_append`: the tokens of two texts put together;
* `exists_cut`: a text can be cut wherever its tokens can;
* `IsSplice.parse_splice`: a text with another one put into it is read as the value whose tokens it
  has.
-/

namespace PlaylistCurator.Json

open Scanner

/-! ## Scanning behind other tokens -/

namespace Scanner

/-- The scanner with further tokens before its own. -/
def behind (before : List Token) (scanner : Scanner) : Scanner :=
  ⟨scanner.tokens ++ before, scanner.lexeme⟩

theorem stepOutside_append (tokens before : List Token) (c : Char) :
    stepOutside (tokens ++ before) c = (stepOutside tokens c).map (behind before) := by
  unfold stepOutside
  split_ifs
  · rfl
  · rfl
  · rfl
  · cases Token.ofMark? c <;> rfl

/-- What a character does depends on the token that has been begun, not on those before. -/
theorem step_behind (before : List Token) (scanner : Scanner) (c : Char) :
    (scanner.behind before).step c = (scanner.step c).map (behind before) := by
  obtain ⟨tokens, lexeme⟩ := scanner
  cases lexeme with
  | outside => exact stepOutside_append tokens before c
  | bare run =>
    simp only [behind, step]
    split_ifs
    · rfl
    · cases Token.ofBare? run.reverse with
      | none => rfl
      | some token => exact stepOutside_append (token :: tokens) before c
  | string units escape =>
    cases escape <;> simp only [behind, step, stepString]
    · split_ifs <;> rfl
    · split_ifs
      · rfl
      · cases escapedChar? c <;> rfl
    · cases Text.hexDigit? c with
      | none => rfl
      | some digit =>
        simp only [Option.map_some]
        split_ifs <;> rfl

theorem scan_behind (before : List Token) (scanner : Scanner) (text : List Char) :
    (scanner.behind before).scan text = (scanner.scan text).map (behind before) := by
  induction text generalizing scanner with
  | nil => rfl
  | cons c rest ih =>
    rw [scan_cons, scan_cons, step_behind, Option.map_bind, Option.bind_map]
    exact congrArg _ (funext fun next => ih next)

theorem finish_behind (before : List Token) (scanner : Scanner) :
    (scanner.behind before).finish = scanner.finish.map (before.reverse ++ ·) := by
  obtain ⟨tokens, lexeme⟩ := scanner
  cases lexeme with
  | outside => simp [behind, finish]
  | bare run =>
    simp only [behind, finish]
    cases Token.ofBare? run.reverse <;> simp
  | string units escape => rfl

end Scanner

/-- The tokens of a text from a state of the scanner on, when it is scanned to its end. -/
def tokensFrom (lexeme : Lexeme) (text : List Char) : Option (List Token) :=
  (Scanner.scan ⟨[], lexeme⟩ text).bind finish

theorem tokensFrom_outside (text : List Char) : tokensFrom .outside text = tokenize text := rfl

/-- Scanned behind other tokens, a text adds its own. -/
theorem scan_bind_finish (before : List Token) (lexeme : Lexeme) (text : List Char) :
    (Scanner.scan ⟨before, lexeme⟩ text).bind finish =
      (tokensFrom lexeme text).map (before.reverse ++ ·) := by
  rw [show (⟨before, lexeme⟩ : Scanner) = Scanner.behind before ⟨[], lexeme⟩ from rfl, scan_behind,
    tokensFrom, Option.bind_map, Option.map_bind]
  exact congrArg _ (funext fun scanner => finish_behind before scanner)

/-- The tokens of a text are what its first character completes and what follows. -/
theorem tokensFrom_cons {lexeme next : Lexeme} {c : Char} {completed : List Token}
    (hstep : Scanner.step ⟨[], lexeme⟩ c = some ⟨completed, next⟩) (rest : List Char) :
    tokensFrom lexeme (c :: rest) = (tokensFrom next rest).map (completed.reverse ++ ·) := by
  rw [tokensFrom, scan_cons, hstep, Option.bind_some, scan_bind_finish]

/-! ## Numbers and words -/

/-- Whether a token is a number or a word, which could go on in the text behind it. -/
def Token.isBare : Token → Bool
  | .null | .bool _ | .number _ => true
  | _ => false

theorem Token.isBare_of_ofBare? {run : List Char} {token : Token}
    (h : Token.ofBare? run = some token) : token.isBare = true := by
  unfold Token.ofBare? at h
  split_ifs at h
  · cases h; rfl
  · cases h; rfl
  · cases h; rfl
  · obtain ⟨literal, -, rfl⟩ := Option.map_eq_some_iff.1 h
    rfl

/-- A number or a word ends in front of a character that is no part of it. -/
theorem tokensFrom_bare_cons {c : Char} (hc : isBare c = false) (run rest : List Char) :
    tokensFrom (.bare run) (c :: rest) =
      (Token.ofBare? run.reverse).bind fun token => (tokenize (c :: rest)).map (token :: ·) := by
  have hstep : Scanner.step ⟨[], .bare run⟩ c =
      (Token.ofBare? run.reverse).bind fun token => Scanner.step ⟨[token], .outside⟩ c := by
    simp [step, hc]
  rw [tokensFrom, scan_cons, hstep, Option.bind_assoc, Option.bind_assoc]
  refine congrArg _ (funext fun token => ?_)
  rw [← Option.bind_assoc, ← scan_cons, scan_bind_finish]
  rfl

theorem tokensFrom_bare_cons_of_bare {c : Char} (hc : isBare c = true) (run rest : List Char) :
    tokensFrom (.bare run) (c :: rest) = tokensFrom (.bare (c :: run)) rest := by
  have hstep : Scanner.step ⟨[], .bare run⟩ c = some ⟨[], .bare (c :: run)⟩ := by
    simp [step, hc]
  rw [tokensFrom, scan_cons, hstep]
  rfl

/-- A number or a word that has been begun is the first of the tokens that follow. -/
theorem exists_bare_of_tokensFrom {run text : List Char} {tokens : List Token}
    (h : tokensFrom (.bare run) text = some tokens) :
    ∃ first rest, tokens = first :: rest ∧ first.isBare = true := by
  induction text generalizing run with
  | nil =>
    obtain ⟨token, htoken, rfl⟩ := Option.map_eq_some_iff.1 h
    exact ⟨token, [], rfl, Token.isBare_of_ofBare? htoken⟩
  | cons c rest ih =>
    cases hc : isBare c with
    | true =>
      rw [tokensFrom_bare_cons_of_bare hc] at h
      exact ih h
    | false =>
      rw [tokensFrom_bare_cons hc] at h
      obtain ⟨token, htoken, h⟩ := Option.bind_eq_some_iff.1 h
      obtain ⟨others, -, rfl⟩ := Option.map_eq_some_iff.1 h
      exact ⟨token, others, rfl, Token.isBare_of_ofBare? htoken⟩

/-! ## Putting texts together -/

/-- The tokens of two texts put together are those of the first one and then those of the second
one, unless a number or a word could go on from the one to the other. -/
theorem tokenize_append {text more : List Char} {tokens others : List Token}
    (h : tokenize text = some tokens) (hmore : tokenize more = some others)
    (hseam : ∀ last ∈ tokens.getLast?, ∀ first ∈ others.head?,
      last.isBare = false ∨ first.isBare = false) :
    tokenize (text ++ more) = some (tokens ++ others) := by
  obtain ⟨scanner, hscan, hfinish⟩ := Option.bind_eq_some_iff.1 h
  rw [tokenize, scan_append, hscan, Option.bind_some]
  cases more with
  | nil =>
    obtain rfl : [] = others := Option.some.inj hmore
    rw [List.append_nil]
    exact hfinish
  | cons c rest =>
    have houtside : (Scanner.scan ⟨tokens.reverse, .outside⟩ (c :: rest)).bind finish =
        some (tokens ++ others) := by
      rw [scan_bind_finish, tokensFrom_outside, hmore, List.reverse_reverse]
      rfl
    cases hc : isBare c with
    | false =>
      rw [scan_cons, step_of_finish hfinish hc]
      exact houtside
    | true =>
      -- The second text begins with a number or a word, so the first one does not end with one.
      have hstep : start.step c = some ⟨[], .bare [c]⟩ := stepOutside_bare hc []
      rw [tokenize, scan_cons, hstep, Option.bind_some] at hmore
      obtain ⟨first, tail, rfl, hfirst⟩ := exists_bare_of_tokensFrom hmore
      obtain ⟨before, lexeme⟩ := scanner
      cases lexeme with
      | outside =>
        obtain rfl : before.reverse = tokens := Option.some.inj hfinish
        rwa [List.reverse_reverse] at houtside
      | bare run =>
        obtain ⟨last, hlast, rfl⟩ := Option.map_eq_some_iff.1 hfinish
        have hbare := Token.isBare_of_ofBare? hlast
        simp [hbare, hfirst] at hseam
      | string units escape => cases hfinish

/-! ## Cutting texts -/

/-- A text that is scanned from a state on can be cut between some of its tokens and the others. -/
def CutsFrom (lexeme : Lexeme) (text : List Char) (tokens others : List Token) : Prop :=
  ∃ before after, text = before ++ after ∧ tokensFrom lexeme before = some tokens ∧
    tokenize after = some others

/-- What a character completes: nothing, or the token that it ends, unless it ends one in front of
it. -/
theorem completed_of_step {lexeme next : Lexeme} {c : Char} {completed : List Token}
    (hstep : Scanner.step ⟨[], lexeme⟩ c = some ⟨completed, next⟩)
    (hbare : ∀ run, lexeme = .bare run → isBare c = true) :
    completed = [] ∨ ∃ token, completed = [token] ∧ next = .outside := by
  cases lexeme with
  | outside =>
    simp only [step, stepOutside] at hstep
    split_ifs at hstep
    · cases hstep; exact .inl rfl
    · cases hstep; exact .inl rfl
    · cases hstep; exact .inl rfl
    · obtain ⟨token, -, htoken⟩ := Option.map_eq_some_iff.1 hstep
      cases htoken
      exact .inr ⟨token, rfl, rfl⟩
  | bare run =>
    simp only [step, hbare run rfl, ↓reduceIte] at hstep
    cases hstep
    exact .inl rfl
  | string units escape =>
    cases escape with
    | none =>
      simp only [step, stepString] at hstep
      split_ifs at hstep
      · cases hstep; exact .inr ⟨_, rfl, rfl⟩
      · cases hstep; exact .inl rfl
      · cases hstep; exact .inl rfl
    | begun =>
      simp only [step, stepString] at hstep
      split_ifs at hstep
      · cases hstep; exact .inl rfl
      · obtain ⟨_, -, hnext⟩ := Option.map_eq_some_iff.1 hstep
        cases hnext
        exact .inl rfl
    | code digits value =>
      obtain ⟨digit, -, hnext⟩ := Option.map_eq_some_iff.1 hstep
      simp only at hnext
      split_ifs at hnext
      · cases hnext; exact .inl rfl
      · cases hnext; exact .inl rfl

/-- A cut behind the first character of a text is one of the rest. -/
theorem cutsFrom_cons {lexeme next : Lexeme} {c : Char} {rest : List Char}
    {completed tokens others : List Token}
    (hstep : Scanner.step ⟨[], lexeme⟩ c = some ⟨completed, next⟩)
    (h : CutsFrom next rest tokens others) :
    CutsFrom lexeme (c :: rest) (completed.reverse ++ tokens) others := by
  obtain ⟨before, after, rfl, hbefore, hafter⟩ := h
  refine ⟨c :: before, after, rfl, ?_, hafter⟩
  rw [tokensFrom_cons hstep, hbefore]
  rfl

/-- All that the end of a text can complete is a number or a word, which is the last token. -/
theorem cutsFrom_nil {lexeme : Lexeme} {tokens others : List Token}
    (h : tokensFrom lexeme [] = some (tokens ++ others))
    (hplace : lexeme = .outside ∨ tokens ≠ []) : CutsFrom lexeme [] tokens others := by
  have hothers : others = [] := by
    cases lexeme with
    | outside =>
      have heq : [] = tokens ++ others := Option.some.inj h
      exact (List.append_eq_nil_iff.1 heq.symm).2
    | bare run =>
      obtain ⟨token, -, heq⟩ := Option.map_eq_some_iff.1 h
      obtain ⟨first, tail, rfl⟩ := List.exists_cons_of_ne_nil (hplace.resolve_left nofun)
      have hrest : [] = tail ++ others := (List.cons.inj heq).2
      exact (List.append_eq_nil_iff.1 hrest.symm).2
    | string units escape => cases h
  subst hothers
  rw [List.append_nil] at h
  exact ⟨[], [], rfl, h, rfl⟩

/-- Unless a character ends a number or a word in front of it, a cut behind some tokens is one of the
rest. -/
theorem cutsFrom_cons_of_ne_nil {lexeme : Lexeme} {c : Char} {rest : List Char}
    {tokens others : List Token} (h : tokensFrom lexeme (c :: rest) = some (tokens ++ others))
    (hne : tokens ≠ []) (hbare : ∀ run, lexeme = .bare run → isBare c = true)
    (hrest : ∀ {lexeme : Lexeme} {tokens : List Token},
      tokensFrom lexeme rest = some (tokens ++ others) → lexeme = .outside ∨ tokens ≠ [] →
        CutsFrom lexeme rest tokens others) :
    CutsFrom lexeme (c :: rest) tokens others := by
  obtain ⟨scanner, hscan, -⟩ := Option.bind_eq_some_iff.1 h
  obtain ⟨⟨completed, next⟩, hstep, -⟩ := Option.bind_eq_some_iff.1 hscan
  rw [tokensFrom_cons hstep] at h
  obtain ⟨following, hfollowing, heq⟩ := Option.map_eq_some_iff.1 h
  rcases completed_of_step hstep hbare with rfl | ⟨token, rfl, rfl⟩
  · obtain rfl : following = tokens ++ others := heq
    exact cutsFrom_cons hstep (hrest hfollowing (.inr hne))
  · obtain ⟨first, tail, rfl⟩ := List.exists_cons_of_ne_nil hne
    obtain ⟨rfl, rfl⟩ : token = first ∧ following = tail ++ others := by simpa using heq
    exact cutsFrom_cons hstep (hrest hfollowing (.inl rfl))

/-- The number or the word in front of a character that ends it is the first token. -/
theorem cutsFrom_bare_cons {run : List Char} {c : Char} {rest : List Char} (hc : isBare c = false)
    {tokens others : List Token} (hne : tokens ≠ [])
    (h : tokensFrom (.bare run) (c :: rest) = some (tokens ++ others))
    (houtside : ∀ {tokens : List Token}, tokenize (c :: rest) = some (tokens ++ others) →
      CutsFrom .outside (c :: rest) tokens others) :
    CutsFrom (.bare run) (c :: rest) tokens others := by
  rw [tokensFrom_bare_cons hc] at h
  obtain ⟨token, htoken, h⟩ := Option.bind_eq_some_iff.1 h
  obtain ⟨following, hfollowing, heq⟩ := Option.map_eq_some_iff.1 h
  obtain ⟨first, tail, rfl⟩ := List.exists_cons_of_ne_nil hne
  obtain ⟨rfl, rfl⟩ : token = first ∧ following = tail ++ others := by simpa using heq
  obtain ⟨before, after, htext, hbefore, hafter⟩ := houtside hfollowing
  refine ⟨before, after, htext, ?_, hafter⟩
  cases before with
  | nil =>
    obtain rfl : [] = tail := Option.some.inj hbefore
    simp [tokensFrom, scan, finish, htoken]
  | cons d before =>
    obtain ⟨rfl, rfl⟩ : c = d ∧ rest = before ++ after := by simpa using htext
    rw [tokensFrom_bare_cons hc, htoken, Option.bind_some, ← tokensFrom_outside, hbefore]
    rfl

/-- A text can be cut behind some of its tokens, and between tokens also in front of them. -/
theorem cutsFrom_of_tokensFrom {lexeme : Lexeme} {text : List Char} {tokens others : List Token}
    (h : tokensFrom lexeme text = some (tokens ++ others))
    (hplace : lexeme = .outside ∨ tokens ≠ []) : CutsFrom lexeme text tokens others := by
  induction text generalizing lexeme tokens with
  | nil => exact cutsFrom_nil h hplace
  | cons c rest ih =>
    -- In front of all tokens the text is cut at its start, and anywhere else behind the character.
    have houtside : ∀ {tokens : List Token}, tokenize (c :: rest) = some (tokens ++ others) →
        CutsFrom .outside (c :: rest) tokens others := by
      intro tokens h
      cases tokens with
      | nil => exact ⟨[], c :: rest, rfl, rfl, h⟩
      | cons first tail => exact cutsFrom_cons_of_ne_nil h (by simp) (by simp) ih
    cases lexeme with
    | outside => exact houtside h
    | string units escape =>
      exact cutsFrom_cons_of_ne_nil h (hplace.resolve_left nofun) (by simp) ih
    | bare run =>
      have hne := hplace.resolve_left nofun
      cases hc : isBare c with
      | true => exact cutsFrom_cons_of_ne_nil h hne (fun _ _ => hc) ih
      | false => exact cutsFrom_bare_cons hc hne h houtside

/-- A text can be cut wherever its tokens can. -/
theorem exists_cut {text : List Char} {tokens others : List Token}
    (h : tokenize text = some (tokens ++ others)) :
    ∃ before after, text = before ++ after ∧ tokenize before = some tokens ∧
      tokenize after = some others :=
  cutsFrom_of_tokensFrom h (.inl rfl)

/-! ## Texts put into other ones -/

/-- A number or a word completes a value. -/
theorem exists_done_of_step {reader next : Reader} {token : Token} (hbare : token.isBare = true)
    (h : reader.step token = some next) : ∃ value frames, next = .done value frames := by
  cases token with
  | null | bool _ | number _ =>
    cases reader with
    | atValue frames | atListStart frames => exact ⟨_, _, (Option.some.inj h).symm⟩
    | atObjectStart | atKey | atColon => cases h
    | done value frames =>
      rcases frames with _ | ⟨_ | _, _⟩ <;> cases h
  | _ => cases hbare

/-- No number and no word follows a complete value. -/
theorem isBare_eq_false_of_stepDone {value : Json} {frames : List Frame} {token : Token}
    {next : Reader} (h : (Reader.done value frames).step token = some next) :
    token.isBare = false := by
  cases token with
  | null | bool _ | number _ =>
    rcases frames with _ | ⟨_ | _, _⟩ <;> cases h
  | _ => rfl

/-- Among the tokens of a value, no two numbers or words follow each other. -/
theorem isBare_seam {value : Json} {tokens others : List Token}
    (h : value.tokens = tokens ++ others) :
    ∀ last ∈ tokens.getLast?, ∀ first ∈ others.head?,
      last.isBare = false ∨ first.isBare = false := by
  intro last hlast first hfirst
  obtain ⟨before, rfl⟩ := List.getLast?_eq_some_iff.1 hlast
  obtain ⟨after, rfl⟩ := List.head?_eq_some_iff.1 hfirst
  -- The value is read from its tokens, so that both tokens are steps of the reader.
  have hread := read_tokens [] value
  rw [h, Reader.read_append, Reader.read_append, Option.bind_assoc] at hread
  obtain ⟨reader, -, hread⟩ := Option.bind_eq_some_iff.1 hread
  simp only [read_cons, read_nil, Option.bind_assoc, Option.bind_some] at hread
  obtain ⟨next, hlastStep, hread⟩ := Option.bind_eq_some_iff.1 hread
  obtain ⟨_, hfirstStep, -⟩ := Option.bind_eq_some_iff.1 hread
  cases hbare : last.isBare with
  | false => exact .inl rfl
  | true =>
    obtain ⟨_, _, rfl⟩ := exists_done_of_step hbare hlastStep
    exact .inr (isBare_eq_false_of_stepDone hfirstStep)

/-- A text for one value is cut in two between its tokens, and another text is put in there, so that
the tokens of the whole are those of another value. -/
def IsSplice (value value' : Json) (before more after : String) : Prop :=
  ∃ tokens between others, tokenize before.toList = some tokens ∧
    tokenize more.toList = some between ∧ tokenize after.toList = some others ∧
    value.tokens = tokens ++ others ∧ value'.tokens = tokens ++ (between ++ others)

/-- The text is read as the one value, and with the other text in it as the other value. -/
theorem IsSplice.parse_splice {value value' : Json} {before more after : String}
    (h : IsSplice value value' before more after) :
    parse (before ++ after) = some value ∧ parse (before ++ more ++ after) = some value' := by
  obtain ⟨tokens, between, others, hbefore, hmore, hafter, hvalue, hvalue'⟩ := h
  rw [parse_eq_some_iff, parse_eq_some_iff, hvalue, hvalue', ← List.append_assoc]
  simp only [String.toList_append]
  constructor
  · exact tokenize_append hbefore hafter (isBare_seam hvalue)
  · refine tokenize_append (tokenize_append hbefore hmore ?_) hafter ?_
    · -- The text that is put in begins like what follows the first part now.
      intro last hlast first hfirst
      refine isBare_seam hvalue' last hlast first ?_
      rw [List.head?_append, Option.mem_def.1 hfirst]
      rfl
    · rw [← List.append_assoc] at hvalue'
      exact isBare_seam hvalue'

end PlaylistCurator.Json
