import Mathlib.Data.List.Basic
import Mathlib.Data.List.TakeWhile
import Mathlib.Tactic.IntervalCases
import PlaylistCurator.Json.Token
import PlaylistCurator.Json.Writer

/-!
# Texts that spell tokens

A text spells tokens if scanning it adds just these to the tokens before. A number or a word at its
end may still be open, so that the texts of two lists of tokens can only be put together where the
second one does not begin like the continuation of a number.

* `Spells.append`: texts that spell tokens, put together;
* `Spells.writeString_append`, `spells_ofNat`, `spells_writeBlock`: what the parts of a written
  value spell.
-/

namespace PlaylistCurator.Json

open Scanner

/-- Scanned between tokens, the text adds the given tokens to those before. -/
def Spells (text : List Char) (tokens : List Token) : Prop :=
  ∀ before : List Token, ∃ scanner, Scanner.scan ⟨before, .outside⟩ text = some scanner ∧
    scanner.finish = some (before.reverse ++ tokens)

/-- A character that is no part of a number or a word is read as if the scanner were between
tokens. -/
theorem step_of_finish {scanner : Scanner} {tokens : List Token} {c : Char}
    (h : scanner.finish = some tokens) (hc : isBare c = false) :
    scanner.step c = stepOutside tokens.reverse c := by
  obtain ⟨before, lexeme⟩ := scanner
  cases lexeme with
  | outside =>
    obtain rfl := Option.some.inj h
    rw [step, List.reverse_reverse]
  | bare run =>
    obtain ⟨token, htoken, rfl⟩ := Option.map_eq_some_iff.1 h
    simp [step, hc, htoken]
  | string units escape => cases h

theorem scan_cons (scanner : Scanner) (c : Char) (text : List Char) :
    scanner.scan (c :: text) = (scanner.step c).bind fun next => next.scan text := rfl

/-- The tokens of a text that spells them. -/
theorem Spells.tokenize_eq {text : List Char} {tokens : List Token} (h : Spells text tokens) :
    tokenize text = some tokens := by
  obtain ⟨scanner, hscan, hfinish⟩ := h []
  rw [tokenize, start, hscan]
  exact hfinish

theorem spells_nil : Spells [] [] :=
  fun before => ⟨⟨before, .outside⟩, rfl, by simp [finish]⟩

/-! ## Putting texts together -/

/-- A text after one that spells tokens, unless it goes on with a number or a word. -/
theorem Spells.append {text more : List Char} {tokens others : List Token} {c : Char}
    (h : Spells text tokens) (hmore : Spells (c :: more) others) (hc : isBare c = false) :
    Spells (text ++ c :: more) (tokens ++ others) := by
  intro before
  obtain ⟨scanner, hscan, hfinish⟩ := h before
  obtain ⟨last, hlast, hfinishLast⟩ := hmore (before.reverse ++ tokens).reverse
  refine ⟨last, ?_, by simpa using hfinishLast⟩
  -- From the first character on, it makes no difference whether a number was still open.
  rw [scan_append, hscan, Option.bind_some, scan_cons, step_of_finish hfinish hc]
  exact hlast

/-- A text before which the scanner reads some tokens and comes back between tokens. -/
theorem Spells.after (part : List Char) (read : List Token) {text : List Char}
    {tokens : List Token}
    (hpart : ∀ before : List Token, Scanner.scan ⟨before, .outside⟩ part =
      some ⟨read.reverse ++ before, .outside⟩)
    (h : Spells text tokens) : Spells (part ++ text) (read ++ tokens) := by
  intro before
  obtain ⟨scanner, hscan, hfinish⟩ := h (read.reverse ++ before)
  refine ⟨scanner, ?_, by simpa using hfinish⟩
  rw [scan_append, hpart]
  exact hscan

/-- A bracket, a comma or a colon before a text. -/
theorem Spells.mark {text : List Char} {tokens : List Token} {c : Char} {token : Token}
    (h : Spells text tokens)
    (hmark : ∀ before, stepOutside before c = some ⟨token :: before, .outside⟩) :
    Spells (c :: text) (token :: tokens) :=
  Spells.after [c] [token] (fun before => by rw [scan_cons]; simp [step, hmark, scan]) h

theorem Spells.space {text : List Char} {tokens : List Token} {c : Char} (h : Spells text tokens)
    (hspace : isSpace c = true) : Spells (c :: text) tokens :=
  Spells.after [c] [] (fun before => by rw [scan_cons]; simp [step, stepOutside, hspace, scan]) h

/-- The blanks at the start of a line before a text. -/
theorem Spells.newLine {text : List Char} {tokens : List Token} (h : Spells text tokens)
    (depth : Nat) : Spells (newLine depth ++ text) tokens := by
  refine Spells.space ?_ rfl
  generalize 2 * depth = width
  induction width with
  | zero => exact h
  | succ width ih => exact Spells.space ih rfl

/-! ## Numbers and words -/

theorem scan_bare (before : List Token) (run rest : List Char)
    (hbare : ∀ c ∈ rest, isBare c = true) :
    Scanner.scan ⟨before, .bare run⟩ rest = some ⟨before, .bare (rest.reverse ++ run)⟩ := by
  induction rest generalizing run with
  | nil => rfl
  | cons c rest ih =>
    rw [List.forall_mem_cons] at hbare
    rw [scan_cons]
    simp only [step, hbare.1, ↓reduceIte, Option.bind_some, ih (c :: run) hbare.2,
      List.reverse_cons, List.append_assoc, List.singleton_append]

theorem stepOutside_bare {c : Char} (h : isBare c = true) (before : List Token) :
    stepOutside before c = some ⟨before, .bare [c]⟩ := by
  -- No blank and no quote is part of a number or a word.
  have hspace : isSpace c = false := by
    by_contra hspace
    simp only [isSpace, Bool.not_eq_false, Bool.or_eq_true, beq_iff_eq] at hspace
    rcases hspace with ((rfl | rfl) | rfl) | rfl <;> revert h <;> decide
  have hquote : c ≠ '"' := by
    rintro rfl
    revert h
    decide
  simp [stepOutside, hspace, hquote, h]

/-- A run of bare characters spells the number or the word that it is. -/
theorem spells_bare {run : List Char} {token : Token} (hbare : ∀ c ∈ run, isBare c = true)
    (htoken : Token.ofBare? run = some token) : Spells run [token] := by
  intro before
  cases run with
  | nil => cases htoken
  | cons c rest =>
    rw [List.forall_mem_cons] at hbare
    refine ⟨⟨before, .bare (rest.reverse ++ [c])⟩, ?_, ?_⟩
    · rw [scan_cons]
      simp only [step, stepOutside_bare hbare.1, Option.bind_some, scan_bare _ _ _ hbare.2]
    · simp [finish, htoken]

theorem spells_null : Spells "null".toList [.null] :=
  spells_bare (List.all_eq_true.1 (by decide)) rfl

theorem spells_bool (value : Bool) :
    Spells (if value then "true".toList else "false".toList) [.bool value] := by
  cases value with
  | true => exact spells_bare (List.all_eq_true.1 (by decide)) rfl
  | false => exact spells_bare (List.all_eq_true.1 (by decide)) rfl

/-- The digits of a number begin with a zero only if the number is zero. -/
theorem head?_toDigits {n : Nat} (hn : 0 < n) : (Nat.toDigits 10 n).head? ≠ some '0' := by
  induction n using Nat.strongRecOn with
  | ind n ih =>
    by_cases hsmall : n < 10
    · rw [Nat.toDigits_of_lt_base hsmall]
      interval_cases n <;> decide
    · -- The first digit is that of a tenth of the number, which is still positive.
      have hfirst := ih (n / 10) (by omega) (by omega)
      rw [Nat.toDigits_of_base_le (by decide) (by omega),
        List.head?_append_of_ne_nil _ Nat.toDigits_ne_nil]
      exact hfirst

/-- The number written for a natural number is read as such. -/
theorem ofChars?_toDigits (n : Nat) :
    Number.ofChars? (Nat.toDigits 10 n) = some (.ofNat n) := by
  have hdigits : ∀ c ∈ Nat.toDigits 10 n, c.isDigit = true :=
    fun c hc => Nat.isDigit_of_mem_toDigits (by decide) (by decide) hc
  have hsplit : Number.digits (Nat.toDigits 10 n) = (Nat.toDigits 10 n, []) := by
    rw [Number.digits, List.takeWhile_eq_self_iff.2 hdigits, List.dropWhile_eq_nil_iff.2 hdigits]
  have hzero : ((Nat.toDigits 10 n).head? == some '0' &&
      (Nat.toDigits 10 n).length != 1) = false := by
    rcases Nat.eq_zero_or_pos n with rfl | hpos
    · decide
    · simp [head?_toDigits hpos]
  have hunsigned : Number.unsigned? false (Nat.toDigits 10 n) = some (.ofNat n) := by
    simp [Number.unsigned?, hsplit, hzero, Nat.toDigits_ne_nil, Number.fraction?, Number.exponent?,
      Number.ofNat]
  -- No sign stands before the digits.
  unfold Number.ofChars?
  split
  · rename_i rest hrest
    have hsign := hdigits '-' (by rw [hrest]; exact List.mem_cons_self)
    cases hsign
  · exact hunsigned

/-- The text of a natural number spells it. -/
theorem spells_ofNat (n : Nat) : Spells (Number.ofNat n).toChars [.number (.ofNat n)] := by
  have hchars : (Number.ofNat n).toChars = Nat.toDigits 10 n := by
    simp [Number.toChars, Number.ofNat]
  have hdigits : ∀ c ∈ Nat.toDigits 10 n, c.isDigit = true :=
    fun c hc => Nat.isDigit_of_mem_toDigits (by decide) (by decide) hc
  rw [hchars]
  refine spells_bare ?_ ?_
  · intro c hc
    simp [isBare, Char.isAlphanum, hdigits c hc]
  · -- Digits are none of the words.
    have hword : ∀ word : List Char, 'l' ∈ word ∨ 'u' ∈ word → Nat.toDigits 10 n ≠ word := by
      rintro word hword rfl
      rcases hword with hword | hword <;> cases hdigits _ hword
    rw [Token.ofBare?, if_neg (hword _ (by decide)), if_neg (hword _ (by decide)),
      if_neg (hword _ (by decide)), ofChars?_toDigits]
    rfl

/-! ## Strings -/

/-- The letter of an escape stands for the character that was escaped. -/
theorem escapedChar?_of_escapeLetter? {c letter : Char} (h : escapeLetter? c = some letter) :
    letter ≠ 'u' ∧ escapedChar? letter = some c := by
  unfold escapeLetter? at h
  -- Seven characters have a letter of their own, the others have none.
  split at h
  case h_8 => cases h
  all_goals
    obtain rfl := Option.some.inj h
    decide

/-- The four digits of the escape of a control character. -/
theorem leftpad_toDigits {code : Nat} (h : code < 0x20) :
    (Nat.toDigits 16 code).leftpad 4 '0' =
        ['0', '0', (code / 16).digitChar, (code % 16).digitChar] ∧
      Text.hexDigit? (code / 16).digitChar = some (code / 16) ∧
      Text.hexDigit? (code % 16).digitChar = some (code % 16) := by
  revert code
  decide

/-- The escape of a control character by its code is read back. -/
theorem scan_codeEscape (before : List Token) (units : List StringUnit) {c : Char}
    (h : c.toNat < 0x20) :
    Scanner.scan ⟨before, .string units .none⟩ (codeEscape c.toNat) =
      some ⟨before, .string (.char c :: units) .none⟩ := by
  obtain ⟨hdigits, hhigh, hlow⟩ := leftpad_toDigits h
  have hzero : Text.hexDigit? '0' = some 0 := by decide
  -- The digits have the code as their value, and the code is that of no surrogate.
  have hvalue : 16 * (c.toNat / 16) + c.toNat % 16 = c.toNat := Nat.div_add_mod _ _
  have hunit : StringUnit.ofCode c.toNat = .char c := by
    have hleading : isLeading c.toNat = false := by simp [isLeading]; omega
    have htrailing : isTrailing c.toNat = false := by simp [isTrailing]; omega
    simp [StringUnit.ofCode, hleading, htrailing]
  rw [codeEscape, hdigits]
  simp [scan, step, stepString, hzero, hhigh, hlow, hvalue, hunit]

/-- A character of a string is read back as it was written. -/
theorem scan_write_char (before : List Token) (units : List StringUnit) (c : Char) :
    Scanner.scan ⟨before, .string units .none⟩ (StringUnit.char c).write =
      some ⟨before, .string (.char c :: units) .none⟩ := by
  cases hletter : escapeLetter? c with
  | some letter =>
    obtain ⟨hu, hescaped⟩ := escapedChar?_of_escapeLetter? hletter
    simp [StringUnit.write, hletter, scan, step, stepString, hu, hescaped]
  | none =>
    by_cases hcontrol : c.toNat < 0x20
    · have hwrite : (StringUnit.char c).write = codeEscape c.toNat := by
        simp [StringUnit.write, hletter, hcontrol]
      rw [hwrite]
      exact scan_codeEscape before units hcontrol
    · -- What is written as it is neither ends the string nor begins an escape.
      have hquote : c ≠ '"' := by
        rintro rfl
        cases hletter
      have hbackslash : c ≠ '\\' := by
        rintro rfl
        cases hletter
      simp [StringUnit.write, hletter, scan, step, stepString, hquote, hbackslash, hcontrol]

/-- The characters of a string are read back as they were written. -/
theorem scan_write_chars (before : List Token) (units : List StringUnit) (chars : List Char) :
    Scanner.scan ⟨before, .string units .none⟩
        ((chars.map StringUnit.char).flatMap StringUnit.write) =
      some ⟨before, .string ((chars.map StringUnit.char).reverse ++ units) .none⟩ := by
  induction chars generalizing units with
  | nil => rfl
  | cons c rest ih =>
    rw [List.map_cons, List.flatMap_cons, scan_append, scan_write_char, Option.bind_some, ih,
      List.reverse_cons, List.append_assoc, List.singleton_append]

/-- The string of a text before a text. -/
theorem Spells.writeString_append {text : List Char} {tokens : List Token}
    (h : Spells text tokens) (content : String) :
    Spells (writeString (unitsOf content) ++ text) (.string (unitsOf content) :: tokens) := by
  refine Spells.after (writeString (unitsOf content)) [.string (unitsOf content)] ?_ h
  intro before
  have hopen : Scanner.step ⟨before, .outside⟩ '"' = some ⟨before, .string [] .none⟩ := rfl
  have hclose : Scanner.scan ⟨before, .string (unitsOf content).reverse .none⟩ ['"'] =
      some ⟨.string (unitsOf content) :: before, .outside⟩ := by
    simp [scan, step, stepString]
  -- The opening quote, the characters, and the closing quote, which ends the string.
  rw [writeString, List.cons_append, scan_cons, hopen, Option.bind_some, scan_append, unitsOf,
    scan_write_chars, Option.bind_some, List.append_nil]
  exact hclose

/-! ## Blocks -/

/-- Entries of a block, each on a line of its own, before the end of the block. -/
theorem spells_entries (depth : Nat) {texts : List (List Char)} {lists : List (List Token)}
    {ending : List Char} {closing : List Token} (hentries : List.Forall₂ Spells texts lists)
    (hne : texts ≠ []) (hending : Spells ('\n' :: ending) closing) :
    Spells (List.intercalate [','] (texts.map (newLine depth ++ ·)) ++ '\n' :: ending)
      (List.intercalate [.comma] lists ++ closing) := by
  induction hentries with
  | nil => exact absurd rfl hne
  | @cons text list texts lists hentry hrest ih =>
    cases hrest with
    | nil =>
      -- The last entry ends where the line of the closing bracket begins.
      simp only [List.map_cons, List.map_nil, List.intercalate_singleton, List.append_assoc]
      exact (hentry.append hending rfl).newLine depth
    | cons hnext hothers =>
      -- Any other entry is followed by a comma, which is no part of a number either.
      have hmore : Spells (',' :: _) (.comma :: _) := (ih (by simp)).mark fun _ => rfl
      simp only [List.map_cons, List.intercalate_cons_cons, List.append_assoc,
        List.singleton_append] at hmore ⊢
      exact (hentry.append hmore rfl).newLine depth

/-- A block spells its brackets and, with commas between them, its entries. -/
theorem spells_writeBlock {opening closing : Char} {openToken closeToken : Token}
    (hopen : ∀ before, stepOutside before opening = some ⟨openToken :: before, .outside⟩)
    (hclose : ∀ before, stepOutside before closing = some ⟨closeToken :: before, .outside⟩)
    (depth : Nat) {texts : List (List Char)} {lists : List (List Token)}
    (hentries : List.Forall₂ Spells texts lists) :
    Spells (writeBlock opening closing depth texts)
      (openToken :: (List.intercalate [.comma] lists ++ [closeToken])) := by
  have hend : Spells [closing] [closeToken] := spells_nil.mark hclose
  cases texts with
  | nil =>
    cases hentries
    exact hend.mark hopen
  | cons text texts =>
    -- Behind the last entry the closing bracket stands on a line of its own.
    have hall := spells_entries (depth + 1) hentries (by simp) (hend.newLine depth)
    have hblock : writeBlock opening closing depth (text :: texts) =
        opening :: (List.intercalate [','] ((text :: texts).map (newLine (depth + 1) ++ ·)) ++
          (newLine depth ++ [closing])) := by
      simp [writeBlock]
    rw [hblock]
    exact hall.mark hopen

end PlaylistCurator.Json
