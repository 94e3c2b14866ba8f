import PlaylistCurator.Text.HexDigit

/-!
# TOML tokens

The tokens of a TOML text. Scanning is a fold over the characters. Blanks are tokens, because
brackets of a header must be adjacent and a date can be set apart from a time by a space; comments
are none.

A string in three quotes keeps its line ends as line feeds. A line end right after the opening
quotes is left out, and so are a backslash at the end of a line and all blanks and line ends after
it. Up to two quotes can stand right before the closing ones.

* `Scanner.step`: what a character does.
* `tokenize`: the tokens of a whole text.
-/

namespace PlaylistCurator.Toml

/-- A token of a TOML text. -/
inductive Token
  /-- A run of letters, digits, signs, underscores and colons. -/
  | word (run : List Char)
  /-- A quoted text, in one quote on each side or in three. -/
  | text (content : List Char) (isMultiline : Bool)
  | dot
  | comma
  | equals
  | openBracket
  | closeBracket
  | openBrace
  | closeBrace
  /-- A space or a tab. -/
  | blank (c : Char)
  | newline
  deriving DecidableEq, Repr

/-- The token of a character that is one by itself. -/
def Token.ofMark? : Char → Option Token
  | '.' => some .dot
  | ',' => some .comma
  | '=' => some .equals
  | '[' => some .openBracket
  | ']' => some .closeBracket
  | '{' => some .openBrace
  | '}' => some .closeBrace
  | ' ' => some (.blank ' ')
  | '\t' => some (.blank '\t')
  | '\n' => some .newline
  | _ => none

/-- Whether a character belongs to a word. -/
def isWordChar (c : Char) : Bool :=
  c.isAlphanum || c == '_' || c == '-' || c == '+' || c == ':'

/-- Whether a character may stand in a comment or a quoted text. -/
def isPlain (c : Char) : Bool :=
  c == '\t' || (0x20 ≤ c.toNat && c.toNat ≤ 0x7E) || 0x80 ≤ c.toNat

/-- Whether a character is a space or a tab. -/
def isBlank (c : Char) : Bool := c == ' ' || c == '\t'

/-- The quote of a text. -/
inductive Quote
  /-- Double quotes, between which there are escapes. -/
  | double
  /-- Single quotes, between which every character stands for itself. -/
  | single
  deriving DecidableEq, Repr

/-- The character of a quote. -/
def Quote.char : Quote → Char
  | .double => '"'
  | .single => '\''

/-- The quote that a character opens. -/
def Quote.ofChar? : Char → Option Quote
  | '"' => some .double
  | '\'' => some .single
  | _ => none

/-- What becomes of a line end in a text in quotes. -/
inductive LineEnd
  /-- It belongs to the text. -/
  | kept
  /-- It is left out. -/
  | dropped
  /-- It is left out together with what is blank after it. -/
  | trimmed
  deriving DecidableEq, Repr

/-- What the last characters of a text in quotes have begun. -/
inductive Pending
  | nothing
  /-- Three quotes have just opened the text. -/
  | opened
  /-- A carriage return has been read; a line feed must follow. -/
  | carriageReturn (lineEnd : LineEnd)
  /-- A number of quotes has been read, which may close a text in three quotes. -/
  | quotes (count : Nat)
  /-- A backslash has been read. -/
  | escape
  /-- The code of an escape is being read: `left` digits are to come after the value so far. -/
  | code (left value : Nat)
  /-- A backslash and blanks have been read; a line must end there. -/
  | continuation
  /-- Blanks and line ends are left out. -/
  | trimming
  deriving DecidableEq, Repr

/-- The token that a scanner is in. Characters are kept latest first. -/
inductive Lexeme
  | outside
  | word (run : List Char)
  | comment
  /-- A carriage return; a line feed must follow. -/
  | carriageReturn
  /-- Quotes at the start of a text: one, or two of which it is not clear yet what they are. -/
  | opening (quote : Quote) (isSecond : Bool)
  | text (quote : Quote) (isMultiline : Bool) (content : List Char) (pending : Pending)
  deriving DecidableEq, Repr

/-- A scanner part of the way through a text. -/
structure Scanner where
  /-- The tokens that are complete, latest first. -/
  tokens : List Token
  /-- The token that has been begun. -/
  lexeme : Lexeme
  deriving DecidableEq, Repr

/-- The character that a one-letter escape spells. -/
def escapedChar? : Char → Option Char
  | '"' => some '"'
  | '\\' => some '\\'
  | 'b' => some '\x08'
  | 'f' => some '\x0c'
  | 'n' => some '\n'
  | 'r' => some '\r'
  | 't' => some '\t'
  | _ => none

/-- The character with a code, if there is one. -/
def charOfCode? (code : Nat) : Option Char :=
  if h : code.isValidChar then some (Char.ofNatAux code h) else none

namespace Scanner

/-- The scanner at the start of a text. -/
def start : Scanner := ⟨[], .outside⟩

/-- A character between tokens. -/
def stepOutside (tokens : List Token) (c : Char) : Option Scanner :=
  if c = '\r' then some ⟨tokens, .carriageReturn⟩
  else if c = '#' then some ⟨tokens, .comment⟩
  else if isWordChar c then some ⟨tokens, .word [c]⟩
  else match Quote.ofChar? c with
    | some quote => some ⟨tokens, .opening quote false⟩
    | none => (Token.ofMark? c).map fun token => ⟨token :: tokens, .outside⟩

/-- A character of a text in quotes, when nothing has been begun. -/
def stepPlain (tokens : List Token) (quote : Quote) (isMultiline : Bool) (content : List Char)
    (c : Char) : Option Scanner :=
  let goOn := fun content pending => some ⟨tokens, .text quote isMultiline content pending⟩
  if c = quote.char then
    if isMultiline then goOn content (.quotes 1)
    else some ⟨.text content.reverse false :: tokens, .outside⟩
  else if quote = .double ∧ c = '\\' then goOn content .escape
  else if isMultiline ∧ c = '\n' then goOn (c :: content) .nothing
  else if isMultiline ∧ c = '\r' then goOn content (.carriageReturn .kept)
  else if isPlain c then goOn (c :: content) .nothing
  else none

/-- A character of a text in quotes. -/
def stepText (tokens : List Token) (quote : Quote) (isMultiline : Bool) (content : List Char)
    (c : Char) : Pending → Option Scanner
  | .nothing => stepPlain tokens quote isMultiline content c
  | .opened =>
    if c = '\n' then goOn content .nothing
    else if c = '\r' then goOn content (.carriageReturn .dropped)
    else stepPlain tokens quote isMultiline content c
  | .carriageReturn lineEnd =>
    -- A carriage return stands for nothing without a line feed after it.
    if c = '\n' then
      match lineEnd with
      | .kept => goOn (c :: content) .nothing
      | .dropped => goOn content .nothing
      | .trimmed => goOn content .trimming
    else none
  | .quotes count =>
    -- Three quotes end the text, and up to two in front of them still belong to it.
    if c = quote.char then if count < 5 then goOn content (.quotes (count + 1)) else none
    else if count < 3 then
      stepPlain tokens quote isMultiline (List.replicate count quote.char ++ content) c
    else
      stepOutside
        (.text (List.replicate (count - 3) quote.char ++ content).reverse true :: tokens) c
  | .escape =>
    if c = 'u' then goOn content (.code 4 0)
    else if c = 'U' then goOn content (.code 8 0)
    else if isMultiline ∧ c = '\n' then goOn content .trimming
    else if isMultiline ∧ c = '\r' then goOn content (.carriageReturn .trimmed)
    else if isMultiline ∧ isBlank c then goOn content .continuation
    else (escapedChar? c).bind fun c => goOn (c :: content) .nothing
  | .code left value => do
    let value := 16 * value + (← Text.hexDigit? c)
    if left = 1 then goOn ((← charOfCode? value) :: content) .nothing
    else goOn content (.code (left - 1) value)
  | .continuation =>
    if c = '\n' then goOn content .trimming
    else if c = '\r' then goOn content (.carriageReturn .trimmed)
    else if isBlank c then goOn content .continuation
    else none
  | .trimming =>
    if isBlank c ∨ c = '\n' then goOn content .trimming
    else if c = '\r' then goOn content (.carriageReturn .trimmed)
    else stepPlain tokens quote isMultiline content c
where
  /-- The text goes on. -/
  goOn (content : List Char) (pending : Pending) : Option Scanner :=
    some ⟨tokens, .text quote isMultiline content pending⟩

/-- What a character does to a scanner; nothing follows where the text cannot be one of TOML. -/
def step (scanner : Scanner) (c : Char) : Option Scanner :=
  let tokens := scanner.tokens
  match scanner.lexeme with
  | .outside => stepOutside tokens c
  | .word run =>
    if isWordChar c then some ⟨tokens, .word (c :: run)⟩
    else stepOutside (.word run.reverse :: tokens) c
  | .comment =>
    if c = '\n' ∨ c = '\r' then stepOutside tokens c
    else if isPlain c then some ⟨tokens, .comment⟩
    else none
  | .carriageReturn => if c = '\n' then some ⟨.newline :: tokens, .outside⟩ else none
  | .opening quote isSecond =>
    if c = quote.char then
      if isSecond then some ⟨tokens, .text quote true [] .opened⟩
      else some ⟨tokens, .opening quote true⟩
    else if isSecond then stepOutside (.text [] false :: tokens) c
    else stepPlain tokens quote false [] c
  | .text quote isMultiline content pending => stepText tokens quote isMultiline content c pending

/-- The tokens of the scanned text, if it ends here. -/
def finish (scanner : Scanner) : Option (List Token) :=
  match scanner.lexeme with
  | .outside | .comment => some scanner.tokens.reverse
  | .word run => some (.word run.reverse :: scanner.tokens).reverse
  | .opening _ true => some (.text [] false :: scanner.tokens).reverse
  | .text quote _ content (.quotes count) =>
    if count < 3 then none
    else
      let content := (List.replicate (count - 3) quote.char ++ content).reverse
      some (.text content true :: scanner.tokens).reverse
  | .carriageReturn | .opening _ false | .text .. => none

/-- Scans a text from a state of the scanner. -/
def scan (scanner : Scanner) (text : List Char) : Option Scanner :=
  text.foldlM step scanner

end Scanner

/-- The tokens of a TOML text. -/
def tokenize (text : List Char) : Option (List Token) :=
  (Scanner.start.scan text).bind Scanner.finish

example : tokenize "a.b=1 # c".toList =
    some [.word ['a'], .dot, .word ['b'], .equals, .word ['1'], .blank ' '] := by decide
example : tokenize "'a' '' \"\\u00E9\"".toList =
    some [.text ['a'] false, .blank ' ', .text [] false, .blank ' ', .text ['é'] false] := by decide
example : tokenize "'''\na\r\n''''".toList = some [.text ['a', '\n', '\''] true] := by decide
example : tokenize "\"\"\"a\\ \r\n\n  b\"\"\"".toList = some [.text ['a', 'b'] true] := by decide
example : tokenize "\"\\ud800\"".toList = none ∧ tokenize "\r".toList = none ∧
    tokenize "'a".toList = none ∧ tokenize "'''a''''''".toList = none := by decide

end PlaylistCurator.Toml
