import PlaylistCurator.Toml.Scalar
import PlaylistCurator.Toml.Token

/-!
# Reading TOML

A TOML document is built from its tokens by a fold. The reader keeps the document so far, the table
that headers have last opened, and what it is in the middle of; of the values that are open, the
innermost comes first. Keys have fewer than `maxDepth` parts, and values lie inside fewer than
`maxDepth` arrays and inline tables.

* `Reader.step`: what a token does.
* `parse`: the entries of a TOML text.
-/

namespace PlaylistCurator.Toml

/-- The bound on the parts of a key, and on the arrays and inline tables around a value. -/
def maxDepth : Nat := 80

/-- What a value that is being read belongs to. -/
inductive Frame
  /-- A line of the document, with the key of the value. -/
  | line (path : List String) (key : String)
  /-- An array, whose items so far stand latest first. -/
  | array (items : List Toml)
  /-- An inline table with its entries so far, and the key of the value. -/
  | inline (entries : Entries) (path : List String) (key : String)

/-- What a key that is being read is for. -/
inductive Purpose
  /-- A header in single or double brackets. -/
  | header (isDouble : Bool)
  /-- A line of the document. -/
  | line
  /-- A further entry of an inline table. -/
  | inline (entries : Entries) (frames : List Frame)

/-- What a reader is in the middle of. Parts of a key stand latest first. -/
inductive Mode
  /-- A line may begin. -/
  | lineStart
  /-- A line must end. -/
  | lineEnd
  /-- A bracket has begun a header. -/
  | headerStart
  /-- The second of the two brackets at the end of a header must follow. -/
  | headerEnd (path : List String) (key : String)
  /-- A part of a key must follow. -/
  | keyPart (purpose : Purpose) (parts : List String)
  /-- A part of a key is complete, and the parts before it are given. -/
  | keyRest (purpose : Purpose) (parts : List String) (last : String)
  /-- A value must follow. -/
  | value (frames : List Frame)
  /-- A further item or the end of an array must follow. -/
  | item (items : List Toml) (frames : List Frame)
  /-- An item of an array is complete. -/
  | itemEnd (items : List Toml) (frames : List Frame)
  /-- An inline table has been opened. -/
  | inlineStart (frames : List Frame)
  /-- An entry of an inline table is complete. -/
  | entryEnd (entries : Entries) (frames : List Frame)
  /-- A value is being read that is written in a run of characters. -/
  | scalar (run : List Char) (frames : List Frame)
  /-- A date is followed by a space, after which a time may stand. -/
  | dateGap (run : List Char) (frames : List Frame)

/-- A reader part of the way through a document. -/
structure Reader where
  /-- The document so far. -/
  root : Entries
  /-- The path of the table that has been opened last. -/
  here : List String
  /-- What the reader is in the middle of. -/
  mode : Mode

/-- The part of a key that a word or a quoted text is. -/
def keyPart? : Token → Option String
  | .word run =>
    if run.all fun c => c.isAlphanum || c == '_' || c == '-' then some (String.ofList run) else none
  | .text content false => some (String.ofList content)
  | _ => none

namespace Reader

/-- The reader at the start of a text. -/
def start : Reader := ⟨[], [], .lineStart⟩

/-- The reader with other things to do. -/
def turn (reader : Reader) (mode : Mode) : Option Reader :=
  some { reader with mode }

/-- The reader after a header. -/
def openTable (reader : Reader) (isDouble : Bool) (path : List String) (key : String) :
    Option Reader := do
  let root ←
    if isDouble then reader.root.extend? path key else reader.root.open? path key
  return ⟨root, path ++ [key], .lineEnd⟩

/-- The reader after a value. -/
def close (reader : Reader) (value : Toml) : List Frame → Option Reader
  | [] => none
  | .line path key :: _ => do
    let root ← reader.root.alter .implied (fun _ => Entries.set? path key value) reader.here .header
    return ⟨root, reader.here, .lineEnd⟩
  | .array items :: frames => reader.turn (.itemEnd (value :: items) frames)
  | .inline entries path key :: frames => do
    reader.turn (.entryEnd (← entries.set? path key value) frames)

/-- A token where a part of a key must stand. -/
def stepKey (reader : Reader) (purpose : Purpose) (parts : List String) : Token → Option Reader
  | .blank _ => reader.turn (.keyPart purpose parts)
  | token => do
    let last ← keyPart? token
    if parts.length + 1 < maxDepth then reader.turn (.keyRest purpose parts last) else none

/-- A token after a part of a key. -/
def stepKeyRest (reader : Reader) (purpose : Purpose) (parts : List String) (last : String)
    (token : Token) : Option Reader :=
  match purpose, token with
  | purpose, .blank _ => reader.turn (.keyRest purpose parts last)
  | purpose, .dot => reader.turn (.keyPart purpose (last :: parts))
  | .line, .equals => reader.turn (.value [.line parts.reverse last])
  | .inline entries frames, .equals =>
    reader.turn (.value (.inline entries parts.reverse last :: frames))
  | .header false, .closeBracket => reader.openTable false parts.reverse last
  | .header true, .closeBracket => reader.turn (.headerEnd parts.reverse last)
  | _, _ => none

/-- A token that begins a value. The line itself is one of the frames. -/
def stepValue (reader : Reader) (frames : List Frame) : Token → Option Reader
  | .word run => reader.turn (.scalar run frames)
  | .text content _ => reader.close (.string (String.ofList content)) frames
  | .openBracket => if frames.length < maxDepth then reader.turn (.item [] frames) else none
  | .openBrace => if frames.length < maxDepth then reader.turn (.inlineStart frames) else none
  | _ => none

/-- A token after a complete value. -/
def stepAfter (reader : Reader) (token : Token) : Option Reader :=
  match reader.mode, token with
  | .lineEnd, .blank _ | .itemEnd .., .blank _ | .itemEnd .., .newline | .entryEnd .., .blank _ =>
    some reader
  | .lineEnd, .newline => reader.turn .lineStart
  | .itemEnd items frames, .comma => reader.turn (.item items frames)
  | .itemEnd items frames, .closeBracket => reader.close (.array items.reverse) frames
  | .entryEnd entries frames, .comma => reader.turn (.keyPart (.inline entries frames) [])
  | .entryEnd entries frames, .closeBrace => reader.close (.inline entries) frames
  | _, _ => none

/-- The reader after a value that is written in a run of characters. -/
def closeScalar (reader : Reader) (run : List Char) (frames : List Frame) : Option Reader := do
  reader.close (← ofScalar? run) frames

/-- What a token does to a reader; nothing follows where it cannot stand. -/
def step (reader : Reader) (token : Token) : Option Reader :=
  match reader.mode, token with
  | .lineStart, .blank _ | .lineStart, .newline => some reader
  | .lineStart, .openBracket => reader.turn .headerStart
  | .lineStart, token => reader.stepKey .line [] token
  -- A second bracket right after the first one opens an element of an array of tables.
  | .headerStart, .openBracket => reader.turn (.keyPart (.header true) [])
  | .headerStart, token => reader.stepKey (.header false) [] token
  | .headerEnd path key, .closeBracket => reader.openTable true path key
  | .headerEnd .., _ => none
  | .keyPart purpose parts, token => reader.stepKey purpose parts token
  | .keyRest purpose parts last, token => reader.stepKeyRest purpose parts last token
  | .value _, .blank _ => some reader
  | .value frames, token => reader.stepValue frames token
  | .item .., .blank _ | .item .., .newline => some reader
  | .item items frames, .closeBracket => reader.close (.array items.reverse) frames
  | .item items frames, token => reader.stepValue (.array items :: frames) token
  | .inlineStart _, .blank _ => some reader
  | .inlineStart frames, .closeBrace => reader.close (.inline []) frames
  | .inlineStart frames, token => reader.stepKey (.inline [] frames) [] token
  | .scalar run frames, .word more => reader.turn (.scalar (run ++ more) frames)
  | .scalar run frames, .dot => reader.turn (.scalar (run ++ ['.']) frames)
  | .scalar run frames, token =>
    -- A time may follow a date after a space.
    if token = .blank ' ' ∧ isDate run then reader.turn (.dateGap run frames)
    else (reader.closeScalar run frames).bind (·.stepAfter token)
  | .dateGap run frames, token =>
    match token with
    | .word (c :: more) =>
      if c.isDigit then reader.turn (.scalar (run ++ ' ' :: c :: more) frames) else none
    | token => (reader.closeScalar run frames).bind (·.stepAfter token)
  | .lineEnd, token | .itemEnd .., token | .entryEnd .., token => reader.stepAfter token

/-- The entries of the document, if the text ends here. -/
def finish (reader : Reader) : Option Entries :=
  match reader.mode with
  | .lineStart | .lineEnd => some reader.root
  | .scalar run frames | .dateGap run frames =>
    match reader.closeScalar run frames with
    | some ⟨root, _, .lineEnd⟩ => some root
    | _ => none
  | _ => none

/-- Reads tokens from a state of the reader. -/
def read (reader : Reader) (tokens : List Token) : Option Reader :=
  tokens.foldlM step reader

end Reader

/-- The entries of a list of tokens. -/
def ofTokens? (tokens : List Token) : Option Entries :=
  (Reader.start.read tokens).bind Reader.finish

/-- The text without a byte order mark at its start. -/
def withoutMark : List Char → List Char
  | '\uFEFF' :: rest => rest
  | text => text

/-- The entries of a TOML text, which may begin with a byte order mark. -/
def parse (text : String) : Option Entries :=
  (tokenize (withoutMark text.toList)).bind ofTokens?

end PlaylistCurator.Toml
