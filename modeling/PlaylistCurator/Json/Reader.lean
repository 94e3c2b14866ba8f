import PlaylistCurator.Json.Token

/-!
# Reading JSON

A JSON value is built from its tokens by a fold, like the tokens from the characters. The reader
keeps the lists and objects that are open around it, innermost first.

* `Reader.step`: what a token does.
* `parse`: the value of a JSON text.
-/

namespace PlaylistCurator.Json

/-- A list or an object that is not closed yet; what it holds so far stands latest first. -/
inductive Frame
  | array (items : List Json)
  /-- An object with the key of the member whose value is being read. -/
  | object (members : List (List StringUnit × Json)) (key : List StringUnit)

/-- A reader part of the way through a value, in the frames that are open. -/
inductive Reader
  /-- A value must follow. -/
  | atValue (frames : List Frame)
  /-- A list has been opened: its first value or its end must follow. -/
  | atListStart (frames : List Frame)
  /-- An object has been opened: its first key or its end must follow. -/
  | atObjectStart (frames : List Frame)
  /-- A further key of an object must follow. -/
  | atKey (members : List (List StringUnit × Json)) (frames : List Frame)
  /-- A key of an object has been read, and a colon must follow. -/
  | atColon (members : List (List StringUnit × Json)) (key : List StringUnit) (frames : List Frame)
  /-- A value is complete. -/
  | done (value : Json) (frames : List Frame)

namespace Reader

/-- The reader at the start of a text. -/
def start : Reader := .atValue []

/-- A token where a value must stand. -/
def stepValue (frames : List Frame) : Token → Option Reader
  | .null => some (.done .null frames)
  | .bool value => some (.done (.bool value) frames)
  | .number literal => some (.done (.number literal) frames)
  | .string units => some (.done (.string units) frames)
  | .openArray => some (.atListStart frames)
  | .openObject => some (.atObjectStart frames)
  | .closeArray | .closeObject | .comma | .colon => none

/-- A token after a complete value. -/
def stepDone (value : Json) : List Frame → Token → Option Reader
  | .array items :: frames, .comma => some (.atValue (.array (value :: items) :: frames))
  | .array items :: frames, .closeArray =>
    some (.done (.array (value :: items).reverse) frames)
  | .object members key :: frames, .comma => some (.atKey ((key, value) :: members) frames)
  | .object members key :: frames, .closeObject =>
    some (.done (.object ((key, value) :: members).reverse) frames)
  | _, _ => none

/-- What a token does to a reader; nothing follows where it cannot stand. -/
def step : Reader → Token → Option Reader
  | .atValue frames, token => stepValue frames token
  | .atListStart frames, .closeArray => some (.done (.array []) frames)
  | .atListStart frames, token => stepValue (.array [] :: frames) token
  | .atObjectStart frames, .closeObject => some (.done (.object []) frames)
  | .atObjectStart frames, .string key => some (.atColon [] key frames)
  | .atKey members frames, .string key => some (.atColon members key frames)
  | .atColon members key frames, .colon => some (.atValue (.object members key :: frames))
  | .done value frames, token => stepDone value frames token
  | _, _ => none

/-- The value that has been read, if the text ends here. -/
def finish : Reader → Option Json
  | .done value [] => some value
  | _ => none

/-- Reads tokens from a state of the reader. -/
def read (reader : Reader) (tokens : List Token) : Option Reader :=
  tokens.foldlM step reader

/-- Reading goes on where it stopped. -/
theorem read_append (reader : Reader) (tokens more : List Token) :
    reader.read (tokens ++ more) = (reader.read tokens).bind fun next => next.read more := by
  simp only [read, List.foldlM_append]
  rfl

end Reader

/-- The value of a list of tokens. -/
def ofTokens? (tokens : List Token) : Option Json :=
  (Reader.start.read tokens).bind Reader.finish

/-- The value of a JSON text. -/
def parse (text : String) : Option Json :=
  (tokenize text.toList).bind ofTokens?

end PlaylistCurator.Json
