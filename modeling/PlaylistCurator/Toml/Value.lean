/-!
# TOML values

A TOML document as a value, and how its tables grow while the document is read. A table can be
opened by a header, be implied by the header of a table inside it, or be named by a dotted key.
What may still be added to it depends on which of these it was:

* a header may open a table that is missing or only implied, once;
* a dotted key may go on from tables that are missing, implied or named by dotted keys, and may set
  a value in those named by dotted keys alone;
* a double-bracketed header adds an element to an array that such headers have made.

Numbers with a fraction and dates keep their written form.
-/

namespace PlaylistCurator

/-- How a table has come about. -/
inductive Toml.Origin
  | header
  | implied
  | dotted
  deriving DecidableEq, Repr

/-- A TOML value. -/
inductive Toml
  | string (text : String)
  | integer (value : Int)
  | float (literal : List Char)
  | boolean (value : Bool)
  | dateTime (literal : List Char)
  | array (items : List Toml)
  /-- A table that is written as a value, to which nothing can be added. -/
  | inline (entries : List (String × Toml))
  /-- A table of the document. -/
  | table (origin : Toml.Origin) (entries : List (String × Toml))
  /-- An array of tables of the document; the latest is the last one, and the earlier ones stand
  latest first. -/
  | tables (earlier : List (List (String × Toml))) (latest : List (String × Toml))

namespace Toml

/-- The keys of a table with their values, each key once. -/
abbrev Entries : Type := List (String × Toml)

/-- The entries of a table, however it is written. -/
def entries? : Toml → Option Entries
  | .inline entries | .table _ entries => some entries
  | _ => none

/-- The items of an array, however it is written. -/
def items? : Toml → Option (List Toml)
  | .array items => some items
  | .tables earlier latest => some ((latest :: earlier).reverse.map (.table .header))
  | _ => none

namespace Entries

/-- The value of a key. -/
def get? (entries : Entries) (key : String) : Option Toml :=
  entries.lookup key

/-- The entries with another value for a key. -/
def put (key : String) (value : Toml) : Entries → Entries
  | [] => [(key, value)]
  | entry :: rest =>
    if entry.1 = key then (key, value) :: rest else entry :: put key value rest

/-- Changes the table that a path leads to from a table of the given origin. Tables missing on the
way are made with the origin `made`; dotted keys do not pass tables opened by a header. In an array
of tables the path goes on from the latest. -/
def alter (made : Origin) (change : Origin → Entries → Option Entries) :
    (path : List String) → (origin : Origin) → Entries → Option Entries
  | [], origin, entries => change origin entries
  | key :: path, _, entries =>
    match entries.get? key with
    | none => (alter made change path made []).map fun inner => entries.put key (.table made inner)
    | some (.table origin inner) =>
      if made = .dotted ∧ origin = .header then none
      else (alter made change path origin inner).map fun inner =>
        entries.put key (.table origin inner)
    | some (.tables earlier latest) =>
      (alter made change path .header latest).map fun latest =>
        entries.put key (.tables earlier latest)
    | some _ => none

/-- Sets the value of a dotted key, given by the parts before the last one and the last one. -/
def set? (path : List String) (key : String) (value : Toml) (entries : Entries) :
    Option Entries :=
  alter .dotted (fun origin entries =>
    if (!path.isEmpty && origin != .dotted) || (entries.get? key).isSome then none
    else some (entries.put key value)) path .header entries

/-- Opens the table of a header. -/
def open? (path : List String) (key : String) (entries : Entries) : Option Entries :=
  alter .implied (fun _ entries =>
    match entries.get? key with
    | none => some (entries.put key (.table .header []))
    | some (.table .implied inner) => some (entries.put key (.table .header inner))
    | some _ => none) path .header entries

/-- Opens another element of the array of a double-bracketed header. -/
def extend? (path : List String) (key : String) (entries : Entries) : Option Entries :=
  alter .implied (fun _ entries =>
    match entries.get? key with
    | none => some (entries.put key (.tables [] []))
    | some (.tables earlier latest) => some (entries.put key (.tables (latest :: earlier) []))
    | some _ => none) path .header entries

end Entries

end Toml

end PlaylistCurator
