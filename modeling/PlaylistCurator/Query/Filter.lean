import PlaylistCurator.Query.Error
import PlaylistCurator.Record

/-!
# Filters

A filter expression is a comma-separated list of clauses `field:value` or `field:operator:value`;
a clause without an operator asks whether the field contains the value. A record passes when it
satisfies every clause, and a record without a clause's field does not satisfy it. An absent or
blank expression holds no clauses.

The clauses of an expression are grouped by field, and records are narrowed down group by group and
clause by clause.

* `FilterSet.parse`: reads an expression.
* `FilterSet.narrow`: the records that pass.
-/

namespace PlaylistCurator

/-- One clause of a filter: what a field is compared with, and how. -/
structure Predicate where
  /-- The field that is looked at. -/
  field : Field
  /-- How it is compared. -/
  operator : Operator
  /-- The test text that it is compared with. -/
  value : String
  deriving DecidableEq, Repr

namespace Predicate

/-- Whether a record satisfies a clause. -/
def accepts (predicate : Predicate) (record : Record) : Bool :=
  match record.get predicate.field with
  | none => false
  | some value => predicate.operator.accepts predicate.value value

/-- The word that is looked up for a part of a clause. -/
def lookupWord (part : List Char) : String :=
  String.ofList (Text.lower part)

/-- The clause for a known field and operator. A numeric operator needs a numeric field and an
integer to compare with. -/
def checked (field : Field) (operator : Operator) (value : List Char) :
    Except FilterFault Predicate :=
  if !operator.isNumeric then .ok ⟨field, operator, String.ofList value⟩
  else if !field.isNumeric then .error (.textField operator field)
  else if (Text.int64? value).isNone then .error (.notAnInteger operator (String.ofList value))
  else .ok ⟨field, operator, String.ofList value⟩

/-- Reads the parts of a clause: a field, an operator if there is one, and a test text. -/
def ofParts (field : List Char) (operator : Option (List Char)) (value : List Char) :
    Except FilterFault Predicate := do
  let field ← (Field.find (lookupWord field)).mapError .unknownField
  let operator ← match operator with
    | none => pure .contains
    | some word => (Operator.find (lookupWord word)).mapError .unknownOperator
  checked field operator value

/-- Reads a clause. Blanks around its parts do not count. -/
def ofClause (clause : List Char) : Except FilterFault Predicate :=
  match (clause.splitOn ':').map Text.trim with
  | [field, value] => ofParts field none value
  | [field, operator, value] => ofParts field (some operator) value
  | parts => .error (.partCount parts.length)

/-- Reads a clause of an expression, naming it where it is refused. -/
def parse (clause : List Char) : Except QueryError Predicate :=
  let clause := Text.trim clause
  (ofClause clause).mapError (.invalidFilter (String.ofList clause))

end Predicate

/-- The clauses of a filter expression, grouped by field. -/
structure FilterSet where
  /-- The fields that have clauses, in the order of `Field.all`, each with its clauses in the order
  in which they were written. -/
  groups : List (Field × List Predicate)
  deriving DecidableEq, Repr

namespace FilterSet

/-- The given clauses, grouped by field. -/
def ofPredicates (predicates : List Predicate) : FilterSet :=
  ⟨Field.all.filterMap fun field =>
    match predicates.filter (·.field = field) with
    | [] => none
    | group => some (field, group)⟩

/-- Reads the clauses of a filter expression in order, up to the first that is refused. -/
def parseClauses (text : List Char) : Except QueryError (List Predicate) :=
  (text.splitOn ',').mapM Predicate.parse

/-- Reads a filter expression. -/
def parse : Option String → Except QueryError FilterSet
  | none => .ok ⟨[]⟩
  | some text =>
    if Text.allBlank text.toList then .ok ⟨[]⟩
    else (parseClauses text.toList).map ofPredicates

/-- The records that are left after each clause of a group in turn. -/
def narrowBy (records : List Record) (predicates : List Predicate) : List Record :=
  predicates.foldl (fun left predicate => left.filter (predicate.accepts ·)) records

/-- The records that satisfy every clause, in their order. -/
def narrow (filters : FilterSet) (records : List Record) : List Record :=
  filters.groups.foldl (fun left group => narrowBy left group.2) records

end FilterSet

/-- The records that pass a filter expression. -/
def filterRecords (records : List Record) (expression : Option String) :
    Except QueryError (List Record) :=
  (FilterSet.parse expression).map (·.narrow records)

/-- Without clauses every record passes. -/
@[simp]
theorem FilterSet.narrow_nil (records : List Record) : FilterSet.narrow ⟨[]⟩ records = records := rfl

/-- An absent expression passes every record. -/
theorem filterRecords_none (records : List Record) : filterRecords records none = .ok records := rfl

end PlaylistCurator
