import PlaylistCurator.Query.Field
import PlaylistCurator.Query.Operator

/-!
# Refused filter and sort expressions

Why a clause of an expression is refused, and the text that says so. Both kinds of error name the
refused clause.
-/

namespace PlaylistCurator

/-- Why a clause of a filter expression is refused. -/
inductive FilterFault
  /-- The clause has neither two nor three parts. -/
  | partCount (found : Nat)
  /-- The first part names no field. -/
  | unknownField (unknown : UnknownToken)
  /-- The second of three parts names no operator. -/
  | unknownOperator (unknown : UnknownToken)
  /-- A numeric operator is applied to a field of texts. -/
  | textField (operator : Operator) (field : Field)
  /-- The test text of a numeric operator is no signed 64-bit integer. -/
  | notAnInteger (operator : Operator) (value : String)
  deriving DecidableEq, Repr

/-- What a reader is told about a fault. -/
def FilterFault.message : FilterFault → String
  | .partCount found =>
    s!"expected 'field:value' or 'field:operator:value', found {found} token(s)"
  | .unknownField unknown => s!"unknown field: {unknown.message}"
  | .unknownOperator unknown => s!"unknown operator: {unknown.message}"
  | .textField operator field =>
    s!"{operator.label} needs a numeric field; '{field.label}' is text"
  | .notAnInteger operator value => s!"{operator.label} needs an integer value, got '{value}'"

/-- Why an expression is refused. -/
inductive QueryError
  /-- A clause of a filter expression, without the blanks around it, has a fault. -/
  | invalidFilter (clause : String) (fault : FilterFault)
  /-- A clause of a sort expression, without the blanks around it, begins with no known field. -/
  | invalidSort (clause : String) (unknown : UnknownToken)
  deriving DecidableEq, Repr

/-- Why a clause of a sort expression with the given unknown token is refused. -/
def sortFaultMessage (unknown : UnknownToken) : String :=
  s!"unknown field: {unknown.message}"

/-- What a reader is told about a refused expression. -/
def QueryError.message : QueryError → String
  | .invalidFilter clause fault => s!"invalid filter clause '{clause}': {fault.message}"
  | .invalidSort clause unknown => s!"invalid sort clause '{clause}': {sortFaultMessage unknown}"

end PlaylistCurator
