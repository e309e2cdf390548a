import DualQuery.Value.Order
import DualQuery.Pattern.Like

/-!
# Filter operators

`Operator.holds` decides one comparison. Null matches nothing but the two null checks and exclusion
from an empty list, and the four range operators hold only between values of one bracket.
-/

namespace DualQuery

/-- A comparison of a field's value with an operand. -/
inductive Operator where
  | eq
  | ne
  | lt
  | le
  | gt
  | ge
  /-- The value is in the operand, an array. -/
  | oneOf
  /-- The value is not in the operand, an array. -/
  | noneOf
  /-- The value is a string that matches the operand, a LIKE pattern. -/
  | like
  | isNull
  | isNotNull
  deriving DecidableEq, Repr, Inhabited

/-- The name of an operator. -/
def Operator.name : Operator → String
  | eq => "Eq"
  | ne => "NotEq"
  | lt => "Lt"
  | le => "LtEq"
  | gt => "Gt"
  | ge => "GtEq"
  | oneOf => "In"
  | noneOf => "NotIn"
  | like => "Like"
  | isNull => "IsNull"
  | isNotNull => "IsNotNull"

/-- All operators. -/
def Operator.all : List Operator :=
  [eq, ne, lt, le, gt, ge, oneOf, noneOf, like, isNull, isNotNull]

/-- The operator of a name. -/
def Operator.ofName? (name : String) : Option Operator := all.find? fun op => op.name = name

/-- The spelling in SQL. -/
def Operator.sql : Operator → String
  | eq => "="
  | ne => "<>"
  | lt => "<"
  | le => "<="
  | gt => ">"
  | ge => ">="
  | oneOf => "IN"
  | noneOf => "NOT IN"
  | like => "LIKE"
  | isNull => "IS NULL"
  | isNotNull => "IS NOT NULL"

/-- The spelling in the query language of document stores. -/
def Operator.documentName : Operator → String
  | eq => "$eq"
  | ne => "$ne"
  | lt => "$lt"
  | le => "$lte"
  | gt => "$gt"
  | ge => "$gte"
  | oneOf => "$in"
  | noneOf => "$nin"
  | like => "$regex"
  | isNull | isNotNull => "$exists"

namespace Value

/-- Whether a string holds a match of a written regular expression. What is no string, and any
expression that cannot be read, does not match. -/
def matchesRegex (value : Value) (pattern : String) (ignoreCase : Bool) : Bool :=
  match value.string?, Regex.parse? ignoreCase pattern with
  | some text, some regex => regex.accepts text.toList
  | _, _ => false

/-- Whether a value is a string that matches a LIKE pattern as a whole. -/
def matchesLike (value : Value) (pattern : String) (ignoreCase : Bool) : Bool :=
  value.matchesRegex (Like.toRegex pattern) ignoreCase

/-- Whether a value equals one of the items of a list. -/
def isAmong (value : Value) (items : List Value) : Bool := items.any (· == value)

end Value

/-- Whether a value compares to an operand as the operator says. -/
def Operator.holds (op : Operator) (left right : Value) : Bool :=
  match op with
  | isNull => left.isNull
  | isNotNull => !left.isNull
  | noneOf =>
    match right with
    -- an empty list rules nothing out, null included
    | .array items => items.isEmpty || (!left.isNull && !left.isAmong items)
    | _ => false
  | eq => !left.isNull && left == right
  | ne => !left.isNull && !right.isNull && left != right
  | lt => !left.isNull && left.sameBracket right && (left.compare right).isLT
  | le => !left.isNull && left.sameBracket right && (left.compare right).isLE
  | gt => !left.isNull && left.sameBracket right && (left.compare right).isGT
  | ge => !left.isNull && left.sameBracket right && (left.compare right).isGE
  | oneOf =>
    match right with
    | .array items => !left.isNull && left.isAmong items
    | _ => false
  | like =>
    match right with
    | .string pattern => left.matchesLike pattern false
    | _ => false

end DualQuery
