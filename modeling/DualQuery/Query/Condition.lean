import DualQuery.Keyed
import DualQuery.Query.Operator
import DualQuery.Text.Path

/-!
# Conditions and filters

A condition constrains one field, either by a bare value or by a set of operators. Both compilers
work on filters instead: one operator on one field each, in a fixed order. `mergeConditions` puts
the filters of the server in front and drops the caller's conditions on fields the server
constrains.
-/

namespace DualQuery

/-- The operators of a condition with their operands. -/
structure OperatorSet where
  eq : Option Value := none
  ne : Option Value := none
  gt : Option Value := none
  ge : Option Value := none
  lt : Option Value := none
  le : Option Value := none
  oneOf : Option (List Value) := none
  noneOf : Option (List Value) := none
  like : Option String := none
  /-- Whether the field must have a value (`true`) or must have none (`false`). -/
  isPresent : Option Bool := none
  deriving Repr, Inhabited

/-- A condition on a field. -/
inductive Condition where
  | operators (set : OperatorSet)
  /-- A bare value: membership for an array, absence for null, equality otherwise. -/
  | equals (value : Value)
  deriving Repr, Inhabited

/-- Conditions by field. -/
abbrev Conditions := Keyed Condition

/-- One operator on one field. The operand is an array for the two list operators and null for the
two null checks. -/
structure Filter where
  field : String
  operator : Operator
  operand : Value
  deriving Repr, Inhabited

namespace Filter

/-- The first segment of the field. -/
def root (filter : Filter) : String := Text.root filter.field

/-- The items of an operand that is a list. -/
def items (filter : Filter) : List Value :=
  match filter.operand with
  | .array items => items
  | value => [value]

end Filter

/-- The filters of a set of operators. -/
def OperatorSet.filters (field : String) (set : OperatorSet) : List Filter :=
  let single (op : Operator) (operand : Option Value) : List Filter :=
    operand.toList.map fun value => ⟨field, op, value⟩
  single .eq set.eq ++ single .ne set.ne ++ single .gt set.gt ++ single .ge set.ge ++
    single .lt set.lt ++ single .le set.le ++ single .oneOf (set.oneOf.map .array) ++
    single .noneOf (set.noneOf.map .array) ++ single .like (set.like.map .string) ++
    set.isPresent.toList.map fun present =>
      if present then ⟨field, .isNotNull, .null⟩ else ⟨field, .isNull, .null⟩

/-- The filters of a condition. -/
def Condition.filters (field : String) : Condition → List Filter
  | equals (.array items) => [⟨field, .oneOf, .array items⟩]
  | equals .null => [⟨field, .isNull, .null⟩]
  | equals value => [⟨field, .eq, value⟩]
  | operators set => set.filters field

/-- The filters of conditions, in the order of their fields. -/
def Conditions.filters (conditions : Conditions) : List Filter :=
  conditions.flatMap fun (field, condition) => condition.filters field

/-- The filters of the server's conditions followed by those of the caller's conditions on other
fields. -/
def mergeConditions (server caller : Conditions) : List Filter :=
  Conditions.filters server ++
    Conditions.filters (caller.filter fun (field, _) => !Keyed.contains server field)

end DualQuery
