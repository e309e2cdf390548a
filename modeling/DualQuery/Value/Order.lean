import DualQuery.Value.Basic

/-!
# Equality and order of values

Numbers are equal across kinds: two integral values by their integers, any other pair by the bits of
their doubles. The order compares integral values as integers and any other pair of numbers as
doubles; arrays and objects are ordered lexicographically; values of different brackets are ordered
by bracket, null first.
-/

namespace DualQuery.Value

/-- Equality of two values that are not both arrays and not both objects, as far as numbers go. -/
def equalNumbers (a b : Value) : Bool :=
  match a.integral?, b.integral? with
  | some i, some j => i == j
  | _, _ =>
    match a.double?, b.double? with
    | some x, some y => x == y
    | _, _ => false

mutual
/-- Equality of values. -/
def equal : Value → Value → Bool
  | null, null => true
  | bool a, bool b => a == b
  | string a, string b => a == b
  | array a, array b => equalItems a b
  | object a, object b => equalFields a b
  | a, b => equalNumbers a b

/-- Equality of lists of values, item by item. -/
def equalItems : List Value → List Value → Bool
  | [], [] => true
  | a :: as, b :: bs => equal a b && equalItems as bs
  | _, _ => false

/-- Equality of lists of fields, field by field. -/
def equalFields : List (String × Value) → List (String × Value) → Bool
  | [], [] => true
  | (j, a) :: as, (k, b) :: bs => j == k && equal a b && equalFields as bs
  | _, _ => false
end

instance : BEq Value := ⟨equal⟩

/-- Order of two values by number, or by bracket where one of them is no number. -/
def compareNumbers (a b : Value) : Ordering :=
  match a.integral?, b.integral? with
  | some i, some j => Ord.compare i.toInt j.toInt
  | _, _ =>
    match a.double?, b.double? with
    | some x, some y => x.compare y
    | _, _ => Ord.compare a.bracket b.bracket

mutual
/-- Order of values. -/
def compare : Value → Value → Ordering
  | null, null => .eq
  | null, _ => .lt
  | _, null => .gt
  | bool a, bool b => Ord.compare a b
  | string a, string b => Ord.compare a b
  | array a, array b => compareItems a b
  | object a, object b => compareFields a b
  | a, b => compareNumbers a b

/-- Lexicographic order of lists of values. -/
def compareItems : List Value → List Value → Ordering
  | [], [] => .eq
  | [], _ => .lt
  | _, [] => .gt
  | a :: as, b :: bs => (compare a b).then (compareItems as bs)

/-- Lexicographic order of lists of fields. -/
def compareFields : List (String × Value) → List (String × Value) → Ordering
  | [], [] => .eq
  | [], _ => .lt
  | _, [] => .gt
  | (j, a) :: as, (k, b) :: bs =>
    ((Ord.compare j k).then (compare a b)).then (compareFields as bs)
end

instance : Ord Value := ⟨compare⟩

/-- Whether the first value comes before the second. -/
def before (a b : Value) : Bool := (compare a b).isLT

end DualQuery.Value
