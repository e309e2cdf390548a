import DualQuery.Pattern.Reader

/-!
# LIKE patterns

In a LIKE pattern `%` stands for any text, `_` for one character and a backslash makes the next
character literal. A pattern is matched by way of an anchored regular expression.
-/

namespace DualQuery.Like

/-- Write a text so that it stands for itself in a LIKE pattern. -/
def escapeChars (cs : List Char) : List Char :=
  cs.flatMap fun c => if c = '%' ∨ c = '_' ∨ c = '\\' then ['\\', c] else [c]

/-- The parts of the regular expression of a pattern. A final backslash stands for nothing. -/
def regexChars : List Char → List Char
  | [] => []
  | '\\' :: [] => []
  | '\\' :: c :: cs => Regex.escapeChars [c] ++ regexChars cs
  | '%' :: cs => '.' :: '*' :: regexChars cs
  | '_' :: cs => '.' :: regexChars cs
  | c :: cs => Regex.escapeChars [c] ++ regexChars cs

/-- The anchored regular expression of a pattern. -/
def toRegex (pattern : String) : String :=
  String.ofList ('^' :: regexChars pattern.toList ++ ['$'])

end DualQuery.Like
