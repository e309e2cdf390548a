/-!
# Quoted identifiers

An identifier stands between double quotes, and a quote inside it is written twice.
-/

namespace DualQuery.Sql

/-- The characters of an identifier between its quotes. -/
def doubleQuotes : List Char → List Char
  | [] => []
  | c :: cs => if c = '"' then '"' :: '"' :: doubleQuotes cs else c :: doubleQuotes cs

/-- An identifier between quotes. -/
def identifier (name : String) : String :=
  String.ofList ('"' :: doubleQuotes name.toList ++ ['"'])

end DualQuery.Sql
