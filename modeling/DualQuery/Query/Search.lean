import DualQuery.Keyed
import DualQuery.Pattern.Like
import DualQuery.Text.Blank

/-!
# Free-text search

A search term is looked for in several fields, each by a strategy of its own; a record is found when
one of them matches. Matching ignores case. A strategy is written as a LIKE pattern for relational
plans and as a regular expression for document pipelines.
-/

namespace DualQuery

/-- How a term is looked for in a field. -/
inductive MatchStrategy where
  /-- The field is the term. -/
  | exact
  /-- The field contains the term. -/
  | contains
  /-- The field starts with the term. -/
  | startsWith
  /-- The field ends with the term. -/
  | endsWith
  /-- The field contains the characters of the term in order. -/
  | fuzzy
  deriving DecidableEq, Repr

instance : Inhabited MatchStrategy := ⟨.contains⟩

namespace MatchStrategy

/-- The name of a strategy. -/
def name : MatchStrategy → String
  | exact => "exact"
  | contains => "contains"
  | startsWith => "startsWith"
  | endsWith => "endsWith"
  | fuzzy => "fuzzy"

/-- All strategies. -/
def all : List MatchStrategy := [exact, contains, startsWith, endsWith, fuzzy]

/-- The strategy of a name. -/
def ofName? (name : String) : Option MatchStrategy := all.find? fun s => s.name = name

/-- The characters of a term that a fuzzy match looks for. -/
def fuzzyChars (term : List Char) : List Char := term.filter fun c => !Text.isBlank c

/-- The LIKE pattern of a term. -/
def likePattern (strategy : MatchStrategy) (term : String) : String :=
  let escaped := Like.escapeChars term.toList
  String.ofList <| match strategy with
    | exact => escaped
    | contains => '%' :: escaped ++ ['%']
    | startsWith => escaped ++ ['%']
    | endsWith => '%' :: escaped
    | fuzzy => '%' :: (fuzzyChars term.toList).flatMap fun c => Like.escapeChars [c] ++ ['%']

/-- The regular expression of a term. -/
def regexPattern (strategy : MatchStrategy) (term : String) : String :=
  let escaped := Regex.escapeChars term.toList
  String.ofList <| match strategy with
    | exact => '^' :: escaped ++ ['$']
    | contains => escaped
    | startsWith => '^' :: escaped
    | endsWith => escaped ++ ['$']
    | fuzzy => ['.', '*'].intercalate ((fuzzyChars term.toList).map fun c => Regex.escapeChars [c])

end MatchStrategy

/-- Strategies by field. A field without one is searched by `contains`. -/
abbrev SearchConfig := Keyed MatchStrategy

/-- What to search for, and where; without fields, the configured ones. -/
structure SearchSpec where
  term : String := ""
  fields : List String := []
  deriving DecidableEq, Repr, Inhabited

/-- A field to search and how. -/
structure SearchMatch where
  field : String
  strategy : MatchStrategy
  deriving DecidableEq, Repr, Inhabited

/-- A search that is ready to be compiled. -/
structure SearchPlan where
  term : String
  fieldMatches : List SearchMatch
  deriving DecidableEq, Repr, Inhabited

namespace SearchPlan

/-- The names of the strategies in use, in the order of their first use. -/
def algorithms (plan : SearchPlan) : List String :=
  (plan.fieldMatches.map (·.strategy.name)).eraseDups

/-- The plan of a search. There is none where the term is blank or no field is searched. -/
def of? (spec : Option SearchSpec) (config : SearchConfig) : Option SearchPlan := do
  let spec ← spec
  let term := Text.trim spec.term
  let fields := if spec.fields.isEmpty then Keyed.keys config else spec.fields
  if term.isEmpty || fields.isEmpty then none
  else return ⟨term, fields.map fun field => ⟨field, (Keyed.get? config field).getD .contains⟩⟩

end SearchPlan

end DualQuery
