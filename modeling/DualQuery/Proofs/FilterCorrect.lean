import DualQuery.Document.Compile
import DualQuery.Document.Evaluate
import DualQuery.Proofs.RecordPath
import DualQuery.Relational.Compile
import DualQuery.Relational.Evaluate

/-!
# Filters and what they are compiled to

`Filter.accepts` is what a filter says of a record. A filter becomes a predicate over numbered
parameters in a relational plan and a condition with its operand in a pipeline; both hold of exactly
the records that the filter accepts.

## Key results

- `Filter.holds_toMatch`: the condition of a filter
- `Relational.all_filterPredicates`: the predicates of filters, wherever their parameters start
- `Relational.path_columnOf`: a column leads to the field it was made of
- `Document.runAll_filterStage`: the stage of several conditions
-/

namespace DualQuery

namespace Filter

/-- Whether a record meets a filter. -/
def accepts (filter : Filter) (row : Record) : Bool :=
  filter.operator.holds (Record.valueAt row filter.field) filter.operand

/-- The operand is of the kind that the operator takes. -/
def HasOperand (filter : Filter) : Prop :=
  match filter.operator with
  | .oneOf | .noneOf => ∃ items, filter.operand = .array items
  | .like => ∃ pattern, filter.operand = .string pattern
  | _ => True

/-- A filter sees one field of a record. -/
theorem accepts_congr (filter : Filter) {a b : Record}
    (h : Keyed.get? a filter.root = Keyed.get? b filter.root) :
    filter.accepts a = filter.accepts b := by
  rw [accepts, accepts, Record.valueAt_congr h]

end Filter

/-! ## The filters of conditions -/

/-- The filters of a set of operators are on its field and have their operands. -/
theorem OperatorSet.mem_filters {set : OperatorSet} {field : String} {filter : Filter}
    (h : filter ∈ set.filters field) : filter.field = field ∧ filter.HasOperand := by
  simp only [OperatorSet.filters, List.mem_append, List.mem_map, Option.mem_toList,
    Option.map_eq_some_iff] at h
  -- one case for each operator with an operand, and the null checks in the end
  rcases h with ((((((((h | h) | h) | h) | h) | h) | h) | h) | h) | ⟨present, -, rfl⟩
  case inr => cases present <;> exact ⟨rfl, trivial⟩
  all_goals
    obtain ⟨value, hvalue, rfl⟩ := h
    refine ⟨rfl, ?_⟩
    first
      | exact trivial
      | obtain ⟨operand, -, rfl⟩ := hvalue
        exact ⟨operand, rfl⟩

/-- So are those of a condition. -/
theorem Condition.mem_filters {condition : Condition} {field : String} {filter : Filter}
    (h : filter ∈ condition.filters field) : filter.field = field ∧ filter.HasOperand := by
  cases condition with
  | operators set => exact OperatorSet.mem_filters h
  | equals value =>
    cases value <;> simp only [Condition.filters, List.mem_singleton] at h <;> subst h
    case array items => exact ⟨rfl, items, rfl⟩
    all_goals exact ⟨rfl, trivial⟩

/-- Each filter of conditions comes from the condition of its field. -/
theorem Conditions.mem_filters {conditions : Conditions} {filter : Filter}
    (h : filter ∈ Conditions.filters conditions) :
    (∃ condition, (filter.field, condition) ∈ conditions) ∧ filter.HasOperand := by
  simp only [Conditions.filters, List.mem_flatMap, Prod.exists] at h
  obtain ⟨field, condition, hmem, hfilter⟩ := h
  obtain ⟨rfl, hoperand⟩ := Condition.mem_filters hfilter
  exact ⟨⟨condition, hmem⟩, hoperand⟩

/-- A filter of merged conditions is the server's or the caller's. -/
theorem mem_mergeConditions {server caller : Conditions} {filter : Filter}
    (h : filter ∈ mergeConditions server caller) :
    filter ∈ Conditions.filters server ∨ filter ∈ Conditions.filters caller := by
  rcases List.mem_append.1 h with h | h
  · exact .inl h
  · simp only [Conditions.filters, List.mem_flatMap] at h ⊢
    obtain ⟨entry, hmem, hfilter⟩ := h
    exact .inr ⟨entry, (List.mem_filter.1 hmem).1, hfilter⟩

/-- Merged conditions have filters with their operands. -/
theorem hasOperand_of_mem_mergeConditions {server caller : Conditions} {filter : Filter}
    (h : filter ∈ mergeConditions server caller) : filter.HasOperand := by
  rcases mem_mergeConditions h with h | h <;> exact (Conditions.mem_filters h).2

/-- So have the conditions of an aggregate. -/
theorem AggregationSpec.hasOperand_of_mem_filters {spec : AggregationSpec} {filter : Filter}
    (h : filter ∈ spec.filters) : filter.HasOperand := by
  unfold AggregationSpec.filters at h
  split at h
  · exact (Conditions.mem_filters h).2
  · cases h

/-! ## Conditions on documents -/

namespace Document

/-- Conditions hold all if each of them does. -/
theorem Match.allHold_eq (row : Record) (conditions : List Match) :
    Match.allHold row conditions = conditions.all fun condition => condition.holds row := by
  induction conditions with
  | nil => rfl
  | cons condition conditions ih => rw [Match.allHold, ih, List.all_cons]

/-- A conjunction of conditions, if there are any, holds if each of them does. -/
theorem holds_conjunction? (conditions : List Match) :
    ((conjunction? conditions).map fun condition row => condition.holds row) =
      if conditions.isEmpty then none
      else some fun row => conditions.all fun condition => condition.holds row := by
  unfold conjunction?
  split
  · rfl
  · simp
  next h₁ h₂ =>
    cases conditions with
    | nil => exact absurd rfl h₁
    | cons condition conditions =>
      simp only [Option.map_some, List.isEmpty_cons]
      congr 1
      funext row
      rw [Match.holds, Match.allHold_eq]

/-- The stage of several conditions keeps the documents that meet all of them. -/
theorem runAll_filterStage [Hashing] (store : Store) (rows : List Record)
    (conditions : List Match) :
    Stage.runAll store rows (filterStage conditions) =
      .ok (rows.filter fun row => conditions.all fun condition => condition.holds row) := by
  unfold filterStage conjunction?
  split
  · simp [Stage.runAll, List.filter_eq_self.2]
  · simp [Stage.runAll, Stage.run, bind, Except.bind]
  · simp [Stage.runAll, Stage.run, Match.holds, Match.allHold_eq, bind, Except.bind]

end Document

open Document in
/-- The condition that a filter becomes holds of the documents that the filter accepts. -/
theorem Filter.holds_toMatch {filter : Filter} (h : filter.HasOperand) (row : Record) :
    filter.toMatch.holds row = filter.accepts row := by
  obtain ⟨field, operator, operand⟩ := filter
  cases operator
  case oneOf =>
    obtain ⟨items, rfl⟩ := h
    rfl
  case noneOf =>
    obtain ⟨items, rfl⟩ := h
    rfl
  case like =>
    obtain ⟨pattern, rfl⟩ := h
    rfl
  all_goals rfl

open Document in
/-- The conditions of filters hold of the documents that all filters accept. -/
theorem all_map_toMatch {filters : List Filter} (h : ∀ filter ∈ filters, filter.HasOperand)
    (row : Record) :
    ((filters.map Filter.toMatch).all fun condition => condition.holds row) =
      filters.all fun filter => filter.accepts row := by
  induction filters with
  | nil => rfl
  | cons filter filters ih =>
    rw [List.forall_mem_cons] at h
    rw [List.map_cons, List.all_cons, List.all_cons, Filter.holds_toMatch h.1, ih h.2]

/-! ## Predicates on rows -/

namespace Relational

/-- A column leads to the field it was made of. -/
theorem path_columnOf {entity : String} {aliases : List String} (h : entity ∉ aliases)
    (field : String) : (columnOf entity aliases field).path entity = field := by
  unfold columnOf
  split
  next hleads =>
    rw [Text.leadsFrom, Bool.and_eq_true, List.contains_iff_mem] at hleads
    -- the qualifier is the first segment, and the name is what stands behind its dot
    have hroot : Text.root field ≠ entity := fun heq => h (heq ▸ hleads.2)
    have hdot : '.' ∈ field.toList := by simpa [Text.isDotted] using hleads.1
    have htext := Text.takeWhile_append_drop hdot
    rw [Column.path, Column.qualified]
    simp only [if_neg hroot]
    rw [← String.toList_inj]
    simpa [Text.root] using htext
  · rw [Column.path, Column.qualified]
    simp

/-- Predicates hold all if each of them does. -/
theorem allHold_eq (params : List Value) (value : Column → Value) (predicates : List Predicate) :
    Predicate.allHold params value predicates =
      predicates.all fun predicate => predicate.holds params value := by
  induction predicates with
  | nil => rfl
  | cons predicate predicates ih => rw [Predicate.allHold, ih, List.all_cons]

/-- A conjunction of predicates, if there are any, holds if each of them does. -/
theorem holds_conjunction? (params : List Value) (value : Record → Column → Value)
    (predicates : List Predicate) :
    ((conjunction? predicates).map fun predicate row => predicate.holds params (value row)) =
      if predicates.isEmpty then none
      else some fun row => predicates.all fun predicate => predicate.holds params (value row) := by
  unfold conjunction?
  split
  · rfl
  · simp
  next h₁ h₂ =>
    cases predicates with
    | nil => exact absurd rfl h₁
    | cons predicate predicates =>
      simp only [Option.map_some, List.isEmpty_cons]
      congr 1
      funext row
      rw [Predicate.holds, allHold_eq]

/-- The first of the parameters from a position on stands at the position. -/
theorem param_of_drop {params rest : List Value} {start : Nat} {v : Value}
    (h : params.drop start = v :: rest) : params[start]?.getD .null = v := by
  have hhead := congrArg List.head? h
  rw [List.head?_drop] at hhead
  rw [hhead]
  rfl

/-- The parameters at the positions of a list are the list. -/
theorem any_params {params items rest : List Value} {start : Nat}
    (h : params.drop start = items ++ rest) (p : Value → Bool) :
    (((List.range items.length).map (start + ·)).any fun param => p (params[param]?.getD .null)) =
      items.any p := by
  -- the parameters from `start` on are the items
  have hitems : ((List.range items.length).map (start + ·)).map
      (fun param => params[param]?.getD .null) = items := by
    refine List.ext_getElem (by simp) fun i hi hi' => ?_
    have hget : params[start + i]? = some items[i] := by
      rw [← List.getElem?_drop, h, List.getElem?_append_left hi', List.getElem?_eq_getElem hi']
    simp [hget]
  conv => rhs; rw [← hitems]
  simp only [List.any_map, Function.comp_def]

/-- The predicate of a filter whose parameters start at a position holds where the filter's
operator does. -/
theorem holds_filterPredicate (resolve : String → Column) {params rest : List Value} {start : Nat}
    {filter : Filter} (hoperand : filter.HasOperand)
    (h : params.drop start = filterParams filter ++ rest) (value : Column → Value) :
    (filterPredicate resolve start filter).holds params value =
      filter.operator.holds (value (resolve filter.field)) filter.operand := by
  obtain ⟨field, operator, operand⟩ := filter
  cases operator
  case isNull => simp [filterPredicate, Predicate.holds, Operator.holds]
  case isNotNull => simp [filterPredicate, Predicate.holds, Operator.holds]
  -- the operands of a list are the parameters from its position on, one for each item
  case oneOf =>
    obtain ⟨items, rfl⟩ := hoperand
    have hfound := any_params h (· == value (resolve field))
    simp only [filterPredicate, filterParams, Filter.items, Predicate.holds, Operator.holds,
      Value.isAmong] at hfound ⊢
    rw [hfound]
    cases (value (resolve field)).isNull <;> simp
  case noneOf =>
    obtain ⟨items, rfl⟩ := hoperand
    have hfound := any_params h (· == value (resolve field))
    simp only [filterPredicate, filterParams, Filter.items, Predicate.holds, Operator.holds,
      Value.isAmong] at hfound ⊢
    rw [hfound]
    cases items <;> cases (value (resolve field)).isNull <;> simp
  case like =>
    obtain ⟨pattern, rfl⟩ := hoperand
    simp only [filterPredicate, Predicate.holds, Operator.holds, param_of_drop h]
  -- every other operator compares with one parameter
  all_goals rw [filterPredicate, Predicate.holds, param_of_drop h]

/-- Several filters, with their parameters one after the other. -/
theorem all_filterPredicates (resolve : String → Column) {params rest : List Value} {start : Nat}
    {filters : List Filter} (hoperand : ∀ filter ∈ filters, filter.HasOperand)
    (h : params.drop start = filters.flatMap filterParams ++ rest) (value : Column → Value) :
    ((filterPredicates resolve start filters).all fun predicate => predicate.holds params value) =
      filters.all fun filter =>
        filter.operator.holds (value (resolve filter.field)) filter.operand := by
  induction filters generalizing start with
  | nil => rfl
  | cons filter filters ih =>
    rw [List.forall_mem_cons] at hoperand
    rw [List.flatMap_cons, List.append_assoc] at h
    -- the parameters of the other filters stand behind those of the first
    have hrest : params.drop (start + (filterParams filter).length) =
        filters.flatMap filterParams ++ rest := by
      rw [← List.drop_drop, h, List.drop_left]
    rw [filterPredicates, List.all_cons, List.all_cons,
      holds_filterPredicate resolve hoperand.1 h, ih hoperand.2 hrest]

end Relational

end DualQuery
