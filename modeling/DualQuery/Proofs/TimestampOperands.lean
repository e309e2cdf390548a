import DualQuery.Proofs.CompiledPipelines

/-!
# Timestamps as operands

A timestamp is compared as the integer it is written as. Writing integers for the timestamps in the
operands of a query, at any depth, therefore changes nothing of the documents that it finds, groups
and aggregates.

## Key results

- `Operator.holds_untimed`: one comparison
- `Filter.accepts_untimed`: one filter
- `Descriptor.filteredDocuments_untimed`, `Descriptor.shaped_untimed`: what pipelines are made of
-/

namespace DualQuery

open Document

/-! ## Values -/

namespace Value

mutual
/-- A value with integers for its timestamps. -/
def untimed : Value → Value
  | timestamp t => int t
  | array items => array (untimedItems items)
  | object fields => object (untimedFields fields)
  | null => null
  | bool b => bool b
  | int i => int i
  | float x => float x
  | string s => string s

/-- `untimed` on every item. -/
def untimedItems : List Value → List Value
  | [] => []
  | item :: items => untimed item :: untimedItems items

/-- `untimed` on the value of every field. -/
def untimedFields : List (String × Value) → List (String × Value)
  | [] => []
  | (key, value) :: fields => (key, untimed value) :: untimedFields fields
end

/-- Items are rewritten one by one. -/
theorem untimedItems_eq_map (items : List Value) : untimedItems items = items.map untimed := by
  induction items with
  | nil => rfl
  | cons item items ih => rw [untimedItems, ih, List.map_cons]

/-- Fields keep their names. -/
theorem untimedFields_eq_map (fields : List (String × Value)) :
    untimedFields fields = fields.map fun field => (field.1, field.2.untimed) := by
  induction fields with
  | nil => rfl
  | cons field fields ih => rw [untimedFields, ih, List.map_cons]

/-- A timestamp is not null, and neither is the integer. -/
@[simp] theorem isNull_untimed (v : Value) : v.untimed.isNull = v.isNull := by
  cases v <;> rfl

/-- Timestamps and integers are in one bracket. -/
@[simp] theorem bracket_untimed (v : Value) : v.untimed.bracket = v.bracket := by
  cases v <;> rfl

/-- A timestamp counts as its integer already. -/
@[simp] theorem integral?_untimed (v : Value) : v.untimed.integral? = v.integral? := by
  cases v <;> rfl

/-- Rounding a timestamp rounds its integer. -/
@[simp] theorem double?_untimed (v : Value) : v.untimed.double? = v.double? := by
  cases v <;> rfl

/-- Brackets are compared alike. -/
@[simp] theorem sameBracket_untimed (a b : Value) : a.sameBracket b.untimed = a.sameBracket b := by
  rw [sameBracket, sameBracket, bracket_untimed]

/-- Numbers are equal to an operand as they are to its integer. -/
theorem equalNumbers_untimed (a b : Value) : equalNumbers a b.untimed = equalNumbers a b := by
  simp only [equalNumbers, integral?_untimed, double?_untimed]

/-- Numbers are compared to an operand as they are to its integer. -/
theorem compareNumbers_untimed (a b : Value) : compareNumbers a b.untimed = compareNumbers a b := by
  simp only [compareNumbers, integral?_untimed, double?_untimed, bracket_untimed]

-- only the right operand changes: it is the one that a condition brings, the left one is stored
mutual
/-- Values are equal to an operand as they are to it with integers for its timestamps. -/
theorem equal_untimed : (a b : Value) → equal a b.untimed = equal a b
  | .array as, .array bs => by
    rw [untimed, equal, equal, equalItems_untimed as bs]
  | .object as, .object bs => by
    rw [untimed, equal, equal, equalFields_untimed as bs]
  | .null, b | .bool _, b | .string _, b | .int _, b | .float _, b | .timestamp _, b => by
    have hnumbers := fun a => equalNumbers_untimed a b
    cases b <;> simp only [untimed, equal] at hnumbers ⊢ <;> exact hnumbers _
  | .array _, .null | .array _, .bool _ | .array _, .int _ | .array _, .float _
  | .array _, .string _ | .array _, .timestamp _ | .array _, .object _ => by
    simp [untimed, equal, equalNumbers, integral?, double?]
  | .object _, .null | .object _, .bool _ | .object _, .int _ | .object _, .float _
  | .object _, .string _ | .object _, .timestamp _ | .object _, .array _ => by
    simp [untimed, equal, equalNumbers, integral?, double?]

/-- So are the items of an array. -/
theorem equalItems_untimed : (as bs : List Value) →
    equalItems as (untimedItems bs) = equalItems as bs
  | [], [] | [], _ :: _ | _ :: _, [] => rfl
  | a :: as, b :: bs => by
    rw [untimedItems, equalItems, equalItems, equal_untimed a b, equalItems_untimed as bs]

/-- And so are the fields of an object. -/
theorem equalFields_untimed : (as bs : List (String × Value)) →
    equalFields as (untimedFields bs) = equalFields as bs
  | [], [] | [], _ :: _ | _ :: _, [] => rfl
  | (j, a) :: as, (k, b) :: bs => by
    rw [untimedFields, equalFields, equalFields, equal_untimed a b, equalFields_untimed as bs]
end

/-- It does not matter which of two numbers comes first. -/
theorem equalNumbers_comm (a b : Value) : equalNumbers a b = equalNumbers b a := by
  unfold equalNumbers
  cases a.integral? <;> cases b.integral? <;> cases a.double? <;> cases b.double? <;>
    simp only [Bool.beq_comm]

mutual
/-- Equality of values is symmetric. -/
theorem equal_comm : (a b : Value) → equal a b = equal b a
  | .array as, .array bs => by
    rw [equal, equal, equalItems_comm as bs]
  | .object as, .object bs => by
    rw [equal, equal, equalFields_comm as bs]
  | .null, b | .bool _, b | .string _, b | .int _, b | .float _, b | .timestamp _, b => by
    have hnumbers := fun a => equalNumbers_comm a b
    cases b <;> simp only [equal, Bool.beq_comm] at hnumbers ⊢ <;> exact hnumbers _
  | .array _, .null | .array _, .bool _ | .array _, .int _ | .array _, .float _
  | .array _, .string _ | .array _, .timestamp _ | .array _, .object _ => by
    simp only [equal, equalNumbers_comm]
  | .object _, .null | .object _, .bool _ | .object _, .int _ | .object _, .float _
  | .object _, .string _ | .object _, .timestamp _ | .object _, .array _ => by
    simp only [equal, equalNumbers_comm]

/-- Nor does it for the items of arrays. -/
theorem equalItems_comm : (as bs : List Value) → equalItems as bs = equalItems bs as
  | [], [] | [], _ :: _ | _ :: _, [] => rfl
  | a :: as, b :: bs => by
    rw [equalItems, equalItems, equal_comm a b, equalItems_comm as bs]

/-- Nor for the fields of objects. -/
theorem equalFields_comm : (as bs : List (String × Value)) → equalFields as bs = equalFields bs as
  | [], [] | [], _ :: _ | _ :: _, [] => rfl
  | (j, a) :: as, (k, b) :: bs => by
    rw [equalFields, equalFields, equal_comm a b, equalFields_comm as bs, Bool.beq_comm]
end

mutual
/-- Values are compared to an operand as they are to it with integers for its timestamps. -/
theorem compare_untimed : (a b : Value) → compare a b.untimed = compare a b
  | .array as, .array bs => by
    rw [untimed, compare, compare, compareItems_untimed as bs]
  | .object as, .object bs => by
    rw [untimed, compare, compare, compareFields_untimed as bs]
  | .null, b | .bool _, b | .string _, b | .int _, b | .float _, b | .timestamp _, b => by
    have hnumbers := fun a => compareNumbers_untimed a b
    cases b <;> simp only [untimed, compare] at hnumbers ⊢ <;> exact hnumbers _
  | .array _, .null | .array _, .bool _ | .array _, .int _ | .array _, .float _
  | .array _, .string _ | .array _, .timestamp _ | .array _, .object _ => by
    simp [untimed, compare, compareNumbers, integral?, double?, bracket]
  | .object _, .null | .object _, .bool _ | .object _, .int _ | .object _, .float _
  | .object _, .string _ | .object _, .timestamp _ | .object _, .array _ => by
    simp [untimed, compare, compareNumbers, integral?, double?, bracket]

/-- So are the items of an array. -/
theorem compareItems_untimed : (as bs : List Value) →
    compareItems as (untimedItems bs) = compareItems as bs
  | [], [] | [], _ :: _ | _ :: _, [] => rfl
  | a :: as, b :: bs => by
    rw [untimedItems, compareItems, compareItems, compare_untimed a b, compareItems_untimed as bs]

/-- And so are the fields of an object. -/
theorem compareFields_untimed : (as bs : List (String × Value)) →
    compareFields as (untimedFields bs) = compareFields as bs
  | [], [] | [], _ :: _ | _ :: _, [] => rfl
  | (j, a) :: as, (k, b) :: bs => by
    rw [untimedFields, compareFields, compareFields, compare_untimed a b,
      compareFields_untimed as bs]
end

/-- The equality of values, as it is asked for by conditions. -/
theorem beq_untimed (a b : Value) : (a == b.untimed) = (a == b) := equal_untimed a b

/-- Timestamps in a list of operands count as integers. -/
theorem isAmong_untimedItems (v : Value) (items : List Value) :
    v.isAmong (untimedItems items) = v.isAmong items := by
  -- here the operand stands on the left
  have hitem (item : Value) : (item.untimed == v) = (item == v) := by
    calc (item.untimed == v) = equal v item.untimed := equal_comm item.untimed v
      _ = equal v item := equal_untimed v item
      _ = (item == v) := equal_comm v item
  rw [isAmong, isAmong, untimedItems_eq_map, List.any_map]
  simp only [Function.comp_def, hitem]

end Value

/-- A timestamp is compared as the integer it is written as. -/
theorem Operator.holds_untimed (op : Operator) (left right : Value) :
    op.holds left right.untimed = op.holds left right := by
  -- operators look at an operand through equality, order and membership, or not at all
  cases op with
  | isNull | isNotNull => rfl
  | eq => simp only [holds, Value.beq_untimed]
  | ne =>
    simp only [holds, bne, Value.beq_untimed, Value.isNull_untimed]
  | lt | le | gt | ge => simp only [holds, Value.sameBracket_untimed, Value.compare_untimed]
  | oneOf =>
    cases right with
    | array items => simp only [Value.untimed, holds, Value.isAmong_untimedItems]
    | _ => rfl
  | noneOf =>
    cases right with
    | array items =>
      simp only [Value.untimed, holds, Value.isAmong_untimedItems]
      cases items <;> rfl
    | _ => rfl
  | like => cases right <;> rfl

/-! ## Conditions -/

/-- A set of operators with integers for the timestamps of its operands. -/
def OperatorSet.untimed (set : OperatorSet) : OperatorSet where
  eq := set.eq.map Value.untimed
  ne := set.ne.map Value.untimed
  gt := set.gt.map Value.untimed
  ge := set.ge.map Value.untimed
  lt := set.lt.map Value.untimed
  le := set.le.map Value.untimed
  oneOf := set.oneOf.map Value.untimedItems
  noneOf := set.noneOf.map Value.untimedItems
  like := set.like
  isPresent := set.isPresent

/-- A condition with integers for the timestamps of its operands. -/
def Condition.untimed : Condition → Condition
  | operators set => operators set.untimed
  | equals value => equals value.untimed

/-- Conditions with integers for the timestamps of their operands. -/
def Conditions.untimed (conditions : Conditions) : Conditions :=
  conditions.map fun entry => (entry.1, entry.2.untimed)

/-- A filter with integers for the timestamps of its operand. -/
def Filter.untimed (filter : Filter) : Filter := { filter with operand := filter.operand.untimed }

/-- A filter accepts the same rows with an integer for a timestamp. -/
theorem Filter.accepts_untimed (filter : Filter) (row : Record) :
    filter.untimed.accepts row = filter.accepts row :=
  filter.operator.holds_untimed _ _

/-- A list stays a list, and a pattern a pattern. -/
theorem Filter.HasOperand.untimed {filter : Filter} (h : filter.HasOperand) :
    filter.untimed.HasOperand := by
  obtain ⟨field, operator, operand⟩ := filter
  -- only membership and patterns ask for a kind of operand
  cases operator
  case oneOf | noneOf =>
    obtain ⟨items, rfl⟩ := h
    exact ⟨Value.untimedItems items, rfl⟩
  case like =>
    obtain ⟨pattern, rfl⟩ := h
    exact ⟨pattern, rfl⟩
  all_goals trivial

/-- Each operator of a set becomes the filter that it became, with the rewritten operand. -/
theorem OperatorSet.filters_untimed (set : OperatorSet) (field : String) :
    set.untimed.filters field = (set.filters field).map Filter.untimed := by
  obtain ⟨eq, ne, gt, ge, lt, le, oneOf, noneOf, like, isPresent⟩ := set
  -- single operands, lists, the pattern and the flag are written in four ways
  have hsingle (op : Operator) (operand : Option Value) :
      (operand.map Value.untimed).toList.map (fun value => (⟨field, op, value⟩ : Filter)) =
        (operand.toList.map fun value => (⟨field, op, value⟩ : Filter)).map Filter.untimed := by
    cases operand <;> rfl
  have hlist (op : Operator) (operand : Option (List Value)) :
      ((operand.map Value.untimedItems).map Value.array).toList.map
          (fun value => (⟨field, op, value⟩ : Filter)) =
        ((operand.map Value.array).toList.map fun value => (⟨field, op, value⟩ : Filter)).map
          Filter.untimed := by
    cases operand <;> rfl
  have hlike : (like.map Value.string).toList.map (fun value => (⟨field, .like, value⟩ : Filter)) =
      ((like.map Value.string).toList.map fun value => (⟨field, .like, value⟩ : Filter)).map
        Filter.untimed := by
    cases like <;> rfl
  have hpresent : (isPresent.toList.map fun present =>
        if present then (⟨field, .isNotNull, .null⟩ : Filter) else ⟨field, .isNull, .null⟩) =
      (isPresent.toList.map fun present =>
        if present then (⟨field, .isNotNull, .null⟩ : Filter) else ⟨field, .isNull, .null⟩).map
          Filter.untimed := by
    cases isPresent with
    | none => rfl
    | some present => cases present <;> rfl
  simp only [OperatorSet.untimed, OperatorSet.filters, List.map_append, hsingle, hlist, ← hlike,
    ← hpresent]

/-- The filters of a rewritten condition are the rewritten filters. -/
theorem Condition.filters_untimed (condition : Condition) (field : String) :
    condition.untimed.filters field = (condition.filters field).map Filter.untimed := by
  cases condition with
  | operators set => exact set.filters_untimed field
  | equals value => cases value <;> rfl

/-- So are those of conditions on several fields. -/
theorem Conditions.filters_untimed (conditions : Conditions) :
    Conditions.filters (Conditions.untimed conditions) =
      (Conditions.filters conditions).map Filter.untimed := by
  simp only [Conditions.filters, Conditions.untimed, List.flatMap_map, List.map_flatMap,
    Condition.filters_untimed]

/-- Conditions stay on their fields. -/
theorem Conditions.contains_untimed (conditions : Conditions) (field : String) :
    Keyed.contains (Conditions.untimed conditions) field = Keyed.contains conditions field := by
  -- the names of the fields are compared in the same order
  induction conditions with
  | nil => rfl
  | cons entry conditions ih =>
    simp only [Keyed.contains, Conditions.untimed, List.map_cons, Keyed.get?] at ih ⊢
    split
    · rfl
    · exact ih

/-- The server's conditions still win over the caller's on the same fields. -/
theorem mergeConditions_untimed (server caller : Conditions) :
    mergeConditions (Conditions.untimed server) (Conditions.untimed caller) =
      (mergeConditions server caller).map Filter.untimed := by
  -- which of the caller's conditions are left depends on the fields only
  have hcaller : (Conditions.untimed caller).filter
        (fun entry => !Keyed.contains (Conditions.untimed server) entry.1) =
      Conditions.untimed (caller.filter fun entry => !Keyed.contains server entry.1) := by
    simp only [Conditions.contains_untimed]
    simp only [Conditions.untimed, List.filter_map]
    rfl
  rw [mergeConditions, mergeConditions, Conditions.filters_untimed, hcaller,
    Conditions.filters_untimed, List.map_append]

/-- An aggregate with integers for the timestamps of its conditions. -/
def AggregationSpec.untimed (spec : AggregationSpec) : AggregationSpec :=
  { spec with conditions := spec.conditions.map Conditions.untimed }

/-- The filters of a rewritten aggregate are the rewritten filters. -/
theorem AggregationSpec.filters_untimed (spec : AggregationSpec) :
    spec.untimed.filters = spec.filters.map Filter.untimed := by
  obtain ⟨_, _, _, conditions⟩ := spec
  cases conditions with
  | none => rfl
  | some conditions => exact Conditions.filters_untimed conditions

/-- A context with integers for the timestamps of its conditions. -/
def QueryContext.untimed (ctx : QueryContext) : QueryContext :=
  { ctx with serverConditions := Conditions.untimed ctx.serverConditions }

namespace Descriptor

/-- A descriptor with integers for the timestamps of its conditions. -/
def untimed (d : Descriptor) : Descriptor :=
  { d with
    conditions := Conditions.untimed d.conditions
    aggregations := d.aggregations.map AggregationSpec.untimed }

variable (ctx : QueryContext) (d : Descriptor)

/-! ## Documents -/

/-- The filters of a rewritten query are the rewritten filters. -/
theorem filtersOn_untimed :
    d.untimed.filtersOn ctx.untimed = (d.filtersOn ctx).map Filter.untimed :=
  mergeConditions_untimed ctx.serverConditions d.conditions

/-- Filters with integers for timestamps become conditions that hold of the same documents. -/
theorem all_toMatch_untimed {filters : List Filter}
    (h : ∀ filter ∈ filters, filter.HasOperand) (row : Record) :
    (((filters.map Filter.untimed).map Filter.toMatch).all fun condition => condition.holds row) =
      (filters.map Filter.toMatch).all fun condition => condition.holds row := by
  -- a filter with an operand becomes a condition that holds where the filter accepts
  have huntimed (filter : Filter) (hfilter : filter ∈ filters.map Filter.untimed) :
      filter.HasOperand := by
    obtain ⟨filter, hmem, rfl⟩ := List.mem_map.1 hfilter
    exact (h filter hmem).untimed
  rw [all_map_toMatch huntimed, all_map_toMatch h, List.all_map]
  congr 1
  funext filter
  exact filter.accepts_untimed row

/-- The filters on some fields, as conditions. -/
theorem all_filtersOn_untimed (keep : String → Bool) (row : Record) :
    (((d.untimed.filtersOn ctx.untimed).filter fun filter => keep filter.field).map
        Filter.toMatch).all (fun condition => condition.holds row) =
      (((d.filtersOn ctx).filter fun filter => keep filter.field).map
        Filter.toMatch).all fun condition => condition.holds row := by
  have hfilter : (d.untimed.filtersOn ctx.untimed).filter (fun filter => keep filter.field) =
      ((d.filtersOn ctx).filter fun filter => keep filter.field).map Filter.untimed := by
    rw [filtersOn_untimed, List.filter_map]
    rfl
  rw [hfilter]
  exact all_toMatch_untimed (fun filter hmem =>
    d.hasOperand_of_mem_filtersOn ctx filter (List.mem_filter.1 hmem).1) row

/-- The conditions in front of the joins hold of the same documents. -/
theorem all_earlyConditions_untimed (row : Record) :
    (d.untimed.earlyConditions ctx.untimed).all (fun condition => condition.holds row) =
      (d.earlyConditions ctx).all fun condition => condition.holds row := by
  rw [earlyConditions, earlyConditions, List.all_append, List.all_append]
  exact congrArg (· && _)
    (d.all_filtersOn_untimed ctx (fun field => !Text.leadsFrom (d.aliasesOn ctx) field) row)

/-- So do the conditions behind the joins. -/
theorem all_lateConditions_untimed (row : Record) :
    (d.untimed.lateConditions ctx.untimed).all (fun condition => condition.holds row) =
      (d.lateConditions ctx).all fun condition => condition.holds row := by
  rw [lateConditions, lateConditions, List.all_append, List.all_append]
  exact congrArg (· && _) (d.all_filtersOn_untimed ctx (Text.leadsFrom (d.aliasesOn ctx)) row)

/-- A rewritten query finds the same documents. -/
theorem filteredDocuments_untimed [Hashing] (store : Store) :
    d.untimed.filteredDocuments ctx.untimed store = d.filteredDocuments ctx store := by
  -- the two lists of conditions are asked around the same joins
  have hstages (rows : List Record) :
      Stage.runAll store rows (d.untimed.filterStages ctx.untimed) =
        Stage.runAll store rows (d.filterStages ctx) := by
    rw [runAll_filterStages, runAll_filterStages]
    simp only [all_earlyConditions_untimed, all_lateConditions_untimed]
    rfl
  simp only [filteredDocuments, hstages]
  rfl

/-- An aggregate is computed over the same members of a group. -/
theorem condition_toAccumulator_untimed (spec : AggregationSpec) :
    spec.untimed.toAccumulator.condition.map (fun condition row => condition.holds row) =
      spec.toAccumulator.condition.map fun condition row => condition.holds row := by
  have hempty : ((spec.filters.map Filter.untimed).map Filter.toMatch).isEmpty =
      (spec.filters.map Filter.toMatch).isEmpty := by
    cases spec.filters <;> rfl
  rw [AggregationSpec.toAccumulator, AggregationSpec.toAccumulator, holds_conjunction?,
    holds_conjunction?, AggregationSpec.filters_untimed, hempty]
  split
  · rfl
  · congr 1
    funext row
    exact all_toMatch_untimed (fun _ => AggregationSpec.hasOperand_of_mem_filters) row

/-- A group is written alike. -/
theorem groupRow_untimed (fields : List String) (specs : List AggregationSpec)
    (values : List Value) (members : List Record) :
    groupRow fields ((specs.map AggregationSpec.untimed).map AggregationSpec.toAccumulator) values
        members =
      groupRow fields (specs.map AggregationSpec.toAccumulator) values members := by
  -- the values of a group do not come from the query
  simp only [groupRow, List.foldl_map, condition_toAccumulator_untimed]
  rfl

/-- A rewritten query groups if the query does. -/
theorem hasGrouping_untimed : d.untimed.hasGrouping = d.hasGrouping := by
  rw [hasGrouping, hasGrouping, untimed]
  cases d.aggregations <;> rfl

/-- Its groups are the same. -/
theorem grouped_untimed [Hashing] (rows : List Record) :
    d.untimed.grouped rows = d.grouped rows := by
  have haccumulators : d.untimed.accumulators =
      ((d.aggregations.filter (·.isComputable)).map AggregationSpec.untimed).map
        AggregationSpec.toAccumulator := by
    rw [accumulators, untimed]
    simp only [List.filter_map]
    rfl
  rw [grouped, grouped, hasGrouping_untimed]
  split
  · simp only [groupRows, haccumulators, groupRow_untimed]
    rfl
  · rfl

/-- It sorts by the same fields. -/
theorem sortFields_untimed : d.untimed.sortFields ctx.untimed = d.sortFields ctx := by
  rw [sortFields, sortFields, hasGrouping_untimed]
  rfl

/-- So it makes the same of the documents that are found. -/
theorem shaped_untimed [Hashing] (rows : List Record) :
    d.untimed.shaped ctx.untimed rows = d.shaped ctx rows := by
  simp only [shaped, dropsSortField, sortKeysOn, sortFields_untimed, grouped_untimed]
  rfl

end Descriptor

end DualQuery
