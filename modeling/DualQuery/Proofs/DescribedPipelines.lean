import DualQuery.Document.Describe
import DualQuery.Proofs.DistinctEntries
import DualQuery.Proofs.FilteredDocuments
import DualQuery.Proofs.QueryForm

/-!
# Described pipelines

A description is read from the JSON form of a pipeline, stage by stage. `Document.Adds` says what
some stages add to a description, whatever was read before, so the parts of a compiled pipeline can
be taken one by one: the conditions in front of the lookups, the lookups, the conditions behind
them, and the rest, of which only the sort is described.

A sort is written as an object, so a field that is repeated keeps its first place and takes its last
direction: `Document.IsCollapseOf`. A field that has the name of a logical operator would be taken
for one, so fields are recovered where there are no such names.

## Key results

- `Document.queryFields_queryJson`: the fields of a condition are read back
- `Document.isCollapseOf_collapse`: a sort is read back
- `Descriptor.adds_filterStages`, `Descriptor.adds_shapeStages`: compiled stages
- `Descriptor.describe_recovers_query`: compiled pipelines and their partitions
-/

namespace DualQuery

open Document

namespace Document

/-! ## Conditions -/

/-- The keys of query documents that are no fields. -/
def operatorKeys : List String := ["$and", "$or", "$expr"]

mutual
/-- The paths that a condition asks about. Nothing is asked about the key of a partition. -/
def Match.asked : Match → List String
  | .field path _ _ | .regex path _ _ => [path]
  | .all conditions | .any conditions => Match.askedOfAll conditions
  | .partition _ _ _ => []

/-- The paths that several conditions ask about. -/
def Match.askedOfAll : List Match → List String
  | [] => []
  | condition :: rest => condition.asked ++ Match.askedOfAll rest
end

/-- What several conditions ask about is taken from them one by one. -/
theorem Match.askedOfAll_eq_flatMap (conditions : List Match) :
    askedOfAll conditions = conditions.flatMap asked := by
  induction conditions with
  | nil => rfl
  | cons condition conditions ih => rw [askedOfAll, ih, List.flatMap_cons]

/-- A key that is no logical operator is read as a field. -/
theorem queryFields_entry {key : String} (h : key ∉ operatorKeys) (value : Json) :
    queryFields (entry key value) = [key] := by
  simp only [operatorKeys, List.mem_cons, List.not_mem_nil, or_false, not_or] at h
  rw [entry, queryFields, queryFieldsOfEntries.eq_def]
  simp [h, queryFieldsOfEntries]

mutual
/-- The fields of a condition are read back from its query document. -/
theorem queryFields_queryJson : (condition : Match) →
    (∀ path ∈ condition.asked, path ∉ operatorKeys) →
    queryFields condition.queryJson = condition.asked
  | .field path op operand, h => queryFields_entry (h path (List.mem_singleton_self path)) _
  | .regex path pattern ignoreCase, h =>
    queryFields_entry (h path (List.mem_singleton_self path)) _
  | .all conditions, h => by
    simp [Match.queryJson, entry, queryFields, queryFieldsOfEntries, Match.asked,
      queryFieldsOfAll_queryJsonOfAll conditions h]
  | .any conditions, h => by
    simp [Match.queryJson, entry, queryFields, queryFieldsOfEntries, Match.asked,
      queryFieldsOfAll_queryJsonOfAll conditions h]
  | .partition path partitions index, _ => by
    simp [Match.queryJson, entry, queryFields, queryFieldsOfEntries, Match.asked]

/-- The fields of several conditions are read back one by one. -/
theorem queryFieldsOfAll_queryJsonOfAll : (conditions : List Match) →
    (∀ path ∈ Match.askedOfAll conditions, path ∉ operatorKeys) →
    queryFieldsOfAll (Match.queryJsonOfAll conditions) = Match.askedOfAll conditions
  | [], _ => rfl
  | condition :: rest, h => by
    rw [Match.askedOfAll, List.forall_mem_append] at h
    rw [Match.queryJsonOfAll, queryFieldsOfAll, queryFields_queryJson condition h.1,
      queryFieldsOfAll_queryJsonOfAll rest h.2, Match.askedOfAll]
end

/-- The fields of several query documents are read one by one. -/
theorem queryFieldsOfAll_eq_flatMap (items : List Json) :
    queryFieldsOfAll items = items.flatMap queryFields := by
  induction items with
  | nil => rfl
  | cons item items ih => rw [queryFieldsOfAll, ih, List.flatMap_cons]

/-- The fields of several conditions at once. -/
theorem queryFields_queryJson_all (conditions : List Match) :
    queryFields (Match.all conditions).queryJson =
      conditions.flatMap fun condition => queryFields condition.queryJson := by
  rw [Match.queryJson, entry, queryFields]
  simp only [queryFieldsOfEntries, true_or, if_true, List.append_nil]
  rw [Match.queryJsonOfAll_eq_map, queryFieldsOfAll_eq_flatMap, List.flatMap_map]

/-! ## Sorts -/

/-- What is left of a sort when each field is kept at its first place only, with its last
direction. -/
structure IsCollapseOf (fields collapsed : List SortField) : Prop where
  fields_eq : collapsed.map (·.field) = (fields.map (·.field)).eraseDups
  last : ∀ sort ∈ collapsed, ∃ front back, fields = front ++ sort :: back ∧
    ∀ other ∈ back, other.field ≠ sort.field

/-- The entry of a field in a sort. -/
def sortEntry (sort : SortField) : String × Json := (sort.field, .ofInt sort.direction.number)

/-- The field of an entry in a sort. -/
def readSort (entry : String × Json) : SortField :=
  ⟨entry.1, match entry.2 with
    | .num (.int (-1)) => .descending
    | _ => .ascending⟩

/-- A sorted field is read back from its entry. -/
theorem readSort_sortEntry (sort : SortField) : readSort (sortEntry sort) = sort := by
  obtain ⟨field, direction⟩ := sort
  cases direction <;> rfl

/-- The sort that is read back. -/
def collapse (fields : List SortField) : List SortField :=
  (Json.distinctEntries (fields.map sortEntry)).map readSort

/-- What is read back from a sort is its collapse: an object keeps a repeated key at its first place
and with its last value. -/
theorem isCollapseOf_collapse (fields : List SortField) :
    IsCollapseOf fields (collapse fields) where
  fields_eq := by
    have hfields : (collapse fields).map (·.field) =
        (Json.distinctEntries (fields.map sortEntry)).map (·.1) := by
      rw [collapse, List.map_map]
      rfl
    rw [hfields, Json.map_fst_distinctEntries, List.map_map]
    rfl
  last := fun sort hsort => by
    obtain ⟨entry, hentry, rfl⟩ := List.mem_map.1 hsort
    obtain ⟨front, back, hsplit, hback⟩ := Json.exists_last_of_mem_distinctEntries hentry
    -- the entries in front and behind come from fields in front and behind
    obtain ⟨front, rest, rfl, -, hrest⟩ := List.map_eq_append_iff.1 hsplit
    obtain ⟨sort, back, rfl, rfl, rfl⟩ := List.map_eq_cons_iff.1 hrest
    rw [readSort_sortEntry]
    exact ⟨front, back, rfl, fun other hother => hback _ (List.mem_map_of_mem hother)⟩

/-! ## Stages -/

/-- What some stages add to a description, whatever was read before. -/
def Adds (stages : List Json) (fields : List String) (joins : List JoinDescription)
    (sort : List SortField) : Prop :=
  ∀ (fields' : List String) (joins' : List JoinDescription) (sort' : List SortField),
    stages.foldlM describeStage ⟨fields'.eraseDups, joins', sort'⟩ =
      .ok ⟨(fields' ++ fields).eraseDups, joins' ++ joins, sort' ++ sort⟩

variable {front back : List Json} {fields fields' : List String}
  {joins joins' : List JoinDescription} {sort sort' : List SortField}

/-- No stages add nothing. -/
theorem adds_nil : Adds [] [] [] [] := fun fields' joins' sort' => by
  simp only [List.append_nil]
  rfl

/-- Stages one behind the other add what both parts add. -/
theorem Adds.append (hfront : Adds front fields joins sort)
    (hback : Adds back fields' joins' sort') :
    Adds (front ++ back) (fields ++ fields') (joins ++ joins') (sort ++ sort') := by
  intro fields'' joins'' sort''
  rw [List.foldlM_append, hfront]
  -- the second part goes on from what the first one has left
  simp only [← List.append_assoc]
  exact hback _ _ _

/-- A second part that adds nothing changes nothing. -/
theorem Adds.append_nothing (hfront : Adds front fields joins sort)
    (hback : Adds back [] [] []) : Adds (front ++ back) fields joins sort := by
  simpa only [List.append_nil] using hfront.append hback

/-- A filter stage adds the fields of its condition. -/
theorem adds_match (query : Json) : Adds [entry "$match" query] (queryFields query) [] [] := by
  intro fields' joins' sort'
  -- repeated fields are dropped after each stage, which comes to dropping them once
  rw [← List.eraseDups_eraseDups_append, List.append_nil, List.append_nil]
  rfl

/-- A lookup adds the join it carries out. -/
theorem adds_lookup (source localField foreignField label : String) :
    Adds (Stage.toJson (.lookup source localField foreignField label)) []
      [⟨source, label, localField, foreignField⟩] [] := by
  intro fields' joins' sort'
  rw [List.append_nil, List.append_nil]
  rfl

/-- A sort stage adds its collapse. -/
theorem adds_sort (fields : List SortField) :
    Adds (Stage.toJson (.sort fields)) [] [] (collapse fields) := by
  intro fields' joins' sort'
  rw [List.append_nil, List.append_nil]
  rfl

/-- The other stages are left out. -/
theorem adds_plain {name : String} (h : name ∈ plainStages) (body : Json) :
    Adds [entry name body] [] [] [] := by
  intro fields' joins' sort'
  rw [List.append_nil, List.append_nil, List.append_nil]
  simp only [plainStages, List.mem_cons, List.not_mem_nil, or_false] at h
  rcases h with rfl | rfl | rfl | rfl | rfl | rfl | rfl <;> rfl

/-- A group and the projection behind it add nothing. -/
theorem adds_group (key : GroupKey) (accumulators : List Accumulator) :
    Adds (Stage.toJson (.group key accumulators)) [] [] [] := by
  have hgroup : "$group" ∈ plainStages := by decide
  have hproject : "$project" ∈ plainStages := by decide
  exact (adds_plain hgroup _).append (adds_plain hproject _)

/-- The description of a pipeline is what its stages add to nothing. -/
theorem Pipeline.describe_of_adds {pipeline : Pipeline}
    (h : Adds (Stage.toJsonOfAll pipeline.stages) fields joins sort) :
    pipeline.describe = .ok ⟨fields.eraseDups, joins, sort⟩ := h [] [] []

/-- The stage of some conditions, if there are any, adds their fields. -/
theorem adds_filterStage (conditions : List Match) :
    Adds (Stage.toJsonOfAll (filterStage conditions))
      (conditions.flatMap fun condition => queryFields condition.queryJson) [] [] := by
  -- no condition makes no stage, one is written as it stands, several under a logical operator
  cases conditions with
  | nil => exact adds_nil
  | cons first rest =>
    cases rest with
    | nil =>
      rw [List.flatMap_singleton]
      exact adds_match first.queryJson
    | cons second rest =>
      rw [← queryFields_queryJson_all]
      exact adds_match (Match.all (first :: second :: rest)).queryJson

end Document

/-! ## Compiled stages -/

/-- A join as it is described. -/
def JoinSpec.description (join : JoinSpec) : JoinDescription :=
  ⟨join.source, join.aliasName, join.localField, join.foreignField⟩

/-- The stages of joins add the joins in their order. -/
theorem Document.adds_joins (joins : List JoinSpec) :
    Adds (Stage.toJsonOfAll (joins.flatMap JoinSpec.stages)) []
      (joins.map JoinSpec.description) [] := by
  induction joins with
  | nil => exact adds_nil
  | cons join joins ih =>
    have hunwind : "$unwind" ∈ plainStages := by decide
    rw [List.flatMap_cons, Stage.toJsonOfAll_append]
    exact ((adds_lookup _ _ _ _).append (adds_plain hunwind _)).append ih

/-- A filter asks about its field. -/
theorem Filter.asked_toMatch (filter : Filter) : filter.toMatch.asked = [filter.field] := by
  rw [toMatch]
  split <;> rfl

/-- A search asks about the fields it matches. -/
theorem SearchPlan.asked_toMatch (plan : SearchPlan) :
    plan.toMatch.asked = plan.fieldMatches.map (·.field) := by
  rw [toMatch, Match.asked, Match.askedOfAll_eq_flatMap, List.flatMap_map, List.map_eq_flatMap]
  refine List.flatMap_congr fun m _ => ?_
  split <;> rfl

namespace Descriptor

variable (ctx : QueryContext) (d : Descriptor)

/-- The fields that are asked about in front of the lookups or behind them: those of conditions that
do not lead into a join, or do, and all fields of a search of which none does, or one does. -/
def askedFields (behind : Bool) : List String :=
  ((d.filtersOn ctx).filter fun filter =>
      Text.leadsFrom (d.aliasesOn ctx) filter.field == behind).map (·.field) ++
    ((SearchPlan.of? d.search ctx.searchConfig).toList.filter fun plan =>
      (plan.fieldMatches.any fun m => Text.leadsFrom (d.aliasesOn ctx) m.field) == behind).flatMap
        fun plan => plan.fieldMatches.map (·.field)

/-- The fields of the conditions of filters and searches. -/
theorem flatMap_asked (filters : List Filter) (plans : List SearchPlan) :
    (filters.map Filter.toMatch ++ plans.map SearchPlan.toMatch).flatMap Match.asked =
      filters.map (·.field) ++ plans.flatMap fun plan => plan.fieldMatches.map (·.field) := by
  rw [List.flatMap_append, List.flatMap_map, List.flatMap_map]
  simp only [Filter.asked_toMatch, SearchPlan.asked_toMatch]
  rw [← List.map_eq_flatMap]

/-- The conditions in front of the lookups ask about the fields that lead into no join. -/
theorem flatMap_asked_earlyConditions :
    (d.earlyConditions ctx).flatMap Match.asked = d.askedFields ctx false := by
  simp only [earlyConditions, flatMap_asked, askedFields, beq_false]

/-- The conditions behind the lookups ask about the fields that lead into one. -/
theorem flatMap_asked_lateConditions :
    (d.lateConditions ctx).flatMap Match.asked = d.askedFields ctx true := by
  simp only [lateConditions, flatMap_asked, askedFields, beq_true]

/-- The fields that are read back from all conditions. -/
def readFields : List String :=
  ((d.earlyConditions ctx ++ d.lateConditions ctx).flatMap fun condition =>
    queryFields condition.queryJson)

/-- Where no field has the name of an operator, the fields that are asked about are read back. -/
theorem readFields_eq
    (h : ∀ field ∈ d.askedFields ctx false ++ d.askedFields ctx true, field ∉ operatorKeys) :
    d.readFields ctx = d.askedFields ctx false ++ d.askedFields ctx true := by
  rw [← flatMap_asked_earlyConditions, ← flatMap_asked_lateConditions, ← List.flatMap_append] at h ⊢
  refine List.flatMap_congr fun condition hcondition => ?_
  exact queryFields_queryJson condition fun path hpath =>
    h path (List.mem_flatMap.2 ⟨condition, hcondition, hpath⟩)

/-- The stages that join and filter add the fields that are read back and the joins that are carried
out. -/
theorem adds_filterStages : Adds (Stage.toJsonOfAll (d.filterStages ctx)) (d.readFields ctx)
    ((d.joinsOn ctx.entity).map JoinSpec.description) [] := by
  have hearly := adds_filterStage (d.earlyConditions ctx)
  have hlate := adds_filterStage (d.lateConditions ctx)
  rw [filterStages_eq, Stage.toJsonOfAll_append, Stage.toJsonOfAll_append, readFields,
    List.flatMap_append]
  simpa only [List.append_nil, List.nil_append] using
    (hearly.append (adds_joins (d.joinsOn ctx.entity))).append hlate

/-- The group stage, if there is one, adds nothing. -/
theorem adds_groupStage : Adds (Stage.toJsonOfAll d.groupStage) [] [] [] := by
  rw [groupStage]
  split
  · exact adds_group _ _
  · exact adds_nil

/-- Of the stages that group, select and sort only the sort is described. -/
theorem adds_shapeStages : Adds (Stage.toJsonOfAll (d.shapeStages ctx)) [] []
    (collapse (d.sortFields ctx)) := by
  have hsort : Adds (Stage.toJsonOfAll
      (if (d.sortFields ctx).isEmpty then [] else [.sort (d.sortFields ctx)])) [] []
      (collapse (d.sortFields ctx)) := by
    split
    next hempty =>
      rw [List.isEmpty_iff.1 hempty]
      exact adds_nil
    next => exact adds_sort (d.sortFields ctx)
  have hproject : Adds (Stage.toJsonOfAll
      (if d.select.isEmpty then [] else [.project d.select])) [] [] [] := by
    split
    · exact adds_nil
    · exact adds_plain (by decide) _
  rw [shapeStages, Stage.toJsonOfAll_append, ← List.nil_append (collapse _)]
  refine d.adds_groupStage.append ?_
  -- the projection stands on either side of the sort
  split
  · rw [Stage.toJsonOfAll_append]
    exact hsort.append_nothing hproject
  · rw [Stage.toJsonOfAll_append]
    exact hproject.append hsort

/-! ## Compiled pipelines -/

/-- The description of the pipelines of a query. -/
def described : Description where
  filterFields := (d.readFields ctx).eraseDups
  joins := (d.joinsOn ctx.entity).map JoinSpec.description
  sort := collapse (d.sortFields ctx)

/-- What joins and filters, with nothing described behind it, and what shapes the result. -/
theorem adds_filterStages_shapeStages {between : List Json} (h : Adds between [] [] []) :
    Adds (Stage.toJsonOfAll (d.filterStages ctx) ++ between ++
        Stage.toJsonOfAll (d.shapeStages ctx))
      (d.readFields ctx) ((d.joinsOn ctx.entity).map JoinSpec.description)
      (collapse (d.sortFields ctx)) := by
  simpa only [List.append_nil, List.nil_append] using
    ((d.adds_filterStages ctx).append_nothing h).append (d.adds_shapeStages ctx)

/-- A compiled pipeline is described, and the page it takes does not show. -/
theorem describe_pipeline : (d.pipeline ctx).describe = .ok (d.described ctx) := by
  have hadds := d.adds_filterStages_shapeStages ctx adds_nil
  rw [List.append_nil] at hadds
  refine Pipeline.describe_of_adds ?_
  rw [pipeline, Stage.toJsonOfAll_append, Stage.toJsonOfAll_append]
  refine hadds.append_nothing ?_
  -- a page and its total are written as one stage that is not described
  cases d.pagination with
  | none => exact adds_nil
  | some pagination =>
    have hfacet : "$facet" ∈ plainStages := by decide
    exact adds_plain hfacet _

/-- A partition is no filter of the query. -/
theorem describe_partitionPipeline (key : String) (partitions index : Nat) :
    (d.partitionPipeline ctx key partitions index).describe = .ok (d.described ctx) := by
  have hpartition : Adds (Stage.toJsonOfAll [.filter (.partition key partitions index)])
      [] [] [] := adds_match _
  refine Pipeline.describe_of_adds ?_
  rw [partitionPipeline, Stage.toJsonOfAll_append, Stage.toJsonOfAll_append]
  exact d.adds_filterStages_shapeStages ctx hpartition

/-- The description of a compiled pipeline has the joins that are carried out, the sort with each
field at its first place and its last direction, and, if no field has the name of a logical
operator, the fields that are asked about in front of the lookups and then those behind them, each
at its first place. All partitions have the same description. -/
theorem describe_recovers_query : ∃ description,
    (d.pipeline ctx).describe = .ok description ∧
    description.joins = (d.joinsOn ctx.entity).map JoinSpec.description ∧
    IsCollapseOf (d.sortFields ctx) description.sort ∧
    ((∀ field ∈ d.askedFields ctx false ++ d.askedFields ctx true, field ∉ operatorKeys) →
      description.filterFields =
        (d.askedFields ctx false ++ d.askedFields ctx true).eraseDups) ∧
    ∀ key partitions index,
      (d.partitionPipeline ctx key partitions index).describe = .ok description := by
  refine ⟨d.described ctx, d.describe_pipeline ctx, rfl,
    isCollapseOf_collapse (d.sortFields ctx), fun hfields => ?_, d.describe_partitionPipeline ctx⟩
  rw [described, d.readFields_eq ctx hfields]

/-- Members with their teams, counted by city. -/
private def membersByCity : Descriptor where
  conditions := [("age", .operators { ge := some (.int 18), lt := some (.int 65) }),
    ("team.name", .equals (.string "red"))]
  joins := [{ source := "teams", localField := "teamId", foreignField := "id", label := "team" }]
  aggregations := [{ operation := .count, label := some "n" }]
  groupBy := ["city", "team.name"]
  sort := [⟨"city", .ascending⟩, ⟨"n", .descending⟩, ⟨"city", .descending⟩]
  search := some { term := "ann", fields := ["name", "age"] }
  pagination := some ⟨1, 10⟩

/-- A query with one join, a search and a repeated sort field: all parts are recovered. -/
theorem describe_recovers_query_members :
    (∀ field ∈ ["age", "name", "team.name"], field ∉ operatorKeys) ∧
    ∃ description, (membersByCity.pipeline { entity := "users" }).describe = .ok description ∧
      description.filterFields = ["age", "name", "team.name"] ∧
      description.joins = [⟨"teams", "team", "teamId", "id"⟩] ∧
      description.sort.map (·.field) = ["city", "n"] ∧
      (membersByCity.partitionPipeline { entity := "users" } "id" 4 1).describe =
        .ok description := by
  obtain ⟨description, hdescribe, hjoins, hsort, hfields, hpartitions⟩ :=
    describe_recovers_query { entity := "users" } membersByCity
  exact ⟨by decide, description, hdescribe, hfields (by decide), hjoins, hsort.fields_eq,
    hpartitions "id" 4 1⟩

end Descriptor

end DualQuery
