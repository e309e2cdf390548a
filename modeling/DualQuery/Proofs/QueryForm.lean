import Mathlib
import DualQuery.Proofs.FaithfulConditions
import DualQuery.Proofs.FilteredDocuments

/-!
# The query form of filters

Filters are sent to a document store as query documents. The operand of an equality stands right
under its field, that of any other operator under the operator's name. So an equality with an object
that has the name of an operator as its only key is sent as that operator, and an equality of the
field `$and` with an array is sent as a conjunction. Every other filter that is read from a text is
told by its query document, and pipelines whose `$match` stages are equal JSON ask the same of every
document.

## Key results

- `Filter.IsTold.exists_form`: a plain filter is read back from what is sent for it
- `Document.Match.queryJson_object`: an equality with an operator's form is sent as the operator
- `Document.map_toMatch_eq_of_sent`: conjunctions of plain filters
- `Descriptor.isRead_of_parse`: the operands of a descriptor that is parsed
- `Descriptor.conditions_eq_of_matchStages`: pipelines
-/

namespace DualQuery

open Document

/-! ## Reading operators -/

namespace Json

/-- Whether a value is null. -/
def isNull : Json → Bool
  | .null => true
  | _ => false

/-- Only null is null. -/
theorem isNull_iff {j : Json} : j.isNull = true ↔ j = .null := by
  cases j <;> simp [isNull]

end Json

namespace Operator

/-- The name under which the operand of an operator stands in a query document. -/
def queryName : Operator → String
  | isNotNull => "$ne"
  | op => op.documentName

/-- The operators whose operand stands under a name, all but equality and the check for null. -/
def named : List Operator := [ne, lt, le, gt, ge, oneOf, noneOf, like, isNotNull]

/-- Whether a JSON value is an operand of an operator. -/
def takes (j : Json) : Operator → Bool
  | isNull | isNotNull => j.isNull
  | oneOf | noneOf => j.arr?.isSome
  | like => j.str?.isSome
  | eq | ne | lt | le | gt | ge => !j.isNull

/-- The operator and the operand of a JSON value that has the form of an operator. -/
def ofForm? : Json → Option (Operator × Json)
  | .obj [(name, operand)] =>
    (named.find? fun op => op.queryName = name && op.takes operand).map (·, operand)
  | _ => none

/-- No two operators share a name and an operand. -/
theorem ofForm?_entry {op : Operator} {operand : Json} (hop : op ∈ named)
    (h : op.takes operand = true) : ofForm? (entry op.queryName operand) = some (op, operand) := by
  simp only [ofForm?, entry, Option.map_eq_some_iff, Prod.mk.injEq, and_true, exists_eq_right]
  simp only [named, List.mem_cons, List.not_mem_nil, or_false] at hop
  rcases hop with rfl | rfl | rfl | rfl | rfl | rfl | rfl | rfl | rfl
  case inr.inr.inr.inr.inr.inr.inr.inr =>
    -- inequality has the same name and takes all operands but null
    cases operand with
    | null => rfl
    | _ => cases h
  all_goals simp [named, queryName, documentName, h]

end Operator

/-! ## Reading filters -/

namespace Document.Match

/-- The condition on a path by an operator and its operand in JSON. -/
def ofOperator (path : String) : Operator → Json → Match
  | .like, .str pattern => .regex path pattern false
  | op, operand => .field path op (Value.ofJson operand)

/-- The condition on a path that stands under it in a query document. -/
def ofForm (path : String) (form : Json) : Match :=
  match Operator.ofForm? form with
  | some (op, operand) => ofOperator path op operand
  | none => .field path (if form.isNull then .isNull else .eq) (Value.ofJson form)

/-- A named operand that the operator takes is read as the operator. -/
theorem ofForm_entry (path : String) {op : Operator} {operand : Json} (hop : op ∈ Operator.named)
    (h : op.takes operand = true) :
    ofForm path (entry op.queryName operand) = ofOperator path op operand := by
  rw [ofForm, Operator.ofForm?_entry hop h]

end Document.Match

namespace Filter

/-- The operand of a filter is told by its JSON form, which is one that the operator takes. -/
structure IsRead (filter : Filter) : Prop where
  readsBack : Value.ofJson filter.operand.toJson = filter.operand
  takes : filter.operator.takes filter.operand.toJson = true

/-- Whether a filter is sent as nothing else would be. This is not so for an equality with a value
that has the form of an operator, and for one of the field `$and` with an array. -/
def isPlain (filter : Filter) : Bool :=
  match filter.operator with
  | .eq =>
    (Operator.ofForm? filter.operand.toJson).isNone &&
      !(filter.field == "$and" && filter.operand.toJson.arr?.isSome)
  | _ => true

/-- A filter that is told by what is sent for it. -/
structure IsTold (filter : Filter) : Prop where
  hasOperand : filter.HasOperand
  isRead : filter.IsRead
  isPlain : filter.isPlain = true

/-- What is sent for a filter that is told by it. -/
theorem IsTold.exists_form {filter : Filter} (h : filter.IsTold) :
    ∃ form, filter.toMatch.queryJson = entry filter.field form ∧
      Match.ofForm filter.field form = filter.toMatch ∧
      (filter.field = "$and" → form.arr? = none) := by
  obtain ⟨field, operator, operand⟩ := filter
  obtain ⟨hoperand, ⟨hback, htakes⟩, hplain⟩ := h
  have hnull (hnull : operand.toJson.isNull = true) : operand = .null :=
    hback.symm.trans (congrArg Value.ofJson (Json.isNull_iff.1 hnull))
  have hfield : Match.field field operator (Value.ofJson operand.toJson) =
      .field field operator operand := congrArg _ hback
  -- an operator under its name
  have hnamed (hop : operator ∈ Operator.named) :
      Match.ofForm field (entry operator.queryName operand.toJson) =
        Match.ofOperator field operator operand.toJson := Match.ofForm_entry field hop htakes
  cases operator
  -- equality is written as the bare operand, which must not look like an operator
  case eq =>
    simp only [Filter.isPlain, Bool.and_eq_true, Option.isNone_iff_eq_none, Bool.not_eq_true',
      Bool.and_eq_false_imp, beq_iff_eq, Option.isSome_eq_false_iff] at hplain
    have hnull : operand.toJson.isNull = false := Bool.not_eq_true' _ ▸ htakes
    refine ⟨operand.toJson, rfl, ?_, hplain.2⟩
    rw [Match.ofForm, hplain.1, hnull]
    exact hfield
  case isNull =>
    obtain rfl := hnull htakes
    exact ⟨.null, rfl, rfl, fun _ => rfl⟩
  case isNotNull =>
    obtain rfl := hnull htakes
    exact ⟨_, rfl, hnamed (by decide), fun _ => rfl⟩
  case like =>
    obtain ⟨pattern, rfl⟩ := hoperand
    have htakes : Operator.takes (.str (Like.toRegex pattern)) .like = true := rfl
    exact ⟨_, rfl, Match.ofForm_entry field (by decide) htakes,
      fun _ => rfl⟩
  case oneOf =>
    obtain ⟨items, rfl⟩ := hoperand
    exact ⟨_, rfl, (hnamed (by decide)).trans hfield, fun _ => rfl⟩
  case noneOf =>
    obtain ⟨items, rfl⟩ := hoperand
    exact ⟨_, rfl, (hnamed (by decide)).trans hfield, fun _ => rfl⟩
  all_goals exact ⟨_, rfl, (hnamed (by decide)).trans hfield, fun _ => rfl⟩

end Filter

/-- What is sent for an equality with an object whose only key is the name of an operator is the
operator with what stands under the key. -/
theorem Document.Match.queryJson_object {op : Operator} (hop : op ∈ Operator.named)
    (hlike : op ≠ .like) {operand : Value} (h : op.takes operand.toJson = true) (path : String) :
    (Match.field path .eq (.object [(op.queryName, operand)])).queryJson =
      (Match.field path op operand).queryJson := by
  -- a pattern is sent apart, and a check for a value is sent as null whatever its operand
  cases op
  case like => exact absurd rfl hlike
  case isNotNull =>
    change entry path (entry "$ne" operand.toJson) = entry path (entry "$ne" .null)
    rw [Json.isNull_iff.1 h]
  case eq | isNull => exact absurd hop (by decide)
  all_goals rfl

/-! ## Reading conjunctions -/

namespace Document

/-- The condition of a query document for one filter. -/
def Match.ofQuery : Json → Match
  | .obj [(path, form)] => ofForm path form
  | _ => .all []

/-- The conditions of a query document for several filters. -/
def Match.conjunctsOf : Json → List Match
  | .obj [("$and", .arr queries)] => queries.map ofQuery
  | query => [ofQuery query]

/-- A filter that is told by what is sent for it is read back. -/
theorem Match.ofQuery_queryJson {filter : Filter} (h : filter.IsTold) :
    ofQuery filter.toMatch.queryJson = filter.toMatch := by
  obtain ⟨form, hform, hread, -⟩ := h.exists_form
  rw [hform]
  exact hread

/-- A filter that is sent alone is no conjunction. -/
theorem Match.conjunctsOf_queryJson {filter : Filter} (h : filter.IsTold) :
    conjunctsOf filter.toMatch.queryJson = [filter.toMatch] := by
  obtain ⟨form, hform, hread, hand⟩ := h.exists_form
  rw [hform, entry, conjunctsOf]
  · exact congrArg (fun condition => [condition]) hread
  · -- only the field that has the name of the operator could look like one, and its operand is no
    -- array
    rintro items h
    obtain ⟨hfield, rfl⟩ := by simpa using h
    exact absurd (hand hfield) (by simp [Json.arr?])

/-- Conditions are sent one by one. -/
theorem Match.queryJsonOfAll_eq_map (conditions : List Match) :
    queryJsonOfAll conditions = conditions.map queryJson := by
  induction conditions with
  | nil => rfl
  | cons condition conditions ih => rw [queryJsonOfAll, ih, List.map_cons]

/-- Filters that are told by what is sent for them are all read back. -/
theorem Match.map_ofQuery {filters : List Filter} (h : ∀ filter ∈ filters, filter.IsTold) :
    ((filters.map Filter.toMatch).map queryJson).map ofQuery = filters.map Filter.toMatch := by
  simp only [List.map_map]
  exact List.map_congr_left fun filter hfilter => ofQuery_queryJson (h filter hfilter)

/-- The query document of several conditions. -/
def sent (conditions : List Match) : Option Json := (conjunction? conditions).map Match.queryJson

/-- Filters that are told by what is sent for them are told by their conjunction. -/
theorem elim_sent {filters : List Filter} (h : ∀ filter ∈ filters, filter.IsTold) :
    (sent (filters.map Filter.toMatch)).elim [] Match.conjunctsOf = filters.map Filter.toMatch := by
  -- nothing is sent for no filter, one is sent as it stands, several as a conjunction
  match filters with
  | [] => rfl
  | [filter] => exact Match.conjunctsOf_queryJson (h filter List.mem_cons_self)
  | first :: second :: filters =>
    have hmap := Match.map_ofQuery h
    rw [← Match.queryJsonOfAll_eq_map] at hmap
    exact hmap

/-- A conjunction with at least one condition gives what is sent for each of its conditions. -/
theorem map_queryJson_of_sent {first : Match} {as bs : List Match}
    (h : sent (first :: as) = sent (first :: bs)) :
    as.map Match.queryJson = bs.map Match.queryJson := by
  -- a condition is not sent as a conjunction that holds it
  have hlonger (next : Match) (rest : List Match) :
      sent [first] ≠ sent (first :: next :: rest) := by
    intro h
    have hsize := congrArg sizeOf (Option.some.inj h)
    simp [Match.queryJson, Match.queryJsonOfAll, entry] at hsize
    omega
  match as, bs with
  | [], [] => rfl
  | [], next :: rest => exact absurd h (hlonger next rest)
  | next :: rest, [] => exact absurd h.symm (hlonger next rest)
  | a :: as, b :: bs =>
    have hjson := Option.some.inj h
    simp only [Match.queryJson, entry, Json.obj.injEq, List.cons.injEq, Prod.mk.injEq,
      Json.arr.injEq, true_and, and_true, Match.queryJsonOfAll_eq_map, List.map_cons] at hjson
    rw [List.map_cons, List.map_cons, hjson.1, hjson.2]

/-- Behind the same conditions, filters that are told by what is sent for them are told by the
conjunction. -/
theorem map_toMatch_eq_of_sent (shared : List Match) {fs gs : List Filter}
    (hfs : ∀ filter ∈ fs, filter.IsTold) (hgs : ∀ filter ∈ gs, filter.IsTold)
    (h : sent (shared ++ fs.map Filter.toMatch) = sent (shared ++ gs.map Filter.toMatch)) :
    fs.map Filter.toMatch = gs.map Filter.toMatch := by
  cases shared with
  | nil =>
    have hread := congrArg (Option.elim · [] Match.conjunctsOf) h
    simp only [List.nil_append, elim_sent hfs, elim_sent hgs] at hread
    exact hread
  | cons first shared =>
    rw [List.cons_append, List.cons_append] at h
    have hqueries := map_queryJson_of_sent h
    rw [List.map_append, List.map_append] at hqueries
    have hread := congrArg (List.map Match.ofQuery) (List.append_cancel_left hqueries)
    rwa [Match.map_ofQuery hfs, Match.map_ofQuery hgs] at hread

end Document

/-! ## Filters that are read -/

/-- A value that is told by its form and is not null is not written as null. -/
theorem Value.isNull_toJson {v : Value} (hback : v.ReadsBack) (hnull : v.isNull = false) :
    v.toJson.isNull = false :=
  Bool.eq_false_iff.2 fun h => toJson_ne_null hback hnull (Json.isNull_iff.1 h)

/-- An array is told by its form if its items are. -/
theorem Value.readsBack_array {items : List Value} (h : ∀ v ∈ items, v.ReadsBack) :
    (Value.array items).ReadsBack := by
  rw [ReadsBack, toJson, ofJson, untimed]
  congr 1
  induction items with
  | nil => rfl
  | cons item items ih =>
    rw [List.forall_mem_cons] at h
    rw [toJsonItems, ofJsonItems, untimedItems, h.1, ih h.2]

/-- The operand of each filter of a set of operators is told by its JSON form. -/
theorem OperatorSet.readsBack_of_mem_filters {set : OperatorSet} (hback : set.OperandsReadBack)
    {field : String} {filter : Filter} (h : filter ∈ set.filters field) :
    filter.operand.ReadsBack ∧ filter.operator.takes filter.operand.toJson = true := by
  -- operands of one kind are read back alike
  have hsingle {operand : Option Value}
      (hmem : operand ∈ [set.eq, set.ne, set.gt, set.ge, set.lt, set.le]) {v : Value}
      (hv : operand = some v) : v.ReadsBack ∧ (!v.toJson.isNull) = true := by
    obtain ⟨hread, hnull⟩ := hback.single operand hmem v hv
    exact ⟨hread, by rw [Value.isNull_toJson hread hnull]; rfl⟩
  have hlisted {operand : Option (List Value)} (hmem : operand ∈ [set.oneOf, set.noneOf])
      {v : Value} (hv : ∃ items, operand = some items ∧ .array items = v) :
      v.ReadsBack ∧ v.toJson.arr?.isSome = true := by
    obtain ⟨items, hitems, rfl⟩ := hv
    exact ⟨Value.readsBack_array (hback.listed operand hmem items hitems), rfl⟩
  simp only [OperatorSet.filters, List.mem_append, List.mem_map, Option.mem_toList,
    Option.map_eq_some_iff] at h
  -- one case for each operator, in the order of the filters
  rcases h with ((((((((h | h) | h) | h) | h) | h) | h) | h) | h) | ⟨present, -, rfl⟩
  case inr => cases present <;> exact ⟨rfl, rfl⟩
  all_goals obtain ⟨v, hv, rfl⟩ := h
  case inl.inr =>
    obtain ⟨pattern, -, rfl⟩ := hv
    exact ⟨rfl, rfl⟩
  case inl.inl.inr => exact hlisted (by simp) hv
  case inl.inl.inl.inr => exact hlisted (by simp) hv
  all_goals exact hsingle (by simp) hv

/-- The operand of each filter of a condition is told by its form, which the operator takes. -/
theorem Condition.readsBack_of_mem_filters {condition : Condition}
    (hback : condition.OperandsReadBack) {field : String} {filter : Filter}
    (h : filter ∈ condition.filters field) :
    filter.operand.ReadsBack ∧ filter.operator.takes filter.operand.toJson = true := by
  cases condition with
  | operators set => exact OperatorSet.readsBack_of_mem_filters hback h
  | equals value =>
    cases value <;> simp only [filters, List.mem_singleton] at h <;> subst h
    case null | array => exact ⟨hback, rfl⟩
    all_goals exact ⟨hback, by rw [Operator.takes, Value.isNull_toJson hback rfl]; rfl⟩

/-- The filters of a condition that is read from a text have operands that are told by their JSON
forms. -/
theorem Condition.isRead_of_mem_filters {j : Json} {condition : Condition}
    (hrange : j.isInRange = true) (hread : ofJson? j = some condition) {field : String}
    {filter : Filter} (h : filter ∈ condition.filters field) : filter.IsRead := by
  obtain ⟨hback, htakes⟩ := readsBack_of_mem_filters (operandsReadBack_of_ofJson? hrange hread) h
  have huntimed := condition.filters_untimed field
  rw [untimed_of_ofJson? hread] at huntimed
  have hfilter : filter.untimed = filter :=
    List.map_inj_left.1 (huntimed.symm.trans (List.map_id _).symm) filter h
  exact ⟨hback.trans (congrArg Filter.operand hfilter), htakes⟩

/-- So is that of each filter of conditions that are read. -/
theorem Conditions.isRead_of_mem_filters {j : Json} {conditions : Conditions}
    (hrange : j.isInRange = true) (hread : ofJson? j = some conditions) {filter : Filter}
    (h : filter ∈ Conditions.filters conditions) : filter.IsRead := by
  obtain ⟨entry, hentry, hfilter⟩ := List.mem_flatMap.1 h
  obtain ⟨part, hpart, hcondition⟩ := exists_part_of_mem hread hentry
  exact Condition.isRead_of_mem_filters (Json.isInRange_of_mem_parts hrange hpart) hcondition
    hfilter

namespace Descriptor

/-- The filters of a descriptor that is parsed have operands that are told by their JSON forms. -/
theorem isRead_of_parse {text : String} {d : Descriptor} (h : parse text = .ok d) :
    ∀ filter ∈ Conditions.filters d.conditions, filter.IsRead := by
  obtain ⟨j, hj, hd⟩ := Option.bind_eq_some_iff.1 (parse_eq_ok_iff.1 h).1
  have hrange := Json.isInRange_of_outline? hj
  simp only [ofJson?, Option.bind_eq_bind, Option.bind_eq_some_iff] at hd
  obtain ⟨slots, hslots, conditions, hconditions, joins, -, aggregations, -, groupBy, -,
    sort, -, select, -, pagination, -, search, -, relations, -, hd⟩ := hd
  obtain rfl := Option.some.inj hd
  -- without conditions there are no filters
  rcases Json.eq_or_exists_of_orElse? hconditions with rfl | ⟨part, hfind, hread⟩
  · exact fun filter hfilter => absurd hfilter List.not_mem_nil
  · exact fun filter hfilter => Conditions.isRead_of_mem_filters
      (Json.isInRange_of_mem_parts hrange (Json.mem_parts_of_find? hslots hfind)) hread hfilter

end Descriptor

/-! ## Pipelines -/

namespace Document

/-- The condition of a stage that filters. -/
def Stage.condition? : Stage → Option Match
  | .filter condition => some condition
  | _ => none

/-- The conditions by which a pipeline filters. -/
def Pipeline.conditions (pipeline : Pipeline) : List Match :=
  pipeline.stages.filterMap Stage.condition?

/-- Whether a stage that is sent filters. -/
def isMatchStage : Json → Bool
  | .obj [(name, _)] => name == "$match"
  | _ => false

/-- The stages that filter among those that are sent for a pipeline. -/
def Pipeline.matchStages (pipeline : Pipeline) : List Json :=
  (pipeline.toJson.arr?.getD []).filter isMatchStage

/-- Of what is sent for a stage only the condition of a filter stage filters. -/
theorem Stage.filter_toJson (stage : Stage) : stage.toJson.filter isMatchStage =
    stage.condition?.toList.map fun condition => entry "$match" condition.queryJson := by
  cases stage <;> rfl

/-- One stage is sent for each condition by which a pipeline filters. -/
theorem Pipeline.matchStages_eq (pipeline : Pipeline) : pipeline.matchStages =
    pipeline.conditions.map fun condition => entry "$match" condition.queryJson := by
  obtain ⟨stages, populate⟩ := pipeline
  change (Stage.toJsonOfAll stages).filter isMatchStage = (stages.filterMap Stage.condition?).map _
  induction stages with
  | nil => rfl
  | cons stage stages ih =>
    rw [Stage.toJsonOfAll, List.filter_append, ih, Stage.filter_toJson, List.filterMap_cons]
    cases stage.condition? <;> rfl

/-- Conditions that are sent as equal stages are sent as equal documents. -/
theorem queryJson_eq_of_stages {a b : Option Match}
    (h : (a.toList.map fun condition => entry "$match" condition.queryJson) =
      b.toList.map fun condition => entry "$match" condition.queryJson) :
    a.map Match.queryJson = b.map Match.queryJson := by
  cases a <;> cases b <;> simp only [Option.toList_none, Option.toList_some, List.map_nil,
    List.map_cons, entry, List.cons.injEq, Json.obj.injEq, Prod.mk.injEq, true_and, and_true,
    reduceCtorEq] at h ⊢
  rw [Option.map_some, Option.map_some, h]

end Document

namespace Descriptor

/-- A descriptor that is parsed and has conditions, but neither joins nor a search. -/
structure HasConditionsOnly (d : Descriptor) : Prop where
  parsed : ∃ text, parse text = .ok d
  joins : d.joins = []
  search : d.search = none

variable {ctx : QueryContext} {d d₁ d₂ : Descriptor}

/-- The stages that group, sort and select do not filter. -/
theorem filterMap_shapeStages : (d.shapeStages ctx).filterMap Stage.condition? = [] := by
  simp only [shapeStages, groupStage, List.filterMap_append, List.append_eq_nil_iff]
  constructor
  · split <;> rfl
  · split <;> rw [List.filterMap_append] <;> split <;> split <;> rfl

/-- Without joins all conditions are asked in one stage. -/
theorem HasConditionsOnly.filterStages_eq (h : d.HasConditionsOnly) :
    d.filterStages ctx = filterStage ((d.filtersOn ctx).map Filter.toMatch) := by
  have hjoins : d.joinsOn ctx.entity = [] := by rw [joinsOn, h.joins, JoinSpec.carriedOut]
  have hplan : SearchPlan.of? d.search ctx.searchConfig = none := by rw [h.search]; rfl
  have hleads (path : String) : Text.leadsFrom (d.aliasesOn ctx) path = false := by
    rw [aliasesOn, hjoins, Text.leadsFrom]
    exact Bool.and_false _
  rw [Descriptor.filterStages_eq, earlyConditions, lateConditions, hjoins, hplan]
  simp [hleads, filterStage, conjunction?]

/-- A descriptor with conditions only filters by their conjunction, and by nothing where there are
none. -/
theorem HasConditionsOnly.conditions_pipeline (h : d.HasConditionsOnly) :
    (d.pipeline ctx).conditions =
      (conjunction? ((d.filtersOn ctx).map Filter.toMatch)).toList := by
  rw [Pipeline.conditions, pipeline, List.filterMap_append, List.filterMap_append,
    filterMap_shapeStages, h.filterStages_eq, filterStage]
  cases conjunction? ((d.filtersOn ctx).map Filter.toMatch) <;> cases d.pagination <;> rfl

/-- Equal filter stages mean that the conjunctions are sent alike. -/
theorem HasConditionsOnly.sent_eq (h₁ : d₁.HasConditionsOnly) (h₂ : d₂.HasConditionsOnly)
    (hsent : (d₁.pipeline ctx).matchStages = (d₂.pipeline ctx).matchStages) :
    sent ((d₁.filtersOn ctx).map Filter.toMatch) =
      sent ((d₂.filtersOn ctx).map Filter.toMatch) := by
  rw [Pipeline.matchStages_eq, Pipeline.matchStages_eq, h₁.conditions_pipeline,
    h₂.conditions_pipeline] at hsent
  exact queryJson_eq_of_stages hsent

/-- The filters of the caller that the server does not drop are told by what is sent for them. -/
theorem HasConditionsOnly.isTold (h : d.HasConditionsOnly)
    (hplain : ∀ filter ∈ Conditions.filters d.conditions, filter.isPlain = true)
    (server : Conditions) :
    ∀ filter ∈ Conditions.filters (d.conditions.filter fun entry =>
      !Keyed.contains server entry.1), filter.IsTold := by
  intro filter hfilter
  obtain ⟨text, htext⟩ := h.parsed
  have hmem : filter ∈ Conditions.filters d.conditions := by
    obtain ⟨entry, hentry, hfilter⟩ := List.mem_flatMap.1 hfilter
    exact List.mem_flatMap.2 ⟨entry, List.mem_of_mem_filter hentry, hfilter⟩
  exact ⟨(Conditions.mem_filters hmem).2, isRead_of_parse htext filter hmem, hplain filter hmem⟩

/-- Pipelines of descriptors that have conditions only filter by the same conditions if the stages
by which they are sent to filter are the same, and so accept the same documents. No operand of an
equality may have the form of an operator, and no array may be equal to the field `$and`. -/
theorem conditions_eq_of_matchStages (h₁ : d₁.HasConditionsOnly) (h₂ : d₂.HasConditionsOnly)
    (hplain₁ : ∀ filter ∈ Conditions.filters d₁.conditions, filter.isPlain = true)
    (hplain₂ : ∀ filter ∈ Conditions.filters d₂.conditions, filter.isPlain = true)
    (hsent : (d₁.pipeline ctx).matchStages = (d₂.pipeline ctx).matchStages) :
    (d₁.pipeline ctx).conditions = (d₂.pipeline ctx).conditions ∧
      ∀ row, ((d₁.pipeline ctx).conditions.all fun condition => condition.holds row) =
        (d₂.pipeline ctx).conditions.all fun condition => condition.holds row := by
  have hquery := h₁.sent_eq h₂ hsent
  have hconditions : (d₁.filtersOn ctx).map Filter.toMatch =
      (d₂.filtersOn ctx).map Filter.toMatch := by
    simp only [filtersOn, mergeConditions, List.map_append] at hquery ⊢
    rw [map_toMatch_eq_of_sent _ (h₁.isTold hplain₁ _) (h₂.isTold hplain₂ _) hquery]
  have hsame : (d₁.pipeline ctx).conditions = (d₂.pipeline ctx).conditions := by
    rw [h₁.conditions_pipeline, h₂.conditions_pipeline, hconditions]
  exact ⟨hsame, fun row => by rw [hsame]⟩

/-! ## One field -/

/-- An equality as a bare value. -/
def bareOne : Descriptor := { conditions := [("n", .equals (.int 1))] }

/-- An equality under its operator. -/
def namedOne : Descriptor := { conditions := [("n", .operators { eq := some (.int 1) })] }

/-- The text of an equality as a bare value. -/
theorem parse_bareOne : parse "\x7b\"conditions\":\x7b\"n\":1\x7d\x7d" = .ok bareOne := by
  cbv

/-- The text of the same equality under its operator. -/
theorem parse_namedOne :
    parse "\x7b\"conditions\":\x7b\"n\":\x7b\"eq\":1\x7d\x7d\x7d" = .ok namedOne := by
  cbv

/-- An equality is sent alike however it is written, and accepts the same documents. -/
theorem conditions_eq_of_matchStages_one :
    (bareOne.pipeline { entity := "users" }).conditions =
        (namedOne.pipeline { entity := "users" }).conditions ∧
      ∀ row, ((bareOne.pipeline { entity := "users" }).conditions.all
          fun condition => condition.holds row) =
        (namedOne.pipeline { entity := "users" }).conditions.all
          fun condition => condition.holds row :=
  conditions_eq_of_matchStages ⟨⟨_, parse_bareOne⟩, rfl, rfl⟩ ⟨⟨_, parse_namedOne⟩, rfl, rfl⟩
    (by decide) (by decide) rfl

/-- An equality with an object whose only key is the name of an operator. -/
def namedOperand : Descriptor :=
  { conditions := [("deletedAt", .equals (.object [("$ne", .null)]))] }

/-- The check that a field has a value. -/
def presence : Descriptor :=
  { conditions := [("deletedAt", .operators { isPresent := some true })] }

/-- The text of an equality with an object that has the form of an operator. -/
theorem parse_namedOperand :
    parse "\x7b\"conditions\":\x7b\"deletedAt\":\x7b\"$ne\":null\x7d\x7d\x7d" =
      .ok namedOperand := by
  cbv

/-- The text of the check that a field has a value. -/
theorem parse_presence :
    parse "\x7b\"conditions\":\x7b\"deletedAt\":\x7b\"exists\":true\x7d\x7d\x7d" =
      .ok presence := by
  cbv

/-- An equality with an operator's form is sent as the operator, which accepts other documents. -/
theorem matchStages_namedOperand :
    namedOperand.HasConditionsOnly ∧ presence.HasConditionsOnly ∧
      (namedOperand.pipeline { entity := "users" }).matchStages =
        (presence.pipeline { entity := "users" }).matchStages ∧
      ((namedOperand.pipeline { entity := "users" }).conditions.all
        fun condition => condition.holds [("deletedAt", .int 1)]) = false ∧
      ((presence.pipeline { entity := "users" }).conditions.all
        fun condition => condition.holds [("deletedAt", .int 1)]) = true :=
  ⟨⟨⟨_, parse_namedOperand⟩, rfl, rfl⟩, ⟨⟨_, parse_presence⟩, rfl, rfl⟩, rfl, by decide, by decide⟩

end Descriptor

end DualQuery
