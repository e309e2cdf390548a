import DualQuery.Proofs.LawfulQueries

/-!
# Conditions on aliases

The relational plans ask every condition of the joined rows. A pipeline does so with the conditions
on fields under an alias, and with those on fields that no join touches it makes no difference. A
condition on an alias itself has no dot and so does not lead into a join: it is asked in front of
the lookups, of a field that the record has on its own, and not of what is joined.

`Descriptor.joinedBetween` is what both have in common, rows that are joined between two lists of
filters. Plans and pipeline differ only in where the filters on an alias itself stand.

## Key results

- `Descriptor.filteredDocuments_eq_joinedBetween`: where a pipeline asks which filter
- `Descriptor.conditions_asked_after_joins`: both languages, left and inner joins
- `Descriptor.condition_on_alias_asked_too_early`: a condition that the joined row meets
-/

namespace DualQuery

open Document Relational

namespace Descriptor

variable {ctx : QueryContext} {d : Descriptor}

/-! ## Filters on an alias itself -/

/-- The rows that meet some filters, joined, as far as they then meet some others. -/
def joinedBetween [Hashing] (ctx : QueryContext) (d : Descriptor) (store : Store)
    (before after : List Filter) : Except StoreError (List Record) :=
  (store.scan ctx.entity).bind fun rows =>
    (JoinSpec.extendAll store (d.joinsOn ctx.entity)
        (rows.filter fun row => before.all fun filter => filter.accepts row)).map
      (·.filter fun row => after.all fun filter => filter.accepts row)

/-- The filters whose field is the alias of a join. -/
def filtersOnAlias (ctx : QueryContext) (d : Descriptor) : List Filter :=
  (d.filtersOn ctx).filter fun filter => (d.aliasesOn ctx).contains filter.field

/-- The filters whose field is not the alias of a join. It may lead into one. -/
def filtersOffAlias (ctx : QueryContext) (d : Descriptor) : List Filter :=
  (d.filtersOn ctx).filter fun filter => !(d.aliasesOn ctx).contains filter.field

/-- Where no filter is on an alias there is none to ask too early. -/
theorem filtersOnAlias_eq_nil
    (halias : ∀ filter ∈ d.filtersOn ctx, filter.field ∉ d.aliasesOn ctx) :
    d.filtersOnAlias ctx = [] :=
  List.filter_eq_nil_iff.2 fun filter hfilter => by simpa using halias filter hfilter

/-- Where no filter is on an alias all of them are asked of what was joined. -/
theorem filtersOffAlias_eq_filtersOn
    (halias : ∀ filter ∈ d.filtersOn ctx, filter.field ∉ d.aliasesOn ctx) :
    d.filtersOffAlias ctx = d.filtersOn ctx :=
  List.filter_eq_self.2 fun filter hfilter => by simpa using halias filter hfilter

/-! ## Plans -/

/-- A plan asks all filters of the joined rows. -/
theorem filteredRows_eq_joinedBetween [Hashing] (store : Store)
    (hright : ∀ join ∈ d.joinsOn ctx.entity, join.joinType.keepsRight = false)
    (hsearch : SearchPlan.of? d.search ctx.searchConfig = none) :
    (d.relationalPlans ctx).data.filteredRows store =
        d.joinedBetween ctx store [] (d.filtersOn ctx) ∧
      (d.relationalPlans ctx).count.filteredRows store =
        d.joinedBetween ctx store [] (d.filtersOn ctx) := by
  have hmeets : ∀ params row, d.meetsSearch ctx params row = true := fun params row => by
    rw [meetsSearch, hsearch]
    rfl
  have hkeep : ∀ rows : List Record,
      (rows.filter fun row => [].all fun filter : Filter => filter.accepts row) = rows :=
    fun rows => List.filter_eq_self.2 fun _ _ => rfl
  rw [filteredRows_data _ _ _ hright, filteredRows_count _ _ _ hright, joinedBetween]
  simp only [hmeets, Bool.and_true, hkeep, and_self]

/-! ## Pipelines -/

section Pipeline

variable (hdot : ∀ join ∈ d.joinsOn ctx.entity, Text.isDotted join.aliasName = false)
  (hsearch : SearchPlan.of? d.search ctx.searchConfig = none)

include hdot

/-- A field that leads into a join has a dot and its alias has none. -/
theorem not_mem_aliasesOn_of_leadsFrom {field : String}
    (h : Text.leadsFrom (d.aliasesOn ctx) field = true) : field ∉ d.aliasesOn ctx := by
  intro hmem
  obtain ⟨join, hjoin, rfl⟩ := List.mem_map.1 hmem
  rw [Text.leadsFrom, hdot join hjoin, Bool.false_and] at h
  exact Bool.false_ne_true h

include hsearch

/-- The early conditions are the filters on an alias and those that no join has to do with. -/
theorem all_earlyConditions_eq (row : Record) :
    ((d.earlyConditions ctx).all fun condition => condition.holds row) =
      ((d.filtersOnAlias ctx).all (fun filter => filter.accepts row) &&
        ((d.filtersOffAlias ctx).filter fun filter =>
          !Text.leadsFrom (d.aliasesOn ctx) filter.field).all fun filter =>
            filter.accepts row) := by
  rw [all_earlyConditions hsearch, filtersOnAlias, filtersOffAlias, Bool.eq_iff_iff]
  simp only [Bool.and_eq_true, List.all_eq_true, List.mem_filter, Bool.not_eq_true',
    List.contains_iff_mem]
  constructor
  · intro h
    refine ⟨fun filter hfilter => h filter ⟨hfilter.1, ?_⟩,
      fun filter hfilter => h filter ⟨hfilter.1.1, hfilter.2⟩⟩
    rw [← Bool.not_eq_true]
    exact fun hlead => not_mem_aliasesOn_of_leadsFrom hdot hlead hfilter.2
  · rintro ⟨hon, hoff⟩ filter ⟨hfilter, hlead⟩
    -- a filter in front of the joins is on an alias or has nothing to do with one
    cases hcontains : (d.aliasesOn ctx).contains filter.field with
    | true => exact hon filter ⟨hfilter, List.contains_iff_mem.1 hcontains⟩
    | false => exact hoff filter ⟨⟨hfilter, hcontains⟩, hlead⟩

/-- The late conditions are the other filters. -/
theorem all_lateConditions_eq (row : Record) :
    ((d.lateConditions ctx).all fun condition => condition.holds row) =
      ((d.filtersOffAlias ctx).filter fun filter =>
        Text.leadsFrom (d.aliasesOn ctx) filter.field).all fun filter => filter.accepts row := by
  have hlate : ((d.filtersOffAlias ctx).filter fun filter =>
        Text.leadsFrom (d.aliasesOn ctx) filter.field) =
      (d.filtersOn ctx).filter fun filter => Text.leadsFrom (d.aliasesOn ctx) filter.field := by
    rw [filtersOffAlias, List.filter_filter]
    refine List.filter_congr fun filter _ => ?_
    cases hlead : Text.leadsFrom (d.aliasesOn ctx) filter.field with
    | false => rfl
    | true => simpa using not_mem_aliasesOn_of_leadsFrom hdot hlead
  rw [all_lateConditions hsearch, hlate]

omit hdot hsearch in
/-- A filter that is neither on an alias nor leads into a join reads a field that no join
touches. -/
theorem accepts_of_mem_extend [Hashing] {filter : Filter} (hoff : filter ∈ d.filtersOffAlias ctx)
    (hlead : Text.leadsFrom (d.aliasesOn ctx) filter.field = false) {join : JoinSpec}
    (hjoin : join ∈ d.joinsOn ctx.entity) {source : List Record} {row out : Record}
    (hout : out ∈ join.extend source row) : filter.accepts out = filter.accepts row := by
  have hfield : filter.field ∉ d.aliasesOn ctx := by
    simpa using (List.mem_filter.1 hoff).2
  have hroot : filter.root ≠ join.aliasName := by
    intro heq
    have hin : filter.root ∈ d.aliasesOn ctx := heq ▸ List.mem_map_of_mem hjoin
    exact Text.root_not_mem_of_not_leadsFrom hlead hfield hin
  exact filter.accepts_congr (JoinSpec.get?_of_mem_extend hout hroot)

/-- A pipeline asks the filters on an alias itself before it joins, and all others as if it had
joined. -/
theorem filteredDocuments_eq_joinedBetween [Hashing] (store : Store)
    (hright : ∀ join ∈ d.joinsOn ctx.entity, join.joinType.keepsRight = false) :
    d.filteredDocuments ctx store =
      d.joinedBetween ctx store (d.filtersOnAlias ctx) (d.filtersOffAlias ctx) := by
  rw [filteredDocuments, joinedBetween]
  cases store.scan ctx.entity with
  | error e => rfl
  | ok rows =>
    simp only [Except.bind]
    -- a field that leads into no join reads the same in front of the joins and behind them
    have huntouched : ∀ join ∈ d.joinsOn ctx.entity, ∀ source row,
        ∀ out ∈ join.extend source row,
          (((d.filtersOffAlias ctx).filter fun filter =>
            !Text.leadsFrom (d.aliasesOn ctx) filter.field).all fun filter =>
              filter.accepts out) =
          (((d.filtersOffAlias ctx).filter fun filter =>
            !Text.leadsFrom (d.aliasesOn ctx) filter.field).all fun filter =>
              filter.accepts row) := by
      intro join hjoin source row out hout
      rw [Bool.eq_iff_iff, List.all_eq_true, List.all_eq_true]
      refine forall₂_congr fun filter hfilter => ?_
      obtain ⟨hoff, hlead⟩ := List.mem_filter.1 hfilter
      rw [accepts_of_mem_extend hoff (by simpa using hlead) hjoin hout]
    -- the early conditions on untouched fields move behind the joins and meet the late ones
    have hsplit : (rows.filter fun row =>
          (d.earlyConditions ctx).all fun condition => condition.holds row) =
        (rows.filter fun row => (d.filtersOnAlias ctx).all fun filter =>
          filter.accepts row).filter fun row =>
            ((d.filtersOffAlias ctx).filter fun filter =>
              !Text.leadsFrom (d.aliasesOn ctx) filter.field).all fun filter =>
                filter.accepts row := by
      rw [List.filter_filter]
      refine List.filter_congr fun row _ => ?_
      rw [all_earlyConditions_eq hdot hsearch, Bool.and_comm]
    rw [runAll_filterStages, runAll_joinStages store hdot hright, hsplit,
      JoinSpec.extendAll_filter store huntouched]
    cases JoinSpec.extendAll store (d.joinsOn ctx.entity) _ with
    | error e => rfl
    | ok joined =>
      simp only [Except.map, List.filter_filter, Except.ok.injEq]
      refine List.filter_congr fun row _ => ?_
      rw [all_lateConditions_eq hdot hsearch, Bool.eq_iff_iff]
      simp only [Bool.and_eq_true, List.all_eq_true, List.mem_filter, Bool.not_eq_true']
      refine ⟨fun h filter hfilter => ?_, fun h =>
        ⟨fun filter hfilter => h filter hfilter.1, fun filter hfilter => h filter hfilter.1⟩⟩
      -- a condition is asked among the late ones, or among those that moved behind the joins
      cases hlead : Text.leadsFrom (d.aliasesOn ctx) filter.field with
      | true => exact h.1 filter ⟨hfilter, hlead⟩
      | false => exact h.2 filter ⟨hfilter, hlead⟩

end Pipeline

/-- Without a search, and with left and inner joins whose aliases have no dot, the plans ask every
filter of the joined rows, and a pipeline all but those on an alias itself, which it asks of the
records before they are joined. Where no filter is on an alias itself, plans and pipeline filter the
same rows, each with hash maps of its own, as long as no value that is looked up equals two keys
that differ. -/
theorem conditions_asked_after_joins (s t : Hashing) (store : Store) (ctx : QueryContext)
    (d : Descriptor)
    (hjoins : ∀ join ∈ d.joinsOn ctx.entity,
      (join.joinType = .left ∨ join.joinType = .inner) ∧ Text.isDotted join.aliasName = false)
    (hsearch : SearchPlan.of? d.search ctx.searchConfig = none) :
    @Plan.filteredRows s (d.relationalPlans ctx).data store =
        @joinedBetween s ctx d store [] (d.filtersOn ctx) ∧
      @Plan.filteredRows s (d.relationalPlans ctx).count store =
        @joinedBetween s ctx d store [] (d.filtersOn ctx) ∧
      @filteredDocuments ctx d t store =
        @joinedBetween t ctx d store (d.filtersOnAlias ctx) (d.filtersOffAlias ctx) ∧
      ((∀ filter ∈ d.filtersOn ctx, filter.field ∉ d.aliasesOn ctx) →
        @Plan.HasLawfulKeys s (d.relationalPlans ctx).data store →
        @filteredDocuments ctx d t store =
          @Plan.filteredRows s (d.relationalPlans ctx).data store) := by
  have hdot : ∀ join ∈ d.joinsOn ctx.entity, Text.isDotted join.aliasName = false :=
    fun join hjoin => (hjoins join hjoin).2
  have hright : ∀ join ∈ d.joinsOn ctx.entity, join.joinType.keepsRight = false :=
    fun join hjoin => by rcases (hjoins join hjoin).1 with h | h <;> rw [h] <;> rfl
  have hplans := fun s : Hashing => @filteredRows_eq_joinedBetween ctx d s store hright hsearch
  have hdocuments := @filteredDocuments_eq_joinedBetween ctx d hdot hsearch t store hright
  refine ⟨(hplans s).1, (hplans s).2, hdocuments, fun halias hlawful => ?_⟩
  rw [hdocuments, filtersOnAlias_eq_nil halias, filtersOffAlias_eq_filtersOn halias,
    Plan.filteredRows_eq_of_lawful hlawful t, (hplans t).1]

/-! ## A condition on an alias -/

/-- A user with one order and a user without any. -/
def orderStore : Store where
  tables := [("orders", [[("total", .int 5), ("user", .int 1)]]),
    ("users", [[("id", .int 1)], [("id", .int 2)]])]

/-- Users and their orders, with a condition on a field of the joined rows. -/
def orderQuery (field : String) (joinType : JoinType) : Descriptor where
  joins :=
    [{ source := "orders", localField := "id", foreignField := "user", label := some "order",
       joinType := joinType }]
  conditions := [(field, .operators { isPresent := some true })]

/-- The context of users. -/
def userContext : QueryContext where
  entity := "users"

/-- A condition under an alias, below a left join that finds the order. -/
theorem conditions_asked_after_joins_under_order :
    (orderQuery "order.total" .left).filteredDocuments userContext orderStore =
        .ok [[("id", .int 1), ("order", .object [("total", .int 5), ("user", .int 1)])]] ∧
      (orderQuery "order.total" .left).filteredDocuments userContext orderStore =
        ((orderQuery "order.total" .left).relationalPlans userContext).data.filteredRows
          orderStore := by
  have h := conditions_asked_after_joins .firstFound .firstFound orderStore userContext
    (orderQuery "order.total" .left) (by decide) (by decide)
  exact ⟨by rfl, h.2.2.2 (by decide) (by decide)⟩

/-- That there is an order is asked of the joined rows by the plans, and of users that have none yet
by the pipeline, which returns nobody. -/
theorem condition_on_alias_asked_too_early :
    ((orderQuery "order" .inner).relationalPlans userContext).data.filteredRows orderStore =
        .ok [[("id", .int 1), ("order", .object [("total", .int 5), ("user", .int 1)])]] ∧
      (orderQuery "order" .inner).filteredDocuments userContext orderStore = .ok [] :=
  ⟨by rfl, by rfl⟩

end Descriptor

end DualQuery
