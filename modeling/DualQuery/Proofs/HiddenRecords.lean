import DualQuery.Proofs.LawfulQueries

/-!
# Hidden records

The server's conditions hide records of the entity. A record is hidden where its own fields fail one
of the conditions; `QueryContext.visible` is the store without these records.

A condition is asked of the entity's records as long as no join of the caller goes under the first
segment of its field. Then hidden records have no influence on the answer. A condition on a field
under an alias is asked of the joined record instead, and says nothing about the field of the same
name that the entity has.

## Key results

- `Descriptor.hidden_records_have_no_influence`: both languages, left and inner joins with other
  tables
- `Descriptor.hidden_record_shows_under_alias`: a caller's alias takes the place of a condition's
  field
-/

namespace DualQuery

open Document Relational

/-! ## Restricted stores -/

namespace Store

/-- The store with only some records of a table. -/
def restrict (store : Store) (name : String) (keep : Record → Bool) : Store :=
  { store with
    tables := store.tables.map fun (table, rows) =>
      (table, if table = name then rows.filter keep else rows) }

/-- The rows of a table of a restricted store. -/
private theorem get?_restrict (store : Store) (name : String) (keep : Record → Bool)
    (table : String) :
    Keyed.get? (store.restrict name keep).tables table =
      (Keyed.get? store.tables table).map fun rows =>
        if table = name then rows.filter keep else rows := by
  rw [restrict]
  simp only
  -- the names stay as they are, so the search stops at the same table
  induction store.tables with
  | nil => rfl
  | cons entry entries ih =>
    rw [List.map_cons, Keyed.get?, Keyed.get?, ih]
    by_cases htable : entry.1 = table
    · simp [htable]
    · simp [htable]

/-- The restricted table has the records that are kept. -/
theorem scan_restrict_self (store : Store) (name : String) (keep : Record → Bool) :
    (store.restrict name keep).scan name = (store.scan name).map (·.filter keep) := by
  rw [scan, scan, get?_restrict]
  cases Keyed.get? store.tables name <;> simp [Except.map]

/-- Other tables are as they were. -/
theorem scan_restrict_of_ne (store : Store) {name table : String} (keep : Record → Bool)
    (h : table ≠ name) : (store.restrict name keep).scan table = store.scan table := by
  rw [scan, scan, get?_restrict]
  cases Keyed.get? store.tables table <;> simp [h]

end Store

/-- Joins read nothing but their sources. -/
theorem JoinSpec.extendAll_congr [Hashing] {store store' : Store} {joins : List JoinSpec}
    (h : ∀ join ∈ joins, store.scan join.source = store'.scan join.source) (rows : List Record) :
    extendAll store joins rows = extendAll store' joins rows := by
  induction joins generalizing rows with
  | nil => rfl
  | cons join joins ih =>
    rw [List.forall_mem_cons] at h
    rw [extendAll, extendAll, h.1]
    congr 1
    funext source
    exact ih h.2 _

/-- Lookups read nothing but their sources. -/
theorem Document.runAll_joinStages_congr [Hashing] {store store' : Store} {joins : List JoinSpec}
    (h : ∀ join ∈ joins, store.scan join.source = store'.scan join.source) (rows : List Record) :
    Stage.runAll store rows (joins.flatMap JoinSpec.stages) =
      Stage.runAll store' rows (joins.flatMap JoinSpec.stages) := by
  induction joins generalizing rows with
  | nil => rfl
  | cons join joins ih =>
    rw [List.forall_mem_cons] at h
    rw [List.flatMap_cons, runAll_append, runAll_append]
    -- a lookup scans its source and an unwind reads the rows only
    have hstages : Stage.runAll store rows join.stages = Stage.runAll store' rows join.stages := by
      simp only [JoinSpec.stages, Stage.runAll, Stage.run, h.1]
    rw [hstages]
    congr 1
    funext next
    exact ih h.2 next

/-! ## What the server hides -/

namespace QueryContext

/-- Whether a stored record meets the conditions of the server. -/
def admits (ctx : QueryContext) (row : Record) : Bool :=
  (Conditions.filters ctx.serverConditions).all fun filter => filter.accepts row

/-- The store without the records that the server's conditions hide. -/
def visible (ctx : QueryContext) (store : Store) : Store := store.restrict ctx.entity ctx.admits

end QueryContext

namespace Descriptor

variable {ctx : QueryContext} {d : Descriptor}

/-- The server's conditions are among the filters of every query. -/
theorem mem_filtersOn_of_server {filter : Filter}
    (h : filter ∈ Conditions.filters ctx.serverConditions) : filter ∈ d.filtersOn ctx :=
  List.mem_append_left _ h

/-- What the filters of a query accept the server does not hide. -/
theorem admits_of_filtersOn {row : Record}
    (h : (d.filtersOn ctx).all fun filter => filter.accepts row) : ctx.admits row := by
  rw [QueryContext.admits, List.all_eq_true]
  rw [List.all_eq_true] at h
  exact fun filter hfilter => h filter (mem_filtersOn_of_server hfilter)

/-- Where no condition of the server leads into a join they are all asked before joining. -/
theorem admits_of_earlyConditions
    (hlead : ∀ filter ∈ Conditions.filters ctx.serverConditions,
      Text.leadsFrom (d.aliasesOn ctx) filter.field = false) {row : Record}
    (h : (d.earlyConditions ctx).all fun condition => condition.holds row) : ctx.admits row := by
  rw [QueryContext.admits, List.all_eq_true]
  intro filter hfilter
  have hmem := mem_filtersOn_of_server (d := d) hfilter
  -- a condition of the server that leads into no join is among those that are asked first
  have hearly : filter.toMatch ∈ d.earlyConditions ctx := by
    refine List.mem_append_left _ (List.mem_map_of_mem (List.mem_filter.2 ⟨hmem, ?_⟩))
    rw [hlead filter hfilter]
    rfl
  rw [← Filter.holds_toMatch (d.hasOperand_of_mem_filtersOn ctx filter hmem)]
  exact List.all_eq_true.1 h _ hearly

/-- A weaker filter in front makes no difference. -/
private theorem filter_filter_of_imp {p q : Record → Bool} (h : ∀ row, p row → q row)
    (rows : List Record) : (rows.filter q).filter p = rows.filter p := by
  rw [List.filter_filter]
  refine List.filter_congr fun row _ => ?_
  cases hp : p row with
  | false => rfl
  | true => rw [h row hp]; rfl

/-- A pipeline filters the same documents with and without hidden records. -/
theorem filteredDocuments_visible [Hashing] (store : Store)
    (hsource : ∀ join ∈ d.joinsOn ctx.entity, join.source ≠ ctx.entity)
    (hlead : ∀ filter ∈ Conditions.filters ctx.serverConditions,
      Text.leadsFrom (d.aliasesOn ctx) filter.field = false) :
    d.filteredDocuments ctx (ctx.visible store) = d.filteredDocuments ctx store := by
  have hscan : ∀ join ∈ d.joinsOn ctx.entity,
      (ctx.visible store).scan join.source = store.scan join.source :=
    fun join hjoin => store.scan_restrict_of_ne ctx.admits (hsource join hjoin)
  rw [filteredDocuments, filteredDocuments, QueryContext.visible, Store.scan_restrict_self]
  cases store.scan ctx.entity with
  | error e => rfl
  | ok rows =>
    simp only [Except.map, Except.bind]
    -- the early conditions hold the server's, so filtering by these first changes nothing
    rw [runAll_filterStages, runAll_filterStages,
      filter_filter_of_imp fun row => admits_of_earlyConditions hlead]
    rw [← QueryContext.visible, runAll_joinStages_congr hscan]

/-- Plans with the clauses of a query filter the same rows with and without hidden records. -/
theorem filteredRows_visible [Hashing] (store : Store)
    (hsource : ∀ join ∈ d.joinsOn ctx.entity, join.source ≠ ctx.entity)
    (hroot : ∀ filter ∈ Conditions.filters ctx.serverConditions,
      filter.root ∉ d.aliasesOn ctx) {meets : Record → Bool} :
    (((ctx.visible store).scan ctx.entity).bind fun rows =>
        (JoinSpec.extendAll (ctx.visible store) (d.joinsOn ctx.entity) rows).map
          (·.filter fun row =>
            (d.filtersOn ctx).all (fun filter => filter.accepts row) && meets row)) =
      (store.scan ctx.entity).bind fun rows =>
        (JoinSpec.extendAll store (d.joinsOn ctx.entity) rows).map
          (·.filter fun row =>
            (d.filtersOn ctx).all (fun filter => filter.accepts row) && meets row) := by
  have hscan : ∀ join ∈ d.joinsOn ctx.entity,
      (ctx.visible store).scan join.source = store.scan join.source :=
    fun join hjoin => store.scan_restrict_of_ne ctx.admits (hsource join hjoin)
  -- a join does not touch what the server asks of a record
  have hkeep : ∀ join ∈ d.joinsOn ctx.entity, ∀ source row, ∀ out ∈ join.extend source row,
      ctx.admits out = ctx.admits row := by
    intro join hjoin source row out hout
    rw [QueryContext.admits, QueryContext.admits, Bool.eq_iff_iff, List.all_eq_true,
      List.all_eq_true]
    refine forall₂_congr fun filter hfilter => ?_
    have hne : filter.root ≠ join.aliasName := fun heq =>
      hroot filter hfilter (heq ▸ List.mem_map_of_mem hjoin)
    rw [filter.accepts_congr (JoinSpec.get?_of_mem_extend hout hne)]
  rw [QueryContext.visible, Store.scan_restrict_self, ← QueryContext.visible]
  cases store.scan ctx.entity with
  | error e => rfl
  | ok rows =>
    simp only [Except.map, Except.bind]
    -- the server's filters move behind the joins, where they are asked once more
    rw [JoinSpec.extendAll_congr hscan, JoinSpec.extendAll_filter store hkeep]
    cases JoinSpec.extendAll store (d.joinsOn ctx.entity) rows with
    | error e => rfl
    | ok joined =>
      simp only [Except.map, Except.ok.injEq]
      refine filter_filter_of_imp (fun row h => ?_) joined
      rw [Bool.and_eq_true] at h
      exact admits_of_filtersOn h.1

/-- Hash maps of one kind for both runs leave the answers alike. -/
theorem hidden_records_unseen_under_one_hashing [Hashing] (store : Store) (ctx : QueryContext)
    (d : Descriptor)
    (hjoins : ∀ join ∈ d.joinsOn ctx.entity,
      (join.joinType = .left ∨ join.joinType = .inner) ∧ join.source ≠ ctx.entity)
    (hlead : ∀ filter ∈ Conditions.filters ctx.serverConditions,
      Text.leadsFrom (d.aliasesOn ctx) filter.field = false) :
    (d.pipeline ctx).run (ctx.visible store) ctx.entity = (d.pipeline ctx).run store ctx.entity ∧
    ((∀ filter ∈ Conditions.filters ctx.serverConditions, filter.field ∉ d.aliasesOn ctx) →
      (d.relationalPlans ctx).data.rows (ctx.visible store) =
          (d.relationalPlans ctx).data.rows store ∧
        (d.relationalPlans ctx).count.total (ctx.visible store) =
          (d.relationalPlans ctx).count.total store) := by
  have hsource : ∀ join ∈ d.joinsOn ctx.entity, join.source ≠ ctx.entity :=
    fun join hjoin => (hjoins join hjoin).2
  have hright : ∀ join ∈ d.joinsOn ctx.entity, join.joinType.keepsRight = false :=
    fun join hjoin => by rcases (hjoins join hjoin).1 with h | h <;> rw [h] <;> rfl
  refine ⟨?_, fun halias => ?_⟩
  · rw [run_pipeline, run_pipeline, filteredDocuments_visible store hsource hlead]
  -- a plan asks every filter behind the joins, so no alias may be the first segment of one
  · have hroot : ∀ filter ∈ Conditions.filters ctx.serverConditions,
        filter.root ∉ d.aliasesOn ctx := fun filter hfilter =>
      Text.root_not_mem_of_not_leadsFrom (hlead filter hfilter) (halias filter hfilter)
    rw [Plan.rows, Plan.rows, Plan.total, Plan.total, filteredRows_data _ _ _ hright,
      filteredRows_data _ _ _ hright, filteredRows_count _ _ _ hright,
      filteredRows_count _ _ _ hright, filteredRows_visible store hsource hroot,
      filteredRows_visible store hsource hroot]
    exact ⟨rfl, rfl⟩

/-- Where all joins are left or inner ones with other tables and no condition of the server is on a
field under the alias of one, records that the server hides have no influence on the answer of the
pipeline. If no condition of the server is on an alias as a whole either, they have none on the
answers of the relational plans. The runs with and without hidden records have hash maps of their
own; no value that is looked up may equal two keys that differ. -/
theorem hidden_records_have_no_influence (s t : Hashing) (store : Store) (ctx : QueryContext)
    (d : Descriptor)
    (hjoins : ∀ join ∈ d.joinsOn ctx.entity,
      (join.joinType = .left ∨ join.joinType = .inner) ∧ join.source ≠ ctx.entity)
    (hlead : ∀ filter ∈ Conditions.filters ctx.serverConditions,
      Text.leadsFrom (d.aliasesOn ctx) filter.field = false) :
    (@HasLawfulKeys s ctx d store →
      @Pipeline.run t (d.pipeline ctx) (ctx.visible store) ctx.entity =
        @Pipeline.run s (d.pipeline ctx) store ctx.entity) ∧
    ((∀ filter ∈ Conditions.filters ctx.serverConditions, filter.field ∉ d.aliasesOn ctx) →
      @Plan.HasLawfulKeys s (d.relationalPlans ctx).data store →
      @Plan.rows t (d.relationalPlans ctx).data (ctx.visible store) =
          @Plan.rows s (d.relationalPlans ctx).data store ∧
        @Plan.total t (d.relationalPlans ctx).count (ctx.visible store) =
          @Plan.total s (d.relationalPlans ctx).count store) := by
  obtain ⟨hpipeline, hplans⟩ :=
    @hidden_records_unseen_under_one_hashing t store ctx d hjoins hlead
  refine ⟨fun hlawful => ?_, fun halias hlawful => ?_⟩
  · rw [hpipeline, run_pipeline_eq_of_lawful hlawful t]
  · obtain ⟨hrows, htotal⟩ := hplans halias
    have hcount := @hasLawfulKeys_count ctx d store s hlawful
    rw [hrows, htotal, Plan.rows_eq_of_lawful hlawful t, Plan.total_eq_of_lawful hcount t]
    exact ⟨rfl, rfl⟩

/-! ## A join over a conditioned field -/

/-- A user of another tenant, who is a member here. -/
def tenantStore : Store where
  tables := [("members", [[("tenant", .int 1), ("user", .int 1)]]),
    ("users", [[("id", .int 1), ("owner", .object [("tenant", .int 2)])]])]

/-- Users of the first tenant. -/
def tenantContext : QueryContext where
  entity := "users"
  serverConditions := [("owner.tenant", .equals (.int 1))]

/-- Users with their membership under an alias of the caller's choice. -/
def memberQuery (label : String) : Descriptor where
  joins :=
    [{ source := "members", localField := "id", foreignField := "user", label := some label }]

/-- A join under an alias that no condition leads into shows nothing that is hidden. -/
theorem hidden_records_have_no_influence_under_member :
    (tenantContext.visible tenantStore).rowCount "users" < tenantStore.rowCount "users" ∧
    ((memberQuery "member").pipeline tenantContext).run
        (tenantContext.visible tenantStore) "users" =
      ((memberQuery "member").pipeline tenantContext).run tenantStore "users" ∧
    ((memberQuery "member").relationalPlans tenantContext).data.rows
        (tenantContext.visible tenantStore) =
      ((memberQuery "member").relationalPlans tenantContext).data.rows tenantStore ∧
    ((memberQuery "member").relationalPlans tenantContext).count.total
        (tenantContext.visible tenantStore) =
      ((memberQuery "member").relationalPlans tenantContext).count.total tenantStore := by
  have h := hidden_records_have_no_influence .firstFound .firstFound tenantStore tenantContext
    (memberQuery "member") (by decide) (by decide)
  exact ⟨by decide, h.1 (by decide), h.2 (by decide) (by decide)⟩

/-- Users without an owner. -/
def ownerlessContext : QueryContext where
  entity := "users"
  serverConditions := [("owner", .equals .null)]

/-- Users with the membership of their owner, in the place of the owner. -/
def ownerQuery : Descriptor where
  joins :=
    [{ source := "members", localField := "owner.id", foreignField := "user",
       label := some "owner" }]

/-- Under the alias `owner` the condition on `owner.tenant` is asked of the membership, and both
languages return a user that the server hides. Where the condition is on `owner` itself the
relational plans still ask it of the membership, of which there may be none. -/
theorem hidden_record_shows_under_alias :
    (∀ join ∈ (memberQuery "owner").joinsOn tenantContext.entity,
      (join.joinType = .left ∨ join.joinType = .inner) ∧ join.source ≠ tenantContext.entity) ∧
    ((memberQuery "owner").pipeline tenantContext).run
        (tenantContext.visible tenantStore) "users" ≠
      ((memberQuery "owner").pipeline tenantContext).run tenantStore "users" ∧
    ((memberQuery "owner").relationalPlans tenantContext).data.rows
        (tenantContext.visible tenantStore) ≠
      ((memberQuery "owner").relationalPlans tenantContext).data.rows tenantStore ∧
    ((memberQuery "owner").relationalPlans tenantContext).count.total
        (tenantContext.visible tenantStore) ≠
      ((memberQuery "owner").relationalPlans tenantContext).count.total tenantStore ∧
    (∀ join ∈ ownerQuery.joinsOn ownerlessContext.entity,
      (join.joinType = .left ∨ join.joinType = .inner) ∧ join.source ≠ ownerlessContext.entity) ∧
    (ownerQuery.relationalPlans ownerlessContext).data.rows
        (ownerlessContext.visible tenantStore) ≠
      (ownerQuery.relationalPlans ownerlessContext).data.rows tenantStore := by
  refine ⟨by decide, ?_, ?_, ?_, by decide, ?_⟩ <;> nofun

end Descriptor

end DualQuery
