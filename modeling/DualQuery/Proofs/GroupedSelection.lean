import DualQuery.Proofs.BackendParity
import DualQuery.Proofs.ProjectedPaths

/-!
# Selections from groups

A relational plan writes only the selected parts of a group and sorts what it has written. A
pipeline writes all parts, sorts, and projects, or projects and sorts where no field to sort by is
dropped. The two differ where a part that is not selected has a say in what is left: where the
result is sorted by it, or where it shares its path with a selected one. Everywhere else they give
the same items in the same order.

## Key results

- `Descriptor.foldl_projectGroup_eq_projected`: what a plan makes of a group is the projection of
  what the pipeline makes of it
- `Descriptor.valueAt_projected_groupRow`: the projection keeps what is sorted by
- `Descriptor.grouped_items_agree`: the items of both backends
- `Descriptor.grouped_items_differ`: a sort by a field that is not selected
-/

namespace DualQuery

open Document Relational

namespace Descriptor

variable {ctx : QueryContext} {d : Descriptor}

/-- The paths of a group that the selection leaves out. -/
def hiddenPaths (d : Descriptor) : List String :=
  (d.groupBy ++ d.accumulators.map (·.output)).filter fun path => !isSelected d path

/-- What the selection leaves out parts from all that is selected and from all that is sorted by. -/
def HidesApart (ctx : QueryContext) (d : Descriptor) : Prop :=
  ∀ hidden ∈ d.hiddenPaths, ∀ path ∈ d.select ++ (d.sortFields ctx).map (·.field),
    Text.Parted hidden path

instance (ctx : QueryContext) (d : Descriptor) : Decidable (d.HidesApart ctx) :=
  inferInstanceAs (Decidable (∀ _ ∈ _, _))

/-! ## A single group -/

section Group

variable {values : List Value} {members : List Record}

/-- The paths of a group are those it is grouped by and those of its aggregates. -/
theorem mem_hiddenPaths {entry : String × Value}
    (hentry : entry ∈ groupEntries d.groupBy d.accumulators values members)
    (hselected : isSelected d entry.1 = false) : entry.1 ∈ d.hiddenPaths := by
  refine List.mem_filter.2 ⟨List.mem_append.2 ?_, by simp [hselected]⟩
  rcases List.mem_append.1 hentry with hentry | hentry
  · exact .inl (List.of_mem_zip hentry).1
  · obtain ⟨a, ha, rfl⟩ := List.mem_map.1 hentry
    exact .inr (List.mem_map_of_mem ha)

/-- The selected parts of a group, written into an empty record, are the projection of the whole
group. -/
theorem projected_groupRow (hhidden : d.HidesApart ctx)
    (hvalues : ∀ value ∈ values, value.isCanonical)
    (hmembers : ∀ member ∈ members, member.isCanonical) :
    d.projected (groupRow d.groupBy d.accumulators values members) =
      ((groupEntries d.groupBy d.accumulators values members).filter fun entry =>
          isSelected d entry.1).foldl
        (fun out entry => Record.setPath out entry.1 entry.2) [] := by
  have hentries : ∀ entry ∈ groupEntries d.groupBy d.accumulators values members,
      entry.2.isCanonical := isCanonical_groupEntries hvalues hmembers
  rw [groupRow_eq_foldl, projected]
  cases hselect : d.select.isEmpty with
  | true => simp [isSelected, hselect]
  | false =>
    have hselected : ∀ path, isSelected d path = d.select.contains path := fun path => by
      rw [isSelected, hselect, Bool.false_or]
    -- a field that is not selected is hidden, and hidden fields lie apart from the selected ones,
    -- so writing it leaves the selection as it is
    have hapart : ∀ entry ∈ groupEntries d.groupBy d.accumulators values members,
        entry.1 ∈ d.select ∨ ∀ field ∈ d.select, Text.Parted entry.1 field := by
      intro entry hentry
      by_cases hmem : entry.1 ∈ d.select
      · exact .inl hmem
      · have hhide := mem_hiddenPaths hentry (by simpa [hselected] using hmem)
        exact .inr fun field hfield => hhidden _ hhide _ (List.mem_append_left _ hfield)
    simp only [Bool.false_eq_true, if_false, hselected]
    rw [projectRow_foldl_setPath hapart hentries Record.isCanonical_nil, projectRow_nil]

/-- A projection of a group keeps what is sorted by. -/
theorem valueAt_projected_groupRow (hhidden : d.HidesApart ctx)
    (hvalues : ∀ value ∈ values, value.isCanonical)
    (hmembers : ∀ member ∈ members, member.isCanonical) :
    ∀ key ∈ d.sortKeysOn ctx,
      Record.valueAt (d.projected (groupRow d.groupBy d.accumulators values members)) key.path =
        Record.valueAt (groupRow d.groupBy d.accumulators values members) key.path := by
  intro key hkey
  obtain ⟨sort, hsort, rfl⟩ := List.mem_map.1 hkey
  rw [projected_groupRow hhidden hvalues hmembers, groupRow_eq_foldl, Record.valueAt,
    Record.valueAt]
  congr 1
  refine (Record.getPath?_foldl_setPath_filter (fun entry hentry hselected => ?_) rfl).symm
  refine hhidden _ (mem_hiddenPaths hentry hselected) _ (List.mem_append_right _ ?_)
  exact List.mem_map_of_mem hsort

end Group

/-! ## All groups -/

section Groups

variable [Hashing] (hgroup : d.hasGrouping) (hhidden : d.HidesApart ctx)
  {rows : List Record} (hrows : ∀ row ∈ rows, row.isCanonical)

include hgroup hhidden hrows

/-- A plan makes the projections of the groups of the pipeline. -/
theorem groupedRows_eq_map_projected :
    (d.relationalPlans ctx).data.groupedRows rows = (d.grouped rows).map d.projected := by
  rw [Plan.groupedRows, projection_of_layout (d.clauses_data ctx),
    d.groups_of_layout ctx (d.clauses_data ctx) rfl hgroup, grouped, if_pos hgroup, groupRows,
    List.map_map, GroupKey.groups, fields_groupKey]
  refine List.map_congr_left fun group hmem => ?_
  have hvalues : ∀ value ∈ group.1, value.isCanonical := by
    have hkey : group ∈ d.groupKey.groups rows := by
      rw [GroupKey.groups, fields_groupKey]
      exact hmem
    exact isCanonical_values_of_mem_groups hrows hkey
  have hmembers : ∀ member ∈ group.2, member.isCanonical :=
    fun member hmember => hrows member (Record.mem_of_mem_groups hmem member hmember)
  -- a group is projected item by item, where the pipeline folds it entry by entry
  show (d.itemsOn ctx).foldl ((d.relationalPlans ctx).data.projectGroup group.2) [] =
    d.projected (groupRow d.groupBy d.accumulators group.1 group.2)
  rw [foldl_projectGroup hgroup hmem, projected_groupRow hhidden hvalues hmembers]

/-- It makes no difference whether the groups are sorted before or after the projection. -/
theorem sort_map_projected_grouped :
    Record.sort (d.sortKeysOn ctx) ((d.grouped rows).map d.projected) =
      (Record.sort (d.sortKeysOn ctx) (d.grouped rows)).map d.projected := by
  -- the projection may be done first: it keeps what the sort looks at
  refine Record.sort_map d.projected fun out hout => ?_
  rw [grouped, if_pos hgroup, groupRows] at hout
  obtain ⟨⟨values, members⟩, hmem, rfl⟩ := List.mem_map.1 hout
  have hmembers : ∀ member ∈ members, member.isCanonical :=
    fun member hmember => hrows member (Record.mem_of_mem_groups hmem member hmember)
  show ∀ key ∈ d.sortKeysOn ctx,
    Record.valueAt (d.projected (groupRow d.groupKey.fields d.accumulators values members))
        key.path =
      Record.valueAt (groupRow d.groupKey.fields d.accumulators values members) key.path
  rw [fields_groupKey]
  exact valueAt_projected_groupRow hhidden (isCanonical_values_of_mem_groups hrows hmem) hmembers

end Groups

/-! ## Results -/

/-- Hash maps of one kind for plan and pipeline leave the items alike. -/
theorem grouped_items_agree_under_one_hashing [Hashing] (store : Store) (ctx : QueryContext)
    (d : Descriptor)
    (hstore : store.isCanonical) (hjoins : d.joinsOn ctx.entity = [])
    (hsearch : SearchPlan.of? d.search ctx.searchConfig = none) (hgroup : d.hasGrouping)
    (hhidden : d.HidesApart ctx) :
    (∃ table, (d.relationalPlans ctx).data.rows store = .error (.tableNotFound table) ∧
      (d.pipeline ctx).run store ctx.entity = .error (.tableNotFound table)) ∨
    ∃ items total, (d.relationalPlans ctx).data.rows store = .ok items ∧
      (d.pipeline ctx).run store ctx.entity = .ok (match d.pagination with
        | some _ => [[("data", .array (items.map .object)), ("total", total)]]
        | none => items) := by
  have hfilters : (d.relationalPlans ctx).data.filteredRows store =
      d.filteredDocuments ctx store := by
    refine (filteredRows_eq_filteredDocuments store ?_ ?_ ?_ hsearch).1 <;>
      simp [aliasesOn, hjoins]
  rw [rows_data_of_hasGrouping _ _ _ hgroup, hfilters, run_pipeline]
  -- both backends filter alike, so they fail alike and otherwise group the same rows
  cases hfiltered : d.filteredDocuments ctx store with
  | error e =>
    obtain ⟨table, rfl⟩ := exists_of_filteredDocuments_error hfiltered
    exact .inl ⟨table, rfl, rfl⟩
  | ok rows =>
    have hrows := isCanonical_filteredDocuments ctx d hstore hfiltered
    have hitems : Record.sort (d.sortKeysOn ctx)
        ((d.relationalPlans ctx).data.groupedRows rows) = d.shaped ctx rows := by
      rw [groupedRows_eq_map_projected hgroup hhidden hrows,
        sort_map_projected_grouped hgroup hhidden hrows, shaped_of_isCanonical ctx d hrows]
    refine .inr ⟨pageOf d.pagination (d.shaped ctx rows),
      .array ((countRow totalField (d.shaped ctx rows)).map .object), ?_, ?_⟩
    · rw [← hitems]
      rfl
    · rw [Except.map, answer]
      cases d.pagination <;> rfl

/-- On a store whose records are kept in the order of their fields, for a query without joins and
without a search that groups and leaves out only what parts from all that it selects and sorts by:
plan and pipeline both miss the table, or they answer with the same items in the same order. Each of
the two has hash maps of its own; the values of no record may equal those of two groups that
differ. -/
theorem grouped_items_agree (s t : Hashing) (store : Store) (ctx : QueryContext) (d : Descriptor)
    (hlawful : @Plan.HasLawfulKeys s (d.relationalPlans ctx).data store)
    (hstore : store.isCanonical) (hjoins : d.joinsOn ctx.entity = [])
    (hsearch : SearchPlan.of? d.search ctx.searchConfig = none) (hgroup : d.hasGrouping)
    (hhidden : d.HidesApart ctx) :
    (∃ table, @Plan.rows s (d.relationalPlans ctx).data store = .error (.tableNotFound table) ∧
      @Pipeline.run t (d.pipeline ctx) store ctx.entity = .error (.tableNotFound table)) ∨
    ∃ items total, @Plan.rows s (d.relationalPlans ctx).data store = .ok items ∧
      @Pipeline.run t (d.pipeline ctx) store ctx.entity = .ok (match d.pagination with
        | some _ => [[("data", .array (items.map .object)), ("total", total)]]
        | none => items) := by
  rw [Plan.rows_eq_of_lawful hlawful t]
  exact @grouped_items_agree_under_one_hashing t store ctx d hstore hjoins hsearch hgroup hhidden

/-! ## Two statuses -/

/-- Three users with two statuses. -/
def statusStore : Store where
  tables := [("users", [[("role", .int 1), ("status", .string "a")],
    [("role", .int 1), ("status", .string "b")], [("role", .int 1), ("status", .string "b")]])]

/-- The statuses of users by role, from the most frequent one down, with some of their fields. -/
def statusQuery (fields : List String) : Descriptor where
  aggregations := [{ operation := .count, label := some "n" }]
  groupBy := ["role", "status"]
  sort := [⟨"n", .descending⟩]
  select := fields

/-- With the field to sort by among the selected ones both languages give the same groups. -/
theorem grouped_items_agree_statuses :
    ∃ items total,
      ((statusQuery ["status", "n"]).relationalPlans { entity := "users" }).data.rows statusStore =
        .ok items ∧
      ((statusQuery ["status", "n"]).pipeline { entity := "users" }).run statusStore "users" =
        .ok (match (statusQuery ["status", "n"]).pagination with
          | some _ => [[("data", .array (items.map .object)), ("total", total)]]
          | none => items) := by
  refine (grouped_items_agree .firstFound .firstFound statusStore { entity := "users" }
    (statusQuery ["status", "n"]) (by decide) (by decide) rfl rfl rfl (by decide)).resolve_left ?_
  rintro ⟨table, hrows, -⟩
  cases hrows

/-- Where the count to sort by is not selected the plan has nothing to sort by, and leaves the
statuses in the order in which they appear. -/
theorem grouped_items_differ :
    ¬ (statusQuery ["status"]).HidesApart { entity := "users" } ∧
    ((statusQuery ["status"]).relationalPlans { entity := "users" }).data.rows statusStore =
      .ok [[("status", .string "a")], [("status", .string "b")]] ∧
    ((statusQuery ["status"]).pipeline { entity := "users" }).run statusStore "users" =
      .ok [[("status", .string "b")], [("status", .string "a")]] :=
  ⟨by decide, rfl, rfl⟩

end Descriptor

end DualQuery
