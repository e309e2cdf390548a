import DualQuery.Proofs.GroupRows
import DualQuery.Proofs.StableSort

/-!
# Canonical documents

Whatever its stages, a pipeline makes canonical documents of canonical ones. On these a projection
keeps the value at every path that it selects, or that leads on from one that it selects.

## Key results

- `Document.isCanonical_runAll`: stages keep documents canonical
- `Document.getPath?_projectRow`: what a projection keeps
-/

namespace DualQuery

namespace Document

/-! ## Single stages -/

/-- Documents stay canonical when those of a canonical source are written into them. -/
theorem isCanonical_lookupRows [Hashing] {localField foreignField label : String}
    {source rows : List Record} (hsource : ∀ record ∈ source, record.isCanonical)
    (hrows : ∀ row ∈ rows, row.isCanonical) :
    ∀ row ∈ lookupRows localField foreignField label source rows, row.isCanonical := by
  intro out hout
  simp only [lookupRows] at hout
  obtain ⟨row, hrow, rfl⟩ := List.mem_map.1 hout
  refine Record.isCanonical_setPath (hrows row hrow) _ (Value.isCanonical_array.2 ?_)
  intro item hitem
  obtain ⟨hit, hhit, rfl⟩ := List.mem_map.1 hitem
  exact hsource _ (Record.mem_of_mem_hits hhit)

/-- An item of a canonical document takes the place of its array, or the field is removed. -/
theorem isCanonical_unwindRow {path : String} {keepsEmpty : Bool} {row : Record}
    (hrow : row.isCanonical) : ∀ out ∈ unwindRow path keepsEmpty row, out.isCanonical := by
  -- a missing value, null and an empty array are treated alike
  have hemptied : ∀ out : Record, out ∈ (if keepsEmpty then [Keyed.erase row path] else []) →
      out.isCanonical := by
    intro out hout
    split at hout
    · rw [List.mem_singleton.1 hout]
      exact Record.isCanonical_erase hrow path
    · cases hout
  intro out hout
  simp only [unwindRow] at hout
  split at hout
  · exact hemptied out hout
  · exact hemptied out hout
  · exact hemptied out hout
  next items _ hget =>
    obtain ⟨item, hitem, rfl⟩ := List.mem_map.1 hout
    have hitems := Value.isCanonical_array.1 (Record.isCanonical_getPath? hrow hget)
    exact Record.isCanonical_setPath hrow path (hitems item hitem)
  · rw [List.mem_singleton.1 hout]
    exact hrow

/-- The paths and values of which the document of a group is made, in the order of writing. -/
def groupEntries (fields : List String) (accumulators : List Accumulator) (values : List Value)
    (members : List Record) : List (String × Value) :=
  fields.zip values ++ accumulators.map fun a =>
    (a.output, a.op.over (a.field.map fun field row => Record.valueAt row field)
      (a.condition.map fun condition row => condition.holds row) members)

/-- The document of a group is written entry by entry. -/
theorem groupRow_eq_foldl (fields : List String) (accumulators : List Accumulator)
    (values : List Value) (members : List Record) :
    groupRow fields accumulators values members =
      (groupEntries fields accumulators values members).foldl
        (fun out entry => Record.setPath out entry.1 entry.2) [] := by
  rw [groupEntries, List.foldl_append, List.foldl_map]
  rfl

/-- What is written into the document of a group is canonical if the group is. -/
theorem isCanonical_groupEntries {fields : List String} {accumulators : List Accumulator}
    {values : List Value} {members : List Record} (hvalues : ∀ value ∈ values, value.isCanonical)
    (hmembers : ∀ member ∈ members, member.isCanonical) :
    ∀ entry ∈ groupEntries fields accumulators values members, entry.2.isCanonical := by
  intro entry hentry
  -- a value that is grouped by, or one that is aggregated over the members
  rcases List.mem_append.1 hentry with hentry | hentry
  · exact hvalues _ (List.of_mem_zip hentry).2
  · obtain ⟨a, -, rfl⟩ := List.mem_map.1 hentry
    refine AggregateOp.isCanonical_over _ fun read hread member hmember => ?_
    obtain ⟨field, -, rfl⟩ := Option.map_eq_some_iff.1 hread
    exact Record.isCanonical_valueAt (hmembers member hmember) field

/-- The values over a group of canonical documents are canonical. -/
theorem isCanonical_values_of_mem_groups [Hashing] {key : GroupKey} {rows : List Record}
    (hrows : ∀ row ∈ rows, row.isCanonical) {group : List Value × List Record}
    (hgroup : group ∈ key.groups rows) : ∀ value ∈ group.1, value.isCanonical := by
  by_cases hne : key.fields.map (fun field row => Record.valueAt row field) = []
  · -- the one group by no fields has no values
    rw [GroupKey.groups, Record.groups, hne, List.isEmpty_nil, if_pos rfl,
      List.mem_singleton] at hgroup
    rw [hgroup]
    simp
  · obtain ⟨first, rest, hfirst, hkey⟩ := Record.exists_first_of_mem_groups hne hgroup
    have hmember : first ∈ rows :=
      Record.mem_of_mem_groups hgroup first (hfirst ▸ List.mem_cons_self)
    intro value hvalue
    rw [hkey, Record.keyOf, List.map_map] at hvalue
    obtain ⟨field, -, rfl⟩ := List.mem_map.1 hvalue
    exact Record.isCanonical_valueAt (hrows first hmember) field

/-- The documents of groups are canonical. -/
theorem isCanonical_groupRows [Hashing] {key : GroupKey} {accumulators : List Accumulator}
    {rows : List Record} (hrows : ∀ row ∈ rows, row.isCanonical) :
    ∀ row ∈ groupRows key accumulators rows, row.isCanonical := by
  intro out hout
  obtain ⟨⟨values, members⟩, hgroup, rfl⟩ := List.mem_map.1 hout
  have hmembers : ∀ member ∈ members, member.isCanonical :=
    fun member hmember => hrows member (Record.mem_of_mem_groups hgroup member hmember)
  have hentries : ∀ entry ∈ groupEntries key.fields accumulators values members,
      entry.2.isCanonical :=
    isCanonical_groupEntries (isCanonical_values_of_mem_groups hrows hgroup) hmembers
  dsimp only
  -- canonical is kept by each write, and so by writing all entries
  rw [groupRow_eq_foldl]
  exact List.foldlRecOn (motive := fun out : Record => out.isCanonical) _ _
    Record.isCanonical_nil fun out hout entry hentry =>
      Record.isCanonical_setPath hout _ (hentries entry hentry)

/-- A copy of selected fields is canonical. -/
theorem isCanonical_projectRow (fields : List String) {row : Record} (hrow : row.isCanonical) :
    (projectRow fields row).isCanonical := by
  rw [projectRow]
  refine List.foldlRecOn (motive := fun out : Record => out.isCanonical) fields _
    Record.isCanonical_nil fun out hout field _ => ?_
  split
  next value hget =>
    exact Record.isCanonical_setPath hout _ (Record.isCanonical_getPath? hrow hget)
  next => exact hout

/-- The document of a count is canonical. -/
theorem isCanonical_countRow (field : String) (rows : List Record) :
    ∀ row ∈ countRow field rows, row.isCanonical := by
  unfold countRow
  split
  · simp
  · intro row hrow
    rw [List.mem_singleton.1 hrow]
    exact Record.isCanonical_insert Record.isCanonical_nil field rfl

/-! ## Pipelines -/

/-- An array of canonical documents is canonical. -/
private theorem isCanonical_objects {rows : List Record} (h : ∀ row ∈ rows, row.isCanonical) :
    (Value.array (rows.map .object)).isCanonical := by
  refine Value.isCanonical_array.2 fun item hitem => ?_
  obtain ⟨row, hrow, rfl⟩ := List.mem_map.1 hitem
  exact h row hrow

mutual
/-- A stage keeps documents canonical. -/
theorem isCanonical_run [Hashing] {store : Store} (hstore : store.isCanonical) :
    (stage : Stage) → (rows : List Record) → (∀ row ∈ rows, row.isCanonical) →
      ∀ out, stage.run store rows = .ok out → ∀ row ∈ out, row.isCanonical
  | .filter condition, rows, hrows, out, h => by
    cases h
    exact fun row hrow => hrows row (List.mem_filter.1 hrow).1
  | .lookup source localField foreignField label, rows, hrows, out, h => by
    cases hscan : store.scan source with
    | error e => simp [Stage.run, hscan, bind, Except.bind] at h
    | ok records =>
      simp only [Stage.run, hscan, bind, Except.bind, pure, Except.pure, Except.ok.injEq] at h
      rw [← h]
      exact isCanonical_lookupRows (Store.isCanonical_scan hstore hscan) hrows
  | .unwind path keepsEmpty, rows, hrows, out, h => by
    cases h
    intro row hrow
    obtain ⟨before, hbefore, hmem⟩ := List.mem_flatMap.1 hrow
    exact isCanonical_unwindRow (hrows before hbefore) row hmem
  | .group key accumulators, rows, hrows, out, h => by
    cases h
    exact isCanonical_groupRows hrows
  | .project fields, rows, hrows, out, h => by
    cases h
    intro row hrow
    obtain ⟨before, hbefore, rfl⟩ := List.mem_map.1 hrow
    exact isCanonical_projectRow fields (hrows before hbefore)
  | .sort fields, rows, hrows, out, h => by
    cases h
    exact fun row hrow => hrows row (mem_stableSort.1 hrow)
  | .skip n, rows, hrows, out, h => by
    cases h
    exact fun row hrow => hrows row (List.mem_of_mem_drop hrow)
  | .limit n, rows, hrows, out, h => by
    cases h
    exact fun row hrow => hrows row (List.mem_of_mem_take hrow)
  | .count field, rows, hrows, out, h => by
    cases h
    exact isCanonical_countRow field rows
  | .facet data total, rows, hrows, out, h => by
    cases hdata : Stage.runAll store rows data with
    | error e => simp [Stage.run, hdata, bind, Except.bind] at h
    | ok page =>
      cases htotal : Stage.runAll store rows total with
      | error e => simp [Stage.run, hdata, htotal, bind, Except.bind] at h
      | ok counts =>
        simp only [Stage.run, hdata, htotal, bind, Except.bind, pure, Except.pure,
          Except.ok.injEq] at h
        have hpage := isCanonical_objects (isCanonical_runAll hstore data rows hrows page hdata)
        have hcounts := isCanonical_objects
          (isCanonical_runAll hstore total rows hrows counts htotal)
        intro row hrow
        rw [← h, List.mem_singleton] at hrow
        rw [hrow]
        -- the two fields stand in the order of their names
        have hkeys : Ord.compare "data" "total" = .lt := by decide
        refine Record.isCanonical_iff.2 ⟨by simp [Keyed.sorted_cons, hkeys], ?_⟩
        rw [List.forall_mem_cons, List.forall_mem_singleton]
        exact ⟨hpage, hcounts⟩

/-- Stages keep documents canonical. -/
theorem isCanonical_runAll [Hashing] {store : Store} (hstore : store.isCanonical) :
    (stages : List Stage) → (rows : List Record) → (∀ row ∈ rows, row.isCanonical) →
      ∀ out, Stage.runAll store rows stages = .ok out → ∀ row ∈ out, row.isCanonical
  | [], rows, hrows, out, h => by
    cases h
    exact hrows
  | stage :: rest, rows, hrows, out, h => by
    cases hrun : stage.run store rows with
    | error e => simp [Stage.runAll, hrun, bind, Except.bind] at h
    | ok next =>
      simp only [Stage.runAll, hrun, bind, Except.bind] at h
      exact isCanonical_runAll hstore rest next (isCanonical_run hstore stage rows hrows next hrun)
        out h
end

/-! ## Projection -/

/-- A copy of a record with one more of its fields, if it has it. -/
def projectField (row out : Record) (field : String) : Record :=
  match Record.getPath? row field with
  | some value => Record.setPath out field value
  | none => out

/-- A projection copies field by field. -/
theorem projectRow_eq (fields : List String) (row : Record) :
    projectRow fields row = fields.foldl (projectField row) [] := rfl

/-- A copy that agrees with the record at a path keeps agreeing. -/
theorem getPath?_foldl_projectField {row : Record} (hrow : row.isCanonical) {path : String}
    (fields : List String) {out : Record}
    (h : Record.getPath? out path = Record.getPath? row path) :
    Record.getPath? (fields.foldl (projectField row) out) path = Record.getPath? row path := by
  induction fields generalizing out with
  | nil => exact h
  | cons field fields ih =>
    rw [List.foldl_cons]
    refine ih ?_
    rw [projectField]
    -- copying a field keeps the agreement, as it writes what the record has there
    split
    next value hget => exact Record.getPath?_setPath_of_agree hrow hget h
    next => exact h

/-- A projection keeps the value at a path that leads on from one it selects. -/
theorem getPath?_projectRow {row : Record} (hrow : row.isCanonical) {fields : List String}
    {path : String} (h : ∃ field ∈ fields, Text.segments field <+: Text.segments path) :
    Record.getPath? (projectRow fields row) path = Record.getPath? row path := by
  cases hpath : Record.getPath? row path with
  | none =>
    -- what is not there is in no copy, from the empty record on
    have hnil : Record.getPath? [] path = Record.getPath? row path := by
      obtain ⟨rest, hrest⟩ := Text.segments_eq_root_cons path
      rw [hpath, Record.getPath?_eq_follow, hrest]
      rfl
    exact (getPath?_foldl_projectField hrow fields hnil).trans hpath
  | some v =>
    obtain ⟨field, hfield, hprefix⟩ := h
    -- the selected field that covers the path writes the value, and the fields behind it keep it
    obtain ⟨front, back, rfl⟩ := List.append_of_mem hfield
    rw [← hpath, projectRow_eq, List.foldl_append, List.foldl_cons]
    refine getPath?_foldl_projectField hrow back ?_
    rw [projectField]
    cases hget : Record.getPath? row field with
    | none =>
      obtain ⟨rest, hrest⟩ := hprefix
      rw [Record.getPath?_eq_follow] at hget hpath
      rw [← hrest, Value.follow_append, hget] at hpath
      cases hpath
    | some value => exact Record.getPath?_setPath_of_prefix _ hget hprefix

end Document

end DualQuery
