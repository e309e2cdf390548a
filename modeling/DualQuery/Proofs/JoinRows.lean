import DualQuery.Proofs.FilterCorrect
import DualQuery.Proofs.HashMaps

/-!
# Rows of joins

A left or an inner join makes rows of each row on its own: one for each partner, or the row without
the alias. `JoinSpec.extend` is this step, and `JoinSpec.extendAll` joins with one source after the
other. The join clauses of a relational plan and the lookups and unwinds of a pipeline both do just
that.

## Key results

- `Relational.joinAll_joinClauses`: the join clauses of a plan
- `Document.runAll_joinStages`: the stages of joins whose aliases have no dot
- `JoinSpec.get?_of_mem_extend`: a join changes the field of its alias only
- `JoinSpec.extendAll_filter`: what is known from other fields may be asked before joining
-/

namespace DualQuery

/-! ## Indexes -/

namespace Record

variable [Hashing]

/-- What an index holds was there before or is one of the records that were added. -/
private theorem mem_foldl_indexBy (field : String) (entries : List (Record × Nat))
    (index : Indexed Value (List (Nat × Record))) :
    ∀ entry ∈ entries.foldl (fun index (record, position) =>
        let key := valueAt record field
        if key.isNull then index
        else Indexed.alter [] (· ++ [(position, record)]) key index) index,
      ∀ hit ∈ entry.2, (∃ old ∈ index, hit ∈ old.2) ∨ hit.2 ∈ entries.map (·.1) := by
  induction entries generalizing index with
  | nil => exact fun entry hentry hit hhit => .inl ⟨entry, hentry, hhit⟩
  | cons first rest ih =>
    intro entry hentry hit hhit
    rw [List.foldl_cons] at hentry
    rcases ih _ entry hentry hit hhit with ⟨old, hold, hmem⟩ | hmem
    · dsimp only at hold
      split at hold
      · exact .inl ⟨old, hold, hmem⟩
      · -- a record goes behind the others under its key, or is the first under a new one
        rcases Indexed.mem_alter hold with hold | ⟨older, holder, rfl⟩ | rfl
        · exact .inl ⟨old, hold, hmem⟩
        · rcases List.mem_append.1 hmem with hmem | hmem
          · exact .inl ⟨older, holder, hmem⟩
          · exact .inr (by simp_all)
        · exact .inr (by simp_all)
    · exact .inr (List.mem_cons_of_mem _ hmem)

/-- What is found in the index of a source is a record of the source. -/
theorem mem_of_mem_hits {field : String} {source : List Record} {key : Value}
    {hit : Nat × Record} (h : hit ∈ hits (indexBy field source) key) : hit.2 ∈ source := by
  unfold hits at h
  split at h
  · cases h
  · cases hfind : (indexBy field source).find? key with
    | none => simp [hfind] at h
    | some found =>
      obtain ⟨k, hk, -⟩ := Indexed.exists_mem_of_find?_eq_some hfind
      rw [hfind] at h
      rcases mem_foldl_indexBy field source.zipIdx [] _ hk hit h with ⟨old, hold, -⟩ | hmem
      · cases hold
      · rwa [List.zipIdx_map_fst] at hmem

end Record

/-! ## One row -/

namespace JoinSpec

variable [Hashing]

/-- The rows that a left or an inner join makes of a row. -/
def extend (join : JoinSpec) (source : List Record) (row : Record) : List Record :=
  match Record.hits (Record.indexBy join.foreignField source)
    (Record.valueAt row join.localField) with
  | [] => if join.joinType.keepsLeft then [Keyed.erase row join.aliasName] else []
  | found => found.map fun hit => Keyed.insert row join.aliasName (.object hit.2)

/-- A join writes a record of its source under the alias, or removes what is there. -/
theorem mem_extend {join : JoinSpec} {source : List Record} {row out : Record}
    (h : out ∈ join.extend source row) :
    out = Keyed.erase row join.aliasName ∨
      ∃ record ∈ source, out = Keyed.insert row join.aliasName (.object record) := by
  unfold extend at h
  split at h
  · split at h
    · exact .inl (by simpa using h)
    · cases h
  · obtain ⟨hit, hhit, rfl⟩ := List.mem_map.1 h
    exact .inr ⟨hit.2, Record.mem_of_mem_hits hhit, rfl⟩

/-- A join changes the field of its alias only. -/
theorem get?_of_mem_extend {join : JoinSpec} {source : List Record} {row out : Record}
    (h : out ∈ join.extend source row) {key : String} (hkey : key ≠ join.aliasName) :
    Keyed.get? out key = Keyed.get? row key := by
  rcases mem_extend h with rfl | ⟨record, -, rfl⟩
  · rw [Keyed.get?_erase, if_neg hkey]
  · rw [Keyed.get?_insert_of_ne row _ hkey.symm]

/-! ## All rows -/

/-- Join rows with one source after the other. -/
def extendAll (store : Store) : List JoinSpec → List Record → Except StoreError (List Record)
  | [], rows => .ok rows
  | join :: rest, rows => do
    let source ← store.scan join.source
    extendAll store rest (rows.flatMap (join.extend source))

omit [Hashing] in
/-- What a step does not change may be asked before or after it. -/
private theorem flatMap_filter {p : Record → Bool} {f : Record → List Record}
    (h : ∀ row, ∀ out ∈ f row, p out = p row) (rows : List Record) :
    (rows.filter p).flatMap f = (rows.flatMap f).filter p := by
  induction rows with
  | nil => rfl
  | cons row rows ih =>
    rw [List.flatMap_cons, List.filter_append, ← ih]
    -- what a row makes is kept as a whole or dropped as a whole
    cases hp : p row with
    | true =>
      have hkeep : (f row).filter p = f row :=
        List.filter_eq_self.2 fun out hout => by rw [h row out hout, hp]
      rw [List.filter_cons_of_pos hp, List.flatMap_cons, hkeep]
    | false =>
      have hdrop : (f row).filter p = [] :=
        List.filter_eq_nil_iff.2 fun out hout => by simp [h row out hout, hp]
      rw [List.filter_cons_of_neg (by simp [hp]), hdrop, List.nil_append]

/-- What no join changes may be asked of the rows before they are joined. -/
theorem extendAll_filter (store : Store) {p : Record → Bool} {joins : List JoinSpec}
    (h : ∀ join ∈ joins, ∀ source row, ∀ out ∈ join.extend source row, p out = p row)
    (rows : List Record) :
    extendAll store joins (rows.filter p) = (extendAll store joins rows).map (·.filter p) := by
  induction joins generalizing rows with
  | nil => rfl
  | cons join joins ih =>
    rw [List.forall_mem_cons] at h
    cases hscan : store.scan join.source with
    | error e => simp [extendAll, hscan, bind, Except.bind, Except.map]
    | ok source =>
      simp only [extendAll, hscan, bind, Except.bind]
      rw [flatMap_filter (h.1 source), ih h.2]

end JoinSpec

/-! ## Join clauses -/

/-- A join that is carried out has another alias than the entity. -/
theorem JoinSpec.mem_carriedOut {entity : String} {taken : List String} {joins : List JoinSpec}
    {join : JoinSpec} (h : join ∈ carriedOut entity taken joins) : join.aliasName ≠ entity := by
  induction joins generalizing taken with
  | nil => cases h
  | cons first rest ih =>
    simp only [carriedOut] at h
    -- a join that is passed over takes no alias
    split at h
    · exact ih h
    next hfree =>
      rcases List.mem_cons.1 h with rfl | h
      · simp only [Bool.or_eq_true, beq_iff_eq, not_or] at hfree
        exact hfree.1.2
      · exact ih h

/-- No alias is the entity. -/
theorem Descriptor.entity_not_mem_aliases (d : Descriptor) (entity : String) :
    entity ∉ (d.joinsOn entity).map (·.aliasName) := by
  intro h
  obtain ⟨join, hjoin, heq⟩ := List.mem_map.1 h
  exact JoinSpec.mem_carriedOut hjoin heq

namespace Relational

/-- The labels of join clauses are the aliases of the joins. -/
theorem map_label_joinClauses (entity : String) (aliases : List String) (joins : List JoinSpec) :
    (joinClauses entity aliases joins).map (·.label) = joins.map (·.aliasName) := by
  induction joins generalizing aliases with
  | nil => rfl
  | cons join joins ih => rw [joinClauses, List.map_cons, List.map_cons, ih]

variable [Hashing]

/-- A clause for a left or an inner join extends each row on its own. -/
theorem JoinClause.rows_eq_flatMap (join : JoinClause) (spec : JoinSpec) {entity : String}
    (hright : spec.joinType.keepsRight = false) (htype : join.joinType = spec.joinType)
    (hlabel : join.label = spec.aliasName) (hforeign : join.right.name = spec.foreignField)
    (hlocal : join.left.path entity = spec.localField) (rows source : List Record) :
    join.rows entity rows source = rows.flatMap (spec.extend source) := by
  simp only [JoinClause.rows, htype, hright, Bool.false_eq_true, if_false, List.append_nil,
    Column.value, hlocal, hforeign, hlabel]
  rfl

/-- The join clauses of a plan whose joins are left or inner ones. -/
theorem joinAll_joinClauses (store : Store) {entity : String} {aliases : List String}
    {joins : List JoinSpec} (haliases : entity ∉ aliases)
    (hentity : entity ∉ joins.map (·.aliasName))
    (hright : ∀ join ∈ joins, join.joinType.keepsRight = false) (rows : List Record) :
    joinAll store entity rows (joinClauses entity aliases joins) =
      JoinSpec.extendAll store joins rows := by
  induction joins generalizing aliases rows with
  | nil => rfl
  | cons join joins ih =>
    rw [List.forall_mem_cons] at hright
    rw [List.map_cons, List.mem_cons, not_or] at hentity
    -- the alias of a join is known to the joins behind it, and none is the entity
    have haliases' : entity ∉ aliases ++ [join.aliasName] := by
      simp [haliases, hentity.1]
    cases hscan : store.scan join.source with
    | error e => simp [joinClauses, joinAll, JoinSpec.extendAll, hscan, bind, Except.bind]
    | ok source =>
      simp only [joinClauses, joinAll, JoinSpec.extendAll, hscan, bind, Except.bind]
      rw [JoinClause.rows_eq_flatMap _ join hright.1 rfl rfl rfl (path_columnOf haliases _),
        ih haliases' hentity.2 hright.2]

end Relational

/-! ## Lookups -/

namespace Document

variable [Hashing]

/-- Stages run after others on what these make. -/
theorem runAll_append (store : Store) (rows : List Record) (front back : List Stage) :
    Stage.runAll store rows (front ++ back) =
      (Stage.runAll store rows front).bind fun rows => Stage.runAll store rows back := by
  induction front generalizing rows with
  | nil => rfl
  | cons stage front ih =>
    simp only [List.cons_append, Stage.runAll, bind]
    cases stage.run store rows with
    | error e => rfl
    | ok rows => exact ih rows

/-- Looking up and unwinding under an alias without a dot extends each row on its own. -/
theorem unwindRow_lookup (join : JoinSpec) (hdot : Text.isDotted join.aliasName = false)
    (source : List Record) (row : Record) :
    unwindRow join.aliasName join.joinType.keepsLeft
      (Record.setPath row join.aliasName
        (.array ((Record.hits (Record.indexBy join.foreignField source)
          (Record.valueAt row join.localField)).map fun hit => .object hit.2))) =
      join.extend source row := by
  rw [Record.setPath_of_not_isDotted row _ hdot, unwindRow,
    Record.getPath?_of_not_isDotted _ hdot, Keyed.get?_insert_self, JoinSpec.extend]
  cases Record.hits (Record.indexBy join.foreignField source)
    (Record.valueAt row join.localField) with
  | nil => simp [Keyed.erase_insert]
  | cons hit hits =>
    -- each partner takes the place of the array that was looked up
    have hset : Record.setPath (Keyed.insert row join.aliasName
          (.array ((hit :: hits).map fun hit => .object hit.2))) join.aliasName =
        Keyed.insert row join.aliasName := by
      funext value
      rw [Record.setPath_of_not_isDotted _ _ hdot, Keyed.insert_insert]
    simp only [List.map_cons] at hset ⊢
    simp [hset]

/-- The stages of left and inner joins whose aliases have no dot. -/
theorem runAll_joinStages (store : Store) {joins : List JoinSpec}
    (hdot : ∀ join ∈ joins, Text.isDotted join.aliasName = false)
    (hright : ∀ join ∈ joins, join.joinType.keepsRight = false) (rows : List Record) :
    Stage.runAll store rows (joins.flatMap JoinSpec.stages) =
      JoinSpec.extendAll store joins rows := by
  induction joins generalizing rows with
  | nil => rfl
  | cons join joins ih =>
    rw [List.forall_mem_cons] at hdot hright
    -- a stage asks whether the join is an inner one, a clause whether it keeps left rows
    have hkeeps : (join.joinType != .inner) = join.joinType.keepsLeft := by
      have htype := hright.1
      cases h : join.joinType <;> simp_all [JoinType.keepsRight, JoinType.keepsLeft]
    rw [List.flatMap_cons, runAll_append, JoinSpec.stages, hkeeps]
    cases hscan : store.scan join.source with
    | error e =>
      simp [Stage.runAll, Stage.run, JoinSpec.extendAll, hscan, bind, Except.bind]
    | ok source =>
      simp only [Stage.runAll, Stage.run, JoinSpec.extendAll, hscan, bind, Except.bind, pure,
        Except.pure, lookupRows, List.flatMap_map]
      rw [ih hdot.2 hright.2]
      congr 2
      funext row
      exact unwindRow_lookup join hdot.1 source row

end Document

end DualQuery
