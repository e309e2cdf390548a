import Mathlib.Data.List.Basic
import DualQuery.Document.Evaluate
import DualQuery.Proofs.GroupRows
import DualQuery.Relational.Evaluate

/-!
# Runs with lawful keys

Plans and pipelines look things up in two places, when they join and when they group. Where the
values that they look up are lawful, each of these steps comes out the same under all hashings, and
so does the whole run. What a run looks up behind its first join depends on the rows that the join
made; whether its keys are lawful is therefore asked step by step, along the run itself.

## Key results

- `Record.hits_eq_of_lawful`, `Record.groups_eq_of_lawful`: looking up and grouping
- `Relational.Plan.rows_eq_of_lawful`, `Relational.Plan.total_eq_of_lawful`: plans
- `Document.Pipeline.run_eq_of_lawful`: pipelines
-/

namespace DualQuery

/-- What is asked of a result can be decided where it can be asked of all that may come out. -/
instance decidableForallOk {ε α : Type} {p : α → Prop} [DecidablePred p] :
    (result : Except ε α) → Decidable (∀ a, result = .ok a → p a)
  | .ok a => decidable_of_iff (p a) ⟨fun h _ ha => Except.ok.inj ha ▸ h, fun h => h a rfl⟩
  | .error _ => .isTrue fun _ ha => nomatch ha

namespace Record

/-! ## Records -/

/-- Whether the values in a field are lawful among some values that are looked up. -/
def HasLawfulField (field : String) (source : List Record) (probes : List Value) : Prop :=
  Indexed.HasLawfulKeys (source.map fun record => valueAt record field) probes

instance (field : String) (source : List Record) (probes : List Value) :
    Decidable (HasLawfulField field source probes) :=
  inferInstanceAs (Decidable (Indexed.HasLawfulKeys _ _))

/-- Whether the values by which records are grouped are lawful. -/
def HasLawfulGroups (values : List (Record → Value)) (records : List Record) : Prop :=
  Indexed.HasLawfulKeys (records.map (keyOf values)) []

instance (values : List (Record → Value)) (records : List Record) :
    Decidable (HasLawfulGroups values records) :=
  inferInstanceAs (Decidable (Indexed.HasLawfulKeys _ _))

section Source

variable {field : String} {source : List Record} {probes : List Value}
  (h : HasLawfulField field source probes) (s t : Hashing)

include h

/-- The index of a source is the same under all hashings, and its keys are values of the source. -/
theorem indexBy_eq_of_lawful : @indexBy s field source = @indexBy t field source ∧
    (@indexBy s field source).Over (source.map fun record => valueAt record field) := by
  have hkey : ∀ entry ∈ source.zipIdx,
      valueAt entry.1 field ∈ source.map fun record => valueAt record field :=
    fun entry hentry => List.mem_map_of_mem (List.fst_mem_of_mem_zipIdx hentry)
  -- null keys are left out of the index, so a step either leaves it or changes it under one key
  refine Indexed.Over.foldl_eq (fun s index ((record, position) : Record × Nat) =>
      let key := valueAt record field
      if key.isNull then index
      else @Indexed.alter _ _ _ s [] (· ++ [(position, record)]) key index)
    (fun s index hindex entry hentry => ?_) (fun s t index hindex entry hentry => ?_)
    (Indexed.over_nil _) s t
  · dsimp only
    split
    · exact hindex
    · exact hindex.alter (hkey entry hentry) _ _
  · dsimp only
    rw [hindex.alter_eq h (List.mem_append_left _ (hkey entry hentry)) _ _ s t]

/-- What is found in a source under a lawful key is the same under all hashings. -/
theorem hits_eq_of_lawful {key : Value} (hkey : key ∈ probes) :
    @hits s (@indexBy s field source) key = @hits t (@indexBy t field source) key := by
  obtain ⟨hindex, hover⟩ := indexBy_eq_of_lawful h s t
  rw [← hindex]
  unfold hits
  rw [hover.find?_eq h (List.mem_append_right _ hkey) s t]

end Source

/-- Records with lawful values are grouped alike under all hashings. -/
theorem groups_eq_of_lawful {values : List (Record → Value)} {records : List Record}
    (h : HasLawfulGroups values records) (s t : Hashing) :
    @groups s values records = @groups t values records := by
  unfold groups
  -- without values to group by there is one group, which no hash map is asked for
  by_cases hempty : values.isEmpty
  · rw [if_pos hempty, if_pos hempty]
  · rw [if_neg hempty, if_neg hempty]
    have hkey : ∀ record ∈ records, keyOf values record ∈ records.map (keyOf values) :=
      fun _ => List.mem_map_of_mem
    exact (Indexed.Over.foldl_eq
      (fun s groups record =>
        @Indexed.alter _ _ _ s [] (· ++ [record]) (keyOf values record) groups)
      (fun s groups hgroups record hrecord => hgroups.alter (hkey record hrecord) _ _)
      (fun s t groups hgroups record hrecord =>
        hgroups.alter_eq h (List.mem_append_left _ (hkey record hrecord)) _ _ s t)
      (Indexed.over_nil _) s t).1

end Record

/-! ## Plans -/

namespace Relational

/-- Whether a join looks up lawful keys. -/
def JoinClause.HasLawfulKeys (join : JoinClause) (entity : String) (rows source : List Record) :
    Prop :=
  Record.HasLawfulField join.right.name source (rows.map (join.left.value entity))

instance (join : JoinClause) (entity : String) (rows source : List Record) :
    Decidable (join.HasLawfulKeys entity rows source) :=
  inferInstanceAs (Decidable (Record.HasLawfulField _ _ _))

/-- A join that looks up lawful keys makes the same rows under all hashings. -/
theorem JoinClause.rows_eq_of_lawful {join : JoinClause} {entity : String}
    {rows source : List Record} (h : join.HasLawfulKeys entity rows source) (s t : Hashing) :
    @JoinClause.rows s join entity rows source = @JoinClause.rows t join entity rows source := by
  have hhits : ∀ row ∈ rows,
      @Record.hits s (@Record.indexBy s join.right.name source) (join.left.value entity row) =
        @Record.hits t (@Record.indexBy t join.right.name source) (join.left.value entity row) :=
    fun row hrow => Record.hits_eq_of_lawful h s t (List.mem_map_of_mem hrow)
  unfold JoinClause.rows
  dsimp only
  -- the joined rows, and the records of the source that no row has taken
  congr 1
  · refine List.flatMap_congr fun row hrow => ?_
    rw [hhits row hrow]
  · have htaken := List.flatMap_congr fun row hrow =>
      congrArg (List.map Prod.fst) (hhits row hrow)
    rw [htaken]

/-- Whether joins with one source after the other look up lawful keys. -/
def JoinsHaveLawfulKeys [Hashing] (store : Store) (entity : String) (rows : List Record) :
    List JoinClause → Prop
  | [] => True
  | join :: rest => ∀ source, store.scan join.source = .ok source →
    join.HasLawfulKeys entity rows source ∧
      JoinsHaveLawfulKeys store entity (join.rows entity rows source) rest

/-- What the joins look up is found by making them one after the other. -/
instance decidableJoinsHaveLawfulKeys [Hashing] (store : Store) (entity : String) :
    (rows : List Record) → (joins : List JoinClause) →
      Decidable (JoinsHaveLawfulKeys store entity rows joins)
  | _, [] => .isTrue trivial
  | rows, join :: rest =>
    have := fun source => decidableJoinsHaveLawfulKeys store entity
      (join.rows entity rows source) rest
    inferInstanceAs (Decidable (∀ source, store.scan join.source = .ok source →
      join.HasLawfulKeys entity rows source ∧
        JoinsHaveLawfulKeys store entity (join.rows entity rows source) rest))

/-- Joins that look up lawful keys make the same rows under all hashings. -/
theorem joinAll_eq_of_lawful {s : Hashing} {store : Store} {entity : String} {rows : List Record}
    {joins : List JoinClause} (h : JoinsHaveLawfulKeys store entity rows joins) (t : Hashing) :
    @joinAll s store entity rows joins = @joinAll t store entity rows joins := by
  induction joins generalizing rows with
  | nil => rfl
  | cons join joins ih =>
    unfold joinAll
    cases hscan : store.scan join.source with
    | error e => simp only [bind, Except.bind]
    | ok source =>
      obtain ⟨hjoin, hrest⟩ := h source hscan
      simp only [bind, Except.bind]
      -- the first join comes out the same, so the others are asked of the same rows under both
      -- hashings
      rw [ih hrest, join.rows_eq_of_lawful hjoin s t]

/-- Whether the run of a plan looks up lawful keys. -/
structure Plan.HasLawfulKeys [Hashing] (plan : Plan) (store : Store) : Prop where
  /-- The values that are joined are lawful. -/
  joins : ∀ rows, store.scan plan.entity = .ok rows →
    JoinsHaveLawfulKeys store plan.entity rows plan.joins
  /-- The values of the groups are lawful. -/
  groups : ∀ rows, plan.filteredRows store = .ok rows →
    Record.HasLawfulGroups (plan.groupColumns.map fun column row => column.value plan.entity row)
      rows

instance [Hashing] (plan : Plan) (store : Store) : Decidable (plan.HasLawfulKeys store) :=
  decidable_of_iff ((∀ rows, store.scan plan.entity = .ok rows →
      JoinsHaveLawfulKeys store plan.entity rows plan.joins) ∧
    ∀ rows, plan.filteredRows store = .ok rows → Record.HasLawfulGroups
      (plan.groupColumns.map fun column row => column.value plan.entity row) rows)
    ⟨fun h => ⟨h.1, h.2⟩, fun h => ⟨h.1, h.2⟩⟩

section Plan

variable {s : Hashing} {plan : Plan} {store : Store} (h : plan.HasLawfulKeys store) (t : Hashing)

include h

namespace Plan

/-- The filtered rows of a plan with lawful keys are the same under all hashings. -/
theorem filteredRows_eq_of_lawful :
    @Plan.filteredRows s plan store = @Plan.filteredRows t plan store := by
  obtain ⟨hjoins, -⟩ := h
  unfold Plan.filteredRows
  cases hscan : store.scan plan.entity with
  | error e => simp only [bind, Except.bind]
  | ok rows =>
    simp only [bind, Except.bind]
    rw [joinAll_eq_of_lawful (hjoins rows hscan) t]

/-- The groups of a plan with lawful keys are the same under all hashings. -/
theorem groups_eq_of_lawful {rows : List Record}
    (hrows : @Plan.filteredRows s plan store = .ok rows) :
    @Plan.groups s plan rows = @Plan.groups t plan rows := by
  obtain ⟨-, hgroups⟩ := h
  exact Record.groups_eq_of_lawful (hgroups rows hrows) s t

/-- The rows of a plan with lawful keys are the same under all hashings. -/
theorem rows_eq_of_lawful : @Plan.rows s plan store = @Plan.rows t plan store := by
  unfold Plan.rows
  rw [← filteredRows_eq_of_lawful h t]
  cases hrows : @Plan.filteredRows s plan store with
  | error e => simp only [bind, Except.bind]
  | ok rows =>
    simp only [bind, Except.bind, Plan.groupedRows, groups_eq_of_lawful h t hrows]

/-- The total of a plan with lawful keys is the same under all hashings. -/
theorem total_eq_of_lawful : @Plan.total s plan store = @Plan.total t plan store := by
  unfold Plan.total
  rw [← filteredRows_eq_of_lawful h t]
  cases hrows : @Plan.filteredRows s plan store with
  | error e => simp only [bind, Except.bind]
  | ok rows => simp only [bind, Except.bind, groups_eq_of_lawful h t hrows]

end Plan

end Plan

end Relational

/-! ## Pipelines -/

namespace Document

/-- A lookup of lawful keys writes the same records under all hashings. -/
theorem lookupRows_eq_of_lawful {localField foreignField : String} {source rows : List Record}
    (h : Record.HasLawfulField foreignField source
      (rows.map fun row => Record.valueAt row localField)) (label : String) (s t : Hashing) :
    @lookupRows s localField foreignField label source rows =
      @lookupRows t localField foreignField label source rows := by
  refine List.map_congr_left fun row hrow => ?_
  dsimp only
  rw [Record.hits_eq_of_lawful h s t
    (List.mem_map_of_mem (f := fun row => Record.valueAt row localField) hrow)]

/-- Documents with lawful values are grouped alike under all hashings. -/
theorem groupRows_eq_of_lawful {key : GroupKey} {rows : List Record}
    (h : Record.HasLawfulGroups (key.fields.map fun field row => Record.valueAt row field) rows)
    (accumulators : List Accumulator) (s t : Hashing) :
    @groupRows s key accumulators rows = @groupRows t key accumulators rows :=
  congrArg (List.map _) (Record.groups_eq_of_lawful h s t)

section Keys

variable [Hashing]

mutual
/-- Whether a stage looks up lawful keys. -/
def Stage.HasLawfulKeys (store : Store) (rows : List Record) : Stage → Prop
  | .lookup source localField foreignField _ => ∀ records, store.scan source = .ok records →
    Record.HasLawfulField foreignField records (rows.map fun row => Record.valueAt row localField)
  | .group key _ =>
    Record.HasLawfulGroups (key.fields.map fun field row => Record.valueAt row field) rows
  | .facet data total =>
    Stage.HaveLawfulKeys store rows data ∧ Stage.HaveLawfulKeys store rows total
  | .filter _ | .unwind _ _ | .project _ | .sort _ | .skip _ | .limit _ | .count _ => True

/-- Whether stages, one after the other, look up lawful keys. -/
def Stage.HaveLawfulKeys (store : Store) (rows : List Record) : List Stage → Prop
  | [] => True
  | stage :: rest => stage.HasLawfulKeys store rows ∧
    ∀ out, stage.run store rows = .ok out → Stage.HaveLawfulKeys store out rest
end

mutual
/-- What a stage looks up is found by running it. -/
def decidableStageHasLawfulKeys (store : Store) (rows : List Record) :
    (stage : Stage) → Decidable (stage.HasLawfulKeys store rows)
  | .lookup source localField foreignField _ =>
    inferInstanceAs (Decidable (∀ records, store.scan source = .ok records →
      Record.HasLawfulField foreignField records
        (rows.map fun row => Record.valueAt row localField)))
  | .group key _ => inferInstanceAs (Decidable (Record.HasLawfulGroups
      (key.fields.map fun field row => Record.valueAt row field) rows))
  | .facet data total =>
    have := decidableStagesHaveLawfulKeys store rows data
    have := decidableStagesHaveLawfulKeys store rows total
    inferInstanceAs (Decidable (Stage.HaveLawfulKeys store rows data ∧
      Stage.HaveLawfulKeys store rows total))
  | .filter _ | .unwind _ _ | .project _ | .sort _ | .skip _ | .limit _ | .count _ =>
    .isTrue trivial

/-- What stages look up is found by running them one after the other. -/
def decidableStagesHaveLawfulKeys (store : Store) (rows : List Record) :
    (stages : List Stage) → Decidable (Stage.HaveLawfulKeys store rows stages)
  | [] => .isTrue trivial
  | stage :: rest =>
    have := decidableStageHasLawfulKeys store rows stage
    have := fun out => decidableStagesHaveLawfulKeys store out rest
    inferInstanceAs (Decidable (stage.HasLawfulKeys store rows ∧
      ∀ out, stage.run store rows = .ok out → Stage.HaveLawfulKeys store out rest))
end

instance (store : Store) (rows : List Record) (stages : List Stage) :
    Decidable (Stage.HaveLawfulKeys store rows stages) :=
  decidableStagesHaveLawfulKeys store rows stages

/-- Whether the run of a pipeline looks up lawful keys. -/
def Pipeline.HasLawfulKeys (pipeline : Pipeline) (store : Store) (collection : String) : Prop :=
  ∀ rows, store.scan collection = .ok rows → Stage.HaveLawfulKeys store rows pipeline.stages

end Keys

mutual
/-- A stage with lawful keys makes the same documents under all hashings. -/
theorem Stage.run_eq_of_lawful {s : Hashing} {store : Store} {rows : List Record} :
    (stage : Stage) → stage.HasLawfulKeys store rows → (t : Hashing) →
      @Stage.run s store rows stage = @Stage.run t store rows stage
  | .lookup source localField foreignField label, h, t => by
    unfold Stage.run
    cases hscan : store.scan source with
    | error e => simp only [bind, Except.bind]
    | ok records =>
      unfold Stage.HasLawfulKeys at h
      simp only [bind, Except.bind, lookupRows_eq_of_lawful (h records hscan) label s t]
  | .group key accumulators, h, t => by
    unfold Stage.run
    unfold Stage.HasLawfulKeys at h
    rw [groupRows_eq_of_lawful h accumulators s t]
  | .facet data total, h, t => by
    unfold Stage.HasLawfulKeys at h
    unfold Stage.run
    rw [Stage.runAll_eq_of_lawful data h.1 t, Stage.runAll_eq_of_lawful total h.2 t]
  -- these stages look nothing up
  | .filter _, _, _ | .unwind _ _, _, _ | .project _, _, _ | .sort _, _, _ | .skip _, _, _
  | .limit _, _, _ | .count _, _, _ => by unfold Stage.run; rfl

/-- Stages with lawful keys make the same documents under all hashings. -/
theorem Stage.runAll_eq_of_lawful {s : Hashing} {store : Store} {rows : List Record} :
    (stages : List Stage) → Stage.HaveLawfulKeys store rows stages → (t : Hashing) →
      @Stage.runAll s store rows stages = @Stage.runAll t store rows stages
  | [], _, _ => by unfold Stage.runAll; rfl
  | stage :: rest, h, t => by
    unfold Stage.HaveLawfulKeys at h
    unfold Stage.runAll
    rw [← Stage.run_eq_of_lawful stage h.1 t]
    cases hrun : @Stage.run s store rows stage with
    | error e => simp only [bind, Except.bind]
    | ok out => exact Stage.runAll_eq_of_lawful rest (h.2 out hrun) t
end

/-- The documents of a pipeline with lawful keys are the same under all hashings. -/
theorem Pipeline.run_eq_of_lawful {s : Hashing} {pipeline : Pipeline} {store : Store}
    {collection : String} (h : pipeline.HasLawfulKeys store collection) (t : Hashing) :
    @Pipeline.run s pipeline store collection = @Pipeline.run t pipeline store collection := by
  unfold Pipeline.run
  cases hscan : store.scan collection with
  | error e => simp only [bind, Except.bind]
  | ok rows => exact Stage.runAll_eq_of_lawful pipeline.stages (h rows hscan) t

end Document

end DualQuery
