import DualQuery.Proofs.FirstOccurrences
import DualQuery.Proofs.RecordPath
import DualQuery.Schema.Resolution
import Mathlib.Data.List.Forall2

/-!
# Resolved relations

The requested paths are trimmed, and each of them is either valid or failed: valid if it can be
followed from the entity, that is if none of its segments is blank and the first one is a relation
that the catalog knows. `IsResolutionOf` says what the outcome for a list of paths is: both lists in
the order of the requests, each path once, a reason for each failure, and for each valid path the
chain whose relations are its segments.

## Key results

- `Chain.exists_ofPath?`, `Chain.ofPath?_of_not_full`: the chain of a path
- `Chain.dotted_eq`, `Chain.depth_eq`: the path of a chain, and its length
- `Resolution.foldl_add`: what some paths add to an outcome
- `resolveRelations_eq`: the outcome as two filters of the requests
- `isResolutionOf_resolveRelations`: the outcome for any catalog, entity and paths
-/

namespace DualQuery

/-- Whether no segment of a path is blank. -/
def Text.Full (path : String) : Prop :=
  ∀ segment ∈ segments path, allBlank segment = false

instance (path : String) : Decidable (Text.Full path) :=
  inferInstanceAs (Decidable (∀ segment ∈ Text.segments path, Text.allBlank segment = false))

namespace Chain

/-! ## Chains and paths -/

/-- A chain has a first relation. -/
theorem exists_toList_eq (chain : Chain) : ∃ rest, chain.toList = chain.head :: rest := by
  cases chain with
  | last relation => exact ⟨[], rfl⟩
  | step relation next => exact ⟨next.toList, rfl⟩

/-- The depth of a chain is the number of its relations. -/
theorem depth_eq (chain : Chain) : chain.depth = chain.toList.length := by
  induction chain with
  | last relation => rfl
  | step relation next ih => rw [depth, toList, List.length_cons, ih, Nat.add_comm]

/-- The path of a chain is its relations with dots between them. -/
theorem dotted_eq (chain : Chain) : chain.dotted = Text.dotted chain.toList := by
  induction chain with
  | last relation => simp [dotted, toList, Text.dotted, Text.paste]
  | step relation next ih =>
    -- there is a dot behind the relation because another one follows
    obtain ⟨rest, hrest⟩ := next.exists_toList_eq
    rw [dotted, toList, ih, hrest]
    simp [Text.dotted, Text.paste, String.ext_iff]

/-- A list of relations is a chain unless it is empty. -/
theorem ofList?_eq_some_iff {relations : List String} {chain : Chain} :
    ofList? relations = some chain ↔ chain.toList = relations := by
  -- a chain and a list of relations are taken apart together: a chain ends where one relation is
  -- left
  induction relations generalizing chain with
  | nil =>
    obtain ⟨rest, hrest⟩ := chain.exists_toList_eq
    simp [ofList?, hrest]
  | cons relation rest ih =>
    cases rest with
    | nil =>
      cases chain with
      | last first => simp [ofList?, toList, eq_comm]
      | step first next =>
        obtain ⟨more, hmore⟩ := next.exists_toList_eq
        simp [ofList?, toList, hmore]
    | cons second rest =>
      cases chain with
      | last first => simp [ofList?, toList]
      | step first next => simp [ofList?, toList, ih, eq_comm, and_comm]

/-- Some relations are a chain. -/
theorem exists_ofList? {relations : List String} (h : relations ≠ []) :
    ∃ chain, ofList? relations = some chain := by
  induction relations with
  | nil => exact absurd rfl h
  | cons relation rest ih =>
    cases rest with
    | nil => exact ⟨.last relation, rfl⟩
    | cons second rest =>
      obtain ⟨next, hnext⟩ := ih (List.cons_ne_nil second rest)
      exact ⟨.step relation next, by rw [ofList?, hnext, Option.map_some]; simp⟩

/-- A path with a blank segment has no chain. -/
theorem ofPath?_of_not_full {path : String} (h : ¬ Text.Full path) : ofPath? path = none := by
  have hblank : (Text.segments path).any Text.allBlank = true := by
    simpa [Text.Full] using h
  rw [ofPath?, if_pos hblank]

/-- Any other path has the chain of its segments. -/
theorem exists_ofPath? {path : String} (h : Text.Full path) :
    ∃ chain, ofPath? path = some chain ∧ chain.toList = Text.segments path := by
  have hfull : ¬ (Text.segments path).any Text.allBlank = true := by
    simpa [Text.Full] using h
  obtain ⟨chain, hchain⟩ := exists_ofList? (Text.segments_ne_nil path)
  refine ⟨chain, ?_, ofList?_eq_some_iff.1 hchain⟩
  rw [ofPath?, if_neg hfull, hchain]

variable {path : String} {chain : Chain}

/-- The chain of a path starts with its root. -/
theorem head_of_toList_eq (h : chain.toList = Text.segments path) :
    chain.head = Text.root path := by
  obtain ⟨rest, hrest⟩ := chain.exists_toList_eq
  obtain ⟨rest', hrest'⟩ := Text.segments_eq_root_cons path
  rw [hrest, hrest'] at h
  exact (List.cons.inj h).1

/-- The path can be read off its chain. -/
theorem dotted_of_toList_eq (h : chain.toList = Text.segments path) : chain.dotted = path := by
  rw [dotted_eq, h, Text.dotted_segments]

end Chain

/-! ## Which paths can be followed -/

namespace Catalog

variable (catalog : Catalog) (entity : String)

/-- Whether a path can be followed from an entity: no segment is blank, and the first one is a
relation of the entity. -/
def Resolves (path : String) : Prop :=
  Text.Full path ∧ catalog.isValidRoot entity (Text.root path) = true

instance (path : String) : Decidable (catalog.Resolves entity path) :=
  inferInstanceAs (Decidable (Text.Full path ∧ _))

/-- What is said of a path that cannot be followed. -/
def failure (path : String) : RelationError where
  relation := path
  error :=
    if Text.Full path then "Unknown relation '" ++ Text.root path ++ "' on '" ++ entity ++ "'"
    else "Relation path has an empty segment"
  severity := .warning

end Catalog

namespace Resolution

variable {catalog : Catalog} {entity path : String} (r : Resolution)

/-- A path that can be followed is added to the valid ones, and its chain to those that are
loaded. -/
theorem add_of_resolves (h : catalog.Resolves entity path) :
    ∃ chain, Chain.ofPath? path = some chain ∧
      r.add entity (catalog.entry entity).tree path =
        { r with valid := r.valid ++ [path], populate := r.populate ++ [chain] } := by
  obtain ⟨hfull, hroot⟩ := h
  obtain ⟨chain, hchain, hlist⟩ := Chain.exists_ofPath? hfull
  have hknown : (catalog.entry entity).tree.containsRoot chain.head = true := by
    rw [Chain.head_of_toList_eq hlist]
    exact hroot
  refine ⟨chain, hchain, ?_⟩
  simp only [add, hchain, hknown, if_true]

/-- A path that cannot be followed is added to the failures alone. -/
theorem add_of_not_resolves (h : ¬ catalog.Resolves entity path) :
    r.add entity (catalog.entry entity).tree path =
      { r with failed := r.failed ++ [Catalog.failure entity path] } := by
  by_cases hfull : Text.Full path
  · obtain ⟨chain, hchain, hlist⟩ := Chain.exists_ofPath? hfull
    have hunknown : ¬ (catalog.entry entity).tree.containsRoot (Text.root path) = true :=
      fun hroot => h ⟨hfull, hroot⟩
    simp only [add, hchain, Chain.head_of_toList_eq hlist, if_neg hunknown, Catalog.failure,
      if_pos hfull]
  · simp only [add, Chain.ofPath?_of_not_full hfull, Catalog.failure, if_neg hfull]

variable (catalog) (entity)

/-- What a list of paths adds. -/
theorem foldl_add (paths : List String) :
    paths.foldl (add entity (catalog.entry entity).tree) r =
      { populate := r.populate ++
          (paths.filter (catalog.Resolves entity ·)).filterMap Chain.ofPath?
        valid := r.valid ++ paths.filter (catalog.Resolves entity ·)
        failed := r.failed ++
          (paths.filter (¬ catalog.Resolves entity ·)).map (Catalog.failure entity) } := by
  -- each path goes to one side, behind what is there already
  induction paths generalizing r with
  | nil => simp
  | cons path paths ih =>
    rw [List.foldl_cons]
    by_cases h : catalog.Resolves entity path
    · obtain ⟨chain, hchain, hadd⟩ := add_of_resolves r h
      simp [hadd, ih, h, hchain]
    · simp [add_of_not_resolves r h, ih, h]

end Resolution

/-! ## The outcome for all paths -/

variable (catalog : Catalog) (entity : String) (paths : List String)

/-- The trimmed paths, each at its first place. -/
def requestedPaths : List String := (paths.map Text.trim).eraseDups

/-- The outcome for some paths: those that can be followed, and the others with their reasons. -/
theorem resolveRelations_eq :
    resolveRelations catalog entity paths =
      { populate :=
          ((requestedPaths paths).filter (catalog.Resolves entity ·)).filterMap Chain.ofPath?
        valid := (requestedPaths paths).filter (catalog.Resolves entity ·)
        failed := ((requestedPaths paths).filter (¬ catalog.Resolves entity ·)).map
          (Catalog.failure entity) } := by
  rw [resolveRelations, Resolution.foldl_add, requestedPaths]
  simp

/-- What the outcome for a list of trimmed paths is. -/
structure IsResolutionOf (r : Resolution) : Prop where
  mem_valid (path : String) : path ∈ r.valid ↔ path ∈ paths ∧ catalog.Resolves entity path
  mem_failed (path : String) :
    path ∈ r.failed.map (·.relation) ↔ path ∈ paths ∧ ¬ catalog.Resolves entity path
  /-- Each path once, in the order of the first requests for it. -/
  valid_order : r.valid.Pairwise fun a b => paths.idxOf a < paths.idxOf b
  failed_order : (r.failed.map (·.relation)).Pairwise fun a b => paths.idxOf a < paths.idxOf b
  failures : ∀ error ∈ r.failed, error = Catalog.failure entity error.relation
  /-- A chain for each valid path, and its relations are the segments. -/
  chains : List.Forall₂ (fun path (chain : Chain) => chain.toList = Text.segments path ∧
    chain.dotted = path ∧ chain.depth = (Text.segments path).length) r.valid r.populate
  roots : ∀ chain ∈ r.populate, catalog.isValidRoot entity chain.head = true

/-- The chains of paths that can be followed. -/
theorem forall₂_filterMap_ofPath? {paths : List String}
    (h : ∀ path ∈ paths, catalog.Resolves entity path) :
    List.Forall₂ (fun path (chain : Chain) => chain.toList = Text.segments path)
      paths (paths.filterMap Chain.ofPath?) := by
  induction paths with
  | nil => exact .nil
  | cons path paths ih =>
    rw [List.forall_mem_cons] at h
    obtain ⟨chain, hchain, hlist⟩ := Chain.exists_ofPath? h.1.1
    rw [List.filterMap_cons_some hchain]
    exact .cons hlist (ih h.2)

/-- A chain comes from a path that can be followed. -/
theorem isValidRoot_of_mem_filterMap {paths : List String}
    (h : ∀ path ∈ paths, catalog.Resolves entity path) {chain : Chain}
    (hmem : chain ∈ paths.filterMap Chain.ofPath?) :
    catalog.isValidRoot entity chain.head = true := by
  obtain ⟨path, hpath, hchain⟩ := List.mem_filterMap.1 hmem
  obtain ⟨chain', hchain', hlist⟩ := Chain.exists_ofPath? (h path hpath).1
  obtain rfl : chain' = chain := Option.some.inj (hchain'.symm.trans hchain)
  rw [Chain.head_of_toList_eq hlist]
  exact (h path hpath).2

/-- The paths of a request are parted without loss. -/
theorem isResolutionOf_resolveRelations :
    IsResolutionOf catalog entity (paths.map Text.trim)
      (resolveRelations catalog entity paths) := by
  have horder := List.pairwise_idxOf_eraseDups (paths.map Text.trim)
  have hmem (path : String) : path ∈ requestedPaths paths ↔ path ∈ paths.map Text.trim :=
    List.mem_eraseDups
  have hvalid : ∀ path ∈ (requestedPaths paths).filter (catalog.Resolves entity ·),
      catalog.Resolves entity path := fun path hpath => by
    simpa using (List.mem_filter.1 hpath).2
  -- a failure keeps the path it is about
  have hfailed : ((requestedPaths paths).filter (¬ catalog.Resolves entity ·)).map
      ((·.relation) ∘ Catalog.failure entity) =
        (requestedPaths paths).filter (¬ catalog.Resolves entity ·) :=
    List.map_id' _
  rw [resolveRelations_eq]
  constructor
  case mem_valid =>
    intro path
    rw [List.mem_filter, hmem, decide_eq_true_iff]
  case mem_failed =>
    intro path
    rw [List.map_map, hfailed, List.mem_filter, hmem, decide_eq_true_iff]
  case valid_order => exact horder.filter _
  case failed_order =>
    rw [List.map_map, hfailed]
    exact horder.filter _
  case failures =>
    intro error herror
    obtain ⟨path, -, rfl⟩ := List.mem_map.1 herror
    rfl
  -- each path that resolves gives the chain of its segments, in the order of the paths
  case chains =>
    refine (forall₂_filterMap_ofPath? catalog entity hvalid).imp fun path chain hlist => ?_
    exact ⟨hlist, Chain.dotted_of_toList_eq hlist, by rw [Chain.depth_eq, hlist]⟩
  case roots => exact fun chain => isValidRoot_of_mem_filterMap catalog entity hvalid

end DualQuery
