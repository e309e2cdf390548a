import DualQuery.Proofs.RecordPath
import DualQuery.Proofs.SessionState
import Mathlib.Order.Bounds.Basic

/-!
# Chains of relations

A schema has a chain of relations where each one after the first is among the fields that the one
before embeds. The tree that a catalog keeps of an entity knows the names along the chains of its
schema, and nothing else: fields of one name are merged into one branch, and below a field that is
left out nothing is added.

What a catalog finds when it first looks at an entity stays. So a schema that has been added before
tells how deep a path is known, whatever is added or looked at later.

## Key results

- `PathTree.le_knownDepth_iff`: the known depth of a path and the beginnings that a tree knows
- `PathTree.knows_addFields_iff`, `PathTree.knows_addKind_iff`: what a tree knows once fields are
  added
- `PathTree.isGreatest_knownDepth`: the longest chain along a path
- `Catalog.entry_run_visit`: what was found stays
- `Catalog.knownDepth_isGreatest_chain`: depths and valid paths by the chains of a schema
-/

namespace DualQuery

/-! ## Chains -/

/-- The fields that a field embeds. -/
def FieldKind.inner : FieldKind → List FieldDef
  | embedded fields => fields
  | scalar _ | reference _ | referenceArray _ => []

/-- Whether a field is a relation of a catalog with some reserved names. -/
structure IsRelation (reserved : List String) (field : FieldDef) : Prop where
  not_reserved : field.1 ∉ reserved
  /-- Names that start with an underscore are kept to the entity itself. -/
  not_hidden : field.1.toList.head? ≠ some '_'
  relates : field.2.relationKind?.isSome

/-- The chains of relations that start among some fields. -/
inductive IsChain (reserved : List String) : List FieldDef → List FieldDef → Prop where
  | nil {fields : List FieldDef} : IsChain reserved fields []
  | cons {fields chain : List FieldDef} {field : FieldDef} (hmem : field ∈ fields)
    (hfield : IsRelation reserved field) (hchain : IsChain reserved field.2.inner chain) :
    IsChain reserved fields (field :: chain)

/-- Whether some fields have a chain with the given names. -/
def HasChain (reserved : List String) (fields : List FieldDef) (names : List String) : Prop :=
  ∃ chain, IsChain reserved fields chain ∧ chain.map (·.1) = names

section Chains

variable {reserved : List String} {name : String} {kind : FieldKind} {fields : List FieldDef}

/-- A field is a relation where it is neither reserved nor without a kind of relation. -/
theorem isRelation_iff :
    IsRelation reserved (name, kind) ↔
      (isReserved reserved name || kind.relationKind?.isNone) = false := by
  have hreserved : isReserved reserved name = false ↔
      name.toList.head? ≠ some '_' ∧ name ∉ reserved := by
    simp [isReserved]
  rw [Bool.or_eq_false_iff, hreserved, ← Option.not_isSome, Bool.not_eq_false']
  exact ⟨fun h => ⟨⟨h.not_hidden, h.not_reserved⟩, h.relates⟩,
    fun h => ⟨h.1.2, h.1.1, h.2⟩⟩

/-- Any fields have the empty chain. -/
theorem hasChain_nil (reserved : List String) (fields : List FieldDef) :
    HasChain reserved fields [] :=
  ⟨[], .nil, rfl⟩

/-- A chain begins with a field. -/
theorem exists_mem_of_hasChain {first : String} {names : List String}
    (h : HasChain reserved fields (first :: names)) : ∃ field ∈ fields, field.1 = first := by
  obtain ⟨chain, hchain, hnames⟩ := h
  cases hchain with
  | nil => cases hnames
  | cons hmem _ _ => exact ⟨_, hmem, (List.cons.inj hnames).1⟩

/-- No fields have no chain with a relation. -/
theorem not_hasChain_of_nil {names : List String} : ¬ HasChain reserved [] (name :: names) := by
  intro h
  obtain ⟨field, hmem, -⟩ := exists_mem_of_hasChain h
  cases hmem

/-- The first relation of a chain is one of the fields. -/
theorem hasChain_cons_iff {first : String} {names : List String} :
    HasChain reserved ((name, kind) :: fields) (first :: names) ↔
      (name = first ∧ IsRelation reserved (name, kind) ∧ HasChain reserved kind.inner names) ∨
        HasChain reserved fields (first :: names) := by
  constructor
  · rintro ⟨chain, hchain, hnames⟩
    -- a chain with names has a first relation, the first field or one of the others
    cases hchain with
    | nil => cases hnames
    | cons hmem hfield hchain =>
      obtain ⟨hfirst, hrest⟩ := List.cons.inj hnames
      rcases List.mem_cons.1 hmem with rfl | hmem
      · exact .inl ⟨hfirst, hfield, _, hchain, hrest⟩
      · exact .inr ⟨_, .cons hmem hfield hchain, hnames⟩
  · rintro (⟨rfl, hfield, chain, hchain, rfl⟩ | ⟨chain, hchain, hnames⟩)
    · exact ⟨_, .cons List.mem_cons_self hfield hchain, rfl⟩
    · cases hchain with
      | nil => cases hnames
      | cons hmem hfield hchain =>
        exact ⟨_, .cons (List.mem_cons_of_mem _ hmem) hfield hchain, hnames⟩

end Chains

/-! ## Trees -/

namespace PathTree

/-- Whether segments lead down a tree. -/
def Knows : PathTree → List String → Prop
  | _, [] => True
  | tree, segment :: segments =>
    ∃ child, Keyed.get? tree.children segment = some child ∧ Knows child segments

variable {tree : PathTree}

/-- A tree knows all beginnings of a path up to the known depth. -/
theorem le_knownDepth_iff {segments : List String} {k : Nat} :
    k ≤ tree.knownDepth segments ↔ k ≤ segments.length ∧ tree.Knows (segments.take k) := by
  -- both the tree and the depth go down by one with the path
  induction segments generalizing tree k with
  | nil => simp [knownDepth, Knows]
  | cons segment segments ih =>
    cases k with
    | zero => simp [Knows]
    | succ k =>
      cases hchild : Keyed.get? tree.children segment with
      | none => simp [knownDepth, Knows, hchild]
      | some child => simp [knownDepth, Knows, hchild, ih]

/-- An empty tree knows no segment. -/
theorem not_knows_empty {segment : String} {segments : List String} :
    ¬ empty.Knows (segment :: segments) := by
  rintro ⟨child, hchild, -⟩
  cases hchild

/-- A single segment is known where it is a branch at the root. -/
theorem knows_singleton_iff {segment : String} :
    tree.Knows [segment] ↔ tree.containsRoot segment = true := by
  simp [Knows, containsRoot, Keyed.contains, Option.isSome_iff_exists]

/-- A graft is seen under its own segment only. -/
theorem knows_graft_iff {name segment : String} {segments : List String}
    {change : PathTree → PathTree} :
    (tree.graft name change).Knows (segment :: segments) ↔
      if name = segment then
        (change ((Keyed.get? tree.children name).getD empty)).Knows segments
      else tree.Knows (segment :: segments) := by
  by_cases hname : name = segment
  · subst hname
    simp [Knows, graft, children, Keyed.get?_insert_self]
  · simp [Knows, graft, children, Keyed.get?_insert_of_ne _ _ hname, hname]

section Adding

variable {reserved : List String}

/-- No fields have no chains but the empty one, which every tree knows. -/
theorem knows_iff_of_nil {names : List String} :
    tree.Knows names ↔ tree.Knows names ∨ HasChain reserved [] names := by
  cases names with
  | nil => simp [Knows]
  | cons name names => simp [not_hasChain_of_nil]

/-- What is added below a segment is known behind it. -/
theorem knows_graft_of_adds {inner : List FieldDef} {change : PathTree → PathTree}
    (hchange : ∀ (tree : PathTree) (names : List String),
      (change tree).Knows names ↔ tree.Knows names ∨ HasChain reserved inner names)
    (tree : PathTree) (name first : String) (names : List String) :
    (tree.graft name change).Knows (first :: names) ↔
      tree.Knows (first :: names) ∨ (name = first ∧ HasChain reserved inner names) := by
  rw [knows_graft_iff]
  by_cases hname : name = first
  · subst hname
    rw [if_pos rfl, hchange]
    cases hchild : Keyed.get? tree.children name with
    | some child => simp [Knows, hchild]
    | none =>
      -- a new branch knows the empty path only, which is a chain as well
      have hnew : empty.Knows names → HasChain reserved inner names := fun hknows => by
        cases names with
        | nil => exact hasChain_nil reserved inner
        | cons next names => exact absurd hknows not_knows_empty
      simpa [Knows, hchild] using hnew
  · simp [hname]

mutual
/-- A tree to which fields are added knows what it knew and the chains of the fields. -/
theorem knows_addFields_iff : (fields : List (String × FieldKind)) → (tree : PathTree) →
    (names : List String) →
    ((addFields reserved fields tree).Knows names ↔
      tree.Knows names ∨ HasChain reserved fields names)
  | [], tree, names => by
    rw [addFields]
    exact knows_iff_of_nil
  | (name, kind) :: fields, tree, [] => by simp [Knows]
  | (name, kind) :: fields, tree, first :: names => by
    have hkind := knows_graft_of_adds (fun tree names => knows_addKind_iff kind tree names)
      tree name first names
    -- what the other fields add is the same on both sides
    rw [addFields, knows_addFields_iff fields, hasChain_cons_iff, isRelation_iff, ← or_assoc]
    cases hskip : isReserved reserved name || kind.relationKind?.isNone with
    | true => simp
    | false => simp [hkind]

/-- A tree to which a field is added at its place knows what it knew and the chains behind the
field. -/
theorem knows_addKind_iff : (kind : FieldKind) → (tree : PathTree) → (names : List String) →
    ((addKind reserved kind tree).Knows names ↔
      tree.Knows names ∨ HasChain reserved kind.inner names)
  | .embedded fields, tree, names => by
    rw [addKind]
    exact knows_addFields_iff fields tree names
  | .scalar _, tree, names | .reference _, tree, names | .referenceArray _, tree, names => by
    rw [addKind]
    exact knows_iff_of_nil
end

end Adding

/-- A tree of fields knows the names along their chains. -/
theorem knows_addFields_empty_iff {reserved : List String} {fields : List FieldDef}
    {names : List String} :
    (addFields reserved fields empty).Knows names ↔ HasChain reserved fields names := by
  rw [knows_addFields_iff]
  cases names with
  | nil => simp [Knows, hasChain_nil]
  | cons first names => simp [not_knows_empty]

/-- The known depth of a path is the length of the longest chain along it. -/
theorem isGreatest_knownDepth (reserved : List String) (fields : List FieldDef)
    (segments : List String) :
    IsGreatest {k | ∃ chain, IsChain reserved fields chain ∧ chain.length = k ∧
        chain.map (·.1) = segments.take k}
      ((addFields reserved fields empty).knownDepth segments) := by
  have hset : {k | ∃ chain, IsChain reserved fields chain ∧ chain.length = k ∧
      chain.map (·.1) = segments.take k} =
        Set.Iic ((addFields reserved fields empty).knownDepth segments) := by
    ext k
    rw [Set.mem_Iic, le_knownDepth_iff, knows_addFields_empty_iff]
    -- a chain named by the first `k` segments has `k` relations if there are as many segments
    constructor
    · rintro ⟨chain, hchain, hlength, hnames⟩
      have hk := congrArg List.length hnames
      rw [List.length_map, List.length_take, hlength] at hk
      exact ⟨by omega, chain, hchain, hnames⟩
    · rintro ⟨hk, chain, hchain, hnames⟩
      have hlength := congrArg List.length hnames
      rw [List.length_map, List.length_take] at hlength
      exact ⟨chain, hchain, by omega, hnames⟩
  rw [hset]
  exact isGreatest_Iic

end PathTree

/-! ## Catalogs -/

namespace Registry

variable {registry : Registry}

/-- A schema without nameless fields is found under its entity. -/
theorem describe_register {schema : EntitySchema}
    (hnames : ∀ field ∈ schema.fields, field.1 ≠ "") :
    (registry.register schema).describe schema.name = .ok schema := by
  have hnamed : (schema.fields.any fun field => field.1 == "") = false :=
    List.any_eq_false.2 fun field hfield => by simpa using hnames field hfield
  rw [describe, register, Keyed.get?_insert_self]
  simp only [hnamed, Bool.false_eq_true, if_false]

/-- A new schema leaves the schemas of other entities. -/
theorem describe_register_of_ne (schema : EntitySchema) {entity : String}
    (h : schema.name ≠ entity) :
    (registry.register schema).describe entity = registry.describe entity := by
  rw [describe, register, Keyed.get?_insert_of_ne _ _ h, describe]

end Registry

namespace Catalog

/-- What happens to a catalog: a schema is added, or an entity is looked at. -/
inductive Step where
  | register (schema : EntitySchema)
  | visit (entity : String)
  deriving Repr, Inhabited

/-- The entity that a step is about. -/
def Step.entity : Step → String
  | register schema => schema.name
  | visit entity => entity

/-- The catalog after a step. -/
def step (catalog : Catalog) : Step → Catalog
  | .register schema => catalog.register schema
  | .visit entity => catalog.visit entity

/-- The catalog after steps. -/
def run (catalog : Catalog) (steps : List Step) : Catalog := steps.foldl step catalog

variable {catalog : Catalog} {entity : String}

/-- A new schema tells of its entity what it has, unless the entity was looked at before. -/
theorem entry_register {schema : EntitySchema}
    (hnew : Keyed.get? catalog.entries schema.name = none)
    (hnames : ∀ field ∈ schema.fields, field.1 ≠ "") :
    (catalog.register schema).entry schema.name = .ofSchema catalog.reserved schema := by
  simp only [entry, register, hnew, Option.getD_none, CatalogEntry.discover,
    Registry.describe_register hnames]

/-- A step about another entity changes nothing. -/
theorem entry_step_of_ne {step : Step} (h : step.entity ≠ entity) :
    (catalog.step step).entry entity = catalog.entry entity := by
  cases step with
  | register schema =>
    simp only [Catalog.step, entry, register, CatalogEntry.discover,
      Registry.describe_register_of_ne _ h]
  | visit visited => exact catalog.entry_visit visited entity

/-- Steps about other entities change nothing. -/
theorem entry_run_of_ne {steps : List Step} (h : ∀ step ∈ steps, step.entity ≠ entity) :
    (catalog.run steps).entry entity = catalog.entry entity := by
  induction steps generalizing catalog with
  | nil => rfl
  | cons step steps ih =>
    rw [List.forall_mem_cons] at h
    exact (ih h.2).trans (entry_step_of_ne h.1)

/-- No step changes what was found. -/
theorem get?_entries_run {found : CatalogEntry}
    (h : Keyed.get? catalog.entries entity = some found) (steps : List Step) :
    Keyed.get? (catalog.run steps).entries entity = some found := by
  induction steps generalizing catalog with
  | nil => exact h
  | cons step steps ih =>
    refine ih ?_
    -- only a visit writes an entry, and a visit of a found entity writes the one that is there
    cases step with
    | register schema => exact h
    | visit visited =>
      simp only [Catalog.step, visit]
      by_cases hvisited : visited = entity
      · rw [hvisited, Keyed.get?_insert_self, entry, h, Option.getD_some]
      · rw [Keyed.get?_insert_of_ne _ _ hvisited, h]

/-- What is found when an entity is looked at stays, whatever happens later. -/
theorem entry_run_visit (catalog : Catalog) (entity : String) (steps : List Step) :
    ((catalog.visit entity).run steps).entry entity = catalog.entry entity := by
  have hfound : Keyed.get? (catalog.visit entity).entries entity = some (catalog.entry entity) :=
    Keyed.get?_insert_self _ _ _
  rw [entry, get?_entries_run hfound steps, Option.getD_some]

/-- The known depth of a path counts from its first segment. -/
theorem one_le_knownDepth_iff (catalog : Catalog) (entity path : String) :
    1 ≤ catalog.knownDepth entity path ↔ catalog.isValidRoot entity (Text.root path) = true := by
  obtain ⟨rest, hrest⟩ := Text.segments_eq_root_cons path
  rw [knownDepth, PathTree.le_knownDepth_iff, hrest, isValidRoot, ← PathTree.knows_singleton_iff]
  simp

/-- Where no relation has an empty name, a path is valid if its first segment is a relation. -/
theorem isValidPath_eq (h : catalog.isValidRoot entity "" = false) (path : String) :
    catalog.isValidPath entity path = catalog.isValidRoot entity (Text.root path) := by
  rw [isValidPath]
  by_cases hroot : Text.root path = ""
  · simp [hroot, h]
  · simp [hroot]

/-- A relation has the name of a field. -/
theorem isValidRoot_empty {reserved : List String} {schema : EntitySchema}
    (hentry : catalog.entry entity = .ofSchema reserved schema)
    (hnames : ∀ field ∈ schema.fields, field.1 ≠ "") : catalog.isValidRoot entity "" = false := by
  -- the tree knows the names of chains only, and each of these is the name of a field
  rw [isValidRoot, hentry, ← Bool.not_eq_true, CatalogEntry.ofSchema,
    ← PathTree.knows_singleton_iff, PathTree.knows_addFields_empty_iff]
  intro h
  obtain ⟨field, hmem, hname⟩ := exists_mem_of_hasChain h
  exact hnames field hmem hname

/-- Once a schema without nameless fields has been added, and as long as nothing was found of its
entity before, the catalog knows the chains of the schema, whatever is added or looked at later. The
known depth of a path is the length of the longest chain along it, and a path is valid, on its own
and among others, if that is at least one. -/
theorem knownDepth_isGreatest_chain {schema : EntitySchema}
    (hnew : Keyed.get? catalog.entries schema.name = none)
    (hnames : ∀ field ∈ schema.fields, field.1 ≠ "") {before : List Step}
    (hbefore : ∀ step ∈ before, step.entity ≠ schema.name) (after : List Step) (path : String)
    (paths : List String) :
    let known := (((catalog.register schema).run before).visit schema.name).run after
    IsGreatest {k | ∃ chain, IsChain catalog.reserved schema.fields chain ∧ chain.length = k ∧
        chain.map (·.1) = (Text.segments path).take k} (known.knownDepth schema.name path) ∧
      known.validateBatch schema.name paths = paths.map (known.isValidPath schema.name) ∧
      (known.isValidPath schema.name path = true ↔ 1 ≤ known.knownDepth schema.name path) := by
  intro known
  have hentry : known.entry schema.name = .ofSchema catalog.reserved schema :=
    calc known.entry schema.name
      _ = ((catalog.register schema).run before).entry schema.name := entry_run_visit _ _ after
      _ = (catalog.register schema).entry schema.name := entry_run_of_ne hbefore
      _ = .ofSchema catalog.reserved schema := entry_register hnew hnames
  -- a name that no field has is not a relation, so an empty path is not valid either
  have hvalid (path : String) : known.isValidPath schema.name path =
      known.isValidRoot schema.name (Text.root path) :=
    isValidPath_eq (isValidRoot_empty hentry hnames) path
  refine ⟨?_, ?_, ?_⟩
  · rw [knownDepth, hentry]
    exact PathTree.isGreatest_knownDepth _ _ _
  · exact List.map_congr_left fun path _ => (hvalid path).symm
  · rw [hvalid, one_le_knownDepth_iff]

/-- The fields of shops. Contacts are declared twice, and zones have no name. -/
def shopSchema : EntitySchema where
  name := "shops"
  fields := [("owner", .reference "users"),
    ("contact", .embedded [("email", .scalar .string), ("manager", .reference "users")]),
    ("contact", .embedded [("geo", .embedded [("", .referenceArray "zones"),
      ("_hidden", .reference "users")]), ("secret", .reference "users")])]

/-- A catalog that has found nothing so far. -/
def newCatalog : Catalog := reserving {} ["secret"]

/-- Four segments of which three are a chain: the empty name is a relation between the two. -/
theorem knownDepth_isGreatest_chain_shops :
    Keyed.get? newCatalog.entries shopSchema.name = none ∧
      (∀ field ∈ shopSchema.fields, field.1 ≠ "") ∧
      (∀ step ∈ [Step.visit "users"], step.entity ≠ shopSchema.name) ∧
      IsGreatest {k | ∃ chain, IsChain newCatalog.reserved shopSchema.fields chain ∧
        chain.length = k ∧ chain.map (·.1) = (Text.segments "contact.geo..owner").take k} 3 ∧
      ["contact.manager", "secret", ""].map
        ((((newCatalog.register shopSchema).run [.visit "users"]).visit "shops").run
          [.register { name := "shops" }] |>.isValidPath "shops") = [true, false, false] := by
  have hnew : Keyed.get? newCatalog.entries shopSchema.name = none := rfl
  have hnames : ∀ field ∈ shopSchema.fields, field.1 ≠ "" := by decide
  have hbefore : ∀ step ∈ [Step.visit "users"], step.entity ≠ shopSchema.name := by decide
  obtain ⟨hdepth, hbatch, -⟩ := knownDepth_isGreatest_chain hnew hnames hbefore
    [.register { name := "shops" }] "contact.geo..owner" ["contact.manager", "secret", ""]
  exact ⟨hnew, hnames, hbefore, hdepth, hbatch.symm.trans (by rfl)⟩

end Catalog

end DualQuery
