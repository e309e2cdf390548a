import DualQuery.Proofs.LawfulRuns
import DualQuery.Proofs.LoadedRelations

/-!
# Loading relations under lawful keys

Loading looks up records by their primary keys, in a hash map for each table and chain. An id that
equals two keys of a table that differ may find either record. Where no id that is asked for along
a chain does, every hashing loads the same records. What other chains have loaded before takes ids
away but adds none, so the ids asked for may be read off the records as they are at the start.

With this the order in which chains are followed does not matter, nor does it matter that each run
has hash maps of its own.

## Key results

- `Populate.follow_eq_of_lawful`: a chain loads the same under all hashings
- `Populate.followsLawfully_follow`: other chains ask for no more ids
- `Populate.populate_eq_of_lawful`: chains load the same under all hashings
- `populate_order_free`: order and repetition of chains do not matter
- `populate_depends_on_hashing`: what goes wrong without lawful keys
-/

namespace DualQuery

namespace Populate

/-! ## Ids -/

/-- The primary keys in the table of an entity. -/
def keysOf (store : Store) (entity : String) : List Value :=
  ((Keyed.get? store.tables entity).getD []).filterMap fun row =>
    Keyed.get? row (primaryKey store entity)

/-- Whether a value is no id, or one that finds the same record of an entity under all hashings. -/
def HasLawfulId (store : Store) (target : String) : Value → Prop
  | .object _ => True
  | id => Indexed.HasLawfulKeys (keysOf store target) [id]

/-- Whether the ids in a field of some kind are lawful. -/
def HasLawfulIds (store : Store) : FieldKind → Value → Prop
  | .reference target, item => HasLawfulId store target item
  | .referenceArray target, .array items => ∀ item ∈ items, HasLawfulId store target item
  | .referenceArray _, _ | .scalar _, _ | .embedded _, _ => True

instance (store : Store) (target : String) : (item : Value) →
    Decidable (HasLawfulId store target item)
  | .object _ => .isTrue trivial
  | .null | .bool _ | .int _ | .float _ | .string _ | .timestamp _ | .array _ =>
    inferInstanceAs (Decidable (Indexed.HasLawfulKeys _ _))

instance (store : Store) : (kind : FieldKind) → (item : Value) →
    Decidable (HasLawfulIds store kind item)
  | .reference target, item => inferInstanceAs (Decidable (HasLawfulId store target item))
  | .referenceArray target, .array items =>
    inferInstanceAs (Decidable (∀ item ∈ items, HasLawfulId store target item))
  | .referenceArray _, .null | .referenceArray _, .bool _ | .referenceArray _, .int _
  | .referenceArray _, .float _ | .referenceArray _, .string _ | .referenceArray _, .timestamp _
  | .referenceArray _, .object _ | .scalar _, _ | .embedded _, _ => .isTrue trivial

section Ids

variable {store : Store} {target : String} (s t : Hashing)

/-- The records of a table with lawful keys are indexed alike under all hashings. -/
theorem targets_eq_of_lawful {probes : List Value}
    (h : Indexed.HasLawfulKeys (keysOf store target) probes) :
    @targets s store target = @targets t store target ∧
      (@targets s store target).Over (keysOf store target) := by
  have hkey : ∀ row ∈ (Keyed.get? store.tables target).getD [], ∀ id,
      Keyed.get? row (primaryKey store target) = some id → id ∈ keysOf store target :=
    fun row hrow id hid => List.mem_filterMap.2 ⟨row, hrow, hid⟩
  -- row by row both choices add the same entry, and the keys stay among those of the table
  refine Indexed.Over.foldl_eq (fun s => @addTarget s (primaryKey store target))
    (fun s index hindex row hrow => ?_) (fun s t index hindex row hrow => ?_)
    (Indexed.over_nil _) s t
  · unfold addTarget
    split
    next id hid => exact hindex.alter (hkey row hrow id hid) _ _
    next => exact hindex
  · unfold addTarget
    split
    next id hid =>
      exact hindex.alter_eq h (List.mem_append_left _ (hkey row hrow id hid)) _ _ s t
    next => rfl

/-- A lawful id finds the same record under all hashings. -/
theorem loaded?_eq_of_lawful {item : Value} (h : HasLawfulId store target item) :
    @loaded? s store target item = @loaded? t store target item := by
  have hid : ∀ id, Indexed.HasLawfulKeys (keysOf store target) [id] →
      @target? s store target id = @target? t store target id := by
    intro id h
    obtain ⟨htargets, hover⟩ := targets_eq_of_lawful s t h
    unfold target?
    rw [← htargets]
    exact hover.find?_eq h (List.mem_append_right _ List.mem_cons_self) s t
  cases item with
  | object record => rfl
  | _ => exact hid _ h

end Ids

/-! ## Chains -/

/-- Whether following a chain from a record with the given fields asks for lawful ids. -/
def FollowsLawfully [Hashing] (store : Store) : Chain → List FieldDef → String → Record → Prop
  | .last name, fields, _, record =>
    ∀ kind ∈ fieldKind? name fields, ∀ item ∈ Keyed.get? record name, HasLawfulIds store kind item
  | .step name next, fields, owner, record =>
    (∀ kind ∈ fieldKind? name fields, ∀ item ∈ Keyed.get? record name,
      HasLawfulIds store kind item) ∧
    ∀ hop, hop? store owner name (fieldKind? name fields) = .ok hop →
      ∀ part ∈ (field name hop.inside).parts record,
        FollowsLawfully store next hop.fields hop.owner part

instance decidableFollowsLawfully [Hashing] (store : Store) : (chain : Chain) →
    (fields : List FieldDef) → (owner : String) → (record : Record) →
      Decidable (FollowsLawfully store chain fields owner record)
  | .last name, fields, _, record =>
    inferInstanceAs (Decidable (∀ kind ∈ fieldKind? name fields,
      ∀ item ∈ Keyed.get? record name, HasLawfulIds store kind item))
  | .step name next, fields, owner, record =>
    have := fun (hop : Hop) (part : Record) =>
      decidableFollowsLawfully store next hop.fields hop.owner part
    inferInstanceAs (Decidable ((∀ kind ∈ fieldKind? name fields,
        ∀ item ∈ Keyed.get? record name, HasLawfulIds store kind item) ∧
      ∀ hop, hop? store owner name (fieldKind? name fields) = .ok hop →
        ∀ part ∈ (field name hop.inside).parts record,
          FollowsLawfully store next hop.fields hop.owner part))

/-! ## Single relations -/

/-- Steps that agree at all items give the same results and failures. -/
theorem mapFailing_congr {α β : Type} {step step' : α → β × Option String} {items : List α}
    (h : ∀ item ∈ items, step item = step' item) :
    mapFailing step items = mapFailing step' items := by
  rw [mapFailing, mapFailing, List.map_congr_left h]

/-- Entering a value is the same for steps that agree at the record that it is. -/
theorem enter_congr {f g : Step Record} {item : Value}
    (h : ∀ record, item.object? = some record → f record = g record) :
    enter f item = enter g item := by
  cases item with
  | object record => rw [enter, enter, h record rfl]
  | _ => rfl

section Relations

variable {s : Hashing} {store : Store} (t : Hashing)

/-- Loading a value is the same under all hashings for steps that agree at the record that stands
for it. -/
theorem load_eq_of_lawful {target : String} {f g : Step Record} {item : Value}
    (hitem : HasLawfulId store target item)
    (h : ∀ record, @loaded? s store target item = some record → f record = g record) :
    @load s store target f item = @load t store target g item := by
  unfold load
  rw [← loaded?_eq_of_lawful s t hitem]
  cases hloaded : @loaded? s store target item with
  | none => rfl
  | some record =>
    dsimp only
    rw [h record hloaded]

/-- Following a relation does the same under all hashings, if what goes on behind it does. -/
private theorem followRelation_eq_of_lawful {name : String} {fields : List FieldDef}
    {owner : String} {record : Record}
    (hids : ∀ kind ∈ fieldKind? name fields, ∀ item ∈ Keyed.get? record name,
      HasLawfulIds store kind item)
    {rest? other? : Option (List FieldDef → String → Step Record)}
    (hboth : rest?.isSome = other?.isSome)
    (hrest : ∀ hop, @hop? s store owner name (fieldKind? name fields) = .ok hop →
      ∀ part ∈ (field name hop.inside).parts record, hop.goOn rest? part = hop.goOn other? part) :
    @followRelation s store name rest? fields owner record =
      @followRelation t store name other? fields owner record := by
  unfold followRelation
  simp only [field] at hrest
  cases hkind : fieldKind? name fields with
  | none => rfl
  | some kind =>
    rw [hkind] at hrest hids
    cases hget : Keyed.get? record name with
    | none => cases kind <;> cases rest? <;> cases other? <;> rfl
    | some item =>
      have hitem := hids kind rfl item hget
      rw [hget] at hrest
      cases kind with
      | scalar type => rfl
      | reference target =>
        have hload := load_eq_of_lawful t hitem fun part hpart =>
          hrest _ rfl part (Option.mem_toList.2 hpart)
        -- a chain that does not go on leaves what was loaded as it is
        have hstay : Step.stay none = fun loaded : Record => (loaded, none) := rfl
        cases rest? <;> cases other? <;> simp only [Hop.goOn, hstay] at hload ⊢ <;> rw [hload]
      | referenceArray target =>
        cases item with
        | array items =>
          have hload := mapFailing_congr fun item hmem => load_eq_of_lawful t (hitem item hmem)
            fun part hpart => hrest _ rfl part (List.mem_filterMap.2 ⟨item, hmem, hpart⟩)
          exact congrArg (fun outcome : List (Option Record) × Option String =>
            (Keyed.insert record name (.array ((outcome.1.filterMap id).map .object)), outcome.2))
            hload
        | _ => rfl
      | embedded inner =>
        have hpart := hrest _ rfl
        cases rest? with
        | none =>
          cases other? with
          | none => rfl
          | some other => cases hboth
        | some rest =>
          cases other? with
          | none => cases hboth
          | some other =>
            cases item with
            | object found =>
              have henter : enter _ (.object found) = enter _ (.object found) :=
                enter_congr fun part hobject => hpart part (Option.mem_toList.2 hobject)
              exact congrArg (fun outcome : Value × Option String =>
                (Keyed.insert record name outcome.1, outcome.2)) henter
            | array items =>
              have henter := mapFailing_congr fun item hmem => enter_congr fun part hobject =>
                hpart part (List.mem_filterMap.2 ⟨item, hmem, hobject⟩)
              exact congrArg (fun outcome : List Value × Option String =>
                (Keyed.insert record name (.array outcome.1), outcome.2)) henter
            | _ => rfl

/-- A chain with lawful ids loads the same under all hashings. -/
theorem follow_eq_of_lawful {chain : Chain} {fields : List FieldDef} {owner : String}
    {record : Record} (h : @FollowsLawfully s store chain fields owner record) :
    @follow s store chain fields owner record = @follow t store chain fields owner record := by
  induction chain generalizing fields owner record with
  | last name => exact followRelation_eq_of_lawful t h rfl fun _ _ _ _ => rfl
  | step name next ih =>
    exact followRelation_eq_of_lawful t h.1 rfl fun hop hhop part hpart =>
      ih (h.2 hop hhop part hpart)

end Relations

/-! ## Other chains -/

/-- The parts behind a field depend on its value alone. -/
theorem parts_field_congr {name : String} {inside : Traversal Value Record}
    {record record' : Record} (hget : Keyed.get? record' name = Keyed.get? record name) :
    (field name inside).parts record' = (field name inside).parts record := by
  simp only [field, hget]

section Other

variable [Hashing] {store : Store}

/-- What is loaded is no id any more, so a step behind a relation asks for no new ids. -/
theorem hasLawfulIds_modify {owner name : String} {kind : FieldKind} {hop : Hop}
    (hhop : hop? store owner name (some kind) = .ok hop) (change : Record → Record) {item : Value}
    (h : HasLawfulIds store kind item) :
    HasLawfulIds store kind (hop.inside.modify change item) := by
  -- what has been loaded is a record and no longer a key, so nothing is asked of it
  cases kind with
  | scalar type => cases hhop
  | reference target =>
    obtain rfl := Except.ok.inj hhop
    simp only [reference]
    split
    · trivial
    · exact h
  | referenceArray target =>
    obtain rfl := Except.ok.inj hhop
    cases item with
    | array items =>
      refine fun item hitem => ?_
      obtain ⟨record, -, rfl⟩ := List.mem_map.1 hitem
      trivial
    | _ => exact h
  | embedded inner => trivial

/-- The ids in a field stay lawful when a chain is followed. -/
theorem hasLawfulIds_follow (other : Chain) {name : String} {fields : List FieldDef}
    {owner : String} {record : Record}
    (hids : ∀ kind ∈ fieldKind? name fields, ∀ item ∈ Keyed.get? record name,
      HasLawfulIds store kind item) :
    ∀ kind ∈ fieldKind? name fields,
      ∀ item ∈ Keyed.get? (follow store other fields owner record).1 name,
        HasLawfulIds store kind item := by
  intro kind hkind item hitem
  by_cases hhead : other.head = name
  case neg =>
    rw [get?_follow store record other fields owner hhead] at hitem
    exact hids kind hkind item hitem
  subst hhead
  rw [follow_eq, get?_followRelation, hopStep, Option.mem_def.1 hkind] at hitem
  cases hhop : hop? store owner other.head (some kind) with
  | error message =>
    rw [hhop] at hitem
    exact hids kind hkind item hitem
  | ok hop =>
    simp only [hhop, step_field] at hitem
    cases hget : Keyed.get? record other.head with
    | none => simp only [hget, reduceCtorEq, Option.mem_def] at hitem
    | some old =>
      -- the field holds what the other chain made of its value
      simp only [hget, Keyed.get?_insert_self] at hitem
      obtain rfl := Option.some.inj hitem
      exact hasLawfulIds_modify hhop _ (hids kind hkind old hget)

/-- A chain asks for lawful ids after another one was followed if it did so before. -/
theorem followsLawfully_follow {chain : Chain} (other : Chain) {fields : List FieldDef}
    {owner : String} {record : Record}
    (h : FollowsLawfully store chain fields owner record) :
    FollowsLawfully store chain fields owner (follow store other fields owner record).1 := by
  induction chain generalizing other fields owner record with
  | last name => exact hasLawfulIds_follow other h
  | step name next ih =>
    refine ⟨hasLawfulIds_follow other h.1, fun hop hhop part hpart => ?_⟩
    by_cases hhead : other.head = name
    case neg =>
      rw [parts_field_congr (get?_follow store record other fields owner hhead)] at hpart
      exact h.2 hop hhop part hpart
    subst hhead
    have hvalue := get?_followRelation store other.head (behind? store other) fields owner record
    rw [follow_eq, parts_field_congr hvalue, hopStep, hhop] at hpart
    -- behind the same relation it is the rest of the other chain that is followed
    simp only [Traversal.step] at hpart
    rw [(field other.head hop.inside).parts_modify] at hpart
    obtain ⟨old, hold, rfl⟩ := List.mem_map.1 hpart
    cases other with
    | last => exact h.2 hop hhop old hold
    | step _ next' => exact ih next' (h.2 hop hhop old hold)

end Other

/-! ## Loading -/

/-- Whether following chains from the records of an entity asks for lawful ids. -/
def HasLawfulKeys [Hashing] (store : Store) (entity : String) (records : List Record)
    (chains : List Chain) : Prop :=
  ∀ chain ∈ chains, ∀ record ∈ records,
    FollowsLawfully store chain (fieldsOf store entity) entity record

instance [Hashing] (store : Store) (entity : String) (records : List Record)
    (chains : List Chain) : Decidable (HasLawfulKeys store entity records chains) :=
  inferInstanceAs (Decidable (∀ chain ∈ chains, ∀ record ∈ records, _))

/-- Chains ask for lawful ids after one more chain was followed if they did so before. -/
theorem HasLawfulKeys.addChain [Hashing] {store : Store} {entity : String} {result : Populated}
    {chains : List Chain} (h : HasLawfulKeys store entity result.records chains) (other : Chain) :
    HasLawfulKeys store entity (addChain store entity result other).records chains := by
  intro chain hchain loaded hloaded
  rw [addChain_eq] at hloaded
  obtain ⟨record, hrecord, rfl⟩ := List.mem_map.1 hloaded
  exact followsLawfully_follow other (h chain hchain record hrecord)

/-- Chains ask for lawful ids after they were followed if they did so before. -/
theorem HasLawfulKeys.populate [Hashing] {store : Store} {entity : String} {records : List Record}
    {chains : List Chain} (h : HasLawfulKeys store entity records chains) (others : List Chain) :
    HasLawfulKeys store entity (populate store entity records others).records chains := by
  have hfold : ∀ result : Populated, HasLawfulKeys store entity result.records chains →
      HasLawfulKeys store entity
        (others.foldl (Populate.addChain store entity) result).records chains := by
    induction others with
    | nil => exact fun _ h => h
    | cons other others ih => exact fun result h => ih _ (h.addChain other)
  exact hfold ⟨records, []⟩ h

/-- Chains with lawful ids load the same under all hashings. -/
theorem populate_eq_of_lawful {s : Hashing} {store : Store} {entity : String}
    {records : List Record} {chains : List Chain}
    (h : @HasLawfulKeys s store entity records chains) (t : Hashing) :
    @populate s store entity records chains = @populate t store entity records chains := by
  -- the keys that a later chain meets depend on what the earlier ones loaded, so the records are
  -- generalized
  have hfold : ∀ result : Populated, @HasLawfulKeys s store entity result.records chains →
      chains.foldl (@addChain s store entity) result =
        chains.foldl (@addChain t store entity) result := by
    clear h
    induction chains with
    | nil => exact fun _ _ => rfl
    | cons chain chains ih =>
      intro result h
      obtain ⟨hchain, hrest⟩ := List.forall_mem_cons.1 h
      have hsame : @addChain s store entity result chain =
          @addChain t store entity result chain := by
        have hfollow : ∀ record ∈ result.records,
            @follow s store chain (fieldsOf store entity) entity record =
              @follow t store chain (fieldsOf store entity) entity record :=
          fun record hrecord => follow_eq_of_lawful t (hchain record hrecord)
        unfold addChain
        rw [mapFailing_congr hfollow]
      rw [List.foldl_cons, List.foldl_cons, ← hsame]
      exact ih _ (@HasLawfulKeys.addChain s store entity result chains hrest chain)
  exact hfold ⟨records, []⟩ h

end Populate

/-- Two users whose ids no double tells apart, and posts by users. -/
def twinStore : Store where
  tables := [("users", [[("id", .int 9007199254740992), ("name", .string "even")],
    [("id", .int 9007199254740993), ("name", .string "odd")]])]
  registry := [("posts", { name := "posts", fields := [("author", .reference "users")] })]

/-- The name of the author of a post, as it is loaded. -/
def authorName? [Hashing] (author : Value) : Option String := do
  let post ← (populate twinStore "posts" [[("author", author)]] [.last "author"]).records.head?
  (Record.valueAt post "author.name").string?

/-- Under an id that equals two keys, the record that is loaded depends on the hashing. -/
theorem populate_depends_on_hashing :
    @authorName? .firstFound (.float ⟨0x4340000000000000⟩) = some "even" ∧
      @authorName? Indexed.lastFound (.float ⟨0x4340000000000000⟩) = some "odd" := by
  decide +kernel

/-! ## Orders -/

/-- Two friends, and products of which one is missing. -/
def orderStore : Store where
  tables := [("products", [[("id", .int 1)], [("id", .int 2)]]),
    ("users", [[("friend", .int 8), ("id", .int 7)], [("friend", .int 7), ("id", .int 8)]])]
  registry := [
    ("orders", { name := "orders", fields := [("customer", .reference "users"),
      ("items", .referenceArray "products"),
      ("shipping", .embedded [("carrier", .reference "users")]), ("status", .scalar .string)] }),
    ("products", { name := "products" }),
    ("users", { name := "users", fields := [("friend", .reference "users")] })]

/-- An order with a missing product, and one that is shipped by nobody that is known. -/
def orders : List Record :=
  [[("customer", .int 7), ("items", .array [.int 1, .int 3, .int 2]),
      ("shipping", .object [("carrier", .int 8)])],
    [("customer", .int 8), ("shipping", .array [.object [("carrier", .int 9)], .null])]]

end DualQuery
