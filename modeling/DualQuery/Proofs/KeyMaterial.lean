import DualQuery.Cache.Key
import DualQuery.Proofs.JsonText
import DualQuery.Proofs.TimestampOperands
import DualQuery.Query.Reader

/-!
# What a cache key stands for

The text that a cache key is hashed from determines the entity, the descriptor, the conditions of
the server and how fields are searched, as far as each condition is told by its JSON form. A
condition is not where it is a bare value that has the form of a set of operators: both are written
alike.

## Key results

- `CacheKey.material_inj`: the hashed text determines the query
- `CacheKey.ofDigest_inj`: the key determines the entity and the digest
-/

namespace DualQuery

open Json

/-! ## Every part has a value -/

namespace Value

mutual
/-- The JSON form of a value can be written and read: what has no numeral is written as null. -/
theorem isValue_toJson : (v : Value) → v.toJson.isValue = true
  | .null | .bool _ | .int _ | .timestamp _ | .string _ => rfl
  | .float x => by
    rw [toJson]
    split
    next hfinite => exact hfinite
    next => rfl
  | .array items => by
    rw [toJson, isValue]
    exact areValues_toJsonItems items
  | .object fields => by
    rw [toJson, isValue]
    exact entriesAreValues_toJsonEntries fields

/-- So can the forms of the items of an array. -/
theorem areValues_toJsonItems : (items : List Value) → areValues (toJsonItems items) = true
  | [] => rfl
  | item :: items => by
    rw [toJsonItems, areValues, isValue_toJson item, areValues_toJsonItems items]
    rfl

/-- So can the forms of the fields of a record. -/
theorem entriesAreValues_toJsonEntries : (fields : List (String × Value)) →
    entriesAreValues (toJsonEntries fields) = true
  | [] => rfl
  | (key, value) :: fields => by
    rw [toJsonEntries, entriesAreValues, isValue_toJson value,
      entriesAreValues_toJsonEntries fields]
    rfl
end

end Value

namespace Json

/-- A list of forms can be written if each of them can. -/
theorem areValues_map {α : Type} {write : α → Json} (h : ∀ a, (write a).isValue = true)
    (as : List α) : areValues (as.map write) = true := by
  induction as with
  | nil => rfl
  | cons a as ih => rw [List.map_cons, areValues, h a, ih, Bool.true_and]

/-- Entries can be written exactly when the value of each of them can. -/
theorem entriesAreValues_iff (entries : List (String × Json)) :
    entriesAreValues entries = true ↔ ∀ entry ∈ entries, entry.2.isValue = true := by
  induction entries with
  | nil => simp [entriesAreValues]
  | cons entry entries ih =>
    rw [entriesAreValues, Bool.and_eq_true, ih, List.forall_mem_cons]

/-- What may be absent is written as null or as its form. -/
theorem isValue_ofOption {α : Type} {write : α → Json} (h : ∀ a, (write a).isValue = true)
    (a : Option α) : (ofOption write a).isValue = true := by
  cases a with
  | none => rfl
  | some a => exact h a

/-- A list of texts can always be written. -/
theorem isValue_ofStrings (texts : List String) : (ofStrings texts).isValue = true :=
  areValues_map (fun _ => rfl) texts

/-- A part that may be absent is determined by its form, as far as a present one is and is not
null. -/
theorem ofOption_inj {α β : Type} {write : α → Json} {view : α → β}
    (hnull : ∀ a, write a ≠ .null) (h : ∀ a b, write a = write b → view a = view b)
    {a b : Option α} (heq : ofOption write a = ofOption write b) : a.map view = b.map view := by
  -- the form of a present part is never the null of an absent one
  cases a with
  | none =>
    cases b with
    | none => rfl
    | some b => exact absurd heq.symm (hnull b)
  | some a =>
    cases b with
    | none => exact absurd heq (hnull a)
    | some b => exact congrArg some (h a b heq)

/-- A text that may be absent is determined by its form. -/
theorem ofOption_str_inj {a b : Option String} (h : ofOption .str a = ofOption .str b) : a = b := by
  have hview (a b : String) (heq : Json.str a = Json.str b) : id a = id b := Json.str.inj heq
  have hmap := ofOption_inj (fun _ => by simp) hview h
  rwa [Option.map_id, id, id] at hmap

/-- A list of texts is determined by its form. -/
theorem ofStrings_inj {as bs : List String} (h : ofStrings as = ofStrings bs) : as = bs := by
  rw [ofStrings, ofStrings, Json.arr.injEq] at h
  exact List.map_injective_iff.2 (fun _ _ heq => Json.str.inj heq) h

end Json

/-! ## Conditions -/

/-- A condition is told by its JSON form: what is read from the form is the condition, with integers
for its timestamps. -/
def Condition.ReadsBack (condition : Condition) : Prop :=
  Condition.ofJson? condition.toJson = some condition.untimed

/-- All conditions are told by their JSON forms. -/
def Conditions.ReadBack (conditions : Conditions) : Prop :=
  ∀ entry ∈ conditions, entry.2.ReadsBack

/-- The form of a set of operators can be written. -/
theorem OperatorSet.isValue_toJson (set : OperatorSet) : set.toJson.isValue = true := by
  rw [toJson, isValue, entriesAreValues_iff]
  intro entry hentry
  simp only [List.mem_append, List.mem_map, Option.mem_toList, Option.map_eq_some_iff] at hentry
  -- one case for each operator that the set may hold
  rcases hentry with ((((((((h | h) | h) | h) | h) | h) | h) | h) | h) | h
  all_goals
    obtain ⟨_, ⟨operand, -, rfl⟩, rfl⟩ := h
    first
      | exact operand.isValue_toJson
      | exact Value.areValues_toJsonItems operand
      | rfl

/-- So can the form of a condition. -/
theorem Condition.isValue_toJson (condition : Condition) : condition.toJson.isValue = true := by
  cases condition with
  | operators set => exact set.isValue_toJson
  | equals value => exact value.isValue_toJson

/-- So can the form of the conditions of several fields. -/
theorem Conditions.isValue_toJson (conditions : Conditions) :
    (Conditions.toJson conditions).isValue = true := by
  rw [toJson, isValue, entriesAreValues_iff]
  intro entry hentry
  obtain ⟨⟨field, condition⟩, -, rfl⟩ := List.mem_map.1 hentry
  exact condition.isValue_toJson

/-- Conditions that are told by their JSON forms are determined by them. -/
theorem Conditions.toJson_inj {conditions conditions' : Conditions}
    (h : Conditions.ReadBack conditions) (h' : Conditions.ReadBack conditions')
    (heq : Conditions.toJson conditions = Conditions.toJson conditions') :
    Conditions.untimed conditions = Conditions.untimed conditions' := by
  rw [toJson, toJson, Json.obj.injEq] at heq
  have hread {conditions : Conditions} (h : Conditions.ReadBack conditions) :
      (conditions.map fun entry => (entry.1, entry.2.toJson)).map
          (fun entry => (entry.1, Condition.ofJson? entry.2)) =
        (Conditions.untimed conditions).map fun entry => (entry.1, some entry.2) := by
    rw [Conditions.untimed, List.map_map, List.map_map]
    refine List.map_congr_left fun entry hentry => ?_
    simp only [Function.comp]
    rw [h entry hentry]
  -- the names stand as they are, and each condition is read back from under its name
  have hsome := (hread h).symm.trans ((congrArg _ heq).trans (hread h'))
  refine List.map_injective_iff.2 (fun entry entry' hentry => ?_) hsome
  rw [Prod.mk.injEq, Option.some.injEq] at hentry
  exact Prod.ext hentry.1 hentry.2

/-! ## Descriptors -/

/-- The form of a join can be written. -/
theorem JoinSpec.isValue_toJson (join : JoinSpec) : join.toJson.isValue = true := by
  obtain ⟨_, _, _, label, joinType⟩ := join
  cases label <;> cases joinType <;> rfl

/-- The type of a join is determined by its form. -/
theorem JoinType.toJson_inj {a b : JoinType} (h : a.toJson = b.toJson) : a = b := by
  cases a <;> cases b <;> first | rfl | exact absurd (Json.str.inj h) (by decide)

/-- A join is determined by its form. -/
theorem JoinSpec.toJson_inj {join join' : JoinSpec} (h : join.toJson = join'.toJson) :
    join = join' := by
  obtain ⟨source, localField, foreignField, label, joinType⟩ := join
  obtain ⟨source', localField', foreignField', label', joinType'⟩ := join'
  simp only [toJson, Json.obj.injEq, List.cons.injEq, Prod.mk.injEq, Json.str.injEq, true_and,
    and_true] at h
  obtain ⟨hsource, hlocal, hforeign, hlabel, htype⟩ := h
  rw [hsource, hlocal, hforeign, ofOption_str_inj hlabel, JoinType.toJson_inj htype]

/-- An aggregate function is determined by its form. -/
theorem AggregateOp.toJson_inj {a b : AggregateOp} (h : a.toJson = b.toJson) : a = b := by
  cases a <;> cases b <;> first | rfl | exact absurd (Json.str.inj h) (by decide)

/-- The form of an aggregate can be written. -/
theorem AggregationSpec.isValue_toJson (spec : AggregationSpec) : spec.toJson.isValue = true := by
  have hoperation : spec.operation.toJson.isValue = true := by cases spec.operation <;> rfl
  have hconditions := isValue_ofOption Conditions.isValue_toJson spec.conditions
  have hfield : (ofOption Json.str spec.field).isValue = true :=
    isValue_ofOption (fun _ => rfl) spec.field
  have hlabel : (ofOption Json.str spec.label).isValue = true :=
    isValue_ofOption (fun _ => rfl) spec.label
  rw [toJson, isValue, entriesAreValues_iff]
  simp [hoperation, hconditions, hfield, hlabel]

/-- The conditions of an aggregate are told by their JSON forms. -/
def AggregationSpec.ReadsBack (spec : AggregationSpec) : Prop :=
  ∀ conditions ∈ spec.conditions, Conditions.ReadBack conditions

/-- An aggregate is determined by its form, as far as its conditions are told by theirs. -/
theorem AggregationSpec.toJson_inj {spec spec' : AggregationSpec} (h : spec.ReadsBack)
    (h' : spec'.ReadsBack) (heq : spec.toJson = spec'.toJson) : spec.untimed = spec'.untimed := by
  obtain ⟨operation, field, label, conditions⟩ := spec
  obtain ⟨operation', field', label', conditions'⟩ := spec'
  simp only [toJson, Json.obj.injEq, List.cons.injEq, Prod.mk.injEq, true_and, and_true] at heq
  obtain ⟨hoperation, hfield, hlabel, hconditions⟩ := heq
  have huntimed : conditions.map Conditions.untimed = conditions'.map Conditions.untimed := by
    -- absent conditions are written as null, present ones as an object
    cases conditions with
    | none =>
      cases conditions' with
      | none => rfl
      | some conditions' => exact absurd hconditions.symm (by simp [ofOption, Conditions.toJson])
    | some conditions =>
      cases conditions' with
      | none => exact absurd hconditions (by simp [ofOption, Conditions.toJson])
      | some conditions' =>
        exact congrArg some (Conditions.toJson_inj (h _ rfl) (h' _ rfl) hconditions)
  simp only [untimed]
  rw [AggregateOp.toJson_inj hoperation, ofOption_str_inj hfield, ofOption_str_inj hlabel,
    huntimed]

/-- All conditions of a descriptor are told by their JSON forms. -/
structure Descriptor.ReadsBack (d : Descriptor) : Prop where
  conditions : Conditions.ReadBack d.conditions
  aggregations : ∀ spec ∈ d.aggregations, spec.ReadsBack

/-- A sort is determined by its form: the entries stand in the order of the fields. -/
theorem SortSpec.toJson_inj {spec spec' : SortSpec}
    (h : SortSpec.toJson spec = SortSpec.toJson spec') : spec = spec' := by
  rw [toJson, toJson, Json.obj.injEq] at h
  refine List.map_injective_iff.2 (fun sort sort' hsort => ?_) h
  obtain ⟨field, direction⟩ := sort
  obtain ⟨field', direction'⟩ := sort'
  rw [Prod.mk.injEq] at hsort
  have hdirection : direction = direction' := by
    cases direction <;> cases direction' <;>
      first | rfl | exact absurd (Json.str.inj hsort.2) (by decide)
  exact congrArg₂ SortField.mk hsort.1 hdirection

/-- A page is determined by its form. -/
theorem Pagination.toJson_inj {p p' : Pagination} (h : p.toJson = p'.toJson) : p = p' := by
  obtain ⟨page, limit⟩ := p
  obtain ⟨page', limit'⟩ := p'
  simp only [toJson, Json.obj.injEq, List.cons.injEq, Prod.mk.injEq, Json.ofNat, Json.ofInt,
    Json.num.injEq, Json.Number.int.injEq, true_and, and_true, Int.natCast_inj] at h
  rw [h.1, h.2]

/-- A search is determined by its form. -/
theorem SearchSpec.toJson_inj {spec spec' : SearchSpec} (h : spec.toJson = spec'.toJson) :
    spec = spec' := by
  obtain ⟨term, fields⟩ := spec
  obtain ⟨term', fields'⟩ := spec'
  simp only [toJson, Json.obj.injEq, List.cons.injEq, Prod.mk.injEq, Json.str.injEq, true_and,
    and_true] at h
  rw [h.1, ofStrings_inj h.2]

/-- How fields are searched is determined by its form. -/
theorem SearchConfig.toJson_inj {config config' : SearchConfig}
    (h : SearchConfig.toJson config = SearchConfig.toJson config') : config = config' := by
  rw [toJson, toJson, Json.obj.injEq] at h
  refine List.map_injective_iff.2 (fun entry entry' hentry => ?_) h
  obtain ⟨field, strategy⟩ := entry
  obtain ⟨field', strategy'⟩ := entry'
  rw [Prod.mk.injEq] at hentry
  have hstrategy : strategy = strategy' := by
    cases strategy <;> cases strategy' <;>
      first | rfl | exact absurd (Json.str.inj hentry.2) (by decide)
  exact Prod.ext hentry.1 hstrategy

namespace Descriptor

/-- The form of a descriptor can be written. -/
theorem isValue_toJson (d : Descriptor) : d.toJson.isValue = true := by
  have hjoins := areValues_map JoinSpec.isValue_toJson d.joins
  have haggregations := areValues_map AggregationSpec.isValue_toJson d.aggregations
  have hsort : (SortSpec.toJson d.sort).isValue = true := by
    rw [SortSpec.toJson, isValue, entriesAreValues_iff]
    intro entry hentry
    obtain ⟨⟨field, direction⟩, -, rfl⟩ := List.mem_map.1 hentry
    cases direction <;> rfl
  have hpagination : (ofOption Pagination.toJson d.pagination).isValue = true :=
    isValue_ofOption (fun _ => rfl) d.pagination
  have hspec (spec : SearchSpec) : spec.toJson.isValue = true := by
    rw [SearchSpec.toJson, isValue, entriesAreValues_iff]
    simp [isValue_ofStrings, isValue]
  have hsearch := isValue_ofOption hspec d.search
  rw [toJson, isValue, entriesAreValues_iff]
  simp [Conditions.isValue_toJson, isValue_ofStrings, hjoins, haggregations, hsort, hpagination,
    hsearch, isValue]

/-- Aggregates that are told by their JSON forms are determined by them. -/
theorem aggregations_inj : ∀ {specs specs' : List AggregationSpec},
    (∀ spec ∈ specs, spec.ReadsBack) → (∀ spec ∈ specs', spec.ReadsBack) →
    specs.map AggregationSpec.toJson = specs'.map AggregationSpec.toJson →
    specs.map AggregationSpec.untimed = specs'.map AggregationSpec.untimed
  | [], [], _, _, _ => rfl
  | [], _ :: _, _, _, h | _ :: _, [], _, _, h => by simp at h
  | spec :: specs, spec' :: specs', hread, hread', h => by
    rw [List.forall_mem_cons] at hread hread'
    rw [List.map_cons, List.map_cons, List.cons.injEq] at h
    rw [List.map_cons, List.map_cons, AggregationSpec.toJson_inj hread.1 hread'.1 h.1,
      aggregations_inj hread.2 hread'.2 h.2]

/-- A descriptor whose conditions are told by their JSON forms is determined by its own. -/
theorem toJson_inj {d d' : Descriptor} (h : d.ReadsBack) (h' : d'.ReadsBack)
    (heq : d.toJson = d'.toJson) : d.untimed = d'.untimed := by
  -- the forms have the same keys in the same order, so they are compared field by field
  simp only [toJson, Json.obj.injEq, List.cons.injEq, Prod.mk.injEq, Json.arr.injEq, true_and,
    and_true] at heq
  obtain ⟨hconditions, hjoins, haggregations, hgroup, hsort, hselect, hpage, hsearch, hrelations⟩ :=
    heq
  have hpagination : d.pagination.map id = d'.pagination.map id :=
    ofOption_inj (fun _ => by simp [Pagination.toJson]) (fun _ _ => Pagination.toJson_inj) hpage
  have hspec : d.search.map id = d'.search.map id :=
    ofOption_inj (fun _ => by simp [SearchSpec.toJson]) (fun _ _ => SearchSpec.toJson_inj) hsearch
  rw [Option.map_id, id, id] at hpagination hspec
  have hjoin : d.joins = d'.joins :=
    List.map_injective_iff.2 (fun _ _ => JoinSpec.toJson_inj) hjoins
  simp only [untimed]
  rw [Conditions.toJson_inj h.conditions h'.conditions hconditions, hjoin,
    aggregations_inj h.aggregations h'.aggregations haggregations, ofStrings_inj hgroup,
    SortSpec.toJson_inj hsort, ofStrings_inj hselect, hpagination, hspec, ofStrings_inj hrelations]

end Descriptor

/-! ## Keys -/

namespace CacheKey

/-- The hashed text determines the query as far as its conditions are told by their JSON forms. -/
theorem material_inj {ctx ctx' : QueryContext} {d d' : Descriptor} (hd : d.ReadsBack)
    (hd' : d'.ReadsBack) (hserver : Conditions.ReadBack ctx.serverConditions)
    (hserver' : Conditions.ReadBack ctx'.serverConditions)
    (h : material ctx d = material ctx' d') :
    ctx.entity = ctx'.entity ∧ d.untimed = d'.untimed ∧
      Conditions.untimed ctx.serverConditions = Conditions.untimed ctx'.serverConditions ∧
        ctx.searchConfig = ctx'.searchConfig := by
  have hvalue (ctx : QueryContext) (d : Descriptor) : (Json.obj [("entity", .str ctx.entity),
      ("descriptor", d.toJson), ("backend_conditions", Conditions.toJson ctx.serverConditions),
      ("search_config", SearchConfig.toJson ctx.searchConfig)]).isValue = true := by
    have hconfig : (SearchConfig.toJson ctx.searchConfig).isValue = true := by
      rw [SearchConfig.toJson, isValue, entriesAreValues_iff]
      intro entry hentry
      obtain ⟨⟨field, strategy⟩, -, rfl⟩ := List.mem_map.1 hentry
      rfl
    rw [isValue, entriesAreValues_iff]
    simp [d.isValue_toJson, Conditions.isValue_toJson, hconfig, isValue]
  -- texts that can be read back are written alike for one form only
  have hjson := text_injective (hvalue ctx d) (hvalue ctx' d') h
  simp only [Json.obj.injEq, List.cons.injEq, Prod.mk.injEq, Json.str.injEq, true_and,
    and_true] at hjson
  obtain ⟨hentity, hdescriptor, hconditions, hconfig⟩ := hjson
  exact ⟨hentity, Descriptor.toJson_inj hd hd' hdescriptor,
    Conditions.toJson_inj hserver hserver' hconditions, SearchConfig.toJson_inj hconfig⟩

/-- The sixteen digits are written with different characters. -/
theorem digitChar_inj : ∀ m < 16, ∀ n < 16, Nat.digitChar m = Nat.digitChar n → m = n := by decide

/-- Sixteen hexadecimal digits determine a word. -/
theorem hexDigits_inj {a b : UInt64} (h : hexDigits a = hexDigits b) : a = b := by
  have hdigit (k : Nat) (hk : k < 16) :
      (a.toNat >>> (4 * k)) % 16 = (b.toNat >>> (4 * k)) % 16 := by
    have heq := List.map_inj_left.1 h (15 - k) (List.mem_range.2 (by omega))
    have hplace : 15 - (15 - k) = k := by omega
    rw [hplace, Nat.toDigits_of_lt_base (Nat.mod_lt _ (by decide)),
      Nat.toDigits_of_lt_base (Nat.mod_lt _ (by decide))] at heq
    exact digitChar_inj _ (Nat.mod_lt _ (by decide)) _ (Nat.mod_lt _ (by decide)) heq
  -- a bit of the word is a bit of the digit that it falls into
  have hbit (w : UInt64) (i : Nat) :
      w.toNat.testBit i = ((w.toNat >>> (4 * (i / 4))) % 16).testBit (i % 4) := by
    have hlow : i % 4 < 4 := Nat.mod_lt _ (by decide)
    rw [Nat.testBit_mod_two_pow _ 4, Nat.testBit_shiftRight, Nat.div_add_mod]
    simp [hlow]
  refine UInt64.toNat_inj.mp (Nat.eq_of_testBit_eq fun i => ?_)
  by_cases hi : i < 64
  · rw [hbit a, hbit b, hdigit (i / 4) (by omega)]
  · have hbound : 2 ^ 64 ≤ 2 ^ i := Nat.pow_le_pow_right (by decide) (by omega)
    rw [Nat.testBit_lt_two_pow (a.toNat_lt.trans_le hbound),
      Nat.testBit_lt_two_pow (b.toNat_lt.trans_le hbound)]

/-- A key determines the entity and the digest it is made of. -/
theorem ofDigest_inj {entity entity' : String} {digest digest' : UInt64}
    (h : ofDigest entity digest = ofDigest entity' digest') :
    entity = entity' ∧ digest = digest' := by
  rw [ofDigest, ofDigest, CacheKey.mk.injEq] at h
  have hlist := String.ofList_injective h
  have hlength (w : UInt64) : (':' :: hexDigits w).length = 17 := by simp [hexDigits]
  obtain ⟨hentity, hdigits⟩ := List.append_inj' hlist (by rw [hlength, hlength])
  exact ⟨String.toList_inj.mp hentity, hexDigits_inj (List.cons.inj hdigits).2⟩

end CacheKey

end DualQuery
