import DualQuery.Proofs.LawfulKeys

/-!
# Joins as nested loops

A join finds the partners of a row through an index over the source, in which a record stands under
a key that equals its own. Where the keys are free of doubles, the records that are found
for a row are all records of the source whose keys equal its own, in the order of the source.

So a join is what two nested loops make, `Relational.JoinClause.nestedLoop`: each row in turn is put
beside each of its partners, and at last come the records that are the partners of no row.

## Key results

- `Record.hits_indexBy`: what is found in the index of a source
- `Relational.JoinClause.rows_eq_nestedLoop`: joins of all types
-/

namespace DualQuery

/-! ## The index of a source -/

namespace Record

variable [Hashing]

/-- What is found in an index that more entries are put into: each adds itself under the keys that
equal its own. -/
private theorem find?_foldl_indexBy {field : String} {keys : List Value}
    (hkeys : ∀ key ∈ keys, IsKey key) {key : Value} (hkey : IsKey key)
    {entries : List (Record × Nat)} (hentries : ∀ entry ∈ entries, valueAt entry.1 field ∈ keys)
    (index : Indexed Value (List (Nat × Record))) (hindex : index.Over keys) :
    ((entries.foldl (fun index (record, position) =>
        let key := valueAt record field
        if key.isNull then index
        else Indexed.alter [] (· ++ [(position, record)]) key index) index).find? key).getD [] =
      (index.find? key).getD [] ++ (entries.filter fun entry =>
        !(valueAt entry.1 field).isNull && valueAt entry.1 field == key).map Prod.swap := by
  induction entries generalizing index with
  | nil => simp
  | cons first entries ih =>
    obtain ⟨hfirst, hentries⟩ := List.forall_mem_cons.1 hentries
    rw [List.foldl_cons]
    cases hnull : (valueAt first.1 field).isNull with
    | true =>
      -- a record without a key has no place in the index
      simp only [hnull, if_true]
      rw [ih hentries _ hindex, List.filter_cons_of_neg (by simp [hnull])]
    | false =>
      simp only [hnull, Bool.false_eq_true, if_false]
      rw [ih hentries _ (hindex.alter hfirst _ _)]
      -- a record with the key goes behind those that the index has under it, any other record
      -- changes nothing
      cases hequal : valueAt first.1 field == key with
      | true =>
        rw [isLawful_isKey.find?_alter_of_beq hkeys hindex hfirst hkey _ _ hequal,
          List.filter_cons_of_pos (by simp [hnull, hequal]), Option.getD_some,
          List.append_assoc, List.map_cons]
        rfl
      | false =>
        rw [isLawful_isKey.find?_alter_of_not_beq hkeys hindex hfirst hkey _ _ hequal,
          List.filter_cons_of_neg (by simp [hequal])]

/-- What is found in the index of a source are the records with an equal value that is not null, in
their order. -/
theorem hits_indexBy {field : String} {source : List Record} {key : Value} (hkey : IsKey key)
    (hsource : ∀ record ∈ source, IsKey (valueAt record field)) :
    hits (indexBy field source) key =
      (source.zipIdx.filter fun entry =>
        !key.isNull && !(valueAt entry.1 field).isNull && valueAt entry.1 field == key).map
          Prod.swap := by
  have hkeys : ∀ key ∈ source.map (valueAt · field), IsKey key := List.forall_mem_map.2 hsource
  have hentries : ∀ entry ∈ source.zipIdx,
      valueAt entry.1 field ∈ source.map (valueAt · field) := fun entry hentry =>
    List.mem_map_of_mem (List.fst_mem_of_mem_zipIdx hentry)
  have hfind := find?_foldl_indexBy hkeys hkey hentries [] (Indexed.over_nil _)
  unfold hits
  -- a null key hits nothing in either form
  cases hnull : key.isNull with
  | true => simp
  | false =>
    rw [if_neg Bool.false_ne_true]
    refine hfind.trans ?_
    simp [Indexed.find?, Indexed.position?, Indexed.positions]

end Record

/-! ## Joins -/

namespace Relational.JoinClause

/-- Whether a row and a record of the source are partners: what is joined in them is equal and not
null. -/
def pairs (join : JoinClause) (entity : String) (row record : Record) : Bool :=
  let left := join.left.value entity row
  let right := Record.valueAt record join.right.name
  !left.isNull && !right.isNull && left == right

/-- The rows of a join, by going through all records of the source for each row, and through all
rows for each record of the source. -/
def nestedLoop (join : JoinClause) (entity : String) (rows source : List Record) : List Record :=
  let ofRow (row : Record) : List Record :=
    if source.any (join.pairs entity row) then
      (source.filter (join.pairs entity row)).map fun record =>
        Keyed.insert row join.label (.object record)
    else if join.joinType = .left ∨ join.joinType = .full then [Keyed.erase row join.label]
    else []
  let alone : List Record :=
    if join.joinType = .right ∨ join.joinType = .full then
      (source.filter fun record => !rows.any fun row => join.pairs entity row record).map
        fun record => [(join.label, .object record)]
    else []
  rows.flatMap ofRow ++ alone

/-- Items that are chosen with their positions are chosen without them. -/
theorem map_fst_filter_zipIdx {α : Type} (p : α → Bool) (items : List α) :
    (items.zipIdx.filter fun entry => p entry.1).map (·.1) = items.filter p := by
  have hmap : (items.zipIdx.map Prod.fst).filter p =
      (items.zipIdx.filter (p ∘ Prod.fst)).map Prod.fst := List.filter_map
  rw [List.zipIdx_map_fst] at hmap
  exact hmap.symm

section Hits

variable [Hashing] {join : JoinClause} {entity : String} {row : Record} {source : List Record}
  (hrow : Record.IsKey (join.left.value entity row))
  (hsource : ∀ record ∈ source, Record.IsKey (Record.valueAt record join.right.name))

include hrow hsource

/-- What is found for a row are its partners, each with its position. -/
theorem hits_eq : Record.hits (Record.indexBy join.right.name source) (join.left.value entity row) =
    (source.zipIdx.filter fun entry => join.pairs entity row entry.1).map Prod.swap := by
  rw [Record.hits_indexBy hrow hsource]
  refine congrArg (List.map Prod.swap) (List.filter_congr fun entry _ => ?_)
  rw [pairs]
  exact congrArg _ (Value.equal_comm _ _)

/-- The records that are found for a row are its partners, in the order of the source. -/
theorem map_snd_hits :
    (Record.hits (Record.indexBy join.right.name source) (join.left.value entity row)).map (·.2) =
      source.filter (join.pairs entity row) := by
  rw [hits_eq hrow hsource, List.map_map]
  exact map_fst_filter_zipIdx (join.pairs entity row) source

/-- A position that is found for a row is that of a partner. -/
theorem mem_map_fst_hits {record : Record} {position : Nat} (h : source[position]? = some record) :
    position ∈ (Record.hits (Record.indexBy join.right.name source)
      (join.left.value entity row)).map (·.1) ↔ join.pairs entity row record = true := by
  rw [hits_eq hrow hsource, List.map_map, List.mem_map]
  constructor
  · rintro ⟨⟨found, position⟩, hfound, rfl⟩
    obtain ⟨hmem, hpairs⟩ := List.mem_filter.1 hfound
    obtain rfl : found = record :=
      Option.some.inj ((List.mem_zipIdx_iff_getElem?.1 hmem).symm.trans h)
    exact hpairs
  · intro hpairs
    exact ⟨(record, position),
      List.mem_filter.2 ⟨List.mem_zipIdx_iff_getElem?.2 h, hpairs⟩, rfl⟩

end Hits

/-- A join of any type makes the rows that the nested loops make, in the same order, if no value
that is joined holds a double. -/
theorem rows_eq_nestedLoop [Hashing] (join : JoinClause) (entity : String)
    {rows source : List Record}
    (hrows : ∀ row ∈ rows, (join.left.value entity row).isFloatFree = true)
    (hsource : ∀ record ∈ source, (Record.valueAt record join.right.name).isFloatFree = true) :
    join.rows entity rows source = join.nestedLoop entity rows source := by
  have hkeepsLeft : join.joinType.keepsLeft = true ↔
      join.joinType = .left ∨ join.joinType = .full := by
    cases join.joinType <;> decide
  have hkeepsRight : join.joinType.keepsRight = true ↔
      join.joinType = .right ∨ join.joinType = .full := by
    cases join.joinType <;> decide
  unfold JoinClause.rows nestedLoop
  simp only [hkeepsLeft, hkeepsRight]
  congr 1
  · refine List.flatMap_congr fun row hrow => ?_
    -- the hits of a row are the records that the nested loop pairs it with, in the same order
    have hpartners := map_snd_hits (hrows row hrow) hsource
    cases hfound : Record.hits (Record.indexBy join.right.name source)
        (join.left.value entity row) with
    | nil =>
      rw [hfound, List.map_nil] at hpartners
      have hnone : ¬ source.any (join.pairs entity row) = true := by
        rw [List.any_eq_true]
        rintro ⟨record, hrecord, hpairs⟩
        exact List.filter_eq_nil_iff.1 hpartners.symm record hrecord hpairs
      rw [if_neg hnone]
    | cons hit hits =>
      rw [hfound] at hpartners
      have hsome : source.any (join.pairs entity row) = true := by
        have hmem : hit.2 ∈ source.filter (join.pairs entity row) :=
          hpartners ▸ List.mem_cons_self
        exact List.any_eq_true.2 ⟨hit.2, List.mem_filter.1 hmem⟩
      rw [if_pos hsome, ← hpartners, List.map_map]
      rfl
  · -- a record was taken where its position was found for some row
    have htaken : ∀ entry ∈ source.zipIdx,
        (!(rows.flatMap fun row =>
          (Record.hits (Record.indexBy join.right.name source)
            (join.left.value entity row)).map (·.1)).contains entry.2) =
          !rows.any fun row => join.pairs entity row entry.1 := by
      intro entry hentry
      have hrecord := List.mem_zipIdx_iff_getElem?.1 hentry
      rw [Bool.not_inj_iff, Bool.eq_iff_iff, List.contains_iff_mem, List.mem_flatMap,
        List.any_eq_true]
      exact exists_congr fun row => and_congr_right fun hrow =>
        mem_map_fst_hits (hrows row hrow) hsource hrecord
    split
    · rw [List.filter_congr htaken,
        ← map_fst_filter_zipIdx (fun record => !rows.any fun row => join.pairs entity row record),
        List.map_map]
      rfl
    · rfl

/-- The visits of users. -/
def visitJoin : JoinClause where
  joinType := .full
  source := "visits"
  label := "visit"
  left := .qualified "users" "id"
  right := .qualified "visit" "user"

/-- Users, the last of whom has no number. -/
def visitors : List Record := [[("id", .int 1)], [("id", .int 2)], [("id", .null)]]

/-- Visits: two of the first user, one of nobody that is known and one of nobody. -/
def visits : List Record :=
  [[("user", .timestamp 1)], [("user", .int 3)], [("user", .null)], [("user", .int 1)]]

/-- A full join with a key that occurs twice, rows without partners and null keys on both sides. -/
theorem rows_eq_nestedLoop_visits :
    (∀ row ∈ visitors, (visitJoin.left.value "users" row).isFloatFree = true) ∧
      (∀ record ∈ visits, (Record.valueAt record visitJoin.right.name).isFloatFree = true) ∧
      visitJoin.rows "users" visitors visits =
        [[("id", .int 1), ("visit", .object [("user", .timestamp 1)])],
          [("id", .int 1), ("visit", .object [("user", .int 1)])], [("id", .int 2)],
          [("id", .null)], [("visit", .object [("user", .int 3)])],
          [("visit", .object [("user", .null)])]] := by
  have hrows : ∀ row ∈ visitors, (visitJoin.left.value "users" row).isFloatFree = true := by
    decide
  have hsource : ∀ record ∈ visits,
      (Record.valueAt record visitJoin.right.name).isFloatFree = true := by decide
  refine ⟨hrows, hsource, ?_⟩
  rw [rows_eq_nestedLoop visitJoin "users" hrows hsource]
  rfl

end Relational.JoinClause

end DualQuery
