import DualQuery.Proofs.CanonicalStages
import Mathlib.Data.List.Basic

/-!
# Projections and writes

A canonical value is known from what is found at each of its paths, where an object counts as an
empty one: `Value.headAt`. Seen in this way a projection is simple: at a path that is on the way to
a selected one, or leads on from it, it has what the record has there, and nothing at any other
path. So a value may be written at a selected path before or after the projection.

## Key results

- `Value.eq_of_headAt`: canonical values with the same heads at all paths are equal
- `Document.headAt_foldl_projectField`: what a projection has at a path
- `Document.projectRow_foldl_setPath`: a projection of written values keeps those at selected paths
- `Record.getPath?_foldl_setPath_filter`: writes that part from a path can be left out
-/

namespace DualQuery

namespace Text

/-- Neither of two paths leads to the other. -/
def Parted (path other : String) : Prop :=
  ¬ segments path <+: segments other ∧ ¬ segments other <+: segments path

instance (path other : String) : Decidable (Parted path other) :=
  inferInstanceAs (Decidable (_ ∧ _))

end Text

/-- A write is not seen at a path that parts from its own. -/
theorem Record.getPath?_setPath_of_parted {path other : String} (h : Text.Parted path other)
    (record : Record) (v : Value) :
    getPath? (setPath record path v) other = getPath? record other := by
  rw [getPath?_eq_follow, object_setPath, Value.follow_write_of_parted _ _ h.1 h.2,
    Option.bind_some, getPath?_eq_follow]

namespace Value

open Record (fieldsOf)

/-! ## Heads -/

/-- A value without its fields. -/
def head : Value → Value
  | object _ => object []
  | v => v

/-- The head of the value at the end of some segments. -/
def headAt (path : List String) (v : Value) : Option Value := (follow path v).map head

/-- Writing below a value makes it an object. -/
theorem head_write_cons (old : Option Value) (segment : String) (rest : List String) (v : Value) :
    (write old (segment :: rest) v).head = object [] := rfl

/-- A value with something behind it is an object. -/
theorem head_of_follow_cons {segment : String} {rest : List String} {v w : Value}
    (h : follow (segment :: rest) v = some w) : v.head = object [] := by
  cases v with
  | object fields => rfl
  | _ => simp [follow, fieldsOf, Keyed.get?] at h

/-- The head at a path is found below the field of its first segment. -/
theorem headAt_object_cons (fields : Record) (segment : String) (rest : List String) :
    headAt (segment :: rest) (object fields) =
      (Keyed.get? fields segment).bind (headAt rest) := by
  simp only [headAt, follow, fieldsOf]
  cases Keyed.get? fields segment <;> rfl

/-- Canonical values are equal if they have the same heads at all paths. -/
theorem eq_of_headAt {v w : Value} (hv : v.isCanonical) (hw : w.isCanonical)
    (h : ∀ path, headAt path v = headAt path w) : v = w := by
  -- induction on the size of `v`, since the values of its fields stand in a list of pairs
  induction hn : sizeOf v using Nat.strongRecOn generalizing v w with
  | _ n ih =>
    have hhead : v.head = w.head := by simpa [headAt, follow] using h []
    cases v with
    | object fields =>
      -- no other value has the head of an object
      obtain ⟨others, rfl⟩ : ∃ others, w = object others := by
        cases w <;> simp_all [head]
      have hrest : ∀ key rest, (Keyed.get? fields key).bind (headAt rest) =
          (Keyed.get? others key).bind (headAt rest) := fun key rest => by
        rw [← headAt_object_cons, ← headAt_object_cons, h]
      congr 1
      refine (Record.sorted_of_isCanonical hv).ext (Record.sorted_of_isCanonical hw) fun key => ?_
      have hkey := hrest key
      cases hget : Keyed.get? fields key with
      | none =>
        cases hother : Keyed.get? others key with
        | none => rfl
        | some w => simpa [hget, hother, headAt, follow] using hkey []
      | some v =>
        cases hother : Keyed.get? others key with
        | none => simpa [hget, hother, headAt, follow] using hkey []
        | some w =>
          have hsize : sizeOf v < n := by
            have hlist := List.sizeOf_lt_of_mem (Keyed.mem_of_get?_eq_some hget)
            simp only [Prod.mk.sizeOf_spec] at hlist
            simp only [object.sizeOf_spec] at hn
            omega
          have hinner : ∀ rest, headAt rest v = headAt rest w := fun rest => by
            simpa [hget, hother] using hkey rest
          rw [ih _ hsize (Record.isCanonical_get? hv hget) (Record.isCanonical_get? hw hother)
            hinner rfl]
    | _ => cases w <;> simp_all [head]

/-- In front of the place of a write there is what was there, written into. -/
theorem follow_write_back (old : Option Value) (front back : List String) (v : Value) :
    follow front (write old (front ++ back) v) =
      some (write (old.bind (follow front)) back v) := by
  induction front generalizing old with
  | nil => cases old <;> rfl
  | cons segment front ih =>
    have hold : old.bind (follow (segment :: front)) =
        (Keyed.get? (fieldsOf old) segment).bind (follow front) := by
      cases old <;> rfl
    rw [hold, ← ih, List.cons_append, write, follow, fieldsOf, Keyed.get?_insert_self,
      Option.bind_some]

/-- In front of the place of a write there is an object. -/
theorem headAt_write_of_prefix (old : Option Value) {front path : List String} (v : Value)
    (h : front <+: path) (hne : ¬ path <+: front) :
    headAt front (write old path v) = some (object []) := by
  obtain ⟨back, rfl⟩ := h
  cases back with
  | nil => exact absurd (by simp) hne
  | cons segment rest => rw [headAt, follow_write_back, Option.map_some, head_write_cons]

/-- Two values that agree at a path still do after one write into both. -/
theorem follow_write_congr {a b : Value} {path other : List String} (v : Value)
    (h : follow other a = follow other b) :
    follow other (write (some a) path v) = follow other (write (some b) path v) := by
  by_cases hfront : path <+: other
  · obtain ⟨rest, rfl⟩ := hfront
    rw [follow_write_append, follow_write_append]
  by_cases hback : other <+: path
  · obtain ⟨rest, rfl⟩ := hback
    rw [follow_write_back, follow_write_back, Option.bind_some, Option.bind_some, h]
  · rw [follow_write_of_parted _ _ hfront hback, follow_write_of_parted _ _ hfront hback,
      Option.bind_some, Option.bind_some, h]

end Value

namespace Document

open Value (headAt follow write)

/-! ## Projections -/

/-- What a projection has at a path: what the record has there, if it has a selected path that leads
there or on from there. -/
theorem headAt_foldl_projectField (row : Record) (path : List String) (fields : List String)
    (out : Record) :
    headAt path (.object (fields.foldl (projectField row) out)) =
      if ∃ field ∈ fields, (Record.getPath? row field).isSome ∧
          (Text.segments field <+: path ∨ path <+: Text.segments field)
      then headAt path (.object row) else headAt path (.object out) := by
  induction fields generalizing out with
  | nil => simp
  | cons field fields ih =>
    rw [List.foldl_cons, ih, projectField]
    cases hget : Record.getPath? row field with
    | none => simp [hget]
    | some v =>
      have hfollow : follow (Text.segments field) (.object row) = some v := by
        rw [← Record.getPath?_eq_follow, hget]
      -- the copy of one field makes the record agree with the row along the field
      have hcopy : (Text.segments field <+: path ∨ path <+: Text.segments field) →
          headAt path (.object (Record.setPath out field v)) = headAt path (.object row) := by
        intro halong
        rw [Record.object_setPath]
        -- a field in front of the path brings all of it, one behind it the object at its end
        by_cases hfront : Text.segments field <+: path
        · obtain ⟨rest, rfl⟩ := hfront
          rw [headAt, headAt, Value.follow_write_append, Value.follow_append, hfollow,
            Option.bind_some]
        · have hback := halong.resolve_left hfront
          rw [Value.headAt_write_of_prefix _ _ hback hfront]
          obtain ⟨rest, hrest⟩ := hback
          rw [← hrest, Value.follow_append] at hfollow
          obtain ⟨u, hu, hv⟩ := Option.bind_eq_some_iff.1 hfollow
          cases rest with
          | nil => exact absurd (by simp [← hrest]) hfront
          | cons segment rest =>
            rw [headAt, hu, Option.map_some, Value.head_of_follow_cons hv]
      have hpart : ¬ (Text.segments field <+: path ∨ path <+: Text.segments field) →
          headAt path (.object (Record.setPath out field v)) = headAt path (.object out) := by
        intro hpart
        rw [not_or] at hpart
        rw [Record.object_setPath, headAt, Value.follow_write_of_parted _ _ hpart.1 hpart.2]
        rfl
      by_cases halong : Text.segments field <+: path ∨ path <+: Text.segments field
      · simp [hget, halong, hcopy halong]
      · simp [hget, halong, hpart halong]

/-- A projection has the heads along the selected paths that are there and below them, and no
others. -/
theorem headAt_projectRow (fields : List String) (row : Record) (path : List String) :
    headAt path (.object (projectRow fields row)) =
      if ∃ field ∈ fields, (Record.getPath? row field).isSome ∧
          (Text.segments field <+: path ∨ path <+: Text.segments field)
      then headAt path (.object row) else headAt path (.object []) :=
  headAt_foldl_projectField row path fields []

/-- A selected field is kept by a write that parts from a place in the record on its way or behind
it. -/
private theorem isSome_getPath?_setPath {row : Record} {path field : String} {place : List String}
    {v u : Value} (hfront : ¬ Text.segments path <+: place) (hback : ¬ place <+: Text.segments path)
    (hplace : follow place (.object row) = some u)
    (halong : Text.segments field <+: place ∨ place <+: Text.segments field) :
    (Record.getPath? (Record.setPath row path v) field).isSome =
      (Record.getPath? row field).isSome := by
  have hwritten : ∀ {other}, ¬ Text.segments path <+: other → ¬ other <+: Text.segments path →
      follow other (.object (Record.setPath row path v)) = follow other (.object row) := by
    intro other hfront hback
    rw [Record.object_setPath, Value.follow_write_of_parted _ _ hfront hback, Option.bind_some]
  rw [Record.getPath?_eq_follow, Record.getPath?_eq_follow]
  rcases halong with ⟨rest, hrest⟩ | hbehind
  · -- what is at the place is behind the field in both records
    have hsome : ∀ {value : Value}, follow place value = some u →
        (follow (Text.segments field) value).isSome := by
      intro value hvalue
      rw [← hrest, Value.follow_append] at hvalue
      obtain ⟨w, hw, -⟩ := Option.bind_eq_some_iff.1 hvalue
      rw [hw, Option.isSome_some]
    rw [hsome hplace, hsome ((hwritten hfront hback).trans hplace)]
  · -- a field behind the place parts from the write like the place itself
    rw [hwritten]
    · intro hprefix
      rcases List.prefix_or_prefix_of_prefix hprefix hbehind with h | h
      · exact hfront h
      · exact hback h
    · exact fun hprefix => hback (hbehind.trans hprefix)

/-- Of an empty record nothing can be copied. -/
theorem projectRow_nil (fields : List String) : projectRow fields [] = [] := by
  refine List.foldlRecOn (motive := fun out : Record => out = []) fields _ rfl
    fun out hout field _ => ?_
  have hget : Record.getPath? [] field = none := by
    obtain ⟨rest, hrest⟩ := Text.segments_eq_root_cons field
    rw [Record.getPath?_eq_follow, hrest]
    rfl
  rw [hget, hout]

/-- Writing at a selected path may be done before or after a projection. -/
theorem projectRow_setPath {fields : List String} {row : Record} (hrow : row.isCanonical)
    {path : String} (hpath : path ∈ fields) {v : Value} (hv : v.isCanonical) :
    projectRow fields (Record.setPath row path v) =
      Record.setPath (projectRow fields row) path v := by
  have hwritten := isCanonical_projectRow fields (Record.isCanonical_setPath hrow path hv)
  have hprojected := Record.isCanonical_setPath (isCanonical_projectRow fields hrow) path hv
  have hself : (Record.getPath? (Record.setPath row path v) path).isSome := by
    rw [Record.getPath?_setPath_self, Option.isSome_some]
  refine Value.object.inj (Value.eq_of_headAt hwritten hprojected fun place => ?_)
  by_cases hfront : Text.segments path <+: place
  · -- behind the path both have the written value
    rw [headAt_projectRow, if_pos ⟨path, hpath, hself, .inl hfront⟩]
    obtain ⟨rest, rfl⟩ := hfront
    rw [Record.object_setPath, Record.object_setPath, headAt, headAt, Value.follow_write_append,
      Value.follow_write_append]
  by_cases hback : place <+: Text.segments path
  · -- on the way to the path both have an object
    rw [headAt_projectRow, if_pos ⟨path, hpath, hself, .inr hback⟩, Record.object_setPath,
      Record.object_setPath, Value.headAt_write_of_prefix _ _ hback hfront,
      Value.headAt_write_of_prefix _ _ hback hfront]
  · -- at any other place the write is not seen
    have hrow' : ∀ record, headAt place (.object (Record.setPath record path v)) =
        headAt place (.object record) := fun record => by
      rw [Record.object_setPath, headAt, Value.follow_write_of_parted _ _ hfront hback]
      rfl
    rw [hrow', headAt_projectRow, headAt_projectRow, hrow']
    cases hplace : follow place (.object row) with
    | none =>
      have hnil : headAt place (.object []) = none := by
        cases place with
        | nil => exact absurd List.nil_prefix hback
        | cons segment rest => rfl
      rw [hnil, headAt, hplace, Option.map_none, ite_self, ite_self]
    | some u =>
      congr 1
      refine propext (exists_congr fun field => and_congr_right fun _ => ?_)
      rw [and_congr_left_iff]
      intro halong
      rw [isSome_getPath?_setPath hfront hback hplace halong]

/-- A write that parts from all selected paths is not seen by a projection. -/
theorem projectRow_setPath_of_parted {fields : List String} {path : String}
    (hpath : ∀ field ∈ fields, Text.Parted path field) (row : Record) (v : Value) :
    projectRow fields (Record.setPath row path v) = projectRow fields row := by
  simp only [projectRow]
  refine List.foldl_ext _ _ _ fun out field hfield => ?_
  rw [Record.getPath?_setPath_of_parted (hpath field hfield)]

/-- A projection of written values keeps those that are written at selected paths, if every other
path parts from the selected ones. -/
theorem projectRow_foldl_setPath {fields : List String} {entries : List (String × Value)}
    (hentries : ∀ entry ∈ entries,
      entry.1 ∈ fields ∨ ∀ field ∈ fields, Text.Parted entry.1 field)
    (hvalues : ∀ entry ∈ entries, entry.2.isCanonical) {out : Record} (hout : out.isCanonical) :
    projectRow fields (entries.foldl (fun out entry => Record.setPath out entry.1 entry.2) out) =
      (entries.filter fun entry => fields.contains entry.1).foldl
        (fun out entry => Record.setPath out entry.1 entry.2) (projectRow fields out) := by
  induction entries generalizing out with
  | nil => rfl
  | cons entry entries ih =>
    rw [List.forall_mem_cons] at hentries hvalues
    rw [List.foldl_cons, ih hentries.2 hvalues.2 (Record.isCanonical_setPath hout _ hvalues.1)]
    by_cases hmem : entry.1 ∈ fields
    · rw [List.filter_cons_of_pos (by simpa using hmem), List.foldl_cons,
        projectRow_setPath hout hmem hvalues.1]
    · rw [List.filter_cons_of_neg (by simpa using hmem),
        projectRow_setPath_of_parted (hentries.1.resolve_left hmem)]

end Document

namespace Record

/-- Writes that part from a path can be left out without changing what is read there. -/
theorem getPath?_foldl_setPath_filter {keep : String → Bool} {path : String}
    {entries : List (String × Value)}
    (hentries : ∀ entry ∈ entries, keep entry.1 = false → Text.Parted entry.1 path)
    {out out' : Record} (hout : getPath? out path = getPath? out' path) :
    getPath? (entries.foldl (fun out entry => setPath out entry.1 entry.2) out) path =
      getPath? ((entries.filter fun entry => keep entry.1).foldl
        (fun out entry => setPath out entry.1 entry.2) out') path := by
  induction entries generalizing out out' with
  | nil => exact hout
  | cons entry entries ih =>
    rw [List.forall_mem_cons] at hentries
    rw [List.foldl_cons]
    -- an entry that is kept is written to both records, any other lies apart from the path
    cases hkeep : keep entry.1 with
    | true =>
      rw [List.filter_cons, hkeep, if_pos rfl, List.foldl_cons]
      refine ih hentries.2 ?_
      simp only [getPath?_eq_follow, object_setPath] at hout ⊢
      exact Value.follow_write_congr _ hout
    | false =>
      rw [List.filter_cons, hkeep, if_neg Bool.false_ne_true]
      refine ih hentries.2 ?_
      rw [getPath?_setPath_of_parted (hentries.1 hkeep), hout]

end Record

end DualQuery
