import DualQuery.Proofs.CompiledPipelines
import DualQuery.Proofs.ProjectedPaths

/-!
# Selection before or after the sort

The stages of a descriptor put the selection in front of the sort where every field to sort by is
selected, and behind it otherwise. The result is in either case that of sorting the whole documents
and then keeping their selected paths. What it means to keep paths is said by `KeepsOnly`, without
the writes by which a projection is carried out: paths may repeat, lie in one another or lead
nowhere.

## Key results

- `Document.keepsOnly_projectRow`, `Document.KeepsOnly.eq`: a projection is the one document that
  keeps the selected paths
- `Descriptor.shapeStages_sort_then_select`: the stages of a descriptor
-/

namespace DualQuery

open Value (follow headAt)

namespace Document

variable {fields : List String} {row out other : Record}

/-- Whether a place in a document is on the way to some path that the document has, or behind it. -/
def LiesAlong (fields : List String) (row : Record) (place : List String) : Prop :=
  ∃ field ∈ fields, (Record.getPath? row field).isSome ∧
    (Text.segments field <+: place ∨ place <+: Text.segments field)

/-- A document that has at some paths what another one has there, be it nothing, and has nothing
that does not lie along one of these paths. -/
structure KeepsOnly (fields : List String) (row out : Record) : Prop where
  same : ∀ field ∈ fields, Record.getPath? out field = Record.getPath? row field
  along : ∀ place, place ≠ [] → (follow place (.object out)).isSome → LiesAlong fields row place

/-- An empty record has nothing below it. -/
theorem headAt_nil {place : List String} (h : place ≠ []) : headAt place (.object []) = none := by
  cases place with
  | nil => exact absurd rfl h
  | cons segment rest => rfl

/-- A projection keeps the selected paths and nothing else. -/
theorem keepsOnly_projectRow (fields : List String) (hrow : row.isCanonical) :
    KeepsOnly fields row (projectRow fields row) where
  same field hfield := getPath?_projectRow hrow ⟨field, hfield, List.prefix_refl _⟩
  along place hplace hsome := by
    -- a projection starts from nothing and has no more than what lies along its paths
    by_contra hapart
    unfold LiesAlong at hapart
    have hhead : headAt place (.object (projectRow fields row)) = none := by
      rw [headAt_projectRow, if_neg hapart, headAt_nil hplace]
    rw [headAt, Option.map_eq_none_iff] at hhead
    rw [hhead] at hsome
    cases hsome

/-- Along a path that both have a value at, two documents have the same values and objects. -/
theorem headAt_eq_of_getPath? {field : String} {place : List String}
    (hsame : Record.getPath? out field = Record.getPath? row field)
    (hsome : (Record.getPath? row field).isSome)
    (halong : Text.segments field <+: place ∨ place <+: Text.segments field) :
    headAt place (.object out) = headAt place (.object row) := by
  simp only [Record.getPath?_eq_follow] at hsame hsome
  rcases halong with ⟨rest, rfl⟩ | ⟨rest, hrest⟩
  · rw [headAt, headAt, Value.follow_append, Value.follow_append, hsame]
  · cases rest with
    | nil =>
      rw [List.append_nil] at hrest
      rw [headAt, headAt, hrest, hsame]
    | cons segment rest =>
      -- the path goes on, so both have an object here
      have hobject : ∀ {v : Value}, (follow (Text.segments field) v).isSome →
          headAt place v = some (.object []) := by
        intro v hv
        rw [← hrest, Value.follow_append] at hv
        obtain ⟨w, hw⟩ := Option.isSome_iff_exists.1 hv
        obtain ⟨u, hu, hw⟩ := Option.bind_eq_some_iff.1 hw
        rw [headAt, hu, Option.map_some, Value.head_of_follow_cons hw]
      rw [hobject hsome, hobject (hsame ▸ hsome)]

/-- What a document that keeps paths has at a place. -/
theorem KeepsOnly.headAt_eq (h : KeepsOnly fields row out) {place : List String}
    (hplace : place ≠ []) :
    (LiesAlong fields row place → headAt place (.object out) = headAt place (.object row)) ∧
      (¬ LiesAlong fields row place → headAt place (.object out) = none) := by
  constructor
  · rintro ⟨field, hfield, hsome, halong⟩
    exact headAt_eq_of_getPath? (h.same field hfield) hsome halong
  · intro hapart
    rw [headAt, Option.map_eq_none_iff, ← Option.not_isSome_iff_eq_none]
    exact fun hsome => hapart (h.along place hplace hsome)

/-- There is only one document that keeps given paths. -/
theorem KeepsOnly.eq (h : KeepsOnly fields row out) (h' : KeepsOnly fields row other)
    (hout : out.isCanonical) (hother : other.isCanonical) : out = other := by
  -- both are known by what they have at every place
  refine Value.object.inj (Value.eq_of_headAt hout hother fun place => ?_)
  by_cases hplace : place = []
  · rw [hplace]
    rfl
  by_cases halong : LiesAlong fields row place
  · rw [(h.headAt_eq hplace).1 halong, (h'.headAt_eq hplace).1 halong]
  · rw [(h.headAt_eq hplace).2 halong, (h'.headAt_eq hplace).2 halong]

end Document

namespace Descriptor

open Document

/-- What a descriptor selects of a document: the selected paths and nothing else; all of it where
nothing is selected. -/
def Selects (d : Descriptor) (row out : Record) : Prop :=
  if d.select.isEmpty then out = row else KeepsOnly d.select row out

/-- A canonical record is selected from another just where it is the projection. -/
theorem selects_iff {d : Descriptor} {row out : Record} (hrow : row.isCanonical)
    (hout : out.isCanonical) : d.Selects row out ↔ out = d.projected row := by
  unfold Selects projected
  split
  · rfl
  · constructor
    · intro h
      exact h.eq (keepsOnly_projectRow d.select hrow) hout (isCanonical_projectRow d.select hrow)
    · rintro rfl
      exact keepsOnly_projectRow d.select hrow

/-- Stages that group, select and sort documents give the groups, or the documents where nothing is
grouped, sorted as they are and then reduced to what is selected of each. -/
theorem shapeStages_sort_then_select [Hashing] (ctx : QueryContext) (d : Descriptor) (store : Store)
    {rows : List Record} (hrows : ∀ row ∈ rows, row.isCanonical) :
    Stage.runAll store rows (d.shapeStages ctx) =
        .ok ((Record.sort (d.sortKeysOn ctx) (d.grouped rows)).map d.projected) ∧
      ∀ row ∈ d.grouped rows, ∀ out : Record, out.isCanonical →
        (out = d.projected row ↔ d.Selects row out) := by
  constructor
  · rw [d.runAll_shapeStages ctx, d.shaped_of_isCanonical ctx hrows]
  · intro row hrow out hout
    exact (selects_iff (d.isCanonical_grouped hrows row hrow) hout).symm

/-! ## Cities -/

/-- Users in three cities, one of them without an address. -/
def cityRows : List Record :=
  [[("address", .object [("city", .string "Lyon"), ("zip", .int 69001)]), ("id", .int 1)],
    [("id", .int 2)],
    [("address", .object [("city", .string "Nice"), ("zip", .int 6000)]), ("id", .int 3)]]

/-- The addresses of users by city, and a field that no user has. -/
def addressQuery : Descriptor where
  select := ["address.city", "address", "name.first", "address.city"]
  sort := [⟨"address.city", .descending⟩]

/-- Only the fields along the selected path are kept, in the order of a field below it. -/
theorem shapeStages_sort_then_select_cities :
    (∀ row ∈ cityRows, row.isCanonical) ∧
      addressQuery.shapeStages { entity := "users" } =
        [.project addressQuery.select, .sort addressQuery.sort] ∧
      Stage.runAll {} cityRows (addressQuery.shapeStages { entity := "users" }) =
        .ok [[("address", .object [("city", .string "Nice"), ("zip", .int 6000)])],
          [("address", .object [("city", .string "Lyon"), ("zip", .int 69001)])], []] := by
  have hrows : ∀ row ∈ cityRows, row.isCanonical := by decide
  exact ⟨hrows, rfl,
    (shapeStages_sort_then_select { entity := "users" } addressQuery {} hrows).1.trans rfl⟩

end Descriptor

end DualQuery
