import DualQuery.Proofs.ProjectedPaths

/-!
# Laws of paths

A record is read and written at paths as an array is at its indices: what was written is read, of
two writes at a path the second counts, and a write is not seen at a path that parts from its own.
This is so in every record and for every path. An empty segment is a key like any other, and what
stands in the way of a write becomes an object before the write goes on.

A path is also its first segment and the path behind the first dot. Reading and writing can be said
in this way too, as one step into the field under the segment.

## Key results

- `Record.getPath?_dot`, `Record.setPath_dot`: one step along a path
- `Value.write_write`: two writes at the same segments
- `Record.setPath_laws`: the three laws
-/

namespace DualQuery

namespace Text

/-- The first cut is made at the first separator. -/
theorem cut_append_sep {sep : Char} {front : List Char} (h : sep ∉ front) (back : List Char) :
    cut sep (front ++ sep :: back) = front :: cut sep back := by
  -- there is a piece behind each separator
  obtain ⟨piece, pieces, hback⟩ := List.exists_cons_of_ne_nil (cut_ne_nil sep back)
  induction front with
  | nil => simp [cut, hback]
  | cons c front ih =>
    rw [List.mem_cons, not_or] at h
    rw [List.cons_append, cut, ih h.2]
    exact if_neg (Ne.symm h.1)

/-- The first segment of a path stands in front of the first dot. -/
theorem segments_dot {first : String} (h : isDotted first = false) (rest : String) :
    segments (first ++ "." ++ rest) = first :: segments rest := by
  have hmem : '.' ∉ first.toList := by simpa [isDotted] using h
  have htext : (first ++ "." ++ rest).toList = first.toList ++ '.' :: rest.toList := by simp
  rw [segments, htext, cut_append_sep hmem, List.map_cons, String.ofList_toList, segments]

end Text

/-- Of two writes at the same segments the second counts. -/
theorem Value.write_write (old : Option Value) (path : List String) (v w : Value) :
    write (some (write old path v)) path w = write old path w := by
  induction path generalizing old with
  | nil => rfl
  | cons segment path ih =>
    -- the first write has left an object, and in it its value under the first segment
    simp only [write, Record.fieldsOf]
    rw [Keyed.get?_insert_self, ih, Keyed.insert_insert]

namespace Record

/-! ## One step -/

/-- Only an object has fields to go on with. -/
theorem getPath?_dot (record : Record) {first : String} (h : Text.isDotted first = false)
    (rest : String) :
    getPath? record (first ++ "." ++ rest) =
      getPath? (fieldsOf (Keyed.get? record first)) rest := by
  obtain ⟨next, more, hmore⟩ := List.exists_cons_of_ne_nil (Text.segments_ne_nil rest)
  rw [getPath?, Text.segments_dot h, getSegments?_cons, getPath?_eq_follow, hmore]
  cases Keyed.get? record first <;> rfl

/-- What has no fields is written over by an object. -/
theorem setPath_dot (record : Record) {first : String} (h : Text.isDotted first = false)
    (rest : String) (v : Value) :
    setPath record (first ++ "." ++ rest) v =
      Keyed.insert record first
        (.object (setPath (fieldsOf (Keyed.get? record first)) rest v)) := by
  rw [setPath, Text.segments_dot h, setSegments, setPath]
  exact Text.segments_ne_nil rest

/-! ## The laws -/

/-- Of two writes at one path the second counts. -/
theorem setPath_setPath (record : Record) (path : String) (v w : Value) :
    setPath (setPath record path v) path w = setPath record path w := by
  have hwrite := Value.write_write (some (.object record)) (Text.segments path) v w
  rw [← object_setPath, ← object_setPath, ← object_setPath] at hwrite
  exact Value.object.inj hwrite

/-- What is written at a path is read there, a second write takes its place, and paths that part
from the path read as before. -/
theorem setPath_laws (record : Record) (path other : String) (v w : Value) :
    getPath? (setPath record path v) path = some v ∧
      setPath (setPath record path v) path w = setPath record path w ∧
      (Text.Parted path other →
        getPath? (setPath record path v) other = getPath? record other) :=
  ⟨getPath?_setPath_self record path v, setPath_setPath record path v w,
    fun h => getPath?_setPath_of_parted h record v⟩

/-- An article with a list among its fields. -/
def article : Record :=
  [("id", .int 1), ("tags", .object [("count", .int 2), ("names", .array [.string "new"])])]

/-- A path with an empty segment leads through the list. -/
theorem setPath_laws_article :
    Text.Parted "tags.names..first" "tags.count" ∧
      setPath article "tags.names..first" .null =
        [("id", .int 1), ("tags", .object [("count", .int 2),
          ("names", .object [("", .object [("first", .null)])])])] ∧
      getPath? (setPath article "tags.names..first" .null) "tags.names..first" = some .null ∧
      setPath (setPath article "tags.names..first" .null) "tags.names..first" (.bool true) =
        setPath article "tags.names..first" (.bool true) ∧
      getPath? (setPath article "tags.names..first" .null) "tags.count" = some (.int 2) := by
  have hparted : Text.Parted "tags.names..first" "tags.count" := by decide
  obtain ⟨hread, hwrite, hrest⟩ :=
    setPath_laws article "tags.names..first" "tags.count" .null (.bool true)
  exact ⟨hparted, by rfl, hread, hwrite, hrest hparted⟩

end Record

end DualQuery
