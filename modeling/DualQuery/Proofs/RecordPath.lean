import DualQuery.Proofs.Canonical

/-!
# Paths of records

Reading and writing along a path, as recursions over its segments on values: `Value.follow` and
`Value.write`. All that is known about dotted paths of records follows from what these two do with a
path in front of another one, with two paths that part, and with a value that is there already.

## Key results

- `Value.follow_write_append`, `Value.follow_write_of_parted`: reading after a write
- `Value.write_of_follow`: writing what is there already changes nothing
- `Record.getPath?_congr`: a path reads one field of a record, that of its first segment
- `Record.getPath?_setPath_of_prefix`, `Record.getPath?_setPath_of_agree`: copying the value of one
  record into another at a path keeps the paths at which the two agree
-/

namespace DualQuery

namespace Text

/-- The first of the pieces ends before the first separator. -/
theorem cut_eq_takeWhile_cons (sep : Char) (cs : List Char) :
    ∃ pieces, cut sep cs = cs.takeWhile (· ≠ sep) :: pieces := by
  induction cs with
  | nil => exact ⟨[], rfl⟩
  | cons c cs ih =>
    obtain ⟨pieces, hpieces⟩ := ih
    simp only [cut, hpieces]
    by_cases hc : c = sep
    · simp [hc]
    · exact ⟨pieces, by simp [hc]⟩

/-- A list without separators is one piece. -/
theorem cut_of_not_mem {sep : Char} {cs : List Char} (h : sep ∉ cs) : cut sep cs = [cs] := by
  have hne : [cs] ≠ [] := by simp
  simpa [paste] using cut_paste sep hne (by simpa using h)

/-- The first segment of a path is its root. -/
theorem segments_eq_root_cons (path : String) : ∃ rest, segments path = root path :: rest := by
  obtain ⟨pieces, hpieces⟩ := cut_eq_takeWhile_cons '.' path.toList
  exact ⟨pieces.map String.ofList, by simp [segments, root, hpieces]⟩

/-- A path without points is its only segment. -/
theorem segments_of_not_isDotted {path : String} (h : isDotted path = false) :
    segments path = [path] := by
  have hmem : '.' ∉ path.toList := by simpa [isDotted] using h
  simp [segments, cut_of_not_mem hmem]

/-- And its own root. -/
theorem root_of_not_isDotted {path : String} (h : isDotted path = false) : root path = path := by
  obtain ⟨rest, hrest⟩ := segments_eq_root_cons path
  rw [segments_of_not_isDotted h] at hrest
  exact (List.cons.inj hrest).1.symm

/-- A path that neither is one of some names nor leads on from one starts with none of them. -/
theorem root_not_mem_of_not_leadsFrom {names : List String} {path : String}
    (hlead : leadsFrom names path = false) (hpath : path ∉ names) : root path ∉ names := by
  cases hdot : isDotted path with
  | true =>
    rw [leadsFrom, hdot, Bool.true_and] at hlead
    rw [← List.contains_iff_mem, hlead]
    exact Bool.false_ne_true
  | false =>
    rw [root_of_not_isDotted hdot]
    exact hpath

/-- A list is put together again from what stands in front of the first separator and what stands
behind it. -/
theorem takeWhile_append_drop {sep : Char} {cs : List Char} (h : sep ∈ cs) :
    cs.takeWhile (· ≠ sep) ++ sep :: cs.drop ((cs.takeWhile (· ≠ sep)).length + 1) = cs := by
  induction cs with
  | nil => cases h
  | cons c cs ih =>
    by_cases hc : c = sep
    · simp [hc]
    · have hmem : sep ∈ cs := (List.mem_cons.1 h).resolve_left fun heq => hc heq.symm
      simpa [hc] using ih hmem

end Text

namespace Value

open Record (fieldsOf)

/-- The value at the end of some segments. -/
def follow : List String → Value → Option Value
  | [], v => some v
  | segment :: rest, v => (Keyed.get? (fieldsOf (some v)) segment).bind (follow rest)

/-- Put a value at the end of some segments; whatever stands in the way becomes an object. -/
def write : Option Value → List String → Value → Value
  | _, [], v => v
  | old, segment :: rest, v =>
    object (Keyed.insert (fieldsOf old) segment
      (write (Keyed.get? (fieldsOf old) segment) rest v))

/-- Segments are followed one behind the other. -/
theorem follow_append (front back : List String) (v : Value) :
    follow (front ++ back) v = (follow front v).bind (follow back) := by
  induction front generalizing v with
  | nil => rfl
  | cons segment front ih =>
    simp only [List.cons_append, follow]
    cases Keyed.get? (fieldsOf (some v)) segment with
    | none => rfl
    | some w => exact ih w

/-- Behind the place of a write the written value is read. -/
theorem follow_write_append (old : Option Value) (path rest : List String) (v : Value) :
    follow (path ++ rest) (write old path v) = follow rest v := by
  induction path generalizing old with
  | nil => rfl
  | cons segment path ih => simp [follow, write, fieldsOf, Keyed.get?_insert_self, ih]

/-- A write is not seen at a path that parts from its own. -/
theorem follow_write_of_parted (old : Option Value) {path other : List String} (v : Value)
    (h : ¬ path <+: other) (h' : ¬ other <+: path) :
    follow other (write old path v) = old.bind (follow other) := by
  induction path generalizing old other with
  | nil => exact absurd (List.nil_prefix) h
  | cons segment path ih =>
    cases other with
    | nil => exact absurd (List.nil_prefix) h'
    | cons next other =>
      -- a value that is not there has no fields either
      have hold : old.bind (follow (next :: other)) =
          (Keyed.get? (fieldsOf old) next).bind (follow other) := by
        cases old <;> rfl
      rw [hold]
      simp only [follow, write, fieldsOf]
      -- under the same first segment the paths part later on, under another one the field stays
      by_cases hsegment : segment = next
      · subst hsegment
        rw [List.cons_prefix_cons, not_and] at h h'
        rw [Keyed.get?_insert_self, Option.bind_some, ih _ (h rfl) (h' rfl)]
      · rw [Keyed.get?_insert_of_ne _ _ hsegment]

/-- In front of the place of a write the value there has been written into. -/
theorem follow_write_inside {old u : Value} {path : List String} (rest : List String) (v : Value)
    (h : follow path old = some u) :
    follow path (write (some old) (path ++ rest) v) = some (write (some u) rest v) := by
  induction path generalizing old with
  | nil =>
    simp only [follow, Option.some.injEq] at h
    simp [follow, h]
  | cons segment path ih =>
    simp only [follow] at h
    obtain ⟨w, hget, hw⟩ := Option.bind_eq_some_iff.1 h
    rw [List.cons_append, write, hget, follow, fieldsOf, Keyed.get?_insert_self, Option.bind_some]
    exact ih hw

/-- Writing what is there already changes nothing. -/
theorem write_of_follow {v w : Value} {path : List String} (hv : v.isCanonical)
    (h : follow path v = some w) : write (some v) path w = v := by
  induction path generalizing v with
  | nil =>
    simp only [follow, Option.some.injEq] at h
    exact h.symm
  | cons segment path ih =>
    simp only [follow] at h
    obtain ⟨u, hget, hu⟩ := Option.bind_eq_some_iff.1 h
    have hfields : (fieldsOf (some v)).isCanonical :=
      Record.isCanonical_fieldsOf fun _ heq => Option.some.inj heq ▸ hv
    -- only an object has a field to follow
    have hobject : object (fieldsOf (some v)) = v := by
      cases v <;> simp_all [fieldsOf, Keyed.get?]
    rw [write, hget, ih (Record.isCanonical_get? hfields hget) hu,
      (Record.sorted_of_isCanonical hfields).insert_of_get? hget, hobject]

/-- What stands inside a canonical value is canonical. -/
theorem isCanonical_follow {v w : Value} {path : List String} (hv : v.isCanonical)
    (h : follow path v = some w) : w.isCanonical := by
  induction path generalizing v with
  | nil =>
    simp only [follow, Option.some.injEq] at h
    exact h ▸ hv
  | cons segment path ih =>
    simp only [follow] at h
    obtain ⟨u, hget, hu⟩ := Option.bind_eq_some_iff.1 h
    have hfields : (fieldsOf (some v)).isCanonical :=
      Record.isCanonical_fieldsOf fun _ heq => Option.some.inj heq ▸ hv
    exact ih (Record.isCanonical_get? hfields hget) hu

/-- Writing a canonical value into a canonical one keeps it so. -/
theorem isCanonical_write {old : Option Value} {path : List String} {v : Value}
    (hold : ∀ w, old = some w → w.isCanonical) (hv : v.isCanonical) :
    (write old path v).isCanonical := by
  induction path generalizing old with
  | nil => exact hv
  | cons segment path ih =>
    have hfields := Record.isCanonical_fieldsOf hold
    refine Record.isCanonical_insert hfields segment (ih fun w hw => ?_)
    exact Record.isCanonical_get? hfields hw

end Value

namespace Record

open Value (follow write)

/-! ## Dotted paths -/

/-- Segments of a record are followed from the value of the first one. -/
theorem getSegments?_cons (record : Record) (segment : String) (rest : List String) :
    getSegments? record (segment :: rest) = (Keyed.get? record segment).bind (follow rest) := by
  induction rest generalizing record segment with
  | nil => cases h : Keyed.get? record segment <;> simp [getSegments?, follow, h]
  | cons next rest ih =>
    cases h : Keyed.get? record segment with
    | none => simp [getSegments?, h]
    -- both stop at a value that has no fields
    | some v => cases v <;> simp [getSegments?, follow, fieldsOf, Keyed.get?, h, ih]

/-- Segments of a record are written into the value of the first one. -/
theorem setSegments_cons (record : Record) (segment : String) (rest : List String) (v : Value) :
    setSegments record (segment :: rest) v =
      Keyed.insert record segment (write (Keyed.get? record segment) rest v) := by
  induction rest generalizing record segment with
  | nil => rfl
  | cons next rest ih =>
    rw [setSegments, ih]
    · rfl
    · simp

/-- Reading a path of a record is following its segments from the record as an object. -/
theorem getPath?_eq_follow (record : Record) (path : String) :
    getPath? record path = follow (Text.segments path) (.object record) := by
  obtain ⟨rest, hrest⟩ := Text.segments_eq_root_cons path
  rw [getPath?, hrest, getSegments?_cons]
  rfl

/-- Writing at a path of a record is writing at its segments into the record as an object. -/
theorem object_setPath (record : Record) (path : String) (v : Value) :
    Value.object (setPath record path v) =
      write (some (.object record)) (Text.segments path) v := by
  obtain ⟨rest, hrest⟩ := Text.segments_eq_root_cons path
  rw [setPath, hrest, setSegments_cons]
  rfl

/-- A path reads one field of a record, that of its first segment. -/
theorem getPath?_congr {a b : Record} {path : String}
    (h : Keyed.get? a (Text.root path) = Keyed.get? b (Text.root path)) :
    getPath? a path = getPath? b path := by
  obtain ⟨rest, hrest⟩ := Text.segments_eq_root_cons path
  simp only [getPath?, hrest, getSegments?_cons, h]

/-- So does the value at a path. -/
theorem valueAt_congr {a b : Record} {path : String}
    (h : Keyed.get? a (Text.root path) = Keyed.get? b (Text.root path)) :
    valueAt a path = valueAt b path := by
  rw [valueAt, valueAt, getPath?_congr h]

/-- A path without points is a field. -/
theorem getPath?_of_not_isDotted (record : Record) {path : String}
    (h : Text.isDotted path = false) : getPath? record path = Keyed.get? record path := by
  rw [getPath?, Text.segments_of_not_isDotted h, getSegments?]

/-- To write at a path without points is to write the field. -/
theorem setPath_of_not_isDotted (record : Record) {path : String} (v : Value)
    (h : Text.isDotted path = false) : setPath record path v = Keyed.insert record path v := by
  rw [setPath, Text.segments_of_not_isDotted h, setSegments]

/-- What stands at a path of a canonical record is canonical. -/
theorem isCanonical_getPath? {record : Record} (h : record.isCanonical) {path : String} {v : Value}
    (hget : getPath? record path = some v) : v.isCanonical :=
  Value.isCanonical_follow h (getPath?_eq_follow record path ▸ hget)

/-- So is the value at a path, which is null where there is none. -/
theorem isCanonical_valueAt {record : Record} (h : record.isCanonical) (path : String) :
    (valueAt record path).isCanonical := by
  rw [valueAt]
  cases hget : getPath? record path with
  | none => rfl
  | some v => exact isCanonical_getPath? h hget

/-- Writing a canonical value at a path keeps a record canonical. -/
theorem isCanonical_setPath {record : Record} (h : record.isCanonical) (path : String) {v : Value}
    (hv : v.isCanonical) : (setPath record path v).isCanonical := by
  rw [isCanonical, object_setPath]
  exact Value.isCanonical_write (fun w hw => Option.some.inj hw ▸ h) hv

/-- What was written at a path is read there. -/
theorem getPath?_setPath_self (record : Record) (path : String) (v : Value) :
    getPath? (setPath record path v) path = some v := by
  have hfollow := Value.follow_write_append (some (.object record)) (Text.segments path) [] v
  rw [List.append_nil] at hfollow
  rw [getPath?_eq_follow, object_setPath, hfollow, follow]

/-- Copying a value from one record to another makes the two agree behind its path. -/
theorem getPath?_setPath_of_prefix {row : Record} (out : Record) {path other : String} {v : Value}
    (hv : getPath? row path = some v) (h : Text.segments path <+: Text.segments other) :
    getPath? (setPath out path v) other = getPath? row other := by
  obtain ⟨rest, hrest⟩ := h
  rw [getPath?_eq_follow] at hv
  rw [getPath?_eq_follow, object_setPath, getPath?_eq_follow, ← hrest, Value.follow_write_append,
    Value.follow_append, hv, Option.bind_some]

/-- Copying a value from one record to another keeps a path at which the two agree. -/
theorem getPath?_setPath_of_agree {row out : Record} {path other : String} {v : Value}
    (hrow : row.isCanonical) (hv : getPath? row path = some v)
    (h : getPath? out other = getPath? row other) :
    getPath? (setPath out path v) other = getPath? row other := by
  by_cases hfront : Text.segments path <+: Text.segments other
  · exact getPath?_setPath_of_prefix out hv hfront
  by_cases hback : Text.segments other <+: Text.segments path
  · -- the written place lies inside the value that the two records share
    obtain ⟨rest, hrest⟩ := hback
    rw [getPath?_eq_follow, ← hrest, Value.follow_append] at hv
    -- the value written is the one that `w` has there, so writing it into `w` changes nothing
    obtain ⟨w, hw, hrestw⟩ := Option.bind_eq_some_iff.1 hv
    have hcanonical : w.isCanonical := Value.isCanonical_follow hrow hw
    have hout : follow (Text.segments other) (.object out) = some w := by
      rw [← getPath?_eq_follow, h, getPath?_eq_follow, hw]
    rw [getPath?_eq_follow, object_setPath, getPath?_eq_follow, hw, ← hrest,
      Value.follow_write_inside _ _ hout, Value.write_of_follow hcanonical hrestw]
  -- otherwise the paths part and the write is not seen
  · rw [getPath?_eq_follow, object_setPath, Value.follow_write_of_parted _ _ hfront hback,
      Option.bind_some, ← getPath?_eq_follow, h]

end Record

end DualQuery
