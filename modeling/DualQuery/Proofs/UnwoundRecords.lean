import DualQuery.Proofs.ProjectedPaths
import Mathlib.Data.List.Forall2

/-!
# Unwound records

Unwinding takes each record on its own. An array with items at the path gives a record for each of
them; where there is no value, null or an empty array the record is dropped, or kept without what is
at the path; any other record passes. `Document.Unwinds` says this by what is read along paths.

An array is read and its items are written along the path. What is removed from a record that is
kept is the field whose key is the text of the path. A path without a dot is its own first segment,
so the value goes; no path at all leads to a field with a dot in its key, so under a dotted path
null and an empty array stay where they are.

## Key results

- `Record.getPath?_erase_self`, `Record.getPath?_erase_of_isDotted`: a path as a key
- `Document.unwinds_unwindRow`, `Document.exists_unwindRow_of_staysBare`: one record
- `Document.unwind_keeps_and_clears`: all records
- `Document.unwind_leaves_empty_lookup`: an array that stays in place
-/

namespace DualQuery

namespace Text

/-- No segment has a dot, and least of all the first. -/
theorem isDotted_root (path : String) : isDotted (root path) = false := by
  have hall : (path.toList.takeWhile (· ≠ '.')).all (· ≠ '.') := List.all_takeWhile
  have hmem : '.' ∉ path.toList.takeWhile (· ≠ '.') := fun h => by
    simpa using List.all_eq_true.1 hall '.' h
  simpa [isDotted, root] using hmem

/-- A path that parts from one without a dot starts with another segment. -/
theorem Parted.root_ne {path other : String} (h : Parted path other)
    (hdot : isDotted path = false) : root other ≠ path := by
  obtain ⟨rest, hrest⟩ := segments_eq_root_cons other
  intro heq
  refine h.1 ?_
  rw [segments_of_not_isDotted hdot, hrest, heq]
  exact List.prefix_append [path] rest

end Text

/-! ## Paths as keys -/

namespace Record

/-- Removing a field is not seen at a path that starts with another key. -/
theorem getPath?_erase_of_ne (record : Record) {key path : String} (h : Text.root path ≠ key) :
    getPath? (Keyed.erase record key) path = getPath? record path := by
  refine getPath?_congr ?_
  rw [Keyed.get?_erase, if_neg h]

/-- No path reads a field whose key has a dot. -/
theorem getPath?_erase_of_isDotted (record : Record) {key : String}
    (h : Text.isDotted key = true) (path : String) :
    getPath? (Keyed.erase record key) path = getPath? record path := by
  refine getPath?_erase_of_ne record fun heq => ?_
  rw [← heq, Text.isDotted_root] at h
  exact Bool.false_ne_true h

/-- A path without a dot reads the field whose key it is. -/
theorem getPath?_erase_self (record : Record) {path : String} (h : Text.isDotted path = false) :
    getPath? (Keyed.erase record path) path = none := by
  rw [getPath?_of_not_isDotted _ h, Keyed.get?_erase, if_pos rfl]

end Record

namespace Document

variable {path : String} {keepsEmpty : Bool} {row : Record}

/-! ## One record -/

/-- What is read at paths that part from a given one is the same in two records. -/
def AgreesApart (path : String) (row out : Record) : Prop :=
  ∀ other, Text.Parted path other → Record.getPath? out other = Record.getPath? row other

/-- There is nothing to unwind at a path: no value, null or an array without items. -/
def IsBare (path : String) (row : Record) : Prop :=
  Record.getPath? row path = none ∨ Record.getPath? row path = some .null ∨
    Record.getPath? row path = some (.array [])

/-- The records that unwinding is to make of a record. -/
inductive Unwinds (path : String) (keepsEmpty : Bool) (row : Record) : List Record → Prop where
  /-- One for each item of an array, in the order of the items and with the item at the path. -/
  | items {items : List Value} {outs : List Record} (hne : items ≠ [])
    (hvalue : Record.getPath? row path = some (.array items))
    (houts : List.Forall₂ (fun item out => Record.getPath? out path = some item ∧
      AgreesApart path row out) items outs) : Unwinds path keepsEmpty row outs
  | dropped (hbare : IsBare path row) (hkeeps : keepsEmpty = false) :
    Unwinds path keepsEmpty row []
  /-- The record with nothing at the path. -/
  | kept {out : Record} (hbare : IsBare path row) (hkeeps : keepsEmpty = true)
    (hclear : Record.getPath? out path = none) (hrest : AgreesApart path row out) :
    Unwinds path keepsEmpty row [out]
  /-- The record as it is, its value being neither null nor an array. -/
  | passed {v : Value} (hvalue : Record.getPath? row path = some v) (hnull : v.isNull = false)
    (harray : v.array? = none) : Unwinds path keepsEmpty row [row]

/-- A record is kept with null or an empty array at a dotted path. -/
def StaysBare (path : String) (keepsEmpty : Bool) (row : Record) : Prop :=
  keepsEmpty = true ∧ Text.isDotted path = true ∧
    (Record.getPath? row path = some .null ∨ Record.getPath? row path = some (.array []))

/-- A record that stays bare is bare. -/
theorem StaysBare.isBare (h : StaysBare path keepsEmpty row) : IsBare path row := .inr h.2.2

/-- A bare record is dropped, or kept without the field. -/
theorem unwindRow_of_isBare (h : IsBare path row) :
    unwindRow path keepsEmpty row = if keepsEmpty then [Keyed.erase row path] else [] := by
  rcases h with h | h | h <;> simp only [unwindRow, h]

/-- An array with items gives a record for each of them. -/
theorem unwindRow_of_items {items : List Value} (hne : items ≠ [])
    (h : Record.getPath? row path = some (.array items)) :
    unwindRow path keepsEmpty row = items.map (Record.setPath row path) := by
  cases items with
  | nil => exact absurd rfl hne
  | cons item items => simp only [unwindRow, h]

/-- A value that is neither null nor an array passes as it is. -/
theorem unwindRow_of_passed {v : Value} (h : Record.getPath? row path = some v)
    (hnull : v.isNull = false) (harray : v.array? = none) :
    unwindRow path keepsEmpty row = [row] := by
  cases v with
  | null => cases hnull
  | array items => cases harray
  | _ => simp only [unwindRow, h]

/-- The records of the items of an array. -/
theorem forall₂_setPath (row : Record) (path : String) (items : List Value) :
    List.Forall₂ (fun item out => Record.getPath? out path = some item ∧ AgreesApart path row out)
      items (items.map (Record.setPath row path)) := by
  rw [List.forall₂_map_right_iff, List.forall₂_same]
  exact fun item _ => ⟨Record.getPath?_setPath_self row path item,
    fun other hother => Record.getPath?_setPath_of_parted hother row item⟩

/-- A record without a value to clear is kept as it should be. -/
theorem unwinds_erase (hbare : IsBare path row) (hstays : ¬ StaysBare path true row) :
    Unwinds path true row [Keyed.erase row path] := by
  cases hdot : Text.isDotted path with
  | false =>
    exact .kept hbare rfl (Record.getPath?_erase_self row hdot) fun other hother =>
      Record.getPath?_erase_of_ne row (hother.root_ne hdot)
  | true =>
    have hsame := Record.getPath?_erase_of_isDotted row hdot
    -- nothing is removed, so there must have been nothing
    have hnone : Record.getPath? row path = none :=
      hbare.resolve_right fun hvalue => hstays ⟨rfl, hdot, hvalue⟩
    exact .kept hbare rfl ((hsame path).trans hnone) fun other _ => hsame other

/-- Where no value stays in place that should go, a record is unwound as it should be. -/
theorem unwinds_unwindRow (h : ¬ StaysBare path keepsEmpty row) :
    Unwinds path keepsEmpty row (unwindRow path keepsEmpty row) := by
  by_cases hbare : IsBare path row
  · rw [unwindRow_of_isBare hbare]
    cases keepsEmpty with
    | false => exact .dropped hbare rfl
    | true => exact unwinds_erase hbare h
  cases hvalue : Record.getPath? row path with
  | none => exact absurd (.inl hvalue) hbare
  | some v =>
    cases harray : v.array? with
    | none =>
      have hnull : v.isNull = false := by
        rw [← Bool.not_eq_true]
        intro hnull
        cases v with
        | null => exact hbare (.inr (.inl hvalue))
        | _ => cases hnull
      rw [unwindRow_of_passed hvalue hnull harray]
      exact .passed hvalue hnull harray
    | some items =>
      -- only an array has items to unwind
      obtain rfl : v = .array items := by
        cases v with
        | array _ => rw [Option.some.inj harray]
        | _ => cases harray
      have hne : items ≠ [] := fun hnil => hbare (.inr (.inr (hnil ▸ hvalue)))
      rw [unwindRow_of_items hne hvalue]
      exact .items hne hvalue (forall₂_setPath row path items)

/-- A record that is kept with its value is read as before along every path. -/
theorem exists_unwindRow_of_staysBare (h : StaysBare path keepsEmpty row) :
    ∃ out, unwindRow path keepsEmpty row = [out] ∧
      ∀ other, Record.getPath? out other = Record.getPath? row other := by
  refine ⟨Keyed.erase row path, ?_, Record.getPath?_erase_of_isDotted row h.2.1⟩
  rw [unwindRow_of_isBare h.isBare, if_pos h.1]

/-- A record that should be cleared is not unwound by one that has the value still. -/
theorem not_unwinds_of_staysBare (h : StaysBare path keepsEmpty row) {out : Record}
    (hsame : Record.getPath? out path = Record.getPath? row path) :
    ¬ Unwinds path keepsEmpty row [out] := by
  have hvalue := h.2.2
  intro hunwinds
  -- each way to unwind says what becomes of the field, and none of them leaves it bare
  cases hunwinds with
  | items hne hitems _ =>
    rw [hitems] at hvalue
    simp [hne] at hvalue
  | kept _ _ hclear _ =>
    rw [← hsame, hclear] at hvalue
    simp at hvalue
  | passed hpassed hnull harray =>
    rw [hpassed] at hvalue
    rcases hvalue with hvalue | hvalue <;> cases hvalue
    · cases hnull
    · cases harray

/-! ## All records -/

/-- Records are unwound one after the other. Each gives what it should, with one exception: under a
dotted path a record with null or an empty array that is kept is kept with it. -/
theorem unwind_keeps_and_clears [Hashing] (store : Store) (path : String) (keepsEmpty : Bool)
    (rows : List Record) :
    ∃ parts : List (List Record),
      Stage.run store rows (.unwind path keepsEmpty) = .ok parts.flatten ∧
      List.Forall₂ (fun row part =>
        (Unwinds path keepsEmpty row part ↔ ¬ StaysBare path keepsEmpty row) ∧
        (StaysBare path keepsEmpty row → ∃ out, part = [out] ∧
          ∀ other, Record.getPath? out other = Record.getPath? row other)) rows parts := by
  refine ⟨rows.map (unwindRow path keepsEmpty), ?_, ?_⟩
  · rw [Stage.run, List.flatMap_def]
  · rw [List.forall₂_map_right_iff, List.forall₂_same]
    intro row _
    -- a row that stays bare is shown again with its empty field, which is no way to unwind it
    refine ⟨⟨fun hunwinds hstays => ?_, unwinds_unwindRow⟩, exists_unwindRow_of_staysBare⟩
    obtain ⟨out, hout, hsame⟩ := exists_unwindRow_of_staysBare hstays
    exact not_unwinds_of_staysBare hstays (hsame path) (hout ▸ hunwinds)

/-- Under a dotted alias the array of a record for which nothing was found stays in place. -/
theorem unwind_leaves_empty_lookup :
    let join : JoinSpec :=
      { source := "members", localField := "id", foreignField := "user", label := "team.lead" }
    Stage.runAll { tables := [("members", [])] }
        [[("id", .int 1), ("team", .object [("name", .string "red")])]] join.stages =
      .ok [[("id", .int 1),
        ("team", .object [("lead", .array []), ("name", .string "red")])]] := by
  rfl

end Document

end DualQuery
