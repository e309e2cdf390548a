import DualQuery.Json.Basic
import DualQuery.Keyed
import DualQuery.Proofs.FirstOccurrences

/-!
# Distinct entries

An object is written with each key once. A key that is put again keeps its first place and takes its
last value, so the keys are the first occurrences of the keys that were put, and the entries are the
last ones of their keys.

## Key results

- `Json.map_fst_distinctEntries`: the keys
- `Json.find?_distinctEntries_of_last`, `Json.exists_last_of_mem_distinctEntries`: the values
- `Json.distinctEntries_of_nodup`: entries with different keys stay as they are
-/

namespace DualQuery.Json

/-- Entries are looked up as in a list in the order of keys. -/
theorem find?_eq_get? (key : String) (entries : List (String × Json)) :
    find? key entries = Keyed.get? entries key := by
  induction entries with
  | nil => rfl
  | cons entry entries ih => rw [find?, Keyed.get?, ih]

/-! ## One entry -/

/-- A key that is put is added unless it is there. -/
theorem map_fst_put (key : String) (value : Json) (entries : List (String × Json)) :
    (put key value entries).map (·.1) =
      if key ∈ entries.map (·.1) then entries.map (·.1) else entries.map (·.1) ++ [key] := by
  induction entries with
  | nil => rfl
  | cons entry entries ih =>
    rw [put]
    -- the key is put where it first stands, or behind all others
    by_cases hkey : entry.1 = key
    · simp [hkey]
    · have hkey' : key ≠ entry.1 := fun heq => hkey heq.symm
      rw [if_neg hkey, List.map_cons, ih]
      by_cases hmem : key ∈ entries.map (·.1)
      · simp [hmem]
      · simp [hmem, hkey']

/-- A value that is put stands under its key. -/
theorem find?_put_self (key : String) (value : Json) (entries : List (String × Json)) :
    find? key (put key value entries) = some value := by
  induction entries with
  | nil => simp [put, find?]
  | cons entry entries ih =>
    rw [put]
    split
    next => simp [find?]
    next hkey => rw [find?, if_neg hkey, ih]

/-- A value that is put leaves other keys. -/
theorem find?_put_of_ne {key other : String} (h : key ≠ other) (value : Json)
    (entries : List (String × Json)) :
    find? other (put key value entries) = find? other entries := by
  induction entries with
  | nil => simp [put, find?, h]
  | cons entry entries ih =>
    rw [put]
    split
    next hkey => simp [find?, h, hkey]
    next => rw [find?, find?, ih]

/-- A key that is not there is put at the end. -/
theorem put_of_not_mem {key : String} (value : Json) {entries : List (String × Json)}
    (h : key ∉ entries.map (·.1)) : put key value entries = entries ++ [(key, value)] := by
  induction entries with
  | nil => rfl
  | cons entry entries ih =>
    rw [List.map_cons, List.mem_cons, not_or] at h
    rw [put, if_neg (fun heq => h.1 heq.symm), ih h.2, List.cons_append]

/-- Where no key is repeated, an entry is the one that is put or has another key. -/
theorem mem_put {key : String} {value : Json} {entries : List (String × Json)}
    (hnodup : (entries.map (·.1)).Nodup) {entry : String × Json}
    (h : entry ∈ put key value entries) :
    entry = (key, value) ∨ (entry ∈ entries ∧ key ≠ entry.1) := by
  induction entries with
  | nil => exact .inl (List.mem_singleton.1 h)
  | cons first rest ih =>
    rw [List.map_cons, List.nodup_cons] at hnodup
    rw [put] at h
    split at h
    next hkey =>
      rcases List.mem_cons.1 h with rfl | h
      · exact .inl rfl
      -- the key that is replaced is not among the later ones
      · refine .inr ⟨List.mem_cons_of_mem _ h, fun heq => hnodup.1 ?_⟩
        rw [hkey, heq]
        exact List.mem_map_of_mem h
    next hkey =>
      rcases List.mem_cons.1 h with rfl | h
      · exact .inr ⟨List.mem_cons_self, fun heq => hkey heq.symm⟩
      · exact (ih hnodup.2 h).imp_right fun ⟨hmem, hne⟩ => ⟨List.mem_cons_of_mem _ hmem, hne⟩

/-! ## All entries -/

/-- One more entry is put to those before it. -/
theorem distinctEntries_concat (entries : List (String × Json)) (entry : String × Json) :
    distinctEntries (entries ++ [entry]) = put entry.1 entry.2 (distinctEntries entries) := by
  rw [distinctEntries, List.foldl_append]
  rfl

/-- Each key is kept at its first place. -/
theorem map_fst_distinctEntries (entries : List (String × Json)) :
    (distinctEntries entries).map (·.1) = (entries.map (·.1)).eraseDups := by
  induction entries using List.reverseRecOn with
  | nil => rfl
  | append_singleton entries entry ih =>
    rw [distinctEntries_concat, map_fst_put, ih, List.map_append, List.map_singleton,
      List.eraseDups_concat]
    simp only [List.mem_eraseDups]

/-- No key is written twice. -/
theorem nodup_map_fst_distinctEntries (entries : List (String × Json)) :
    ((distinctEntries entries).map (·.1)).Nodup := by
  rw [map_fst_distinctEntries]
  exact List.nodup_eraseDups _

/-- The last value of a key counts. -/
theorem find?_distinctEntries_of_last {front back : List (String × Json)} {key : String}
    {value : Json} (h : ∀ entry ∈ back, entry.1 ≠ key) :
    find? key (distinctEntries (front ++ (key, value) :: back)) = some value := by
  induction back using List.reverseRecOn with
  | nil => rw [distinctEntries_concat, find?_put_self]
  | append_singleton back entry ih =>
    rw [List.forall_mem_append, List.forall_mem_singleton] at h
    rw [← List.cons_append, ← List.append_assoc, distinctEntries_concat, find?_put_of_ne h.2,
      ih h.1]

/-- An entry that is written is the last one of its key. -/
theorem exists_last_of_mem_distinctEntries {entries : List (String × Json)}
    {entry : String × Json} (h : entry ∈ distinctEntries entries) :
    ∃ front back, entries = front ++ entry :: back ∧ ∀ other ∈ back, other.1 ≠ entry.1 := by
  -- from the last entry on, which takes the place of those with its key
  induction entries using List.reverseRecOn with
  | nil => cases h
  | append_singleton entries last ih =>
    rw [distinctEntries_concat] at h
    rcases mem_put (nodup_map_fst_distinctEntries entries) h with rfl | ⟨h, hne⟩
    · exact ⟨entries, [], rfl, by simp⟩
    · obtain ⟨front, back, rfl, hback⟩ := ih h
      refine ⟨front, back ++ [last], by simp, fun other hother => ?_⟩
      rcases List.mem_append.1 hother with hother | hother
      · exact hback other hother
      · exact List.mem_singleton.1 hother ▸ hne

/-- Entries with different keys stay as they are. -/
theorem distinctEntries_of_nodup {entries : List (String × Json)}
    (h : (entries.map (·.1)).Nodup) : distinctEntries entries = entries := by
  induction entries using List.reverseRecOn with
  | nil => rfl
  | append_singleton entries entry ih =>
    rw [List.map_append, List.nodup_append] at h
    have hnew : entry.1 ∉ entries.map (·.1) := fun hmem =>
      h.2.2 _ hmem entry.1 (by simp) rfl
    rw [distinctEntries_concat, ih h.1, put_of_not_mem _ hnew]

end DualQuery.Json
