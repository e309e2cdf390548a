import DualQuery.StableSort

/-!
# Stable sorting

What `stableSort` gives for a relation that is a strict weak order on the elements of a list. The
laws are asked of the elements alone, since the order of values is lawful only on some of them.

## Key results

- `stableSort_perm`: sorting permutes
- `stableSort_map`: sorting sees elements only through the comparison
- `pairwise_stableSort`: nothing stands behind what it precedes
- `stableSort_eq_of_perm`: where no two elements tie the order of the input does not matter
- `filter_stableSort`: elements that tie keep their order
-/

namespace DualQuery

variable {α β : Type}

/-- The laws of a strict weak order, on the elements of a list. -/
structure StrictWeakOn (precedes : α → α → Bool) (as : List α) : Prop where
  asymm : ∀ a ∈ as, ∀ b ∈ as, precedes a b → precedes b a = false
  negTrans : ∀ a ∈ as, ∀ b ∈ as, ∀ c ∈ as,
    precedes a b = false → precedes b c = false → precedes a c = false

/-- The laws hold on fewer elements. -/
theorem StrictWeakOn.mono {precedes : α → α → Bool} {as bs : List α}
    (h : StrictWeakOn precedes bs) (hsub : ∀ a ∈ as, a ∈ bs) : StrictWeakOn precedes as where
  asymm a ha b hb := h.asymm a (hsub a ha) b (hsub b hb)
  negTrans a ha b hb c hc := h.negTrans a (hsub a ha) b (hsub b hb) c (hsub c hc)

/-! ## Permutation -/

/-- Inserting adds one element and loses none. -/
theorem insertBackward_perm (precedes : α → α → Bool) (a : α) (as : List α) :
    (insertBackward precedes a as).Perm (a :: as) := by
  induction as with
  | nil => exact .refl _
  | cons last before ih =>
    simp only [insertBackward]
    split
    · exact (ih.cons last).trans (.swap a last before)
    · exact .refl _

/-- The elements inserted and still to be inserted are the same as before an insertion. -/
theorem mem_of_mem_append_insertBackward {precedes : α → α → Bool} {a b : α} {as acc : List α}
    (h : b ∈ as ++ insertBackward precedes a acc) : b ∈ a :: as ++ acc := by
  have := (insertBackward_perm precedes a acc).mem_iff (a := b)
  grind

/-- Inserting elements one by one loses and adds none. -/
private theorem foldl_insertBackward_perm (precedes : α → α → Bool) (as acc : List α) :
    (as.foldl (fun sorted a => insertBackward precedes a sorted) acc).Perm (as ++ acc) := by
  induction as generalizing acc with
  | nil => exact .refl _
  | cons a as ih =>
    exact (ih _).trans (((insertBackward_perm precedes a acc).append_left as).trans
      List.perm_middle)

/-- Sorting permutes. -/
theorem stableSort_perm (precedes : α → α → Bool) (as : List α) :
    (stableSort precedes as).Perm as := by
  have h := foldl_insertBackward_perm precedes as []
  rw [List.append_nil] at h
  exact (List.reverse_perm _).trans h

/-- The elements are the same. -/
@[simp] theorem mem_stableSort {precedes : α → α → Bool} {as : List α} {a : α} :
    a ∈ stableSort precedes as ↔ a ∈ as :=
  (stableSort_perm precedes as).mem_iff

/-- So is their number. -/
@[simp] theorem length_stableSort (precedes : α → α → Bool) (as : List α) :
    (stableSort precedes as).length = as.length :=
  (stableSort_perm precedes as).length_eq

/-! ## Images -/

/-- Inserting sees elements only through the comparison. -/
theorem insertBackward_map {precedes : α → α → Bool} {precedes' : β → β → Bool} (f : α → β) (a : α)
    (as : List α) (h : ∀ b ∈ as, precedes' (f a) (f b) = precedes a b) :
    insertBackward precedes' (f a) (as.map f) = (insertBackward precedes a as).map f := by
  induction as with
  | nil => rfl
  | cons last before ih =>
    rw [List.forall_mem_cons] at h
    simp only [List.map_cons, insertBackward, h.1]
    split
    · rw [ih h.2, List.map_cons]
    · rfl

/-- So does inserting one by one. -/
private theorem foldl_insertBackward_map {precedes : α → α → Bool} {precedes' : β → β → Bool}
    (f : α → β) (as acc : List α)
    (h : ∀ a ∈ as ++ acc, ∀ b ∈ as ++ acc, precedes' (f a) (f b) = precedes a b) :
    (as.map f).foldl (fun sorted a => insertBackward precedes' a sorted) (acc.map f) =
      (as.foldl (fun sorted a => insertBackward precedes a sorted) acc).map f := by
  induction as generalizing acc with
  | nil => rfl
  | cons a as ih =>
    rw [List.map_cons, List.foldl_cons, List.foldl_cons,
      insertBackward_map f a acc fun b hb => h a (by simp) b (by simp [hb])]
    exact ih _ fun b hb c hc =>
      h b (mem_of_mem_append_insertBackward hb) c (mem_of_mem_append_insertBackward hc)

/-- Sorting sees elements only through the comparison. -/
theorem stableSort_map {precedes : α → α → Bool} {precedes' : β → β → Bool} (f : α → β)
    (as : List α) (h : ∀ a ∈ as, ∀ b ∈ as, precedes' (f a) (f b) = precedes a b) :
    stableSort precedes' (as.map f) = (stableSort precedes as).map f := by
  have hfold := foldl_insertBackward_map f as [] (by simpa using h)
  rw [List.map_nil] at hfold
  rw [stableSort, hfold, ← List.map_reverse, stableSort]

/-! ## Order -/

/-- Inserting keeps a list in order, which is read backwards. -/
private theorem pairwise_insertBackward {precedes : α → α → Bool} {a : α} {as : List α}
    (h : StrictWeakOn precedes (a :: as)) (has : as.Pairwise fun b c => precedes b c = false) :
    (insertBackward precedes a as).Pairwise fun b c => precedes b c = false := by
  induction as with
  | nil => simp [insertBackward]
  | cons last before ih =>
    rw [List.pairwise_cons] at has
    simp only [insertBackward]
    split
    next hlt =>
      -- `a` precedes `last`, so it goes behind it in the list, which is read backwards
      refine List.pairwise_cons.2
        ⟨fun b hb => ?_, ih (h.mono fun b hb => by grind) has.2⟩
      rcases List.mem_cons.1 ((insertBackward_perm precedes a before).mem_iff.1 hb) with rfl | hb
      · exact h.asymm _ (by simp) _ (by simp) hlt
      · exact has.1 b hb
    next hnlt =>
      -- `a` stays here; it precedes nothing behind `last`, since `last` does not
      rw [Bool.not_eq_true] at hnlt
      refine List.pairwise_cons.2 ⟨fun b hb => ?_, List.pairwise_cons.2 has⟩
      rcases List.mem_cons.1 hb with rfl | hb
      · exact hnlt
      · exact h.negTrans a (by simp) last (by simp) b (by simp [hb]) hnlt (has.1 b hb)

/-- So does inserting one by one. -/
private theorem pairwise_foldl_insertBackward {precedes : α → α → Bool} (as acc : List α)
    (h : StrictWeakOn precedes (as ++ acc))
    (hacc : acc.Pairwise fun b c => precedes b c = false) :
    (as.foldl (fun sorted a => insertBackward precedes a sorted) acc).Pairwise
      fun b c => precedes b c = false := by
  induction as generalizing acc with
  | nil => exact hacc
  | cons a as ih =>
    -- the laws are asked of the elements inserted and still to be inserted
    refine ih _ (h.mono fun b hb => mem_of_mem_append_insertBackward hb)
      (pairwise_insertBackward (h.mono fun b hb => ?_) hacc)
    grind

/-- Nothing stands behind what it precedes. -/
theorem pairwise_stableSort {precedes : α → α → Bool} {as : List α}
    (h : StrictWeakOn precedes as) :
    (stableSort precedes as).Pairwise fun a b => precedes b a = false := by
  rw [stableSort, List.pairwise_reverse]
  exact pairwise_foldl_insertBackward as [] (by simpa using h) .nil

/-- Where no two elements tie a sorted list is known by its elements. -/
theorem stableSort_eq_of_perm {precedes : α → α → Bool} {as bs : List α}
    (h : StrictWeakOn precedes as) (hperm : as.Perm bs)
    (htie : as.Pairwise fun a b => precedes a b ∨ precedes b a) :
    stableSort precedes as = stableSort precedes bs := by
  have hbs : StrictWeakOn precedes bs := h.mono fun b hb => hperm.mem_iff.2 hb
  have hperm' : (stableSort precedes as).Perm (stableSort precedes bs) :=
    (stableSort_perm precedes as).trans (hperm.trans (stableSort_perm precedes bs).symm)
  refine hperm'.eq_of_pairwise ?_ (pairwise_stableSort h) (pairwise_stableSort hbs)
  intro a b ha hb hab hba
  rw [mem_stableSort] at ha
  rw [mem_stableSort, ← hperm.mem_iff] at hb
  -- two different elements of `as` stand at different places, so one of them precedes the other
  have hdiffer : a = b ∨ precedes a b ∨ precedes b a := by
    have hforth : as.Pairwise fun a b => a = b ∨ precedes a b ∨ precedes b a := htie.imp .inr
    have hback : as.Pairwise (flip fun a b => a = b ∨ precedes a b ∨ precedes b a) :=
      htie.imp fun h => .inr h.symm
    exact List.Pairwise.forall_of_forall_of_flip (fun _ _ => .inl rfl) hforth hback ha hb
  rcases hdiffer with heq | hlt | hlt
  · exact heq
  · rw [hba] at hlt
    cases hlt
  · rw [hab] at hlt
    cases hlt

/-! ## Stability -/

/-- An element is inserted in front of those that it ties with. -/
theorem filter_insertBackward {precedes : α → α → Bool} {keep : α → Bool} {a : α} {as : List α}
    (h : keep a → ∀ b ∈ as, keep b → precedes a b = false) :
    (insertBackward precedes a as).filter keep = (a :: as).filter keep := by
  induction as with
  | nil => rfl
  | cons last before ih =>
    have ih := ih fun ha b hb => h ha b (List.mem_cons_of_mem _ hb)
    simp only [insertBackward]
    split
    next hlt =>
      -- only an element that is not kept is passed by one that is
      have hpassed : keep a → keep last = false := fun ha => by
        rw [← Bool.not_eq_true]
        intro hlast
        rw [h ha last List.mem_cons_self hlast] at hlt
        cases hlt
      rw [List.filter_cons, ih]
      cases ha : keep a with
      | true => simp [ha, hpassed ha]
      | false => simp [ha, List.filter_cons]
    next => rfl

/-- Elements that tie are in the order in which they were inserted, read backwards. -/
private theorem filter_foldl_insertBackward {precedes : α → α → Bool} {keep : α → Bool}
    (as acc : List α)
    (h : ∀ a ∈ as ++ acc, ∀ b ∈ as ++ acc, keep a → keep b → precedes a b = false) :
    (as.foldl (fun sorted a => insertBackward precedes a sorted) acc).filter keep =
      (as.reverse ++ acc).filter keep := by
  induction as generalizing acc with
  | nil => rfl
  | cons a as ih =>
    have hrest : ∀ b ∈ as ++ insertBackward precedes a acc,
        ∀ c ∈ as ++ insertBackward precedes a acc, keep b → keep c → precedes b c = false :=
      fun b hb c hc =>
        h b (mem_of_mem_append_insertBackward hb) c (mem_of_mem_append_insertBackward hc)
    rw [List.foldl_cons, ih _ hrest, List.filter_append,
      filter_insertBackward fun ha b hb => h a (by simp) b (by simp [hb]) ha, List.reverse_cons,
      List.append_assoc, List.singleton_append, List.filter_append]

/-- Elements that tie keep their order. -/
theorem filter_stableSort {precedes : α → α → Bool} {keep : α → Bool} {as : List α}
    (h : ∀ a ∈ as, ∀ b ∈ as, keep a → keep b → precedes a b = false) :
    (stableSort precedes as).filter keep = as.filter keep := by
  rw [stableSort, List.filter_reverse, filter_foldl_insertBackward as [] (by simpa using h),
    List.append_nil, List.filter_reverse, List.reverse_reverse]

end DualQuery
