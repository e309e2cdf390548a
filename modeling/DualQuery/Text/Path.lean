/-!
# Dotted paths

A path is a text whose segments are separated by dots. Every text is a path: it has one segment more
than it has dots, and segments may be empty.
-/

namespace DualQuery.Text

/-- Cut a list at every occurrence of a separator. -/
def cut (sep : Char) : List Char → List (List Char)
  | [] => [[]]
  | c :: cs =>
    match cut sep cs with
    | [] => [[c]]
    | piece :: pieces => if c = sep then [] :: piece :: pieces else (c :: piece) :: pieces

/-- Join pieces by a separator. -/
def paste (sep : Char) : List (List Char) → List Char
  | [] => []
  | [piece] => piece
  | piece :: pieces => piece ++ sep :: paste sep pieces

/-- A cut text has at least one part. -/
theorem cut_ne_nil (sep : Char) (cs : List Char) : cut sep cs ≠ [] := by
  cases cs with
  | nil => simp [cut]
  | cons c cs =>
    simp only [cut]
    split
    · simp
    · split <;> simp

/-- Pasting undoes cutting. -/
theorem paste_cut (sep : Char) (cs : List Char) : paste sep (cut sep cs) = cs := by
  induction cs with
  | nil => rfl
  | cons c cs ih =>
    simp only [cut]
    split
    next h => exact absurd h (cut_ne_nil sep cs)
    next piece pieces h =>
      rw [h] at ih
      split
      next hc => rw [hc]; simp [paste, ih]
      next hc => cases pieces <;> simp_all [paste]

/-- Cutting undoes pasting pieces that are free of the separator. -/
theorem cut_paste (sep : Char) {pieces : List (List Char)} (hne : pieces ≠ [])
    (hfree : ∀ piece ∈ pieces, sep ∉ piece) : cut sep (paste sep pieces) = pieces := by
  induction pieces with
  | nil => exact absurd rfl hne
  | cons piece pieces ih =>
    have hpiece : sep ∉ piece := hfree piece (by simp)
    have hrest : ∀ p ∈ pieces, sep ∉ p := fun p hp => hfree p (by simp [hp])
    cases pieces with
    | nil =>
      simp only [paste]
      clear ih hfree hrest hne
      induction piece with
      | nil => rfl
      | cons c cs ihc =>
        have hcs : sep ∉ cs := fun h => hpiece (List.mem_cons_of_mem _ h)
        have hc : c ≠ sep := fun h => hpiece (by simp [h])
        simp [cut, ihc hcs, hc]
    | cons next pieces =>
      have hcut := ih (by simp) hrest
      simp only [paste]
      clear ih hfree hrest hne
      induction piece with
      | nil => simp [cut, hcut]
      | cons c cs ihc =>
        have hcs : sep ∉ cs := fun h => hpiece (List.mem_cons_of_mem _ h)
        have hc : c ≠ sep := fun h => hpiece (by simp [h])
        simp [cut, ihc hcs, hc]

/-- The segments of a dotted path. -/
def segments (path : String) : List String := (cut '.' path.toList).map String.ofList

/-- The path with the given segments. -/
def dotted (segments : List String) : String :=
  String.ofList (paste '.' (segments.map String.toList))

/-- The first segment of a path. -/
def root (path : String) : String := String.ofList (path.toList.takeWhile (· ≠ '.'))

/-- Whether a path has more than one segment. -/
def isDotted (path : String) : Bool := path.toList.contains '.'

/-- Whether a path leads on from one of some names. -/
def leadsFrom (names : List String) (path : String) : Bool :=
  isDotted path && names.contains (root path)

/-- A path has at least one segment. -/
theorem segments_ne_nil (path : String) : segments path ≠ [] := by
  simp [segments, cut_ne_nil]

/-- A path is its segments with dots between them. -/
theorem dotted_segments (path : String) : dotted (segments path) = path := by
  have h : (String.toList ∘ String.ofList) = (id : List Char → List Char) := by
    funext cs; simp
  simp [dotted, segments, h, paste_cut]

end DualQuery.Text
