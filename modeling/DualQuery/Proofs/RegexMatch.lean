import DualQuery.Pattern.Regex
import Mathlib.Data.List.Basic
import Mathlib.Logic.Function.Iterate

/-!
# What regular expressions match

`Regex.Reaches` says from which place of a text to which other one an expression matches, without
saying how this is found out. The search of `Regex.accepts` keeps sets of places and stops where it
finds nothing new; it finds what there is to be found, because all places are of one text: those
with the same rest are the same, and matching never goes back.

## Key results

- `Regex.goesOn_reaches`: what is matched stands between the two places
- `Regex.Follows.mem_closure`: repeated steps from a set of places
- `Regex.follows_advance`: the places that an expression reaches
- `Regex.accepts_iff`: an expression is found where it matches somewhere
-/

namespace DualQuery.Regex

open Text

/-! ## Places of a text -/

namespace Place

/-- The text that is passed over from one place to another. -/
def Passes (a : Place) (passed : List Char) (b : Place) : Prop :=
  a.rest = passed ++ b.rest ∧ b.before = passed.getLast?.or a.before

/-- The place in front of a text. -/
def front (text : List Char) : Place := ⟨none, text⟩

/-- A place of a text. -/
def IsOf (text : List Char) (place : Place) : Prop := ∃ passed, (front text).Passes passed place

variable {text passed more : List Char} {a b c : Place}

/-- Nothing is passed over between a place and itself only. -/
@[simp] theorem passes_nil : a.Passes [] b ↔ a = b := by
  obtain ⟨before, rest⟩ := a
  obtain ⟨before', rest'⟩ := b
  simp [Passes, and_comm, eq_comm]

/-- Texts that are passed over one after the other. -/
theorem Passes.trans (hab : a.Passes passed b) (hbc : b.Passes more c) :
    a.Passes (passed ++ more) c := by
  refine ⟨by rw [hab.1, hbc.1, List.append_assoc], ?_⟩
  rw [hbc.2, hab.2, List.getLast?_append, Option.or_assoc]

/-- A place between two texts that are passed over. -/
theorem Passes.exists_between (h : a.Passes (passed ++ more) c) :
    ∃ b, a.Passes passed b ∧ b.Passes more c := by
  refine ⟨⟨passed.getLast?.or a.before, more ++ c.rest⟩, ⟨?_, rfl⟩, rfl, ?_⟩
  · rw [h.1, List.append_assoc]
  · rw [h.2, List.getLast?_append, Option.or_assoc]

/-- What is passed over is missing from the rest. -/
theorem Passes.length_eq (h : a.Passes passed b) :
    a.rest.length = passed.length + b.rest.length := by
  rw [h.1, List.length_append]

/-- A place is left where something is passed over. -/
theorem Passes.eq_of_length (h : a.Passes passed b) (hlength : a.rest.length = b.rest.length) :
    a = b := by
  have hnil : passed = [] := List.length_eq_zero_iff.1 (by have := h.length_eq; omega)
  exact passes_nil.1 (hnil ▸ h)

/-- A place further on is of the same text. -/
theorem IsOf.passes (ha : a.IsOf text) (h : a.Passes passed b) : b.IsOf text := by
  obtain ⟨before, hbefore⟩ := ha
  exact ⟨before ++ passed, hbefore.trans h⟩

/-- Places of one text with rests of the same length are the same. -/
theorem IsOf.eq_of_length (ha : a.IsOf text) (hb : b.IsOf text)
    (hlength : a.rest.length = b.rest.length) : a = b := by
  obtain ⟨u, hu, hua⟩ := ha
  obtain ⟨v, hv, hvb⟩ := hb
  obtain ⟨rfl, hrest⟩ := List.append_inj' (hu.symm.trans hv) hlength
  cases a
  cases b
  simp_all

/-- Among places of one text a place is found by the length of its rest. -/
theorem IsOf.isAmong_iff (ha : a.IsOf text) {places : List Place}
    (h : ∀ p ∈ places, p.IsOf text) : a.isAmong places = true ↔ a ∈ places := by
  rw [isAmong, List.any_eq_true]
  constructor
  · rintro ⟨b, hb, hsame⟩
    rwa [ha.eq_of_length (h b hb) (beq_iff_eq.1 hsame)]
  · exact fun hmem => ⟨a, hmem, beq_iff_eq.2 rfl⟩

/-- The places that are not among others. -/
theorem mem_filter_not_isAmong {seen places : List Place} (hseen : ∀ p ∈ seen, p.IsOf text)
    (hplaces : ∀ p ∈ places, p.IsOf text) :
    a ∈ places.filter (fun place => !place.isAmong seen) ↔ a ∈ places ∧ a ∉ seen := by
  rw [List.mem_filter]
  refine and_congr_right fun ha => ?_
  rw [Bool.not_eq_true', ← Bool.not_eq_true, (hplaces a ha).isAmong_iff hseen]

/-- The front of a text is a place of it. -/
theorem isOf_front (text : List Char) : (front text).IsOf text := ⟨[], passes_nil.2 rfl⟩

/-- No rest is longer than the text. -/
theorem IsOf.length_le (h : a.IsOf text) : a.rest.length ≤ text.length := by
  obtain ⟨passed, h⟩ := h
  have hlength := h.length_eq
  exact hlength ▸ Nat.le_add_left _ _

end Place

/-- Merging places loses and adds none. -/
theorem mem_mergePlaces {text : List Char} {first second : List Place}
    (hfirst : ∀ p ∈ first, p.IsOf text) (hsecond : ∀ p ∈ second, p.IsOf text) {place : Place} :
    place ∈ mergePlaces first second ↔ place ∈ first ∨ place ∈ second := by
  rw [mergePlaces, List.mem_append, Place.mem_filter_not_isAmong hfirst hsecond]
  by_cases h : place ∈ first
  · simp only [h, true_or]
  · simp only [h, false_or, not_false_eq_true, and_true]

/-- The places from a place on are those reached by passing over something. -/
theorem mem_placesFrom {before : Option Char} {cs : List Char} {place : Place} :
    place ∈ placesFrom before cs ↔ ∃ passed, (Place.mk before cs).Passes passed place := by
  -- the induction is on the rest; the character in front of it varies
  induction cs generalizing before with
  | nil =>
    rw [placesFrom, List.mem_singleton]
    constructor
    · rintro rfl
      exact ⟨[], Place.passes_nil.2 rfl⟩
    · rintro ⟨passed, h⟩
      have hnil : passed = [] := (List.append_eq_nil_iff.1 h.1.symm).1
      exact (Place.passes_nil.1 (hnil ▸ h)).symm
  | cons c cs ih =>
    rw [placesFrom, List.mem_cons, ih]
    constructor
    · rintro (rfl | ⟨passed, h⟩)
      · exact ⟨[], Place.passes_nil.2 rfl⟩
      · exact ⟨[c] ++ passed, Place.Passes.trans ⟨rfl, rfl⟩ h⟩
    · rintro ⟨passed, h⟩
      cases passed with
      | nil => exact .inl (Place.passes_nil.1 h).symm
      | cons d passed =>
        obtain ⟨rfl, hcs⟩ := List.cons.inj h.1
        refine .inr ⟨passed, hcs, ?_⟩
        rw [h.2, List.getLast?_cons]
        cases passed.getLast? <;> rfl

/-! ## Matches -/

/-- So many steps one after the other. -/
def Repeats (step : Place → Place → Prop) : Nat → Place → Place → Prop
  | 0, a, b => a = b
  | n + 1, a, c => ∃ b, step a b ∧ Repeats step n b c

/-- Whether an expression matches from one place to another. -/
def Reaches : Regex → Place → Place → Prop
  | empty => fun a b => a = b
  | char ignoreCase c => fun a b => afterChar (sameChar ignoreCase c) a = some b
  | any => fun a b => afterChar (· != '\n') a = some b
  | oneOf set => fun a b => afterChar set.contains a = some b
  | anchor demand => fun a b => a = b ∧ demand.allows a.before a.rest.head? = true
  | seq first second => fun a c => ∃ b, first.Reaches a b ∧ second.Reaches b c
  | alt first second => fun a b => first.Reaches a b ∨ second.Reaches a b
  | times least most body => fun a b =>
    ∃ n, least ≤ n ∧ (∀ bound ∈ most, n ≤ max least bound) ∧ Repeats body.Reaches n a b
  | group _ body => fun a b => body.Reaches a b

/-- One character is passed over. -/
theorem afterChar_eq_some_iff {test : Char → Bool} {a b : Place} :
    afterChar test a = some b ↔ ∃ c, test c = true ∧ a.Passes [c] b := by
  obtain ⟨before, rest⟩ := a
  obtain ⟨before', rest'⟩ := b
  cases rest with
  | nil => simp [afterChar, Place.Passes]
  | cons c rest =>
    cases htest : test c with
    | false =>
      simp only [afterChar, htest, Bool.false_eq_true, if_false, Place.Passes,
        List.singleton_append, List.cons.injEq, reduceCtorEq, false_iff]
      -- a character that passes is the one that was tested
      rintro ⟨d, hd, ⟨rfl, -⟩, -⟩
      rw [htest] at hd
      cases hd
    | true =>
      simp only [afterChar, htest, if_true, Place.Passes, List.singleton_append, List.cons.injEq,
        List.getLast?_singleton, Option.some_or, Option.some.injEq, Place.mk.injEq]
      constructor
      · rintro ⟨rfl, rfl⟩
        exact ⟨c, htest, ⟨rfl, rfl⟩, rfl⟩
      · rintro ⟨d, -, ⟨rfl, rfl⟩, rfl⟩
        exact ⟨rfl, rfl⟩

/-- A step goes on in a text or stays where it is. -/
def GoesOn (step : Place → Place → Prop) : Prop :=
  ∀ a b, step a b → ∃ passed, a.Passes passed b

/-- Repeated steps go on if single steps do. -/
theorem GoesOn.repeats {step : Place → Place → Prop} (hstep : GoesOn step) (n : Nat) :
    GoesOn (Repeats step n) := by
  induction n with
  | zero => exact fun a b h => ⟨[], Place.passes_nil.2 h⟩
  | succ n ih =>
    rintro a c ⟨b, hab, hbc⟩
    obtain ⟨passed, hpassed⟩ := hstep a b hab
    obtain ⟨more, hmore⟩ := ih b c hbc
    exact ⟨passed ++ more, hpassed.trans hmore⟩

/-- What an expression matches stands between the two places. -/
theorem goesOn_reaches (regex : Regex) : GoesOn regex.Reaches := by
  have hchar {test : Char → Bool} : GoesOn fun a b => afterChar test a = some b := by
    intro a b h
    obtain ⟨c, -, hc⟩ := afterChar_eq_some_iff.1 h
    exact ⟨[c], hc⟩
  -- one case per kind of expression; all that read no character stay where they are
  induction regex with
  | empty => exact fun a b h => ⟨[], Place.passes_nil.2 h⟩
  | char | any | oneOf => exact hchar
  | anchor demand => exact fun a b h => ⟨[], Place.passes_nil.2 h.1⟩
  | seq first second ihfirst ihsecond =>
    rintro a c ⟨b, hab, hbc⟩
    obtain ⟨passed, hpassed⟩ := ihfirst a b hab
    obtain ⟨more, hmore⟩ := ihsecond b c hbc
    exact ⟨passed ++ more, hpassed.trans hmore⟩
  | alt first second ihfirst ihsecond => exact fun a b h => h.elim (ihfirst a b) (ihsecond a b)
  | times least most body ih =>
    rintro a b ⟨n, -, -, h⟩
    exact ih.repeats n a b h
  | group captures body ih => exact ih

/-! ## Steps from a set of places -/

/-- A step from sets of places of a text goes from each place where a relation leads. -/
def Follows (text : List Char) (step : List Place → List Place) (rel : Place → Place → Prop) :
    Prop :=
  ∀ places : List Place, (∀ p ∈ places, p.IsOf text) →
    ∀ q, q ∈ step places ↔ ∃ p ∈ places, rel p q

section Follows

variable {text : List Char} {step : List Place → List Place} {rel : Place → Place → Prop}

/-- Steps lead to places of the same text. -/
theorem Follows.isOf (h : Follows text step rel) (hrel : GoesOn rel) {places : List Place}
    (hplaces : ∀ p ∈ places, p.IsOf text) : ∀ q ∈ step places, q.IsOf text := by
  intro q hq
  obtain ⟨p, hp, hpq⟩ := (h places hplaces q).1 hq
  obtain ⟨passed, hpassed⟩ := hrel p q hpq
  exact (hplaces p hp).passes hpassed

/-- From no places steps lead nowhere. -/
theorem Follows.nil (h : Follows text step rel) : step [] = [] :=
  List.eq_nil_iff_forall_not_mem.2 fun q hq => by
    obtain ⟨p, hp, -⟩ := (h [] (fun _ hp => nomatch hp) q).1 hq
    cases hp

/-- A step that changes nothing may be taken as often as one likes. -/
theorem iterate_eq (h : Follows text step rel) (n : Nat) (places : List Place) :
    iterate step n places = step^[n] places := by
  have hfixed {places : List Place} (hfix : step places = places) (n : Nat) :
      step^[n] places = places := Function.iterate_fixed hfix n
  induction n generalizing places with
  | zero => rfl
  | succ n ih =>
    rw [iterate, Function.iterate_succ_apply]
    split
    next hstop =>
      -- the loop stops early where a further step changes nothing
      rw [Bool.or_eq_true, List.isEmpty_iff, beq_iff_eq] at hstop
      rcases hstop with hempty | hsame
      · rw [hempty, hfixed h.nil]
      · rw [hsame, hfixed hsame]
    next => exact ih _

/-- Repeated steps from a set of places lead where repeated steps of the relation do. -/
theorem Follows.iterate (h : Follows text step rel) (hrel : GoesOn rel) (n : Nat) :
    Follows text (iterate step n) (Repeats rel n) := by
  intro places hplaces q
  rw [iterate_eq h]
  induction n generalizing places with
  | zero => simp [Repeats]
  | succ n ih =>
    rw [Function.iterate_succ_apply, ih _ (h.isOf hrel hplaces)]
    -- a run of one step more is split behind its first step
    constructor
    · rintro ⟨r, hr, hrq⟩
      obtain ⟨p, hp, hpr⟩ := (h places hplaces r).1 hr
      exact ⟨p, hp, r, hpr, hrq⟩
    · rintro ⟨p, hp, r, hpr, hrq⟩
      exact ⟨r, (h places hplaces r).2 ⟨p, hp, hpr⟩, hrq⟩

/-- Steps do not lead out of places that no step leads out of. -/
theorem Repeats.mem_of_closed {reached : List Place}
    (hclosed : ∀ p ∈ reached, ∀ q, rel p q → q ∈ reached) {n : Nat} :
    ∀ {p q : Place}, p ∈ reached → Repeats rel n p q → q ∈ reached := by
  induction n with
  | zero => exact fun hp hpq => hpq ▸ hp
  | succ n ih =>
    rintro p q hp ⟨r, hpr, hrq⟩
    exact ih (hclosed p hp r hpr) hrq

/-- Every step from a place that is not on the frontier leads to a place that has been reached. -/
def IsFrontier (rel : Place → Place → Prop) (frontier reached : List Place) : Prop :=
  frontier ⊆ reached ∧ ∀ p ∈ reached, p ∉ frontier → ∀ q, rel p q → q ∈ reached

variable {frontier reached : List Place}

/-- A step from the frontier gives all steps from what has been reached. -/
theorem Follows.mem_mergePlaces_step (h : Follows text step rel) (hrel : GoesOn rel)
    (hfrontier : IsFrontier rel frontier reached) (hreached : ∀ p ∈ reached, p.IsOf text)
    {p q : Place} (hp : p ∈ reached) (hpq : rel p q) :
    q ∈ mergePlaces reached (step frontier) := by
  have hplaces : ∀ p ∈ frontier, p.IsOf text := fun p hp => hreached p (hfrontier.1 hp)
  rw [mem_mergePlaces hreached (h.isOf hrel hplaces)]
  -- a place that is no longer on the frontier has been followed before
  by_cases hpf : p ∈ frontier
  · exact .inr ((h frontier hplaces q).2 ⟨p, hpf, hpq⟩)
  · exact .inl (hfrontier.2 p hp hpf q hpq)

/-- Repeated steps from what has been reached, by way of the frontier. -/
theorem Follows.mem_closure (h : Follows text step rel) (hrel : GoesOn rel) (fuel : Nat)
    (hfrontier : IsFrontier rel frontier reached) (hreached : ∀ p ∈ reached, p.IsOf text)
    (q : Place) :
    q ∈ closure step fuel frontier reached ↔
      ∃ n ≤ fuel, ∃ p ∈ reached, Repeats rel n p q := by
  induction fuel generalizing frontier reached with
  | zero =>
    rw [closure]
    constructor
    · exact fun hq => ⟨0, Nat.le_refl 0, q, hq, rfl⟩
    · rintro ⟨n, hn, p, hp, hpq⟩
      obtain rfl := Nat.le_zero.1 hn
      exact hpq ▸ hp
  | succ fuel ih =>
    have hplaces : ∀ p ∈ frontier, p.IsOf text := fun p hp => hreached p (hfrontier.1 hp)
    have hstep := h.isOf hrel hplaces
    have hone {p r : Place} (hp : p ∈ reached) (hpr : rel p r) :
        r ∈ mergePlaces reached (step frontier) :=
      h.mem_mergePlaces_step hrel hfrontier hreached hp hpr
    rw [closure]
    split
    next hempty =>
      -- nothing is new, so steps stay where they are
      have hclosed : ∀ p ∈ reached, ∀ r, rel p r → r ∈ reached := by
        intro p hp r hpr
        have hr := hone hp hpr
        rwa [mergePlaces, List.isEmpty_iff.1 hempty, List.append_nil] at hr
      constructor
      · exact fun hq => ⟨0, Nat.zero_le _, q, hq, rfl⟩
      · rintro ⟨n, -, p, hp, hpq⟩
        exact hpq.mem_of_closed hclosed hp
    next =>
      have hmerge (r : Place) := @mem_mergePlaces text reached (step frontier) hreached hstep r
      have hfresh : IsFrontier rel
          ((step frontier).filter fun place => !place.isAmong reached)
          (mergePlaces reached (step frontier)) := by
        refine ⟨List.subset_append_right _ _, fun p hp hold r hpr => ?_⟩
        exact hone ((List.mem_append.1 hp).resolve_right hold) hpr
      refine (ih hfresh fun p hp => ((hmerge p).1 hp).elim (hreached p) (hstep p)).trans ?_
      constructor
      · rintro ⟨n, hn, p, hp, hpq⟩
        rcases (hmerge p).1 hp with hp | hp
        · exact ⟨n, by omega, p, hp, hpq⟩
        · obtain ⟨r, hr, hrp⟩ := (h frontier hplaces p).1 hp
          exact ⟨n + 1, by omega, r, hfrontier.1 hr, p, hrp, hpq⟩
      · rintro ⟨n, hn, p, hp, hpq⟩
        cases n with
        | zero => exact ⟨0, Nat.zero_le _, p, List.mem_append_left _ hp, hpq⟩
        | succ n =>
          obtain ⟨r, hpr, hrq⟩ := hpq
          exact ⟨n, by omega, r, hone hp hpr, hrq⟩

end Follows

/-- As many steps as there are characters left lead wherever steps lead. -/
theorem Repeats.exists_le {rel : Place → Place → Prop} (hrel : GoesOn rel) {n : Nat} :
    ∀ {a b : Place}, Repeats rel n a b → ∃ m ≤ n, m ≤ a.rest.length ∧ Repeats rel m a b := by
  induction n with
  | zero => exact fun h => ⟨0, Nat.le_refl 0, Nat.zero_le _, h⟩
  | succ n ih =>
    rintro a c ⟨b, hab, hbc⟩
    obtain ⟨m, hmn, hmb, hm⟩ := ih hbc
    obtain ⟨passed, hpassed⟩ := hrel a b hab
    have hlength := hpassed.length_eq
    by_cases hsame : a.rest.length = b.rest.length
    · -- a step that passes nothing over is left out
      obtain rfl := hpassed.eq_of_length hsame
      exact ⟨m, by omega, hmb, hm⟩
    · exact ⟨m + 1, by omega, by omega, b, hab, hm⟩

/-- Repetitions may be split. -/
theorem repeats_add {rel : Place → Place → Prop} {m n : Nat} {a c : Place} :
    Repeats rel (m + n) a c ↔ ∃ b, Repeats rel m a b ∧ Repeats rel n b c := by
  induction m generalizing a with
  | zero => simp [Repeats]
  | succ m ih =>
    rw [Nat.succ_add]
    simp only [Repeats, ih]
    constructor
    · rintro ⟨b, hab, d, hbd, hdc⟩
      exact ⟨d, ⟨b, hab, hbd⟩, hdc⟩
    · rintro ⟨d, ⟨b, hab, hbd⟩, hdc⟩
      exact ⟨b, hab, d, hbd, hdc⟩

/-! ## The search -/

/-- The places that are reached are those to which the expression matches. -/
theorem follows_advance (text : List Char) (regex : Regex) :
    Follows text (advance text.length regex) regex.Reaches := by
  induction regex with
  | empty => exact fun places _ q => by simp [advance, Reaches]
  | char | any | oneOf => exact fun places _ q => List.mem_filterMap
  | anchor demand =>
    intro places _ q
    rw [advance, List.mem_filter]
    constructor
    · exact fun ⟨hq, hallows⟩ => ⟨q, hq, rfl, hallows⟩
    · rintro ⟨p, hp, rfl, hallows⟩
      exact ⟨hp, hallows⟩
  | seq first second ihfirst ihsecond =>
    intro places hplaces q
    rw [advance, ihsecond _ (ihfirst.isOf (goesOn_reaches first) hplaces)]
    constructor
    · rintro ⟨r, hr, hrq⟩
      obtain ⟨p, hp, hpr⟩ := (ihfirst places hplaces r).1 hr
      exact ⟨p, hp, r, hpr, hrq⟩
    · rintro ⟨p, hp, r, hpr, hrq⟩
      exact ⟨r, (ihfirst places hplaces r).2 ⟨p, hp, hpr⟩, hrq⟩
  | alt first second ihfirst ihsecond =>
    intro places hplaces q
    have hfirst := ihfirst.isOf (goesOn_reaches first) hplaces
    have hsecond := ihsecond.isOf (goesOn_reaches second) hplaces
    rw [advance, mem_mergePlaces hfirst hsecond, ihfirst places hplaces q,
      ihsecond places hplaces q]
    simp only [Reaches, ← exists_or, and_or_left]
  | times least most body ih =>
    intro places hplaces q
    have hgoes := goesOn_reaches body
    have hbase := ih.iterate hgoes least places hplaces
    have hbaseOf := (ih.iterate hgoes least).isOf (hgoes.repeats least) hplaces
    have hfrontier : IsFrontier body.Reaches (iterate (advance text.length body) least places)
        (iterate (advance text.length body) least places) :=
      ⟨List.Subset.refl _, fun p hp hfresh => absurd hp hfresh⟩
    refine (ih.mem_closure hgoes _ hfrontier hbaseOf q).trans ?_
    constructor
    · rintro ⟨n, hn, r, hr, hrq⟩
      obtain ⟨p, hp, hpr⟩ := (hbase r).1 hr
      refine ⟨p, hp, least + n, Nat.le_add_right _ _, fun bound hbound => ?_,
        repeats_add.2 ⟨r, hpr, hrq⟩⟩
      obtain rfl := Option.mem_def.1 hbound
      simp only [Nat.le_min] at hn
      omega
    · rintro ⟨p, hp, n, hleast, hmost, hpq⟩
      obtain ⟨k, rfl⟩ := Nat.exists_eq_add_of_le hleast
      obtain ⟨r, hpr, hrq⟩ := repeats_add.1 hpq
      have hr := (hbase r).2 ⟨p, hp, hpr⟩
      -- no more steps are needed than the text has characters
      obtain ⟨m, hmk, hmlength, hm⟩ := hrq.exists_le hgoes
      have hlength := (hbaseOf r hr).length_le
      refine ⟨m, ?_, r, hr, hm⟩
      cases most with
      | none => simp only [Nat.le_min]; omega
      | some bound =>
        have hbound := hmost bound rfl
        simp only [Nat.le_min]
        omega
  | group captures body ih => exact ih

/-- An expression is found in a text where it matches from one place to another. -/
theorem accepts_iff {regex : Regex} {text : List Char} :
    regex.accepts text = true ↔ ∃ a b, a.IsOf text ∧ regex.Reaches a b := by
  have hplaces (p : Place) : p ∈ placesFrom none text ↔ p.IsOf text := mem_placesFrom
  -- the search starts at every place of the text at once
  have hmem := follows_advance text regex (placesFrom none text) fun p hp => (hplaces p).1 hp
  rw [accepts, Bool.not_eq_true', List.isEmpty_eq_false_iff_exists_mem]
  constructor
  · rintro ⟨q, hq⟩
    obtain ⟨p, hp, hpq⟩ := (hmem q).1 hq
    exact ⟨p, q, (hplaces p).1 hp, hpq⟩
  · rintro ⟨p, q, hp, hpq⟩
    exact ⟨q, (hmem q).2 ⟨p, (hplaces p).2 hp, hpq⟩⟩

end DualQuery.Regex
