import DualQuery.Relational.Compile
import DualQuery.Relational.Evaluate

/-!
# Parameters of plans

A clause names its operands by their positions in the parameters of the plan. A predicate knows no
other parameters than those that it names, and the predicates of filters, searches and aggregates
name the ones that were laid down for them, one after the other.

## Key results

- `Relational.Predicate.holds_congr`: only the parameters that a predicate names matter to it
- `Relational.lt_of_mem_filterPredicates`, `Relational.lt_of_mem_aggregateItems`,
  `Relational.lt_of_mem_searchPredicate`: the positions that are named
-/

namespace DualQuery.Relational

/-! ## Positions -/

mutual
/-- The positions of the parameters that a predicate names. -/
def Predicate.positions : Predicate → List Nat
  | .compare _ _ param | .like _ param _ => [param]
  | .inList _ params _ => params
  | .isNull _ _ => []
  | .any predicates | .all predicates => Predicate.positionsOfAll predicates

/-- The positions of the parameters that several predicates name. -/
def Predicate.positionsOfAll : List Predicate → List Nat
  | [] => []
  | predicate :: rest => predicate.positions ++ Predicate.positionsOfAll rest
end

/-- The positions of the parameters that an item of the result names. -/
def Projection.positions : Projection → List Nat
  | .aggregate _ _ _ filter => filter.toList.flatMap Predicate.positions
  | .column _ _ | .allColumns _ | .countAll _ => []

/-- The positions of the parameters that a clause names. -/
def Clause.positions : Clause → List Nat
  | .select items => items.flatMap Projection.positions
  | .filter predicate | .alsoFilter predicate => predicate.positions
  | .table _ | .join _ | .groupBy _ | .orderBy _ | .skip _ | .take _ => []

/-- Every parameter that a clause names is there. -/
def Plan.HasItsParams (plan : Plan) : Prop :=
  ∀ clause ∈ plan.clauses, ∀ position ∈ clause.positions, position < plan.params.length

/-- The positions of predicates follow each other. -/
theorem positionsOfAll_eq (predicates : List Predicate) :
    Predicate.positionsOfAll predicates = predicates.flatMap Predicate.positions := by
  induction predicates with
  | nil => rfl
  | cons predicate predicates ih => rw [Predicate.positionsOfAll, ih, List.flatMap_cons]

section Params

variable {params params' : List Value} (value : Column → Value)

mutual
/-- A predicate knows no parameters but those that it names. -/
theorem Predicate.holds_congr : (predicate : Predicate) →
    (∀ position ∈ predicate.positions, params[position]? = params'[position]?) →
      predicate.holds params value = predicate.holds params' value
  | .compare column op param, h => by
    have hparam := h param (by simp [Predicate.positions])
    rw [Predicate.holds, Predicate.holds, hparam]
  | .like column param ignoreCase, h => by
    have hparam := h param (by simp [Predicate.positions])
    rw [Predicate.holds, Predicate.holds, hparam]
  | .inList column positions negated, h => by
    have hfound : (positions.any fun param => params[param]?.getD .null == value column) =
        positions.any fun param => params'[param]?.getD .null == value column := by
      rw [Bool.eq_iff_iff, List.any_eq_true, List.any_eq_true]
      -- each position asks for its own parameter, so the two lists agree position by position
      refine exists_congr fun position => and_congr_right fun hposition => ?_
      rw [h position hposition]
    simp only [Predicate.holds, hfound]
  | .isNull column negated, h => rfl
  | .any predicates, h => by
    have hall := Predicate.allHold_congr predicates h
    rw [Predicate.holds, Predicate.holds, hall.2]
  | .all predicates, h => by
    have hall := Predicate.allHold_congr predicates h
    rw [Predicate.holds, Predicate.holds, hall.1]

/-- Predicates know no parameters but those that they name. -/
theorem Predicate.allHold_congr : (predicates : List Predicate) →
    (∀ position ∈ Predicate.positionsOfAll predicates, params[position]? = params'[position]?) →
      Predicate.allHold params value predicates = Predicate.allHold params' value predicates ∧
        Predicate.anyHolds params value predicates = Predicate.anyHolds params' value predicates
  | [], _ => ⟨rfl, rfl⟩
  | predicate :: rest, h => by
    rw [Predicate.positionsOfAll, List.forall_mem_append] at h
    have hhead := Predicate.holds_congr predicate h.1
    obtain ⟨hall, hany⟩ := Predicate.allHold_congr rest h.2
    rw [Predicate.allHold, Predicate.allHold, Predicate.anyHolds, Predicate.anyHolds, hhead, hall,
      hany]
    exact ⟨rfl, rfl⟩
end

end Params

/-- Filters name parameters from their start on, and no more than they have. -/
theorem lt_of_mem_filterPredicates (resolve : String → Column) {filters : List Filter}
    {start : Nat} {predicate : Predicate}
    (hmem : predicate ∈ filterPredicates resolve start filters) :
    ∀ position ∈ predicate.positions, position < start + (filters.flatMap filterParams).length := by
  induction filters generalizing start with
  | nil => cases hmem
  | cons filter filters ih =>
    rw [List.flatMap_cons, List.length_append]
    rcases List.mem_cons.1 hmem with rfl | hmem
    · intro position hposition
      -- the first condition takes its own parameters, and those of the others stand behind them
      suffices hown : position < start + (filterParams filter).length by omega
      obtain ⟨field, operator, operand⟩ := filter
      cases operator <;>
        simp [filterPredicate, filterParams, Predicate.positions] at hposition ⊢ <;> omega
    · intro position hposition
      have hrest := ih hmem position hposition
      omega

/-- A conjunction has the positions of its predicates. -/
theorem positions_conjunction? (predicates : List Predicate) :
    (conjunction? predicates).toList.flatMap Predicate.positions =
      predicates.flatMap Predicate.positions := by
  unfold conjunction?
  split
  · rfl
  · rfl
  · simp [Predicate.positions, positionsOfAll_eq]

/-- The same for aggregates with conditions. -/
theorem lt_of_mem_aggregateItems (resolve : String → Column) {specs : List AggregationSpec}
    {start : Nat} {item : Projection} (hmem : item ∈ aggregateItems resolve start specs) :
    ∀ position ∈ item.positions,
      position < start + (specs.flatMap fun spec => spec.filters.flatMap filterParams).length := by
  induction specs generalizing start with
  | nil => cases hmem
  | cons spec specs ih =>
    rw [List.flatMap_cons, List.length_append]
    rcases List.mem_cons.1 hmem with rfl | hmem
    · intro position hposition
      rw [Projection.positions, positions_conjunction?] at hposition
      obtain ⟨predicate, hpredicate, hposition⟩ := List.mem_flatMap.1 hposition
      -- the parameters of one aggregation end where those of the next begin
      have hown := lt_of_mem_filterPredicates resolve hpredicate position hposition
      omega
    · intro position hposition
      have hrest := ih hmem position hposition
      omega

/-- The predicate of a search names one parameter for each field. -/
theorem lt_of_mem_searchPredicate (resolve : String → Column) (start : Nat) (search : SearchPlan) :
    ∀ position ∈ (searchPredicate resolve start search).positions,
      position < start + search.fieldMatches.length := by
  intro position hposition
  rw [searchPredicate, Predicate.positions, positionsOfAll_eq] at hposition
  obtain ⟨predicate, hpredicate, hposition⟩ := List.mem_flatMap.1 hposition
  obtain ⟨i, hi, rfl⟩ := List.mem_mapIdx.1 hpredicate
  have heq : position = start + i := by
    unfold matchPredicate at hposition
    split at hposition <;> simpa [Predicate.positions] using hposition
  omega

end DualQuery.Relational
