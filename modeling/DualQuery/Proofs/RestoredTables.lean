import DualQuery.Proofs.KeyedOrder
import DualQuery.Proofs.Transactions

/-!
# Restored tables

A rollback gives a store the tables that it had when the transaction was opened, whatever was called
in the meantime: records and tables may have been added, and other transactions may have been
opened, committed and rolled back. Only a call that closes a transaction touches its snapshot, and
numbers are not used twice, so the snapshot is still there; once it is gone the transaction stays
closed.

`Store.restore` puts tables back one by one, each of them made anew where it is not there. As the
tables of a store and of its snapshots are in the order of their names, this comes to the same in
any order.

## Key results

- `Store.snapshot?_run`: calls keep the snapshot of a transaction that they do not close
- `Store.snapshot?_run_of_closed`: no call brings a snapshot back
- `Store.IsOrdered.run`: the names of tables stay in order
- `Store.restore_eq`: tables that are put back one by one
- `Store.rollback_restores_start`: what a rollback leaves
-/

namespace DualQuery

namespace Store

variable {store : Store} {id : Nat}

/-! ## Snapshots while calls are made -/

/-- The transaction that a call closes. -/
def Call.closed? : Call → Option Nat
  | .commit id | .rollback id => some id
  | _ => none

/-- A transaction that is forgotten has no snapshot. -/
theorem snapshot?_forget_self (store : Store) (id : Nat) :
    (store.forget id).snapshot? id = none := by
  rw [snapshot?, Option.map_eq_none_iff, List.find?_eq_none]
  intro snapshot hmem
  simpa using (List.mem_filter.1 hmem).2

/-- The snapshots of the others are kept. -/
theorem snapshot?_forget_of_ne (store : Store) {other : Nat} (h : id ≠ other) :
    (store.forget other).snapshot? id = store.snapshot? id := by
  simp only [snapshot?, forget, List.find?_filter]
  congr 2
  funext snapshot
  by_cases hid : snapshot.1 = id <;> simp [hid, h]

/-- A transaction that is opened has a number of its own. -/
theorem snapshot?_begin (h : id < store.nextTransaction) :
    store.begin.2.snapshot? id = store.snapshot? id := by
  have hne : store.nextTransaction ≠ id := Nat.ne_of_gt h
  simp [snapshot?, begin, List.find?_append, hne]

/-- What is not open cannot be committed. -/
theorem commit_of_closed (h : store.snapshot? id = none) :
    store.commit id = .error (.unknownTransaction id) := by
  rw [Store.commit, h]

/-- Nor rolled back. -/
theorem rollback_of_closed (h : store.snapshot? id = none) :
    store.rollback id = .error (.unknownTransaction id) := by
  rw [Store.rollback, h]

/-- A call that is to close a transaction that is not open does nothing. -/
theorem perform_of_closed (h : store.snapshot? id = none) {call : Call}
    (hcall : call.closed? = some id) : store.perform call = store := by
  cases call with
  | commit other | rollback other =>
    obtain rfl : other = id := Option.some.inj hcall
    simp only [perform, commit_of_closed h, rollback_of_closed h]
    rfl
  | _ => cases hcall

/-- A change of tables and schemas keeps all snapshots. -/
theorem snapshot?_change (store : Store) (change : Change) (id : Nat) :
    (store.change change).snapshot? id = store.snapshot? id := by
  obtain ⟨tables, registry, hchange⟩ := store.exists_change_eq change
  rw [hchange]
  rfl

/-- A call keeps the snapshot of a transaction that it does not close. -/
theorem snapshot?_perform (h : id < store.nextTransaction) {call : Call}
    (hcall : call.closed? ≠ some id) : (store.perform call).snapshot? id = store.snapshot? id := by
  cases call with
  | change change => exact store.snapshot?_change change id
  | begin => exact snapshot?_begin h
  | commit other | rollback other =>
    -- another transaction is closed, so it is that one's snapshot that is dropped
    have hne : id ≠ other := fun heq => hcall (heq ▸ rfl)
    simp only [perform, Store.commit, Store.rollback]
    cases store.snapshot? other with
    | none => rfl
    | some tables => exact store.snapshot?_forget_of_ne hne
  | failNext operation fault => rfl
  | enter operation => rfl
  | setLatency latency => rfl

/-- No number is given back. -/
theorem nextTransaction_le_perform (store : Store) (call : Call) :
    store.nextTransaction ≤ (store.perform call).nextTransaction := by
  -- numbers are given out by opening a transaction and never given back
  cases call with
  | change change =>
    obtain ⟨tables, registry, hchange⟩ := store.exists_change_eq change
    exact Nat.le_of_eq (by rw [perform, hchange])
  | begin => exact Nat.le_succ _
  | commit id | rollback id =>
    simp only [perform, Store.commit, Store.rollback]
    cases store.snapshot? id <;> exact Nat.le_refl _
  | failNext operation fault => exact Nat.le_refl _
  | enter operation => exact Nat.le_refl _
  | setLatency latency => exact Nat.le_refl _

/-- Nor is one given back by several calls. -/
theorem nextTransaction_le_run (store : Store) (calls : List Call) :
    store.nextTransaction ≤ (store.run calls).nextTransaction := by
  induction calls generalizing store with
  | nil => exact Nat.le_refl _
  | cons call calls ih => exact Nat.le_trans (store.nextTransaction_le_perform call) (ih _)

/-- Calls keep the snapshot of a transaction that none of them closes. -/
theorem snapshot?_run (h : id < store.nextTransaction) {calls : List Call}
    (hcalls : ∀ call ∈ calls, call.closed? ≠ some id) :
    (store.run calls).snapshot? id = store.snapshot? id := by
  induction calls generalizing store with
  | nil => rfl
  | cons call calls ih =>
    rw [List.forall_mem_cons] at hcalls
    have hnext := Nat.lt_of_lt_of_le h (store.nextTransaction_le_perform call)
    exact (ih hnext hcalls.2).trans (snapshot?_perform h hcalls.1)

/-- A transaction that is closed stays closed. -/
theorem snapshot?_run_of_closed (h : id < store.nextTransaction)
    (hclosed : store.snapshot? id = none) (calls : List Call) :
    (store.run calls).snapshot? id = none := by
  induction calls generalizing store with
  | nil => exact hclosed
  | cons call calls ih =>
    have hnext := Nat.lt_of_lt_of_le h (store.nextTransaction_le_perform call)
    refine ih hnext ?_
    -- to close it once more changes nothing, and any other call brings no snapshot back
    by_cases hcall : call.closed? = some id
    · rwa [perform_of_closed hclosed hcall]
    · rwa [snapshot?_perform h hcall]

/-! ## Tables in order -/

/-- The tables of a store and of its snapshots are in the order of their names. -/
structure IsOrdered (store : Store) : Prop where
  tables : Keyed.Sorted store.tables
  snapshots : ∀ snapshot ∈ store.snapshots, Keyed.Sorted snapshot.2

namespace IsOrdered

/-- A table that is made keeps the order. -/
theorem ensureTable (h : store.IsOrdered) (name : String) : (store.ensureTable name).IsOrdered := by
  rw [Store.ensureTable]
  split
  · exact h
  · exact ⟨h.tables.insert _ _, h.snapshots⟩

/-- A change keeps the order. -/
theorem change (h : store.IsOrdered) (change : Change) : (store.change change).IsOrdered := by
  cases change with
  | insert table records => exact ⟨h.tables.insert _ _, h.snapshots⟩
  | define schema =>
    have hensured := h.ensureTable schema.name
    exact ⟨hensured.tables, hensured.snapshots⟩

/-- Opening a transaction keeps the order: the new snapshot are the tables. -/
theorem begin (h : store.IsOrdered) : store.begin.2.IsOrdered where
  tables := h.tables
  snapshots snapshot hmem := by
    rcases List.mem_append.1 hmem with hold | hnew
    · exact h.snapshots snapshot hold
    · rw [List.mem_singleton.1 hnew]
      exact h.tables

/-- Closing a transaction keeps the order. -/
theorem forget (h : store.IsOrdered) (id : Nat) : (store.forget id).IsOrdered :=
  ⟨h.tables, fun snapshot hmem => h.snapshots snapshot (List.mem_filter.1 hmem).1⟩

/-- The tables of a snapshot are in order. -/
theorem sorted_of_snapshot? (h : store.IsOrdered) {tables : Tables}
    (hsnapshot : store.snapshot? id = some tables) : Keyed.Sorted tables := by
  obtain ⟨snapshot, hfind, rfl⟩ := Option.map_eq_some_iff.1 hsnapshot
  exact h.snapshots snapshot (List.mem_of_find?_eq_some hfind)

/-- A call keeps the order; a rollback takes over that of the snapshot. -/
theorem perform (h : store.IsOrdered) (call : Call) : (store.perform call).IsOrdered := by
  cases call with
  | change change => exact h.change change
  | begin => exact h.begin
  | commit id =>
    rw [Store.perform, Store.commit]
    cases store.snapshot? id with
    | none => exact h
    | some tables => exact h.forget id
  | rollback id =>
    rw [Store.perform, Store.rollback]
    cases hsnapshot : store.snapshot? id with
    | none => exact h
    | some tables => exact ⟨h.sorted_of_snapshot? hsnapshot, (h.forget id).snapshots⟩
  | failNext operation fault => exact ⟨h.tables, h.snapshots⟩
  | enter operation => exact ⟨h.tables, h.snapshots⟩
  | setLatency latency => exact ⟨h.tables, h.snapshots⟩

/-- So do several calls. -/
theorem run (h : store.IsOrdered) (calls : List Call) : (store.run calls).IsOrdered := by
  induction calls generalizing store with
  | nil => exact h
  | cons call calls ih => exact ih (h.perform call)

end IsOrdered

/-! ## Tables one by one -/

/-- Drop all tables but those of some names. -/
def keepTables (store : Store) (names : List String) : Store :=
  { store with tables := store.tables.filter fun table => names.contains table.1 }

/-- Write the rows of a table, in place of those it has; it is made where it is not there. -/
def overwrite (store : Store) (table : String × List Record) : Store :=
  let store := store.ensureTable table.1
  { store with tables := Keyed.insert store.tables table.1 table.2 }

/-- Drop all tables but those of a snapshot and write the rows of these, one table after the
other. -/
def restore (store : Store) (snapshot : List (String × List Record)) : Store :=
  snapshot.foldl overwrite (store.keepTables (snapshot.map (·.1)))

/-- Making a table that is not there and writing its rows is one insertion. -/
theorem overwrite_eq (store : Store) (table : String × List Record) :
    store.overwrite table =
      { store with tables := Keyed.insert store.tables table.1 table.2 } := by
  simp only [overwrite, ensureTable]
  split
  · rfl
  · simp only [Keyed.insert_insert]

/-- Tables are written one by one. -/
theorem foldl_overwrite (store : Store) (snapshot : List (String × List Record)) :
    snapshot.foldl overwrite store =
      { store with
        tables := snapshot.foldl (fun tables table => Keyed.insert tables table.1 table.2)
          store.tables } := by
  induction snapshot generalizing store with
  | nil => rfl
  | cons table snapshot ih => rw [List.foldl_cons, overwrite_eq, ih]; rfl

/-- Whatever tables there are, those of the snapshot are put in their place. The order in which this
is done does not matter. -/
theorem restore_eq (h : Keyed.Sorted store.tables) {snapshot : Tables}
    (hsnapshot : Keyed.Sorted snapshot) {order : List (String × List Record)}
    (horder : order.Perm snapshot) : store.restore order = { store with tables := snapshot } := by
  rw [restore, foldl_overwrite]
  congr 1
  exact Keyed.foldl_insert_filter_eq h hsnapshot horder

/-! ## Rollbacks -/

/-- What a store is to be after the rollback of a transaction, given the stores at the start of the
transaction and before the rollback. -/
structure IsRolledBack (start work : Store) (id : Nat) (after : Store) : Prop where
  tableNames : after.tableNames = start.tableNames
  scan (table : String) : after.scan table = start.scan table
  /-- The tables may be put back one by one, in any order. -/
  eq_restore {order : List (String × List Record)} (horder : order.Perm start.tables) :
    after = (work.forget id).restore order
  /-- The other open transactions stay what they are. -/
  snapshot? {other : Nat} (hother : other ≠ id) : after.snapshot? other = work.snapshot? other
  /-- Whatever is called later, the transaction cannot be closed again. -/
  commit (later : List Call) : (after.run later).commit id = .error (.unknownTransaction id)
  rollback (later : List Call) : (after.run later).rollback id = .error (.unknownTransaction id)
  perform (later : List Call) {call : Call} (hcall : call.closed? = some id) :
    (after.run later).perform call = after.run later

/-- A store that has the tables of the start and has forgotten the transaction is rolled back. -/
theorem isRolledBack {start work after : Store} (hstart : Keyed.Sorted start.tables)
    (hwork : Keyed.Sorted work.tables) (hid : id < work.nextTransaction)
    (hafter : after = { work.forget id with tables := start.tables }) :
    IsRolledBack start work id after := by
  have hsnapshot (other : Nat) : after.snapshot? other = (work.forget id).snapshot? other := by
    rw [hafter]
    rfl
  have hnext : id < after.nextTransaction := by
    rw [hafter]
    exact hid
  -- no call brings the snapshot back, so whatever is called later finds the transaction closed
  have hclosed (later : List Call) : (after.run later).snapshot? id = none :=
    snapshot?_run_of_closed hnext ((hsnapshot id).trans (work.snapshot?_forget_self id)) later
  constructor
  case tableNames => rw [hafter]; rfl
  case scan => intro table; rw [hafter]; rfl
  -- the tables of the snapshot are put back one by one, in whichever order they come
  case eq_restore =>
    intro order horder
    have hforget : Keyed.Sorted (work.forget id).tables := hwork
    rw [hafter, restore_eq hforget hstart horder]
  case snapshot? =>
    intro other hother
    rw [hsnapshot, work.snapshot?_forget_of_ne hother]
  case commit => exact fun later => commit_of_closed (hclosed later)
  case rollback => exact fun later => rollback_of_closed (hclosed later)
  case perform => exact fun later _ hcall => perform_of_closed (hclosed later) hcall

/-- A transaction that is opened in any store can be rolled back after any calls that do not close
it, and everything is then as it was at the start. -/
theorem rollback_restores_start {registry : Registry} {before calls : List Call}
    {start opened : Store} {id : Nat} (hstart : run { registry := registry } before = start)
    (hbegin : start.begin = (id, opened)) (hcalls : ∀ call ∈ calls, call.closed? ≠ some id) :
    ∃ after, (opened.run calls).rollback id = .ok after ∧
      IsRolledBack start (opened.run calls) id after := by
  obtain rfl : start.nextTransaction = id := congrArg Prod.fst hbegin
  obtain rfl : start.begin.2 = opened := congrArg Prod.snd hbegin
  have hempty : Numbered { registry := registry } := fun _ hmem => nomatch hmem
  have hnumbered : start.Numbered := hstart ▸ hempty.run before
  have hsorted : IsOrdered { registry := registry } :=
    ⟨Keyed.sorted_nil, fun _ hmem => nomatch hmem⟩
  have hordered : start.IsOrdered := hstart ▸ hsorted.run before
  have hopened : start.nextTransaction < start.begin.2.nextTransaction := Nat.lt_succ_self _
  -- the snapshot that was taken at the start is still there
  have hsnapshot : (start.begin.2.run calls).snapshot? start.nextTransaction =
      some start.tables :=
    (snapshot?_run hopened hcalls).trans (hnumbered.snapshot?_work rfl)
  refine ⟨_, by rw [Store.rollback, hsnapshot], isRolledBack hordered.tables ?_ ?_ rfl⟩
  · exact (hordered.begin.run calls).tables
  · exact Nat.lt_of_lt_of_le hopened (nextTransaction_le_run _ calls)

/-- Calls that lead to a store with a user, and with a transaction that was opened before. -/
def openingCalls : List Call := [.begin, .change (.insert "users" [[("id", .int 1)]])]

/-- Calls that add a user, lose all tables to the first transaction, make another table and open a
third transaction. -/
def mixedCalls : List Call :=
  [.change (.insert "users" [[("id", .int 2)]]), .rollback 1,
    .change (.define { name := "visits" }), .begin]

/-- Another rollback, a new table and a further transaction in the meantime: the users are back, and
the third transaction is kept. -/
theorem rollback_restores_start_mixed :
    (∀ call ∈ mixedCalls, call.closed? ≠ some 2) ∧
      ((run {} openingCalls).begin.2.run mixedCalls).tableNames = ["visits"] ∧
      ∃ after, ((run {} openingCalls).begin.2.run mixedCalls).rollback 2 = .ok after ∧
        after.tableNames = ["users"] ∧ after.scan "users" = .ok [[("id", .int 1)]] ∧
        after.snapshot? 3 = some [("visits", [])] ∧
        after.commit 2 = .error (.unknownTransaction 2) := by
  have hcalls : ∀ call ∈ mixedCalls, call.closed? ≠ some 2 := by decide
  have hstart : run { registry := [] } openingCalls = run {} openingCalls := rfl
  have hbegin : (run {} openingCalls).begin = (2, (run {} openingCalls).begin.2) := rfl
  obtain ⟨after, hafter, h⟩ := rollback_restores_start hstart hbegin hcalls
  exact ⟨hcalls, rfl, after, hafter, h.tableNames, h.scan "users",
    h.snapshot? (by decide : 3 ≠ 2), h.commit []⟩

end Store

end DualQuery
