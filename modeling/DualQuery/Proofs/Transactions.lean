import DualQuery.Engine.Transaction
import DualQuery.Proofs.RunOutcome

/-!
# Transactions

A transaction opens with a snapshot of all tables. Its body may read the store and change it, but
the transactions that are open stay what they are, so the snapshot is still there when the body is
done: a rollback puts it back and a commit drops it.

Snapshots are found by their numbers. `Store.Numbered` is the invariant that a new number is not in
use; it holds of every store that calls lead to.

A commit that a backend refuses is not followed by a rollback. The caller gets the error, but what
the body did stays and so does the snapshot (`Store.refused_commit_is_kept`).

## Key results

- `Store.IsReachable.numbered`: every store that calls lead to has its numbers in order
- `Store.Numbered.rollback_work`, `Store.Numbered.commit_work`: what closing a transaction leaves
- `Store.transaction_of_commit_fault`: what a refused commit leaves
- `Store.transaction_atomic`: all or nothing, unless the commit is refused
-/

namespace DualQuery

/-- A change to the tables of a store. -/
inductive Change where
  /-- Add records at the end of a table, which is made where it is not there. -/
  | insert (table : String) (records : List Record)
  /-- Add a schema and make its table. -/
  | define (schema : EntitySchema)
  deriving Repr, Inhabited

namespace Store

/-! ## Changes -/

/-- The store after a change. -/
def change (store : Store) : Change → Store
  | .insert table records => store.insertBatch table records
  | .define schema => store.define schema

/-- The store after some changes. -/
def changed (store : Store) (changes : List Change) : Store := changes.foldl change store

/-- A change is one to tables and schemas only. -/
theorem exists_change_eq (store : Store) (change : Change) : ∃ tables registry,
    store.change change = { store with tables := tables, registry := registry } := by
  cases change with
  | insert table records => exact ⟨_, _, rfl⟩
  | define schema =>
    simp only [Store.change, define, ensureTable]
    split <;> exact ⟨_, _, rfl⟩

/-- So are several changes. -/
theorem exists_changed_eq (store : Store) (changes : List Change) : ∃ tables registry,
    store.changed changes = { store with tables := tables, registry := registry } := by
  induction changes generalizing store with
  | nil => exact ⟨_, _, rfl⟩
  | cons change changes ih =>
    obtain ⟨tables, registry, hchange⟩ := store.exists_change_eq change
    obtain ⟨tables', registry', hchanges⟩ := ih (store.change change)
    refine ⟨tables', registry', hchanges.trans ?_⟩
    rw [hchange]

/-! ## The stores that calls lead to -/

/-- A call on a store. -/
inductive Call where
  | change (change : Change)
  | begin
  | commit (id : Nat)
  | rollback (id : Nat)
  | failNext (operation : String) (fault : Fault)
  /-- A backend's call of an operation, which takes the fault of the operation. -/
  | enter (operation : String)
  | setLatency (latency : Nat)
  deriving Repr, Inhabited

/-- The store after a call. A transaction that is not open cannot be closed. -/
def perform (store : Store) : Call → Store
  | .change change => store.change change
  | .begin => store.begin.2
  | .commit id => (store.commit id).toOption.getD store
  | .rollback id => (store.rollback id).toOption.getD store
  | .failNext operation fault => store.failNext operation fault
  | .enter operation => (store.takeFault operation).2
  | .setLatency latency => { store with latency := latency }

/-- The store after calls. -/
def run (store : Store) (calls : List Call) : Store := calls.foldl perform store

/-- Whether calls lead from the empty store to a store. -/
def IsReachable (store : Store) : Prop := ∃ calls, run {} calls = store

/-- The number of the next transaction is above those of all open ones. -/
def Numbered (store : Store) : Prop :=
  ∀ snapshot ∈ store.snapshots, snapshot.1 < store.nextTransaction

variable {store : Store}

/-- Dropping snapshots keeps the numbers in order. -/
theorem Numbered.of_subset {after : Store} (h : store.Numbered)
    (hsnapshots : after.snapshots ⊆ store.snapshots)
    (hnext : after.nextTransaction = store.nextTransaction) : after.Numbered :=
  fun snapshot hmem => hnext ▸ h snapshot (hsnapshots hmem)

/-- Opening a transaction keeps them in order: its number is used up. -/
theorem Numbered.begin (h : store.Numbered) : store.begin.2.Numbered := by
  intro snapshot hmem
  show snapshot.1 < store.nextTransaction + 1
  rcases List.mem_append.1 hmem with hold | hnew
  · have hlt := h snapshot hold
    omega
  · rw [List.mem_singleton.1 hnew]
    exact Nat.lt_succ_self _

/-- Closing a transaction opens none. -/
theorem Numbered.commit (h : store.Numbered) (id : Nat) :
    ((store.commit id).toOption.getD store).Numbered := by
  unfold Store.commit
  split
  · exact h.of_subset List.filter_sublist.subset rfl
  · exact h

/-- A rollback keeps them in order. -/
theorem Numbered.rollback (h : store.Numbered) (id : Nat) :
    ((store.rollback id).toOption.getD store).Numbered := by
  unfold Store.rollback
  split
  · exact h.of_subset List.filter_sublist.subset rfl
  · exact h

/-- Every call keeps the numbers in order. -/
theorem Numbered.perform (h : store.Numbered) (call : Call) : (store.perform call).Numbered := by
  -- only opening a transaction adds a snapshot, and it takes the next number
  cases call with
  | change change =>
    obtain ⟨tables, registry, hchange⟩ := store.exists_change_eq change
    rw [Store.perform, hchange]
    exact h.of_subset (List.Subset.refl _) rfl
  | begin => exact h.begin
  | commit id => exact h.commit id
  | rollback id => exact h.rollback id
  | failNext operation fault => exact h.of_subset (List.Subset.refl _) rfl
  | enter operation => exact h.of_subset (List.Subset.refl _) rfl
  | setLatency latency => exact h.of_subset (List.Subset.refl _) rfl

/-- So do several calls. -/
theorem Numbered.run (h : store.Numbered) (calls : List Call) : (store.run calls).Numbered := by
  -- one call at a time, from whatever store the calls before have led to
  induction calls generalizing store with
  | nil => exact h
  | cons call calls ih => exact ih (h.perform call)

/-- In every store that calls lead to the numbers are in order. -/
theorem IsReachable.numbered (h : store.IsReachable) : store.Numbered := by
  obtain ⟨calls, rfl⟩ := h
  have hempty : ({} : Store).Numbered := fun _ hmem => nomatch hmem
  exact hempty.run calls

/-! ## Snapshots -/

/-- No open transaction has the number of the next one. -/
theorem Numbered.snapshot?_eq_none (h : store.Numbered) :
    store.snapshot? store.nextTransaction = none := by
  rw [snapshot?, Option.map_eq_none_iff, List.find?_eq_none]
  intro snapshot hmem heq
  have hlt := h snapshot hmem
  rw [beq_iff_eq] at heq
  omega

/-- Leaving out the number of the next transaction leaves out nothing. -/
theorem Numbered.filter_snapshots (h : store.Numbered) :
    store.snapshots.filter (fun snapshot => snapshot.1 != store.nextTransaction) =
      store.snapshots := by
  refine List.filter_eq_self.2 fun snapshot hmem => ?_
  have hlt := h snapshot hmem
  rw [bne_iff_ne]
  omega

variable {work : Store}

/-- While the open transactions stay what they are, the last one has the tables of its start. -/
theorem Numbered.snapshot?_work (h : store.Numbered)
    (hwork : work.snapshots = store.begin.2.snapshots) :
    work.snapshot? store.nextTransaction = some store.tables := by
  have hnone := h.snapshot?_eq_none
  rw [snapshot?, Option.map_eq_none_iff] at hnone
  rw [snapshot?, hwork]
  show ((store.snapshots ++ [(store.nextTransaction, store.tables)]).find? _).map _ = _
  rw [List.find?_append, hnone]
  simp

/-- Without the last transaction the others are left. -/
theorem Numbered.snapshots_forget (h : store.Numbered)
    (hwork : work.snapshots = store.begin.2.snapshots) :
    (work.forget store.nextTransaction).snapshots = store.snapshots := by
  show work.snapshots.filter _ = _
  rw [hwork]
  show (store.snapshots ++ [(store.nextTransaction, store.tables)]).filter _ = _
  -- the snapshot taken at the start is the only one under its number
  rw [List.filter_append, h.filter_snapshots]
  simp

/-- Whatever was changed since a transaction was opened, a rollback restores the tables. -/
theorem Numbered.rollback_work (h : store.Numbered)
    (hwork : work.snapshots = store.begin.2.snapshots) :
    ∃ after, work.rollback store.nextTransaction = .ok after ∧ after.tables = store.tables ∧
      after.snapshots = store.snapshots := by
  refine ⟨{ work.forget store.nextTransaction with tables := store.tables }, ?_, rfl,
    h.snapshots_forget hwork⟩
  rw [Store.rollback, h.snapshot?_work hwork]

/-- Whatever was changed since a transaction was opened, a commit keeps it. -/
theorem Numbered.commit_work (h : store.Numbered)
    (hwork : work.snapshots = store.begin.2.snapshots) :
    ∃ after, work.commit store.nextTransaction = .ok after ∧ after.tables = work.tables ∧
      after.snapshots = store.snapshots := by
  refine ⟨work.forget store.nextTransaction, ?_, rfl, h.snapshots_forget hwork⟩
  rw [Store.commit, h.snapshot?_work hwork]

/-! ## Calls of a backend -/

/-- A fault makes opening fail; it is used up. -/
theorem openTransaction_of_fault {fault : Fault}
    (hfault : Keyed.get? store.faults "begin" = some fault) :
    store.openTransaction =
      (.error ⟨"begin", "", fault.kind, fault.message, none⟩, (store.takeFault "begin").2) := by
  simp only [openTransaction, answer, takeFault, hfault]

/-- Without a fault a transaction is opened. -/
theorem openTransaction_eq (hfault : Keyed.get? store.faults "begin" = none) :
    store.openTransaction = (.ok store.nextTransaction, store.begin.2) := by
  rw [openTransaction, answer, takeFault_of_get?_eq_none hfault]
  rfl

/-- A fault makes closing fail; it is used up and the store is left as it is. -/
theorem closeTransaction_of_fault {operation : String} {fault : Fault}
    (hfault : Keyed.get? store.faults operation = some fault)
    (close : Store → Except StoreError Store) :
    store.closeTransaction operation close =
      (.error ⟨operation, "", fault.kind, fault.message, none⟩,
        (store.takeFault operation).2) := by
  simp only [closeTransaction, answer, takeFault, hfault]

/-- Without a fault a transaction is closed. -/
theorem closeTransaction_eq {operation : String}
    (hfault : Keyed.get? store.faults operation = none) {close : Store → Except StoreError Store}
    {after : Store} (hclose : close store = .ok after) :
    store.closeTransaction operation close = (.ok (), after) := by
  rw [closeTransaction, answer, takeFault_of_get?_eq_none hfault]
  simp only [hclose]

/-! ## Transactions -/

/-- The body of a transaction. It is given the number of the transaction and the store, decides on
the changes to make and, after them, succeeds or fails. -/
structure Body (α : Type) where
  changes : Nat → Store → List Change
  result : Nat → Store → Except ExecuteError α

/-- Carry a body out. -/
def Body.run {α : Type} (body : Body α) (id : Nat) (store : Store) :
    Except ExecuteError α × Store :=
  (body.result id store, store.changed (body.changes id store))

section Transaction

variable {α : Type} {body : Body α}

/-- The store that a body leaves, when it is run in the next transaction of a store. -/
def leftBy (store : Store) (body : Body α) : Store :=
  (body.run store.nextTransaction store.begin.2).2

/-- A body changes tables and schemas only. -/
theorem exists_leftBy_eq (store : Store) (body : Body α) : ∃ tables registry,
    store.leftBy body = { store.begin.2 with tables := tables, registry := registry } :=
  exists_changed_eq _ _

/-- So the open transactions stay what they are. -/
theorem snapshots_leftBy (store : Store) (body : Body α) :
    (store.leftBy body).snapshots = store.begin.2.snapshots := by
  obtain ⟨tables, registry, hleft⟩ := store.exists_leftBy_eq body
  rw [hleft]

/-- And so do the faults. -/
theorem faults_leftBy (store : Store) (body : Body α) :
    (store.leftBy body).faults = store.faults := by
  obtain ⟨tables, registry, hleft⟩ := store.exists_leftBy_eq body
  rw [hleft]
  rfl

/-- A transaction that cannot be opened does nothing. -/
theorem transaction_of_begin_fault {fault : Fault}
    (hbegin : Keyed.get? store.faults "begin" = some fault) :
    store.transaction body.run =
      (.error (.backend ⟨"begin", "", fault.kind, fault.message, none⟩),
        (store.takeFault "begin").2) := by
  rw [transaction, openTransaction_of_fault hbegin]

/-- A transaction whose body fails is rolled back. -/
theorem transaction_of_error (hbegin : Keyed.get? store.faults "begin" = none) {e : ExecuteError}
    (hbody : body.result store.nextTransaction store.begin.2 = .error e) :
    store.transaction body.run =
      (.error e, ((store.leftBy body).rollbackTransaction store.nextTransaction).2) := by
  rw [transaction, openTransaction_eq hbegin]
  simp only [Body.run, hbody]
  rfl

/-- A transaction whose body succeeds is committed. -/
theorem transaction_of_ok (hbegin : Keyed.get? store.faults "begin" = none) {a : α}
    (hbody : body.result store.nextTransaction store.begin.2 = .ok a) {after : Store}
    (hcommit : (store.leftBy body).commitTransaction store.nextTransaction = (.ok (), after)) :
    store.transaction body.run = (.ok a, after) := by
  rw [leftBy, Body.run] at hcommit
  rw [transaction, openTransaction_eq hbegin]
  simp only [Body.run, hbody, hcommit]

/-- A commit that is refused is the end of a transaction: nothing is rolled back. -/
theorem transaction_of_commit_fault (hbegin : Keyed.get? store.faults "begin" = none) {a : α}
    (hbody : body.result store.nextTransaction store.begin.2 = .ok a) {fault : Fault}
    (hcommit : Keyed.get? store.faults "commit" = some fault) :
    store.transaction body.run =
      (.error (.backend ⟨"commit", "", fault.kind, fault.message, none⟩),
        ((store.leftBy body).takeFault "commit").2) := by
  rw [← faults_leftBy store body] at hcommit
  have hclose := closeTransaction_of_fault hcommit (·.commit store.nextTransaction)
  rw [leftBy, Body.run] at hclose
  rw [transaction, openTransaction_eq hbegin]
  simp only [Body.run, hbody, commitTransaction, hclose]
  rfl

end Transaction

/-- Unless its body succeeds and the commit is refused, a transaction does all or nothing. Where it
succeeds, the tables are those that the body left. Where it fails and the rollback is not refused,
they are those of the start. In both cases the open transactions are those of the start, and the
transaction's own is not among them. It succeeds where it can be opened and its body succeeds. -/
theorem transaction_atomic {α : Type} {store : Store} (hstore : store.IsReachable) (body : Body α)
    (hcommit : ∀ a, body.result store.nextTransaction store.begin.2 = .ok a →
      Keyed.get? store.faults "commit" = none) :
    (∀ a, (store.transaction body.run).1 = .ok a →
      (store.transaction body.run).2.tables = (store.leftBy body).tables ∧
        (store.transaction body.run).2.snapshots = store.snapshots ∧
        (store.transaction body.run).2.snapshot? store.nextTransaction = none) ∧
    (∀ e, (store.transaction body.run).1 = .error e →
      Keyed.get? store.faults "rollback" = none →
      (store.transaction body.run).2.tables = store.tables ∧
        (store.transaction body.run).2.snapshots = store.snapshots ∧
        (store.transaction body.run).2.snapshot? store.nextTransaction = none) ∧
    (Keyed.get? store.faults "begin" = none →
      (store.transaction body.run).1 = body.result store.nextTransaction store.begin.2) := by
  have hnumbered := hstore.numbered
  -- with the old snapshots the transaction's own is gone, as its number was not given out before
  have hclosed : ∀ after : Store, after.snapshots = store.snapshots →
      after.snapshot? store.nextTransaction = none := fun after hsnapshots => by
    rw [snapshot?, hsnapshots]
    exact hnumbered.snapshot?_eq_none
  -- the transaction cannot be opened, or its body succeeds, or its body fails
  cases hbegin : Keyed.get? store.faults "begin" with
  | some fault =>
    rw [transaction_of_begin_fault hbegin]
    exact ⟨fun _ h => (nomatch h), fun _ _ _ => ⟨rfl, rfl, hclosed _ rfl⟩, fun h => (nomatch h)⟩
  | none =>
    cases hbody : body.result store.nextTransaction store.begin.2 with
    | ok a =>
      obtain ⟨after, hclose, htables, hsnapshots⟩ :=
        hnumbered.commit_work (snapshots_leftBy store body)
      have hallowed := hcommit a hbody
      rw [← faults_leftBy store body] at hallowed
      rw [transaction_of_ok hbegin hbody (closeTransaction_eq hallowed hclose)]
      exact ⟨fun _ _ => ⟨htables, hsnapshots, hclosed _ hsnapshots⟩, fun _ h => (nomatch h),
        fun _ => rfl⟩
    | error e =>
      rw [transaction_of_error hbegin hbody]
      refine ⟨fun _ h => (nomatch h), fun _ _ hallowed => ?_, fun _ => rfl⟩
      obtain ⟨after, hclose, htables, hsnapshots⟩ :=
        hnumbered.rollback_work (snapshots_leftBy store body)
      rw [← faults_leftBy store body] at hallowed
      rw [rollbackTransaction, closeTransaction_eq hallowed hclose]
      exact ⟨htables, hsnapshots, hclosed _ hsnapshots⟩

/-- A store with one user, in which the next commit is refused. -/
def refusingStore : Store where
  tables := [("users", [[("id", .int 1)]])]
  faults := [("commit", ⟨.connection, "lost"⟩)]

/-- A body that adds a user and a table of visits. -/
def visit (result : Except ExecuteError Unit) : Body Unit where
  changes _ _ := [.insert "users" [[("id", .int 2)]], .insert "visits" [[("user", .int 2)]]]
  result _ _ := result

/-- Calls that lead to the store. -/
theorem isReachable_refusingStore : refusingStore.IsReachable :=
  ⟨[.change (.insert "users" [[("id", .int 1)]]), .failNext "commit" ⟨.connection, "lost"⟩], rfl⟩

/-- A body that fails after two changes: the tables are those of the start, although a commit would
have been refused. -/
theorem transaction_atomic_visit :
    (∀ a, (visit (.error (.malformed "full"))).result refusingStore.nextTransaction
        refusingStore.begin.2 = .ok a → Keyed.get? refusingStore.faults "commit" = none) ∧
      (refusingStore.leftBy (visit (.error (.malformed "full")))).tables =
        [("users", [[("id", .int 1)], [("id", .int 2)]]), ("visits", [[("user", .int 2)]])] ∧
      (refusingStore.transaction (visit (.error (.malformed "full"))).run).1 =
        .error (.malformed "full") ∧
      (refusingStore.transaction (visit (.error (.malformed "full"))).run).2.tables =
        [("users", [[("id", .int 1)]])] ∧
      (refusingStore.transaction (visit (.error (.malformed "full"))).run).2.snapshots = [] := by
  have h := transaction_atomic isReachable_refusingStore (visit (.error (.malformed "full")))
    (fun _ h => nomatch h)
  have herror := h.2.2 (by decide)
  have hrolled := h.2.1 _ herror (by decide)
  exact ⟨fun _ h => (nomatch h), by rfl, herror, hrolled.1, hrolled.2.1⟩

/-- Where the commit is refused the transaction fails, but the tables are those that the body left
and the transaction stays open. -/
theorem refused_commit_is_kept :
    (refusingStore.transaction (visit (.ok ())).run).1 =
        .error (.backend ⟨"commit", "", .connection, "lost", none⟩) ∧
      (refusingStore.transaction (visit (.ok ())).run).2.tables =
        [("users", [[("id", .int 1)], [("id", .int 2)]]), ("visits", [[("user", .int 2)]])] ∧
      (refusingStore.transaction (visit (.ok ())).run).2.snapshots =
        [(1, [("users", [[("id", .int 1)]])])] :=
  ⟨by rfl, by rfl, by rfl⟩

end Store

end DualQuery
