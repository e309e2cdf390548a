import DualQuery.Engine.Backend

/-!
# Transactions

`Store.transaction` runs a body inside a transaction of a backend: what the body did is kept where
it succeeds and undone where it fails.
-/

namespace DualQuery.Store

/-- A backend's call to open a transaction. -/
def openTransaction (store : Store) : Except BackendError Nat × Store :=
  store.answer "begin" "" fun store =>
    let (id, store) := store.begin
    (.ok id, store)

/-- A backend's call to close a transaction by an operation. -/
def closeTransaction (operation : String) (close : Store → Except StoreError Store)
    (store : Store) : Except BackendError Unit × Store :=
  store.answer operation "" fun store =>
    match close store with
    | .ok store => (.ok (), store)
    | .error e => (.error (e.toBackend operation ""), store)

/-- A backend's call to keep what a transaction did. -/
def commitTransaction (id : Nat) (store : Store) : Except BackendError Unit × Store :=
  store.closeTransaction "commit" (·.commit id)

/-- A backend's call to undo what a transaction did. -/
def rollbackTransaction (id : Nat) (store : Store) : Except BackendError Unit × Store :=
  store.closeTransaction "rollback" (·.rollback id)

/-- Run a body, given the number of the transaction, inside a transaction. Where the body fails its
error is the result, whether the rollback succeeds or not. -/
def transaction {α : Type} (body : Nat → Store → Except ExecuteError α × Store) (store : Store) :
    Except ExecuteError α × Store :=
  match store.openTransaction with
  | (.error e, store) => (.error (.backend e), store)
  | (.ok id, store) =>
    match body id store with
    | (.ok a, store) =>
      match store.commitTransaction id with
      | (.ok _, store) => (.ok a, store)
      | (.error e, store) => (.error (.backend e), store)
    | (.error e, store) => (.error e, (store.rollbackTransaction id).2)

end DualQuery.Store
