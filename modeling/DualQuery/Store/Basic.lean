import DualQuery.Schema.Entity
import DualQuery.Store.Error
import DualQuery.Value.Json

/-!
# Stores

A store holds tables of records, the schemas of entities and the snapshots of open transactions.
Both backends work on one store. For trials a store can be told to take time for each call and to
fail the next call of an operation.

* `Store.begin` snapshots all tables, `Store.rollback` restores them, `Store.commit` drops the
  snapshot.
* `Store.insertBatch` makes a table that is not there.
-/

namespace DualQuery

/-- The tables of a store by name. -/
abbrev Tables := Keyed (List Record)

/-- A failure to report on the next call of an operation. -/
structure Fault where
  kind : BackendErrorKind
  message : String
  deriving DecidableEq, Repr, Inhabited

/-- Tables, schemas and open transactions. -/
structure Store where
  tables : Tables := []
  registry : Registry := []
  /-- The tables as they were at the start of each open transaction. -/
  snapshots : List (Nat × Tables) := []
  nextTransaction : Nat := 1
  faults : Keyed Fault := []
  /-- How long each call of a backend takes, in milliseconds. -/
  latency : Nat := 0
  deriving Repr, Inhabited

namespace Store

/-! ## Tables -/

/-- Make a table that is not there. -/
def ensureTable (store : Store) (name : String) : Store :=
  if Keyed.contains store.tables name then store
  else { store with tables := Keyed.insert store.tables name [] }

/-- Add a schema and make its table. -/
def define (store : Store) (schema : EntitySchema) : Store :=
  let store := store.ensureTable schema.name
  { store with registry := store.registry.register schema }

/-- Add records at the end of a table. -/
def insertBatch (store : Store) (name : String) (records : List Record) : Store :=
  { store with
    tables := Keyed.insert store.tables name ((Keyed.get? store.tables name).getD [] ++ records) }

/-- Add a record at the end of a table. -/
def insert (store : Store) (name : String) (record : Record) : Store :=
  store.insertBatch name [record]

/-- Add records at the end of several tables. -/
def insertTables (store : Store) (tables : List (String × List Record)) : Store :=
  tables.foldl (fun store (name, records) => store.insertBatch name records) store

/-- The records among JSON values; what is no object is left out. -/
def recordsOfJson (items : List Json) : List Record := items.filterMap Record.ofJson?

/-- The records of a table. -/
def scan (store : Store) (name : String) : Except StoreError (List Record) :=
  match Keyed.get? store.tables name with
  | some rows => .ok rows
  | none => .error (.tableNotFound name)

/-- The names of all tables. -/
def tableNames (store : Store) : List String := Keyed.keys store.tables

/-- The number of records of a table. -/
def rowCount (store : Store) (name : String) : Nat :=
  ((Keyed.get? store.tables name).getD []).length

/-- Rough size of all tables in bytes. -/
def memoryUsage (store : Store) : Nat :=
  store.tables.foldl (fun size table => size + Record.approxSize table.2) 0

/-! ## Transactions -/

/-- The snapshot of an open transaction. -/
def snapshot? (store : Store) (id : Nat) : Option Tables :=
  (store.snapshots.find? fun snapshot => snapshot.1 == id).map (·.2)

/-- Drop the snapshot of a transaction. -/
def forget (store : Store) (id : Nat) : Store :=
  { store with snapshots := store.snapshots.filter fun snapshot => snapshot.1 != id }

/-- Open a transaction. -/
def begin (store : Store) : Nat × Store :=
  (store.nextTransaction,
    { store with
      snapshots := store.snapshots ++ [(store.nextTransaction, store.tables)]
      nextTransaction := store.nextTransaction + 1 })

/-- Close a transaction and keep what was done. -/
def commit (store : Store) (id : Nat) : Except StoreError Store :=
  match store.snapshot? id with
  | some _ => .ok (store.forget id)
  | none => .error (.unknownTransaction id)

/-- Close a transaction and restore every table as it was at its start. Tables made since are
gone. -/
def rollback (store : Store) (id : Nat) : Except StoreError Store :=
  match store.snapshot? id with
  | some tables => .ok { store.forget id with tables := tables }
  | none => .error (.unknownTransaction id)

/-! ## Trials -/

/-- Fail the next call of an operation. -/
def failNext (store : Store) (operation : String) (fault : Fault) : Store :=
  { store with faults := Keyed.insert store.faults operation fault }

/-- Take the fault of an operation, if there is one. -/
def takeFault (store : Store) (operation : String) : Option Fault × Store :=
  (Keyed.get? store.faults operation,
    { store with faults := Keyed.erase store.faults operation })

end Store

end DualQuery
