import DualQuery.Engine.Document
import DualQuery.Engine.Relational
import DualQuery.Query.Reader

/-!
# The demonstration

A small shop with orders, customers and their addresses. `Demo.run` answers one query over it in
both query languages.
-/

namespace DualQuery.Demo

/-- The orders, their customers and where these live. -/
def schemas : List EntitySchema :=
  [{ name := "orders"
     fields := [("status", .scalar .string), ("amount", .scalar .float64),
       ("customer", .reference "customers")] },
   { name := "customers"
     fields := [("name", .scalar .string), ("address", .reference "addresses")] },
   { name := "addresses" }]

/-- The addresses: an id and a city. -/
def addresses : List (Nat × String) :=
  [(100, "Lyon"), (101, "Porto"), (102, "Leeds"), (103, "Graz")]

/-- The status of an order, by its id. -/
def status (id : Nat) : String :=
  match id % 4 with
  | 0 => "ACTIVE"
  | 1 => "PENDING"
  | 2 => "SHIPPED"
  | _ => "CANCELLED"

/-- An integer of a record. -/
def number (n : Nat) : Value := .int (Int64.ofNat n)

/-- The record of an address. -/
def addressRecord (address : Nat × String) : Record :=
  Keyed.ofList [("id", number address.1), ("city", .string address.2)]

/-- The record of the customer of a rank. -/
def customerRecord (rank : Nat) : Record :=
  Keyed.ofList [("id", number (10 + rank)), ("name", .string ("customer-" ++ toString rank)),
    ("address", number (100 + rank % 4))]

/-- The record of the order of an id. Amounts lie half way between integers. -/
def orderRecord (id : Nat) : Record :=
  Keyed.ofList [("id", number id), ("status", .string (status id)),
    ("amount", .float (.ofRatio false (2 * (id * 37 % 500) + 1) 2)),
    ("customer", number (10 + id % 8))]

/-- The tables of the shop. -/
def tables : List (String × List Record) :=
  [("addresses", addresses.map addressRecord), ("customers", (List.range 8).map customerRecord),
    ("orders", (List.range' 1 40).map orderRecord)]

/-- A session over the shop. -/
def session (config : Config) : Session MemoryBackend :=
  (schemas.foldl Session.define (Session.ofConfig config)).changeStore (·.insertTables tables)

/-- The active orders with their customers' addresses, the largest amounts first. -/
def descriptor : Descriptor :=
  { conditions := [("status", .equals (.string "ACTIVE"))]
    sort := [⟨"amount", .descending⟩]
    relations := ["customer.address"]
    pagination := some ⟨1, 5⟩ }

/-- Why there is nothing to show. -/
inductive Failure where
  | descriptor (error : DescriptorError)
  | config (error : ConfigError)
  | query (error : ExecuteError)
  deriving DecidableEq, Repr

/-- The wording of a failure. -/
def Failure.message : Failure → String
  | descriptor error => error.message
  | config error => error.message
  | query error => error.message

/-- Answer a query over the shop, first by relational plans and then by a document pipeline. The
query is the text of a descriptor; without one it is `descriptor`. -/
def run (config : Except ConfigError Config) (text : Option String) (entity : String) :
    Except Failure (ResultPage × ResultPage) := do
  let query ← match text with
    | some text => (Descriptor.parse text).mapError .descriptor
    | none => .ok descriptor
  let config ← config.mapError .config
  let request : Request := { entity := entity, descriptor := query }
  let (relational, session) := Session.findRelational config request (session config)
  let (document, _) := MemoryBackend.documents.find config 0 request session
  return (← relational.mapError .query, ← document.mapError .query)

end DualQuery.Demo
