import DualQuery.Query.Context
import DualQuery.Query.Writer
import DualQuery.Value.Hash

/-!
# Cache keys

A key is the entity's name, a colon and sixteen hexadecimal digits: the hash of the JSON text of
everything that shapes a result. The digits hold no colon, so the entity is what stands before the
last one.
-/

namespace DualQuery

/-- The key of a cached result. -/
structure CacheKey where
  text : String
  deriving DecidableEq, Repr, Inhabited

namespace CacheKey

/-- The text that is hashed. -/
def material (ctx : QueryContext) (d : Descriptor) : String :=
  (Json.obj [("entity", .str ctx.entity), ("descriptor", d.toJson),
    ("backend_conditions", Conditions.toJson ctx.serverConditions),
    ("search_config", SearchConfig.toJson ctx.searchConfig)]).text

/-- Sixteen hexadecimal digits. -/
def hexDigits (w : UInt64) : List Char :=
  (List.range 16).map fun i => (Nat.toDigits 16 ((w.toNat >>> (4 * (15 - i))) % 16)).headD '0'

/-- The key of an entity and a digest. -/
def ofDigest (entity : String) (digest : UInt64) : CacheKey :=
  ⟨String.ofList (entity.toList ++ ':' :: hexDigits digest)⟩

/-- The key of a query. -/
def derive (ctx : QueryContext) (d : Descriptor) : CacheKey :=
  ofDigest ctx.entity (HashItem.hash (HashItem.ofBytes (HashItem.utf8 (material ctx d))))

/-- The entity of a key: what stands before the last colon. -/
def entity (key : CacheKey) : String :=
  String.ofList ((key.text.toList.reverse.dropWhile (· ≠ ':')).drop 1).reverse

end CacheKey

end DualQuery
