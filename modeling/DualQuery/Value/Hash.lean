import DualQuery.Value.Basic

/-!
# Hashes

A hash is computed from a sequence of words and runs of bytes. `Value.feed` gives the sequence of a
value; equal values have equal sequences, because every number feeds the bits of its double.
-/

namespace DualQuery

/-- One item fed to a hash. -/
inductive HashItem where
  | word (w : UInt64)
  | bytes (bs : List UInt8)
  deriving DecidableEq, Repr

namespace HashItem

/-- The multiplier of a hashing step. -/
def multiplier : UInt64 := 0x517cc1b727220a95

/-- Mix a word into the state: rotate by five bits, combine, multiply. -/
def mix (state word : UInt64) : UInt64 :=
  (((state <<< 5) ||| (state >>> 59)) ^^^ word) * multiplier

/-- The word of bytes in little-endian order. -/
def littleEndian (bs : List UInt8) : UInt64 :=
  bs.foldr (fun b acc => (acc <<< 8) ||| b.toUInt64) 0

/-- Mix bytes in words of eight, then one of four, then singly. -/
def mixBytes (state : UInt64) (bs : List UInt8) : UInt64 :=
  if _ : 8 ≤ bs.length then mixBytes (mix state (littleEndian (bs.take 8))) (bs.drop 8)
  else if 4 ≤ bs.length then
    (bs.drop 4).foldl (fun s b => mix s b.toUInt64) (mix state (littleEndian (bs.take 4)))
  else bs.foldl (fun s b => mix s b.toUInt64) state
termination_by bs.length

/-- Mix one item into the state. -/
def mixInto (state : UInt64) : HashItem → UInt64
  | word w => mix state w
  | bytes bs => mixBytes state bs

/-- The hash of a sequence of items. -/
def hash (items : List HashItem) : UInt64 := items.foldl mixInto 0

/-- The bytes of a text. -/
def utf8 (s : String) : List UInt8 := s.toList.flatMap String.utf8EncodeChar

/-- The items of a text: its bytes and a closing mark. -/
def ofText (s : String) : List HashItem := [bytes (utf8 s), word 0xff]

/-- The items of a byte run: its length and its bytes. -/
def ofBytes (bs : List UInt8) : List HashItem := [word (UInt64.ofNat bs.length), bytes bs]

end HashItem

namespace Value

open HashItem

mutual
/-- The sequence that a value feeds to a hash: its bracket and then its content. -/
def feed (v : Value) : List HashItem :=
  word (UInt64.ofNat v.bracket) ::
    match v with
    | null => []
    | bool b => [word (if b then 1 else 0)]
    | int i => [word (Binary64.ofInt64 i).bits]
    | timestamp t => [word (Binary64.ofInt64 t).bits]
    | float x => [word x.bits]
    | string s => ofText s
    | array items => word (UInt64.ofNat items.length) :: feedItems items
    | object fields => word (UInt64.ofNat fields.length) :: feedFields fields

/-- The sequences of items one after the other. -/
def feedItems : List Value → List HashItem
  | [] => []
  | item :: items => feed item ++ feedItems items

/-- The sequences of keys and values one after the other. -/
def feedFields : List (String × Value) → List HashItem
  | [] => []
  | (key, value) :: fields => ofText key ++ feed value ++ feedFields fields
end

/-- The hash of a value. -/
def hash (v : Value) : UInt64 := HashItem.hash v.feed

end Value

end DualQuery
