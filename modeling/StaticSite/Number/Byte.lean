/-!
Contract: numbers as sequences of bytes.

Owns:
- the two orders of the bytes of a number;
- the bytes of a number and the number of some bytes;
- cutting bytes into pieces of equal size.

Does not own: what the numbers mean.
-/

namespace StaticSite.Number

/-- The order of the bytes of a number. -/
inductive ByteOrder where
  | mostSignificantFirst
  | leastSignificantFirst
  deriving DecidableEq

/-- The low `count` bytes of a number, in the given order. -/
def bytesOf (order : ByteOrder) (count value : Nat) : List UInt8 :=
  let fromLow := (List.range count).map fun place => UInt8.ofNat (value / Nat.pow 256 place)
  match order with
  | .leastSignificantFirst => fromLow
  | .mostSignificantFirst => fromLow.reverse

def valueOf (order : ByteOrder) (bytes : List UInt8) : Nat :=
  let fromHigh :=
    match order with
    | .mostSignificantFirst => bytes
    | .leastSignificantFirst => bytes.reverse
  fromHigh.foldl (fun value byte => 256 * value + byte.toNat) 0

/-- Cuts a list into pieces of `size + 1` items; a shorter rest is left out.  `fuel`
bounds the number of pieces. -/
def piecesOf {Item : Type} (size : Nat) : Nat → List Item → List (List Item)
  | 0, _ => []
  | fuel + 1, items =>
      if (items.drop size).isEmpty then []
      else items.take (size + 1) :: piecesOf size fuel (items.drop (size + 1))

end StaticSite.Number
