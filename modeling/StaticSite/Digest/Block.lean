import StaticSite.Number.Byte

/-!
Contract: the blocks that a digest of the Merkle–Damgård kind consumes.

Owns:
- padding of a message to whole blocks of sixteen words;
- rotation of words and the hexadecimal text of bytes.

Does not own: any compression function.
-/

namespace StaticSite.Digest

open StaticSite.Number

/-- A message followed by the end mark, by zeros, and by its length in bits, which
together fill whole blocks of sixty-four bytes. -/
def padded (order : ByteOrder) (message : List UInt8) : List UInt8 :=
  let zeroCount := (119 - message.length % 64) % 64
  message ++ 0x80 :: List.replicate zeroCount 0 ++ bytesOf order 8 (8 * message.length)

/-- The blocks of a message, each as sixteen words. -/
def blocks (order : ByteOrder) (message : List UInt8) : List (List UInt32) :=
  let bytes := padded order message
  (piecesOf 63 bytes.length bytes).map fun block =>
    (piecesOf 3 16 block).map fun word => UInt32.ofNat (valueOf order word)

/-- A word with its bits moved to the left, around its end. -/
def rotateLeft (count : UInt32) (word : UInt32) : UInt32 :=
  (word <<< count) ||| (word >>> (32 - count))

/-- The hexadecimal text of some bytes, in lower case. -/
def hexText (bytes : List UInt8) : String :=
  String.ofList (bytes.flatMap fun byte =>
    [Nat.digitChar (byte.toNat / 16), Nat.digitChar (byte.toNat % 16)])

/-- The hexadecimal text of a digest that consists of words. -/
def wordsText (order : ByteOrder) (words : List UInt32) : String :=
  hexText (words.flatMap fun word => bytesOf order 4 word.toNat)

end StaticSite.Digest
