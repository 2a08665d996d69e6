import StaticSite.Digest.Block

/-!
Contract: the SHA-1 digest.

Owns:
- the message schedule, the round functions and the chaining of blocks.

Does not own: padding (see `StaticSite.Digest.Block`).
-/

namespace StaticSite.Digest.Sha1

/-- The five words that are carried from round to round. -/
structure State where
  a : UInt32
  b : UInt32
  c : UInt32
  d : UInt32
  e : UInt32

def initial : State :=
  ⟨0x67452301, 0xefcdab89, 0x98badcfe, 0x10325476, 0xc3d2e1f0⟩

/-- Extends a schedule, held with its latest word first, by `count` words. -/
def extendSchedule : Nat → List UInt32 → List UInt32
  | 0, latest => latest
  | count + 1, latest =>
      let next := rotateLeft 1
        (latest.getD 2 0 ^^^ latest.getD 7 0 ^^^ latest.getD 13 0 ^^^ latest.getD 15 0)
      extendSchedule count (next :: latest)

def schedule (block : List UInt32) : List UInt32 :=
  (extendSchedule 64 block.reverse).reverse

/-- The bitwise function and the constant of a round. -/
def roundMix (round : Nat) (state : State) : UInt32 :=
  if round < 20 then
    ((state.b &&& state.c) ||| (~~~state.b &&& state.d)) + 0x5a827999
  else if round < 40 then
    (state.b ^^^ state.c ^^^ state.d) + 0x6ed9eba1
  else if round < 60 then
    ((state.b &&& state.c) ||| (state.b &&& state.d) ||| (state.c &&& state.d)) + 0x8f1bbcdc
  else
    (state.b ^^^ state.c ^^^ state.d) + 0xca62c1d6

/-- One round with one word of the schedule. -/
def round (state : State) (entry : UInt32 × Nat) : State :=
  { a := rotateLeft 5 state.a + roundMix entry.2 state + state.e + entry.1
    b := state.a
    c := rotateLeft 30 state.b
    d := state.c
    e := state.d }

def absorb (state : State) (block : List UInt32) : State :=
  let mixed := (schedule block).zipIdx.foldl round state
  ⟨state.a + mixed.a, state.b + mixed.b, state.c + mixed.c, state.d + mixed.d,
    state.e + mixed.e⟩

/-- The digest of some bytes as forty hexadecimal digits. -/
def hexDigest (message : List UInt8) : String :=
  let final := (blocks .mostSignificantFirst message).foldl absorb initial
  wordsText .mostSignificantFirst [final.a, final.b, final.c, final.d, final.e]

end StaticSite.Digest.Sha1
