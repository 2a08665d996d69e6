import StaticSite.Digest.Block

/-!
Contract: the MD5 digest.

Owns:
- the round constants, the round functions and the chaining of blocks.

Does not own: padding (see `StaticSite.Digest.Block`).
-/

namespace StaticSite.Digest.Md5

/-- The four words that are carried from round to round. -/
structure State where
  a : UInt32
  b : UInt32
  c : UInt32
  d : UInt32

def initial : State :=
  ⟨0x67452301, 0xefcdab89, 0x98badcfe, 0x10325476⟩

/-- The constants of the rounds: the first thirty-two fractional bits of the
absolute sines of one to sixty-four. -/
def roundConstants : List UInt32 :=
  [
    0xd76aa478, 0xe8c7b756, 0x242070db, 0xc1bdceee,
    0xf57c0faf, 0x4787c62a, 0xa8304613, 0xfd469501,
    0x698098d8, 0x8b44f7af, 0xffff5bb1, 0x895cd7be,
    0x6b901122, 0xfd987193, 0xa679438e, 0x49b40821,
    0xf61e2562, 0xc040b340, 0x265e5a51, 0xe9b6c7aa,
    0xd62f105d, 0x02441453, 0xd8a1e681, 0xe7d3fbc8,
    0x21e1cde6, 0xc33707d6, 0xf4d50d87, 0x455a14ed,
    0xa9e3e905, 0xfcefa3f8, 0x676f02d9, 0x8d2a4c8a,
    0xfffa3942, 0x8771f681, 0x6d9d6122, 0xfde5380c,
    0xa4beea44, 0x4bdecfa9, 0xf6bb4b60, 0xbebfbc70,
    0x289b7ec6, 0xeaa127fa, 0xd4ef3085, 0x04881d05,
    0xd9d4d039, 0xe6db99e5, 0x1fa27cf8, 0xc4ac5665,
    0xf4292244, 0x432aff97, 0xab9423a7, 0xfc93a039,
    0x655b59c3, 0x8f0ccc92, 0xffeff47d, 0x85845dd1,
    0x6fa87e4f, 0xfe2ce6e0, 0xa3014314, 0x4e0811a1,
    0xf7537e82, 0xbd3af235, 0x2ad7d2bb, 0xeb86d391
  ]

def rotationOf (round : Nat) : UInt32 :=
  let choices : List UInt32 :=
    if round < 16 then [7, 12, 17, 22]
    else if round < 32 then [5, 9, 14, 20]
    else if round < 48 then [4, 11, 16, 23]
    else [6, 10, 15, 21]
  choices.getD (round % 4) 0

def roundMix (round : Nat) (state : State) : UInt32 :=
  if round < 16 then
    (state.b &&& state.c) ||| (~~~state.b &&& state.d)
  else if round < 32 then
    (state.d &&& state.b) ||| (~~~state.d &&& state.c)
  else if round < 48 then
    state.b ^^^ state.c ^^^ state.d
  else
    state.c ^^^ (state.b ||| ~~~state.d)

/-- The position in the block of the word that a round consumes. -/
def wordPosition (round : Nat) : Nat :=
  if round < 16 then round
  else if round < 32 then (5 * round + 1) % 16
  else if round < 48 then (3 * round + 5) % 16
  else 7 * round % 16

def round (block : List UInt32) (state : State) (entry : UInt32 × Nat) : State :=
  let mixed :=
    state.a + roundMix entry.2 state + entry.1 + block.getD (wordPosition entry.2) 0
  { a := state.d
    b := state.b + rotateLeft (rotationOf entry.2) mixed
    c := state.b
    d := state.c }

def absorb (state : State) (block : List UInt32) : State :=
  let mixed := roundConstants.zipIdx.foldl (round block) state
  ⟨state.a + mixed.a, state.b + mixed.b, state.c + mixed.c, state.d + mixed.d⟩

/-- The digest of some bytes as thirty-two hexadecimal digits. -/
def hexDigest (message : List UInt8) : String :=
  let final := (blocks .leastSignificantFirst message).foldl absorb initial
  wordsText .leastSignificantFirst [final.a, final.b, final.c, final.d]

end StaticSite.Digest.Md5
