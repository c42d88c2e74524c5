import DeviceRegistry.Bytes
/-!
# SHA-256

The digest of a byte string, as 32 bytes.

A block of sixteen words is mixed into the state by 64 rounds. The schedule of the
block is kept as a window of sixteen words: each round takes the first of them, and
the word that it contributes to later rounds enters at the other end.
-/

namespace DeviceRegistry.Sha256

/-- The eight words that the rounds work on. -/
structure State where
  a : UInt32
  b : UInt32
  c : UInt32
  d : UInt32
  e : UInt32
  f : UInt32
  g : UInt32
  h : UInt32
deriving DecidableEq, Repr

/-- The state before the first block. -/
def State.first : State where
  a := 0x6a09e667
  b := 0xbb67ae85
  c := 0x3c6ef372
  d := 0xa54ff53a
  e := 0x510e527f
  f := 0x9b05688c
  g := 0x1f83d9ab
  h := 0x5be0cd19

/-- The constant of each round. -/
def roundConstants : List UInt32 :=
  [0x428a2f98, 0x71374491, 0xb5c0fbcf, 0xe9b5dba5, 0x3956c25b, 0x59f111f1, 0x923f82a4, 0xab1c5ed5,
   0xd807aa98, 0x12835b01, 0x243185be, 0x550c7dc3, 0x72be5d74, 0x80deb1fe, 0x9bdc06a7, 0xc19bf174,
   0xe49b69c1, 0xefbe4786, 0x0fc19dc6, 0x240ca1cc, 0x2de92c6f, 0x4a7484aa, 0x5cb0a9dc, 0x76f988da,
   0x983e5152, 0xa831c66d, 0xb00327c8, 0xbf597fc7, 0xc6e00bf3, 0xd5a79147, 0x06ca6351, 0x14292967,
   0x27b70a85, 0x2e1b2138, 0x4d2c6dfc, 0x53380d13, 0x650a7354, 0x766a0abb, 0x81c2c92e, 0x92722c85,
   0xa2bfe8a1, 0xa81a664b, 0xc24b8b70, 0xc76c51a3, 0xd192e819, 0xd6990624, 0xf40e3585, 0x106aa070,
   0x19a4c116, 0x1e376c08, 0x2748774c, 0x34b0bcb5, 0x391c0cb3, 0x4ed8aa4a, 0x5b9cca4f, 0x682e6ff3,
   0x748f82ee, 0x78a5636f, 0x84c87814, 0x8cc70208, 0x90befffa, 0xa4506ceb, 0xbef9a3f7, 0xc67178f2]

/-- A word turned right by fewer than 32 places. -/
def rotateRight (word : UInt32) (places : UInt32) : UInt32 :=
  (word >>> places) ||| (word <<< (32 - places))

/-- The word that a full window of the schedule contributes. -/
def nextWord (window : List UInt32) : UInt32 :=
  let early := window.getD 1 0
  let late := window.getD 14 0
  let earlyMix := rotateRight early 7 ^^^ rotateRight early 18 ^^^ (early >>> 3)
  let lateMix := rotateRight late 17 ^^^ rotateRight late 19 ^^^ (late >>> 10)
  window.getD 0 0 + earlyMix + window.getD 9 0 + lateMix

/-- One round, with its constant and its word of the schedule. -/
def round (state : State) (constant word : UInt32) : State :=
  let highMix := rotateRight state.e 6 ^^^ rotateRight state.e 11 ^^^ rotateRight state.e 25
  let choice := (state.e &&& state.f) ^^^ ((~~~ state.e) &&& state.g)
  let first := state.h + highMix + choice + constant + word
  let lowMix := rotateRight state.a 2 ^^^ rotateRight state.a 13 ^^^ rotateRight state.a 22
  let majority := (state.a &&& state.b) ^^^ (state.a &&& state.c) ^^^ (state.b &&& state.c)
  let second := lowMix + majority
  { a := first + second, b := state.a, c := state.b, d := state.c
    e := state.d + first, f := state.e, g := state.f, h := state.g }

/-- The sum of two states, word by word. -/
def State.add (left right : State) : State where
  a := left.a + right.a
  b := left.b + right.b
  c := left.c + right.c
  d := left.d + right.d
  e := left.e + right.e
  f := left.f + right.f
  g := left.g + right.g
  h := left.h + right.h

/-- Mixes the sixteen words of a block into a state. -/
def compress (state : State) (block : List UInt32) : State :=
  let step := fun (position : List UInt32 × State) (constant : UInt32) =>
    (position.1.drop 1 ++ [nextWord position.1], round position.2 constant (position.1.getD 0 0))
  state.add (roundConstants.foldl step (block, state)).2

/-- A message, a marking bit, zeros up to a whole number of blocks, and the length in bits. -/
def padded (message : Bytes) : Bytes :=
  message ++ 0x80 :: List.replicate ((119 - message.length % 64) % 64) 0 ++
    Bytes.bigEndian 8 (8 * message.length)

/-- The word whose four bytes begin at an offset. -/
def wordAt (bytes : Bytes) (offset : Nat) : UInt32 :=
  ((bytes.drop offset).take 4).foldl (fun word byte => (word <<< 8) ||| byte.toUInt32) 0

/-- The blocks of a padded message, sixteen words each. -/
def blocks (bytes : Bytes) : List (List UInt32) :=
  (List.range (bytes.length / 64)).map fun index =>
    let block := (bytes.drop (64 * index)).take 64
    (List.range 16).map fun word => wordAt block (4 * word)

def State.bytes (state : State) : Bytes :=
  [state.a, state.b, state.c, state.d, state.e, state.f, state.g, state.h].flatMap fun word =>
    Bytes.bigEndian 4 word.toNat

def digest (message : Bytes) : Bytes :=
  ((blocks (padded message)).foldl compress State.first).bytes

@[simp]
theorem length_digest (message : Bytes) : (digest message).length = 32 := by
  simp [digest, State.bytes]

end DeviceRegistry.Sha256
