/-!
The SHA-256 digest of a byte string (FIPS 180-4).

The message is padded with a one bit, zeros and its length in bits as a
64-bit big-endian number, to a whole number of 64-byte blocks; each block is
read as sixteen big-endian words, stretched to sixty-four, and mixed into the
eight-word state by sixty-four rounds. The digest is the final state, written
as sixty-four lowercase hexadecimal digits.

* **`padded_length_mod`**: padding always ends on a block boundary.
-/

namespace LaunchBench.Digest

/-- The round constants: the first 32 bits of the fractional parts of the
cube roots of the first 64 primes. -/
def roundConstants : List UInt32 :=
  [0x428a2f98, 0x71374491, 0xb5c0fbcf, 0xe9b5dba5, 0x3956c25b, 0x59f111f1, 0x923f82a4, 0xab1c5ed5,
   0xd807aa98, 0x12835b01, 0x243185be, 0x550c7dc3, 0x72be5d74, 0x80deb1fe, 0x9bdc06a7, 0xc19bf174,
   0xe49b69c1, 0xefbe4786, 0x0fc19dc6, 0x240ca1cc, 0x2de92c6f, 0x4a7484aa, 0x5cb0a9dc, 0x76f988da,
   0x983e5152, 0xa831c66d, 0xb00327c8, 0xbf597fc7, 0xc6e00bf3, 0xd5a79147, 0x06ca6351, 0x14292967,
   0x27b70a85, 0x2e1b2138, 0x4d2c6dfc, 0x53380d13, 0x650a7354, 0x766a0abb, 0x81c2c92e, 0x92722c85,
   0xa2bfe8a1, 0xa81a664b, 0xc24b8b70, 0xc76c51a3, 0xd192e819, 0xd6990624, 0xf40e3585, 0x106aa070,
   0x19a4c116, 0x1e376c08, 0x2748774c, 0x34b0bcb5, 0x391c0cb3, 0x4ed8aa4a, 0x5b9cca4f, 0x682e6ff3,
   0x748f82ee, 0x78a5636f, 0x84c87814, 0x8cc70208, 0x90befffa, 0xa4506ceb, 0xbef9a3f7, 0xc67178f2]

/-- The initial state: the first 32 bits of the fractional parts of the square
roots of the first 8 primes. -/
def initialState : List UInt32 :=
  [0x6a09e667, 0xbb67ae85, 0x3c6ef372, 0xa54ff53a, 0x510e527f, 0x9b05688c, 0x1f83d9ab, 0x5be0cd19]

/-- Rotation of a word to the right. -/
def rotr (x : UInt32) (n : UInt32) : UInt32 :=
  (x >>> n) ||| (x <<< (32 - n))

/-- The padding that follows a message of `len` bytes. -/
def padding (len : Nat) : List UInt8 :=
  let zeros := (55 + 64 - len % 64) % 64
  let bits := len * 8
  [0x80] ++ List.replicate zeros 0 ++ (List.range 8).reverse.map fun i => (bits / Nat.pow 2 (8 * i)).toUInt8

/-- A big-endian word from four bytes. -/
def word (a b c d : UInt8) : UInt32 :=
  (a.toUInt32 <<< 24) ||| (b.toUInt32 <<< 16) ||| (c.toUInt32 <<< 8) ||| d.toUInt32

/-- Big-endian words from a byte string whose length is a multiple of four. -/
def words : List UInt8 → List UInt32
  | a :: b :: c :: d :: rest => word a b c d :: words rest
  | _ => []

/-- The message schedule of a block: its sixteen words stretched to `n + 16`,
built from the end so that each new word reads the four it depends on. -/
def schedule (block : List UInt32) : Nat → List UInt32
  | 0 => block.reverse
  | n + 1 =>
    let w := schedule block n
    let w2 := w.getD 1 0
    let w7 := w.getD 6 0
    let w15 := w.getD 14 0
    let w16 := w.getD 15 0
    let s0 := rotr w15 7 ^^^ rotr w15 18 ^^^ (w15 >>> 3)
    let s1 := rotr w2 17 ^^^ rotr w2 19 ^^^ (w2 >>> 10)
    (w16 + s0 + w7 + s1) :: w

/-- One round of the compression function. -/
def round (st : List UInt32) (kw : UInt32 × UInt32) : List UInt32 :=
  match st with
  | [a, b, c, d, e, f, g, h] =>
    let s1 := rotr e 6 ^^^ rotr e 11 ^^^ rotr e 25
    let ch := (e &&& f) ^^^ (~~~e &&& g)
    let t1 := h + s1 + ch + kw.1 + kw.2
    let s0 := rotr a 2 ^^^ rotr a 13 ^^^ rotr a 22
    let maj := (a &&& b) ^^^ (a &&& c) ^^^ (b &&& c)
    let t2 := s0 + maj
    [t1 + t2, a, b, c, d + t1, e, f, g]
  | other => other

/-- Mixes one block of sixteen words into the state. -/
def compress (st : List UInt32) (block : List UInt32) : List UInt32 :=
  let ws := (schedule block 48).reverse
  let mixed := (roundConstants.zip ws).foldl round st
  (st.zip mixed).map fun (x, y) => x + y

/-- Mixes the blocks of a padded message into the state, sixty-four bytes at a time. -/
def compressAll (st : List UInt32) (msg : List UInt8) : Nat → List UInt32
  | 0 => st
  | n + 1 =>
    if msg.isEmpty then st
    else compressAll (compress st (words (msg.take 64))) (msg.drop 64) n

/-- Two lowercase hexadecimal digits of a byte. -/
def hexByte (b : Nat) : String :=
  let digit (d : Nat) : Char := if d < 10 then Char.ofNat (48 + d) else Char.ofNat (87 + d)
  String.ofList [digit (b / 16 % 16), digit (b % 16)]

/-- Eight lowercase hexadecimal digits of a word. -/
def hexWord (w : UInt32) : String :=
  let n := w.toNat
  hexByte (n / Nat.pow 2 24) ++ hexByte (n / Nat.pow 2 16) ++ hexByte (n / Nat.pow 2 8) ++ hexByte n

/-- The SHA-256 digest of a byte string, as sixty-four lowercase hexadecimal digits. -/
def sha256Hex (msg : List UInt8) : String :=
  let padded := msg ++ padding msg.length
  String.join ((compressAll initialState padded (padded.length / 64)).map hexWord)

theorem padded_length_mod (len : Nat) : (len + (padding len).length) % 64 = 0 := by
  simp only [padding, List.length_append, List.length_singleton, List.length_replicate,
    List.length_map, List.length_reverse, List.length_range]
  omega

end LaunchBench.Digest
