import Launcher.Digest.Block

namespace Launcher.Digest.Sha256

/-!
# The SHA-256 digest

* `digest` — the thirty-two bytes of the digest of a byte sequence.

Each block of sixteen big-endian words is stretched to a schedule of sixty-four, which drives
sixty-four rounds on eight words of state.
-/

/-- The constant added in each round. -/
def constants : Array UInt32 :=
  #[0x428a2f98, 0x71374491, 0xb5c0fbcf, 0xe9b5dba5, 0x3956c25b, 0x59f111f1, 0x923f82a4, 0xab1c5ed5,
   0xd807aa98, 0x12835b01, 0x243185be, 0x550c7dc3, 0x72be5d74, 0x80deb1fe, 0x9bdc06a7, 0xc19bf174,
   0xe49b69c1, 0xefbe4786, 0x0fc19dc6, 0x240ca1cc, 0x2de92c6f, 0x4a7484aa, 0x5cb0a9dc, 0x76f988da,
   0x983e5152, 0xa831c66d, 0xb00327c8, 0xbf597fc7, 0xc6e00bf3, 0xd5a79147, 0x06ca6351, 0x14292967,
   0x27b70a85, 0x2e1b2138, 0x4d2c6dfc, 0x53380d13, 0x650a7354, 0x766a0abb, 0x81c2c92e, 0x92722c85,
   0xa2bfe8a1, 0xa81a664b, 0xc24b8b70, 0xc76c51a3, 0xd192e819, 0xd6990624, 0xf40e3585, 0x106aa070,
   0x19a4c116, 0x1e376c08, 0x2748774c, 0x34b0bcb5, 0x391c0cb3, 0x4ed8aa4a, 0x5b9cca4f, 0x682e6ff3,
   0x748f82ee, 0x78a5636f, 0x84c87814, 0x8cc70208, 0x90befffa, 0xa4506ceb, 0xbef9a3f7, 0xc67178f2]

/-- The state before the first block. -/
def start : Array UInt32 :=
  #[0x6a09e667, 0xbb67ae85, 0x3c6ef372, 0xa54ff53a, 0x510e527f, 0x9b05688c, 0x1f83d9ab, 0x5be0cd19]

/-- The schedule of a block. -/
def schedule (block : Array UInt32) : Array UInt32 :=
  (List.range 48).foldl (fun w i =>
    let x := w.getD (i + 1) 0
    let y := w.getD (i + 14) 0
    let s0 := rotateRight x 7 ^^^ rotateRight x 18 ^^^ (x >>> 3)
    let s1 := rotateRight y 17 ^^^ rotateRight y 19 ^^^ (y >>> 10)
    w.push (w.getD i 0 + s0 + w.getD (i + 9) 0 + s1)) block

/-- One round on the eight words of state. -/
def round (s : Array UInt32) (constant word : UInt32) : Array UInt32 :=
  let at_ := fun i => s.getD i 0
  let a := at_ 0
  let e := at_ 4
  let s1 := rotateRight e 6 ^^^ rotateRight e 11 ^^^ rotateRight e 25
  let choice := (e &&& at_ 5) ^^^ (~~~e &&& at_ 6)
  let t1 := at_ 7 + s1 + choice + constant + word
  let s0 := rotateRight a 2 ^^^ rotateRight a 13 ^^^ rotateRight a 22
  let majority := (a &&& at_ 1) ^^^ (a &&& at_ 2) ^^^ (at_ 1 &&& at_ 2)
  #[t1 + s0 + majority, a, at_ 1, at_ 2, at_ 3 + t1, e, at_ 5, at_ 6]

/-- Folds one block into the state. -/
def fold (s block : Array UInt32) : Array UInt32 :=
  let w := schedule block
  let t := (List.range 64).foldl (fun t i => round t (constants.getD i 0) (w.getD i 0)) s
  s.zipWith (· + ·) t

/-- The digest of a byte sequence. -/
def digest (bytes : List UInt8) : List UInt8 :=
  let padded := pad bigEndian64 bytes
  ((blocks bigEndian32 padded).foldl fold start).toList.flatMap bigEndianBytes

end Launcher.Digest.Sha256
