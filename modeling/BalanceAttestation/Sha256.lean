import BalanceAttestation.ByteLayout

/-! SHA-256 on byte strings, for evaluating the development on concrete inputs.
Words are numbers below `2 ^ 32`. -/

namespace Sha256

open ByteLayout

def rotr (n x : Nat) : Nat := (x >>> n) ||| ((x <<< (32 - n)) % 2 ^ 32)

def add (x y : Nat) : Nat := (x + y) % 2 ^ 32

def roundConstants : List Nat :=
  [0x428a2f98, 0x71374491, 0xb5c0fbcf, 0xe9b5dba5, 0x3956c25b, 0x59f111f1, 0x923f82a4, 0xab1c5ed5,
   0xd807aa98, 0x12835b01, 0x243185be, 0x550c7dc3, 0x72be5d74, 0x80deb1fe, 0x9bdc06a7, 0xc19bf174,
   0xe49b69c1, 0xefbe4786, 0x0fc19dc6, 0x240ca1cc, 0x2de92c6f, 0x4a7484aa, 0x5cb0a9dc, 0x76f988da,
   0x983e5152, 0xa831c66d, 0xb00327c8, 0xbf597fc7, 0xc6e00bf3, 0xd5a79147, 0x06ca6351, 0x14292967,
   0x27b70a85, 0x2e1b2138, 0x4d2c6dfc, 0x53380d13, 0x650a7354, 0x766a0abb, 0x81c2c92e, 0x92722c85,
   0xa2bfe8a1, 0xa81a664b, 0xc24b8b70, 0xc76c51a3, 0xd192e819, 0xd6990624, 0xf40e3585, 0x106aa070,
   0x19a4c116, 0x1e376c08, 0x2748774c, 0x34b0bcb5, 0x391c0cb3, 0x4ed8aa4a, 0x5b9cca4f, 0x682e6ff3,
   0x748f82ee, 0x78a5636f, 0x84c87814, 0x8cc70208, 0x90befffa, 0xa4506ceb, 0xbef9a3f7, 0xc67178f2]

structure Words where
  (a b c d e f g h : Nat)

def initial : Words :=
  ⟨0x6a09e667, 0xbb67ae85, 0x3c6ef372, 0xa54ff53a, 0x510e527f, 0x9b05688c, 0x1f83d9ab, 0x5be0cd19⟩

def round (s : Words) (k w : Nat) : Words :=
  let ch := (s.e &&& s.f) ^^^ ((s.e ^^^ 0xffffffff) &&& s.g)
  let maj := (s.a &&& s.b) ^^^ (s.a &&& s.c) ^^^ (s.b &&& s.c)
  let t1 := s.h + (rotr 6 s.e ^^^ rotr 11 s.e ^^^ rotr 25 s.e) + ch + k + w
  let t2 := (rotr 2 s.a ^^^ rotr 13 s.a ^^^ rotr 22 s.a) + maj
  ⟨add t1 t2, s.a, s.b, s.c, add s.d t1, s.e, s.f, s.g⟩

def scheduleWord (w0 w1 w9 w14 : Nat) : Nat :=
  add ((rotr 17 w14 ^^^ rotr 19 w14 ^^^ (w14 >>> 10)) + w9 +
    (rotr 7 w1 ^^^ rotr 18 w1 ^^^ (w1 >>> 3))) w0

def rounds : List Nat → List Nat → Words → Words
  | k :: ks, [w0, w1, w2, w3, w4, w5, w6, w7, w8, w9, w10, w11, w12, w13, w14, w15], s =>
    rounds ks [w1, w2, w3, w4, w5, w6, w7, w8, w9, w10, w11, w12, w13, w14, w15,
      scheduleWord w0 w1 w9 w14] (round s k w0)
  | _, _, s => s

def compress (s : Words) (block : List Nat) : Words :=
  let t := rounds roundConstants block s
  ⟨add s.a t.a, add s.b t.b, add s.c t.c, add s.d t.d, add s.e t.e, add s.f t.f, add s.g t.g,
    add s.h t.h⟩

def compressBlocks : Nat → List Nat → Words → Words
  | 0, _, s => s
  | n + 1, ws, s => compressBlocks n (ws.drop 16) (compress s (ws.take 16))

def beWords : List UInt8 → List Nat
  | b0 :: b1 :: b2 :: b3 :: bs =>
    (((b0.toNat * 256 + b1.toNat) * 256 + b2.toNat) * 256 + b3.toNat) :: beWords bs
  | _ => []

def pad (message : List UInt8) : List UInt8 :=
  message ++ 0x80 :: List.replicate ((119 - message.length % 64) % 64) 0 ++
    (leBytes 8 (8 * message.length)).reverse

def digest (message : List UInt8) : Bytes 32 :=
  let padded := pad message
  let s := compressBlocks (padded.length / 64) (beWords padded) initial
  ⟨[s.a, s.b, s.c, s.d, s.e, s.f, s.g, s.h].flatMap (fun w => (leBytes 4 w).reverse), by simp⟩

end Sha256
