import Mathlib.Algebra.Order.Ring.Nat
import Mathlib.Data.List.Induction

/-! Base64 as the standard states it, over strings of bits: the bytes are written
out, cut into groups of six, and each group becomes a character of the alphabet.
A receiver that goes the other way keeps the whole octets. -/

namespace Base64

section Bits

/-- The `w` low bits of `n`, most significant first. -/
def bitsOf : Nat → Nat → List Bool
  | 0, _ => []
  | w + 1, n => n.testBit w :: bitsOf w n

def ofBits (bits : List Bool) : Nat := bits.foldl (fun n b => 2 * n + b.toNat) 0

@[simp] theorem bitsOf_length (w n : Nat) : (bitsOf w n).length = w := by
  induction w with
  | zero => rfl
  | succ w ih => rw [bitsOf, List.length_cons, ih]

theorem bitsOf_congr {w n m : Nat} (h : ∀ i < w, n.testBit i = m.testBit i) :
    bitsOf w n = bitsOf w m := by
  induction w with
  | zero => rfl
  | succ w ih =>
    rw [bitsOf, bitsOf, h w w.lt_succ_self, ih fun i hi => h i (by omega)]

theorem bitsOf_mod (w n : Nat) : bitsOf w (n % 2 ^ w) = bitsOf w n := by
  refine bitsOf_congr fun i hi => ?_
  rw [Nat.testBit_mod_two_pow, decide_eq_true hi, Bool.true_and]

theorem bitsOf_add (v w n : Nat) : bitsOf (v + w) n = bitsOf v (n >>> w) ++ bitsOf w n := by
  induction v with
  | zero => rw [Nat.zero_add, bitsOf, List.nil_append]
  | succ v ih =>
    rw [Nat.succ_add, bitsOf, bitsOf, ih, Nat.testBit_shiftRight, Nat.add_comm w v,
      List.cons_append]

theorem ofBits_append_singleton (bits : List Bool) (b : Bool) :
    ofBits (bits ++ [b]) = 2 * ofBits bits + b.toNat := by
  rw [ofBits, List.foldl_append]
  rfl

theorem ofBits_bitsOf (w n : Nat) : ofBits (bitsOf w n) = n % 2 ^ w := by
  induction w generalizing n with
  | zero =>
    rw [Nat.pow_zero, Nat.mod_one]
    rfl
  | succ w ih =>
    have hlast : bitsOf 1 n = [n.testBit 0] := rfl
    rw [bitsOf_add w 1, hlast, ofBits_append_singleton, ih, Nat.testBit_zero, Nat.pow_succ', Nat.mod_mul,
      Nat.shiftRight_one, Nat.add_comm]
    congr 1
    rcases Nat.mod_two_eq_zero_or_one n with h | h <;> simp [h]

theorem bitsOf_ofBits (bits : List Bool) : bitsOf bits.length (ofBits bits) = bits := by
  induction bits using List.reverseRecOn with
  | nil => rfl
  | append_singleton bits b ih =>
    have hdiv : (2 * ofBits bits + b.toNat) >>> 1 = ofBits bits := by
      have hb := b.toNat_lt
      omega
    have hlast : bitsOf 1 (2 * ofBits bits + b.toNat) = [b] := by
      cases b <;> simp [bitsOf]
    rw [ofBits_append_singleton, List.length_append, List.length_singleton, bitsOf_add, hdiv, ih, hlast]

end Bits

section Groups

variable {α : Type*}

/-- The whole groups of `k`, from the left. -/
def groups (k : Nat) (xs : List α) : List (List α) :=
  (List.range (xs.length / k)).map fun i => (xs.drop (k * i)).take k

theorem groups_of_lt {k : Nat} {xs : List α} (h : xs.length < k) : groups k xs = [] := by
  rw [groups, Nat.div_eq_of_lt h]
  rfl

theorem groups_append {k : Nat} (hk : 0 < k) {g : List α} (hg : g.length = k) (xs : List α) :
    groups k (g ++ xs) = g :: groups k xs := by
  have hlen : (g ++ xs).length / k = xs.length / k + 1 := by
    rw [List.length_append, hg, Nat.add_div_left _ hk]
  rw [groups, hlen, List.range_succ_eq_map, List.map_cons, List.map_map, Nat.mul_zero, List.drop_zero,
    List.take_left' hg]
  refine congrArg _ (List.map_congr_left fun i _ => ?_)
  have hdrop : (g ++ xs).drop (k * (i + 1)) = xs.drop (k * i) := by
    rw [Nat.mul_succ, Nat.add_comm, ← List.drop_drop, List.drop_left' hg]
  exact congrArg (List.take k) hdrop

/-- The members that are missing for whole groups of `k`. -/
def missing (k n : Nat) : Nat := (k - n % k) % k

theorem missing_add (k m n : Nat) : missing k (k * m + n) = missing k n := by
  rw [missing, Nat.mul_add_mod, missing]

end Groups

def symbol (n : Nat) : UInt8 :=
  if n < 26 then UInt8.ofNat (65 + n)
  else if n < 52 then UInt8.ofNat (97 + (n - 26))
  else if n < 62 then UInt8.ofNat (48 + (n - 52))
  else if n = 62 then 43
  else 47

def octetBits (bytes : List UInt8) : List Bool := bytes.flatMap fun b => bitsOf 8 b.toNat

def octets (bits : List Bool) : List UInt8 := (groups 8 bits).map fun g => UInt8.ofNat (ofBits g)

def symbols (bits : List Bool) : List UInt8 := (groups 6 bits).map fun g => symbol (ofBits g)

/-- Zero bits fill the last group of six, and `=` the last four characters. -/
def encode (bytes : List UInt8) : List UInt8 :=
  let bits := octetBits bytes
  let text := symbols (bits ++ List.replicate (missing 6 bits.length) false)
  text ++ List.replicate (missing 4 text.length) 61

theorem symbols_bitsOf (n : Nat) (bits : List Bool) :
    symbols (bitsOf 6 n ++ bits) = symbol (n % 2 ^ 6) :: symbols bits := by
  rw [symbols, groups_append (by decide) (bitsOf_length 6 n), List.map_cons, ofBits_bitsOf, symbols]

theorem octetBits_length (bytes : List UInt8) : (octetBits bytes).length = 8 * bytes.length := by
  induction bytes with
  | nil => rfl
  | cons b bytes ih =>
    rw [octetBits, List.flatMap_cons, List.length_append, bitsOf_length]
    change 8 + (octetBits bytes).length = _
    rw [ih, List.length_cons, Nat.mul_succ, Nat.add_comm]

theorem octetBits_cons (b : UInt8) (bytes : List UInt8) :
    octetBits (b :: bytes) = bitsOf 8 b.toNat ++ octetBits bytes := List.flatMap_cons

theorem octets_of_lt {bits : List Bool} (h : bits.length < 8) : octets bits = [] := by
  rw [octets, groups_of_lt h, List.map_nil]

theorem octets_append {g : List Bool} (hg : g.length = 8) (bits : List Bool) :
    octets (g ++ bits) = UInt8.ofNat (ofBits g) :: octets bits := by
  rw [octets, groups_append (by decide) hg, List.map_cons, octets]

theorem octets_octetBits (bytes : List UInt8) {rest : List Bool} (hrest : rest.length < 8) :
    octets (octetBits bytes ++ rest) = bytes := by
  induction bytes with
  | nil => exact octets_of_lt hrest
  | cons b bytes ih =>
    rw [octetBits_cons, List.append_assoc, octets_append (bitsOf_length 8 _), ih, ofBits_bitsOf,
      Nat.mod_eq_of_lt b.toNat_lt, UInt8.ofNat_toNat]

/-- What is not a whole octet is all a receiver leaves. -/
theorem exists_octetBits_append (bits : List Bool) :
    ∃ rest, rest.length < 8 ∧ bits = octetBits (octets bits) ++ rest := by
  by_cases hlt : bits.length < 8
  · refine ⟨bits, hlt, ?_⟩
    rw [octets_of_lt hlt]
    rfl
  · have htake : (bits.take 8).length = 8 := List.length_take_of_le (by omega)
    obtain ⟨rest, hrest, htail⟩ := exists_octetBits_append (bits.drop 8)
    have hgroup : bitsOf 8 (UInt8.ofNat (ofBits (bits.take 8))).toNat = bits.take 8 := by
      conv_rhs => rw [← bitsOf_ofBits (bits.take 8), htake]
      rw [UInt8.toNat_ofNat', bitsOf_mod]
    refine ⟨rest, hrest, ?_⟩
    conv_lhs => rw [← List.take_append_drop 8 bits, htail, ← hgroup]
    conv_rhs => rw [← List.take_append_drop 8 bits, octets_append htake, octetBits_cons]
    rw [List.append_assoc]
termination_by bits.length
decreasing_by
  rw [List.length_drop]
  omega

theorem symbols_bitsOf_24 (n : Nat) (bits : List Bool) :
    symbols (bitsOf 24 n ++ bits) = symbol ((n >>> 18) % 2 ^ 6) :: symbol ((n >>> 12) % 2 ^ 6) ::
      symbol ((n >>> 6) % 2 ^ 6) :: symbol (n % 2 ^ 6) :: symbols bits := by
  rw [bitsOf_add 6 18, bitsOf_add 6 12, bitsOf_add 6 6, List.append_assoc, List.append_assoc,
    List.append_assoc, symbols_bitsOf, symbols_bitsOf, symbols_bitsOf, symbols_bitsOf]

theorem encode_group {g : List UInt8} {n : Nat} (hg : octetBits g = bitsOf 24 n) (bytes : List UInt8) :
    encode (g ++ bytes) = symbol ((n >>> 18) % 2 ^ 6) :: symbol ((n >>> 12) % 2 ^ 6) ::
      symbol ((n >>> 6) % 2 ^ 6) :: symbol (n % 2 ^ 6) :: encode bytes := by
  have hbits : octetBits (g ++ bytes) = bitsOf 24 n ++ octetBits bytes := by
    rw [octetBits, List.flatMap_append, ← hg]
    rfl
  have hzeros : missing 6 (octetBits (g ++ bytes)).length = missing 6 (octetBits bytes).length := by
    rw [hbits, List.length_append, bitsOf_length]
    exact missing_add 6 4 _
  have htext : ∀ text : List UInt8, ∀ a b c d,
      missing 4 (a :: b :: c :: d :: text).length = missing 4 text.length := by
    intro text a b c d
    rw [show (a :: b :: c :: d :: text).length = 4 * 1 + text.length by simp; omega, missing_add]
  rw [encode, hzeros, hbits, List.append_assoc, symbols_bitsOf_24, htext]
  rfl

theorem encode_last_two {g : List UInt8} {n : Nat} (hlen : g.length = 2)
    (hg : octetBits g ++ List.replicate 2 false = bitsOf 18 n) :
    encode g = [symbol ((n >>> 12) % 2 ^ 6), symbol ((n >>> 6) % 2 ^ 6), symbol (n % 2 ^ 6), 61] := by
  have hzeros : missing 6 (octetBits g).length = 2 := by
    rw [octetBits_length, hlen]
    rfl
  rw [encode, hzeros, hg, bitsOf_add 6 12, bitsOf_add 6 6, ← List.append_nil (bitsOf 6 n),
    symbols_bitsOf, symbols_bitsOf, symbols_bitsOf]
  rfl

theorem encode_last_one {g : List UInt8} {n : Nat} (hlen : g.length = 1)
    (hg : octetBits g ++ List.replicate 4 false = bitsOf 12 n) :
    encode g = [symbol ((n >>> 6) % 2 ^ 6), symbol (n % 2 ^ 6), 61, 61] := by
  have hzeros : missing 6 (octetBits g).length = 4 := by
    rw [octetBits_length, hlen]
    rfl
  rw [encode, hzeros, hg, bitsOf_add 6 6, ← List.append_nil (bitsOf 6 n), symbols_bitsOf, symbols_bitsOf]
  rfl

end Base64
