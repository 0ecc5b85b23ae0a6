import Mathlib.Tactic.IntervalCases
import BalanceAttestation.Base64
import BalanceAttestation.Envelope

/-! The base64 of the Waku transport: three bytes to four characters, and back
through an accumulator of 32 bits of which only the last few matter. Both ways are
read as bits: a text spells six a character, and its whole octets are the bytes. -/

namespace BalanceAttestation

open Checks Base64

namespace WakuRest

def T : List UInt8 := ascii "ABCDEFGHIJKLMNOPQRSTUVWXYZabcdefghijklmnopqrstuvwxyz0123456789+/"

def b64Char (n : UInt32) : UInt8 := T.getD (n &&& 63).toNat 0

def b64Word (b0 b1 b2 : UInt8) : UInt32 :=
  (b0.toUInt32 <<< 16) ||| (b1.toUInt32 <<< 8) ||| b2.toUInt32

/-- The bytes of the text, which is all ASCII. -/
def b64Encode : List UInt8 → List UInt8
  | [] => []
  | [b0] =>
    let n := b64Word b0 0 0
    [b64Char (n >>> 18), b64Char (n >>> 12), 61, 61]
  | [b0, b1] =>
    let n := b64Word b0 b1 0
    [b64Char (n >>> 18), b64Char (n >>> 12), b64Char (n >>> 6), 61]
  | b0 :: b1 :: b2 :: bytes =>
    let n := b64Word b0 b1 b2
    b64Char (n >>> 18) :: b64Char (n >>> 12) :: b64Char (n >>> 6) :: b64Char n :: b64Encode bytes

/-- The position of a character in the table, 255 for one that is not there. -/
def b64Index (c : UInt8) : UInt8 :=
  if c ∈ T then UInt8.ofNat (T.idxOf c) else 255

def isAsciiWhitespace (c : UInt8) : Bool := c = 32 ∨ c = 9 ∨ c = 10 ∨ c = 12 ∨ c = 13

/-- `{:?}` of a character below 256. -/
def debugChar (c : UInt8) : String :=
  let n := c.toNat
  let text :=
    if n = 0 then "\\0"
    else if n = 9 then "\\t"
    else if n = 13 then "\\r"
    else if n = 10 then "\\n"
    else if n = 39 then "\\'"
    else if n = 92 then "\\\\"
    else if n < 32 ∨ (127 ≤ n ∧ n ≤ 160) ∨ n = 173 then
      "\\u\x7b" ++ String.ofList (Nat.toDigits 16 n) ++ "\x7d"
    else String.singleton (Char.ofNat n)
  "'" ++ text ++ "'"

/-- The loop over the characters that are neither padding nor space. -/
def b64DecodeLoop (acc bits : UInt32) : List UInt8 → Except TransportError (List UInt8)
  | [] => .ok []
  | c :: cs => do
    let v := b64Index c
    rejectIf (v = 255)
      (.decode ("invalid base64 character " ++ debugChar c ++ " in Waku payload"))
    let acc := (acc <<< 6) ||| v.toUInt32
    let bits := bits + 6
    if bits ≥ 8 then
      let bits := bits - 8
      let out ← b64DecodeLoop acc bits cs
      return (acc >>> bits).toUInt8 :: out
    else b64DecodeLoop acc bits cs

def b64Decode (s : List UInt8) : Except TransportError (List UInt8) :=
  b64DecodeLoop 0 0 (s.filter fun c => c ≠ 61 ∧ ¬ isAsciiWhitespace c)

/-- The characters a receiver reads. -/
def stripped (s : List UInt8) : List UInt8 := s.filter fun c => c ≠ 61 ∧ ¬ isAsciiWhitespace c

def textBits (cs : List UInt8) : List Bool := cs.flatMap fun c => bitsOf 6 (b64Index c).toNat

theorem mask_toNat (n : UInt32) : (n &&& 63).toNat = n.toNat % 2 ^ 6 := by
  rw [UInt32.toNat_and]
  exact Nat.and_two_pow_sub_one_eq_mod n.toNat 6

theorem b64Char_of_table {P : UInt8 → Prop} (h : ∀ i < 2 ^ 6, P (T.getD i 0)) (n : UInt32) :
    P (b64Char n) := by
  rw [b64Char, mask_toNat]
  exact h _ (Nat.mod_lt _ (by decide))

theorem b64Index_b64Char (n : UInt32) : (b64Index (b64Char n)).toNat = n.toNat % 2 ^ 6 := by
  have htable : ∀ i < 2 ^ 6, (b64Index (T.getD i 0)).toNat = i := by decide +kernel
  rw [b64Char, mask_toNat, htable _ (Nat.mod_lt _ (by decide))]

theorem b64Index_b64Char_ne (n : UInt32) : b64Index (b64Char n) ≠ 255 := by
  intro h
  have hlt : n.toNat % 2 ^ 6 < 2 ^ 6 := Nat.mod_lt _ (by decide)
  rw [← b64Index_b64Char, h] at hlt
  contradiction

theorem stripped_b64Char (n : UInt32) (cs : List UInt8) :
    stripped (b64Char n :: cs) = b64Char n :: stripped cs := by
  have htable : ∀ i < 2 ^ 6, T.getD i 0 ≠ 61 ∧ ¬ isAsciiWhitespace (T.getD i 0) := by decide +kernel
  have hread : b64Char n ≠ 61 ∧ ¬ isAsciiWhitespace (b64Char n) :=
    b64Char_of_table (P := fun c => c ≠ 61 ∧ ¬ isAsciiWhitespace c) htable n
  exact List.filter_cons_of_pos (decide_eq_true hread)

theorem bitsOf_toUInt8 (n : UInt32) : bitsOf 8 n.toUInt8.toNat = bitsOf 8 n.toNat := by
  rw [UInt32.toNat_toUInt8, bitsOf_mod]

theorem byte_ext {b c : UInt8} (h : ∀ i < 8, b.toBitVec.getLsbD i = c.toBitVec.getLsbD i) : b = c :=
  UInt8.toBitVec_inj.mp (BitVec.eq_of_getLsbD_eq h)

section Words

variable (b0 b1 b2 : UInt8)

theorem word_first : (b64Word b0 b1 b2 >>> 16).toUInt8 = b0 := by
  refine byte_ext fun i hi => ?_
  interval_cases i <;> simp [b64Word]

theorem word_second : (b64Word b0 b1 b2 >>> 8).toUInt8 = b1 := by
  refine byte_ext fun i hi => ?_
  interval_cases i <;> simp [b64Word]

theorem word_third : (b64Word b0 b1 b2).toUInt8 = b2 := by
  refine byte_ext fun i hi => ?_
  interval_cases i <;> simp [b64Word]

theorem octetBits_word : octetBits [b0, b1, b2] = bitsOf 24 (b64Word b0 b1 b2).toNat := by
  have h16 : (b64Word b0 b1 b2 >>> 16).toNat = (b64Word b0 b1 b2).toNat >>> 16 := rfl
  have h8 : (b64Word b0 b1 b2 >>> 8).toNat = (b64Word b0 b1 b2).toNat >>> 8 := rfl
  rw [octetBits_cons, octetBits_cons, octetBits_cons, octetBits, List.flatMap_nil, List.append_nil,
    bitsOf_add 8 16, bitsOf_add 8 8, ← h16, ← h8, ← bitsOf_toUInt8, ← bitsOf_toUInt8, ← bitsOf_toUInt8,
    word_first, word_second, word_third]

/-! A last group is one whose other bytes are zero. -/

theorem octetBits_word_two :
    octetBits [b0, b1] ++ List.replicate 2 false = bitsOf 18 ((b64Word b0 b1 0).toNat >>> 6) := by
  have h := octetBits_word b0 b1 0
  rw [bitsOf_add 18 6] at h
  have hzero : octetBits [b0, b1, 0] =
      (octetBits [b0, b1] ++ List.replicate 2 false) ++ List.replicate 6 false := by
    rw [List.append_assoc]
    rfl
  exact List.append_inj_left (hzero.symm.trans h)
    (by rw [List.length_append, octetBits_length, bitsOf_length]; rfl)

theorem octetBits_word_one :
    octetBits [b0] ++ List.replicate 4 false = bitsOf 12 ((b64Word b0 0 0).toNat >>> 12) := by
  have h := octetBits_word b0 0 0
  rw [bitsOf_add 12 12] at h
  have hzero : octetBits [b0, 0, 0] =
      (octetBits [b0] ++ List.replicate 4 false) ++ List.replicate 12 false := by
    rw [List.append_assoc]
    rfl
  exact List.append_inj_left (hzero.symm.trans h)
    (by rw [List.length_append, octetBits_length, bitsOf_length]; rfl)

end Words

section Shifts

variable (n : UInt32)

theorem toNat_shift_18 : (n >>> 18).toNat = n.toNat >>> 18 := rfl

theorem toNat_shift_12 : (n >>> 12).toNat = n.toNat >>> 12 := rfl

theorem toNat_shift_6 : (n >>> 6).toNat = n.toNat >>> 6 := rfl

end Shifts

theorem b64DecodeLoop_cons (acc bits : UInt32) (c : UInt8) (cs : List UInt8) :
    b64DecodeLoop acc bits (c :: cs) =
      (rejectIf (b64Index c = 255)
        (.decode ("invalid base64 character " ++ debugChar c ++ " in Waku payload")) >>= fun _ =>
      let acc := (acc <<< 6) ||| (b64Index c).toUInt32
      if bits + 6 ≥ 8 then
        (b64DecodeLoop acc (bits + 6 - 8) cs).map ((acc >>> (bits + 6 - 8)).toUInt8 :: ·)
      else b64DecodeLoop acc (bits + 6) cs) := by
  rw [b64DecodeLoop]
  simp only [map_eq_bind]

theorem mem_of_b64Index_ne {c : UInt8} (h : b64Index c ≠ 255) : c ∈ T := by
  by_contra hc
  exact h (if_neg hc)

theorem idxOf_lt {c : UInt8} (hc : c ∈ T) : T.idxOf c < 2 ^ 6 := by
  have hlength : T.length = 2 ^ 6 := by decide +kernel
  rw [← hlength]
  exact List.idxOf_lt_length_of_mem hc

theorem b64Index_toNat {c : UInt8} (hc : c ∈ T) : (b64Index c).toNat = T.idxOf c := by
  have hlt := idxOf_lt hc
  rw [b64Index, if_pos hc, UInt8.toNat_ofNat']
  exact Nat.mod_eq_of_lt (by omega)

theorem b64Index_lt {c : UInt8} (h : b64Index c ≠ 255) : (b64Index c).toNat < 2 ^ 6 := by
  have hc := mem_of_b64Index_ne h
  rw [b64Index_toNat hc]
  exact idxOf_lt hc

/-- The accumulator holds the bits that are in no octet yet, below older ones. -/
theorem bitsOf_step (acc bits : UInt32) {v : UInt8} (hbits : bits.toNat < 8) (hv : v.toNat < 2 ^ 6) :
    bitsOf (bits.toNat + 6) ((acc <<< 6) ||| v.toUInt32).toNat =
      bitsOf bits.toNat acc.toNat ++ bitsOf 6 v.toNat := by
  have htest : ∀ i, ((acc <<< 6) ||| v.toUInt32).toNat.testBit i =
      (decide (i < 32) && (decide (6 ≤ i) && acc.toNat.testBit (i - 6)) || v.toNat.testBit i) := by
    intro i
    rw [UInt32.toNat_or, Nat.testBit_or, UInt32.toNat_shiftLeft, Nat.testBit_mod_two_pow,
      UInt8.toNat_toUInt32]
    exact congrArg (fun b => decide (i < 32) && b || _) (Nat.testBit_shiftLeft ..)
  rw [bitsOf_add]
  congr 1
  · refine bitsOf_congr fun i hi => ?_
    have hlow : v.toNat.testBit (6 + i) = false :=
      Nat.testBit_lt_two_pow (lt_of_lt_of_le hv (Nat.pow_le_pow_right (by decide) (by omega)))
    have h32 : 6 + i < 32 := by omega
    rw [Nat.testBit_shiftRight, htest, hlow]
    simp [h32]
  · refine bitsOf_congr fun i hi => ?_
    have h6 : ¬ 6 ≤ i := by omega
    rw [htest]
    simp [h6]

section Count

variable {bits : UInt32}

theorem toNat_add_six (hbits : bits.toNat < 8) : (bits + 6).toNat = bits.toNat + 6 := by
  rw [UInt32.toNat_add]
  exact Nat.mod_eq_of_lt (by change _ + 6 < _; omega)

theorem eight_le_iff (hbits : bits.toNat < 8) : bits + 6 ≥ 8 ↔ bits.toNat + 6 ≥ 8 := by
  rw [← toNat_add_six hbits]
  exact UInt32.le_iff_toNat_le

theorem toNat_sub_eight (hbits : bits.toNat < 8) (hge : bits.toNat + 6 ≥ 8) :
    (bits + 6 - 8).toNat = bits.toNat + 6 - 8 := by
  rw [UInt32.toNat_sub_of_le _ _ ((eight_le_iff hbits).mpr hge), toNat_add_six hbits]
  rfl

end Count

theorem b64DecodeLoop_ok {acc bits : UInt32} {cs out : List UInt8} (hbits : bits.toNat < 8) :
    b64DecodeLoop acc bits cs = .ok out ↔
      (∀ c ∈ cs, b64Index c ≠ 255) ∧ out = octets (bitsOf bits.toNat acc.toNat ++ textBits cs) := by
  induction cs generalizing acc bits out with
  | nil =>
    have hnil : octets (bitsOf bits.toNat acc.toNat ++ textBits []) = [] := by
      apply octets_of_lt
      rwa [textBits, List.flatMap_nil, List.append_nil, bitsOf_length]
    rw [hnil]
    simp [b64DecodeLoop, eq_comm]
  | cons c cs ih =>
    rw [b64DecodeLoop_cons, rejectIf_bind_ok, List.forall_mem_cons, and_assoc]
    refine and_congr_right fun hc => ?_
    have hv := b64Index_lt hc
    have hcons : textBits (c :: cs) = bitsOf 6 (b64Index c).toNat ++ textBits cs := List.flatMap_cons
    rw [hcons, ← List.append_assoc, ← bitsOf_step acc bits hbits hv]
    dsimp only
    generalize (acc <<< 6) ||| (b64Index c).toUInt32 = acc'
    rw [if_congr (eight_le_iff hbits) rfl rfl]
    by_cases hge : bits.toNat + 6 ≥ 8
    · have hsub := toNat_sub_eight hbits hge
      have hsplit : bitsOf (bits.toNat + 6) acc'.toNat =
          bitsOf 8 (acc' >>> (bits + 6 - 8)).toUInt8.toNat ++ bitsOf (bits + 6 - 8).toNat acc'.toNat := by
        rw [bitsOf_toUInt8, UInt32.toNat_shiftRight, Nat.mod_eq_of_lt (by omega), hsub, ← bitsOf_add]
        congr 1
        omega
      rw [if_pos hge, map_eq_bind, bind_ok, hsplit, List.append_assoc, octets_append (bitsOf_length 8 _),
        ofBits_bitsOf, Nat.mod_eq_of_lt (UInt8.toNat_lt _), UInt8.ofNat_toNat]
      have hnext : (bits + 6 - 8).toNat < 8 := by omega
      constructor
      · rintro ⟨rest, hrest, hout⟩
        obtain ⟨hcs, rfl⟩ := (ih hnext).mp hrest
        exact ⟨hcs, (Except.ok.inj hout).symm⟩
      · rintro ⟨hcs, rfl⟩
        exact ⟨_, (ih hnext).mpr ⟨hcs, rfl⟩, rfl⟩
    · rw [if_neg hge, ih (by rw [toNat_add_six hbits]; omega), toNat_add_six hbits]

theorem b64Decode_ok {s out : List UInt8} : b64Decode s = .ok out ↔
    (∀ c ∈ stripped s, b64Index c ≠ 255) ∧ out = octets (textBits (stripped s)) :=
  b64DecodeLoop_ok (by decide)

theorem textBits_cons (n : UInt32) (cs : List UInt8) :
    textBits (b64Char n :: cs) = bitsOf 6 n.toNat ++ textBits cs := by
  rw [textBits, List.flatMap_cons, b64Index_b64Char, bitsOf_mod, textBits]

theorem textBits_b64Encode (bytes : List UInt8) :
    textBits (stripped (b64Encode bytes)) =
      octetBits bytes ++ List.replicate (missing 6 (8 * bytes.length)) false := by
  fun_induction b64Encode bytes with
  | case1 => rfl
  | case2 b0 n =>
    have hword := octetBits_word_one b0
    rw [bitsOf_add 6 6, ← Nat.shiftRight_add] at hword
    rw [stripped_b64Char, stripped_b64Char, textBits_cons, textBits_cons, toNat_shift_18, toNat_shift_12]
    have hpad : textBits (stripped [61, 61]) = [] := by decide +kernel
    have hzeros : missing 6 (8 * [b0].length) = 4 := by
      rw [List.length_singleton]
      decide
    rw [hpad, List.append_nil, hzeros, hword]
  | case3 b0 b1 n =>
    have hword := octetBits_word_two b0 b1
    rw [bitsOf_add 6 12, bitsOf_add 6 6, ← Nat.shiftRight_add, ← Nat.shiftRight_add] at hword
    rw [stripped_b64Char, stripped_b64Char, stripped_b64Char, textBits_cons, textBits_cons, textBits_cons,
      toNat_shift_18, toNat_shift_12, toNat_shift_6]
    have hpad : textBits (stripped [61]) = [] := by decide +kernel
    have hzeros : missing 6 (8 * [b0, b1].length) = 2 := by
      rw [List.length_cons, List.length_singleton]
      decide
    rw [hpad, List.append_nil, hzeros, hword]
  | case4 b0 b1 b2 bytes n ih =>
    have hword := octetBits_word b0 b1 b2
    rw [bitsOf_add 6 18, bitsOf_add 6 12, bitsOf_add 6 6] at hword
    have hzeros : missing 6 (8 * (b0 :: b1 :: b2 :: bytes).length) = missing 6 (8 * bytes.length) := by
      rw [← missing_add 6 4 (8 * bytes.length)]
      exact congrArg (missing 6) (by simp only [List.length_cons]; omega)
    have hcons : octetBits (b0 :: b1 :: b2 :: bytes) = octetBits [b0, b1, b2] ++ octetBits bytes :=
      @List.flatMap_append _ _ [b0, b1, b2] _ _
    rw [stripped_b64Char, stripped_b64Char, stripped_b64Char, stripped_b64Char, textBits_cons,
      textBits_cons, textBits_cons, textBits_cons, toNat_shift_18, toNat_shift_12, toNat_shift_6, ih,
      hzeros, hcons, hword]
    simp only [List.append_assoc]
    rfl

theorem stripped_b64Encode_valid (bytes : List UInt8) :
    ∀ c ∈ stripped (b64Encode bytes), b64Index c ≠ 255 := by
  have hpad : stripped [61, 61] = [] ∧ stripped [61] = [] := by decide +kernel
  fun_induction b64Encode bytes with
  | case1 => exact nofun
  | case2 b0 n =>
    rw [stripped_b64Char, stripped_b64Char, hpad.1]
    simp [b64Index_b64Char_ne]
  | case3 b0 b1 n =>
    rw [stripped_b64Char, stripped_b64Char, stripped_b64Char, hpad.2]
    simp [b64Index_b64Char_ne]
  | case4 b0 b1 b2 bytes n ih =>
    rw [stripped_b64Char, stripped_b64Char, stripped_b64Char, stripped_b64Char]
    simp only [List.forall_mem_cons]
    have hchar := b64Index_b64Char_ne
    exact ⟨hchar _, hchar _, hchar _, hchar _, ih⟩

theorem b64Decode_b64Encode (bytes : List UInt8) : b64Decode (b64Encode bytes) = .ok bytes := by
  have hzeros : (List.replicate (missing 6 (8 * bytes.length)) false).length < 8 := by
    rw [List.length_replicate, missing]
    exact lt_trans (Nat.mod_lt _ (by decide)) (by decide)
  rw [b64Decode_ok, textBits_b64Encode, octets_octetBits bytes hzeros]
  exact ⟨stripped_b64Encode_valid bytes, rfl⟩

example : b64Encode (ascii "hello-lp0005") = ascii "aGVsbG8tbHAwMDA1" := by decide +kernel

end WakuRest

end BalanceAttestation
