import BalanceAttestation.PythonBytes

/-! Percent-encoding. A byte that is an unreserved character stands for itself, any
other is a `%` and two digits, and a decoder takes the triples back from the left. -/

namespace PercentEncoding

open Python (hexValue)

def Unreserved (c : Char) : Prop :=
  ('A' ≤ c ∧ c ≤ 'Z') ∨ ('a' ≤ c ∧ c ≤ 'z') ∨ ('0' ≤ c ∧ c ≤ '9') ∨ c = '-' ∨ c = '.' ∨ c = '_' ∨ c = '~'

def UpperHexDigit (c : Char) : Prop := ('0' ≤ c ∧ c ≤ '9') ∨ ('A' ≤ c ∧ c ≤ 'F')

instance (c : Char) : Decidable (Unreserved c) := by
  unfold Unreserved
  infer_instance

instance (c : Char) : Decidable (UpperHexDigit c) := by
  unfold UpperHexDigit
  infer_instance

/-- Unreserved characters and whole triples. -/
inductive Escaped : List Char → Prop
  | nil : Escaped []
  | char {c : Char} {cs : List Char} (hc : Unreserved c) (h : Escaped cs) : Escaped (c :: cs)
  | triple {hi lo : Char} {cs : List Char} (hhi : UpperHexDigit hi) (hlo : UpperHexDigit lo)
    (h : Escaped cs) : Escaped ('%' :: hi :: lo :: cs)

def upperDigit (d : Nat) : Char := (Nat.digitChar d).toUpper

def triple (b : UInt8) : List Char := ['%', upperDigit (b.toNat / 16), upperDigit (b.toNat % 16)]

def encodeByte (b : UInt8) : List Char :=
  let c := Char.ofNat b.toNat
  if Unreserved c then [c] else triple b

def encode (bytes : List UInt8) : List Char := bytes.flatMap encodeByte

/-- A `%` that starts no triple is left as it is. -/
def decode : List Char → List UInt8
  | [] => []
  | '%' :: hi :: lo :: cs =>
    match hexValue hi, hexValue lo with
    | some high, some low => UInt8.ofNat (16 * high + low) :: decode cs
    | _, _ => 37 :: decode (hi :: lo :: cs)
  | c :: cs => String.utf8EncodeChar c ++ decode cs

variable {c : Char} {cs : List Char} {d : Nat}

theorem Unreserved.toNat_lt (h : Unreserved c) : c.toNat < 128 := by
  rcases h with ⟨-, h⟩ | ⟨-, h⟩ | ⟨-, h⟩ | rfl | rfl | rfl | rfl
  · exact lt_of_le_of_lt (UInt32.le_iff_toNat_le.mp h) (by decide : 'Z'.toNat < 128)
  · exact lt_of_le_of_lt (UInt32.le_iff_toNat_le.mp h) (by decide : 'z'.toNat < 128)
  · exact lt_of_le_of_lt (UInt32.le_iff_toNat_le.mp h) (by decide : '9'.toNat < 128)
  all_goals decide

theorem Unreserved.ne {a : Char} (h : Unreserved c) (ha : ¬ Unreserved a) : c ≠ a := by
  rintro rfl
  exact ha h

theorem UpperHexDigit.unreserved (h : UpperHexDigit c) : Unreserved c := by
  rcases h with h | ⟨hlow, hhigh⟩
  · exact .inr (.inr (.inl h))
  · exact .inl ⟨hlow, Char.le_trans hhigh (by decide)⟩

theorem Escaped.mem (h : Escaped cs) (hc : c ∈ cs) : Unreserved c ∨ c = '%' := by
  induction h with
  | nil => cases hc
  | char hd _ ih =>
    rcases List.mem_cons.mp hc with rfl | hc
    · exact .inl hd
    · exact ih hc
  | triple hhi hlo _ ih =>
    simp only [List.mem_cons] at hc
    rcases hc with rfl | rfl | rfl | hc
    · exact .inr rfl
    · exact .inl hhi.unreserved
    · exact .inl hlo.unreserved
    · exact ih hc

theorem hexValue_upperDigit (h : d < 16) : hexValue (upperDigit d) = some d := by
  revert d
  decide

theorem decode_char (h : c ≠ '%') : decode (c :: cs) = String.utf8EncodeChar c ++ decode cs := by
  rw [decode]
  exact fun _ _ _ hc => absurd hc h

theorem decode_triple (b : UInt8) : decode (triple b ++ cs) = b :: decode cs := by
  have hb := b.toNat_lt
  have hhigh := hexValue_upperDigit (d := b.toNat / 16) (by omega)
  have hlow := hexValue_upperDigit (d := b.toNat % 16) (by omega)
  have hbyte : UInt8.ofNat (16 * (b.toNat / 16) + b.toNat % 16) = b := by
    rw [Nat.div_add_mod, UInt8.ofNat_toNat]
  rw [triple, List.cons_append, List.cons_append, List.cons_append, List.nil_append, decode, hhigh, hlow]
  exact congrArg (· :: decode cs) hbyte

theorem toNat_ofNat {n : Nat} (h : n < 256) : (Char.ofNat n).toNat = n := by
  have hvalid : n.isValidChar := .inl (by omega)
  rw [Char.ofNat, dif_pos hvalid]
  rfl

theorem utf8EncodeChar_ofNat {n : Nat} (h : n < 128) :
    String.utf8EncodeChar (Char.ofNat n) = [UInt8.ofNat n] := by
  revert n
  decide

theorem decode_encodeByte (b : UInt8) : decode (encodeByte b ++ cs) = b :: decode cs := by
  rw [encodeByte]
  by_cases hc : Unreserved (Char.ofNat b.toNat)
  · have hlt := hc.toNat_lt
    rw [toNat_ofNat b.toNat_lt] at hlt
    rw [if_pos hc, List.singleton_append, decode_char (hc.ne (by decide)), utf8EncodeChar_ofNat hlt,
      UInt8.ofNat_toNat, List.singleton_append]
  · rw [if_neg hc, decode_triple]

theorem decode_encode (bytes : List UInt8) : decode (encode bytes) = bytes := by
  induction bytes with
  | nil => rfl
  | cons b bytes ih =>
    have hcons : encode (b :: bytes) = encodeByte b ++ encode bytes := List.flatMap_cons
    rw [hcons, decode_encodeByte, ih]

end PercentEncoding
