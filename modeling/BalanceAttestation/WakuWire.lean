import BalanceAttestation.WakuRest

/-! The Waku payload on its way. The text a sender makes is standard base64; a
receiver keeps the octets its characters spell and drops what is left over. -/

namespace BalanceAttestation

open Checks Base64

namespace WakuRest

theorem T_eq_symbol : ∀ i < 2 ^ 6, T.getD i 0 = symbol i := by
  decide +kernel

theorem b64Char_eq_symbol (n : UInt32) : b64Char n = symbol (n.toNat % 2 ^ 6) := by
  rw [b64Char, mask_toNat, T_eq_symbol _ (Nat.mod_lt _ (by decide))]

theorem b64Encode_eq (bytes : List UInt8) : b64Encode bytes = encode bytes := by
  fun_induction b64Encode bytes with
  | case1 => rfl
  | case2 b0 n =>
    rw [encode_last_one rfl (octetBits_word_one b0), ← Nat.shiftRight_add, b64Char_eq_symbol,
      b64Char_eq_symbol, toNat_shift_18, toNat_shift_12]
  | case3 b0 b1 n =>
    rw [encode_last_two rfl (octetBits_word_two b0 b1), ← Nat.shiftRight_add, ← Nat.shiftRight_add,
      b64Char_eq_symbol, b64Char_eq_symbol, b64Char_eq_symbol, toNat_shift_18, toNat_shift_12, toNat_shift_6]
  | case4 b0 b1 b2 bytes n ih =>
    have hgroup := encode_group (octetBits_word b0 b1 b2) bytes
    rw [ih, b64Char_eq_symbol, b64Char_eq_symbol, b64Char_eq_symbol, b64Char_eq_symbol, toNat_shift_18,
      toNat_shift_12, toNat_shift_6]
    exact hgroup.symm

/-- The loop with an accumulator that keeps every bit. -/
def b64DecodeLoopUnbounded (acc bits : Nat) : List UInt8 → Except TransportError (List UInt8)
  | [] => .ok []
  | c :: cs => do
    let v := b64Index c
    rejectIf (v = 255)
      (.decode ("invalid base64 character " ++ debugChar c ++ " in Waku payload"))
    let acc := (acc <<< 6) ||| v.toNat
    let bits := bits + 6
    if bits ≥ 8 then
      let bits := bits - 8
      let out ← b64DecodeLoopUnbounded acc bits cs
      return UInt8.ofNat (acc >>> bits) :: out
    else b64DecodeLoopUnbounded acc bits cs

theorem shift_or_toNat {acc : UInt32} {acc' : Nat} (hacc : acc.toNat = acc' % 2 ^ 32) (v : UInt8) :
    ((acc <<< 6) ||| v.toUInt32).toNat = ((acc' <<< 6) ||| v.toNat) % 2 ^ 32 := by
  have hshift : (acc <<< 6).toNat = acc.toNat <<< 6 % 2 ^ 32 := rfl
  have hv : v.toNat % 2 ^ 32 = v.toNat := Nat.mod_eq_of_lt (lt_trans v.toNat_lt (by decide))
  rw [UInt32.toNat_or, hshift, hacc, UInt8.toNat_toUInt32, Nat.or_mod_two_pow, hv, Nat.shiftLeft_eq,
    Nat.shiftLeft_eq, Nat.mod_mul_mod]

theorem emitted_byte {acc k : UInt32} {acc' : Nat} (hk : k.toNat < 8)
    (hacc : acc.toNat = acc' % 2 ^ 32) : (acc >>> k).toUInt8 = UInt8.ofNat (acc' >>> k.toNat) := by
  rw [← UInt8.toNat_inj, UInt32.toNat_toUInt8, UInt32.toNat_shiftRight, UInt8.toNat_ofNat', hacc,
    Nat.mod_eq_of_lt (by omega : k.toNat < 32)]
  refine Nat.eq_of_testBit_eq fun i => ?_
  rw [Nat.testBit_mod_two_pow, Nat.testBit_mod_two_pow, Nat.testBit_shiftRight, Nat.testBit_shiftRight,
    Nat.testBit_mod_two_pow]
  by_cases hi : i < 8
  · have h32 : k.toNat + i < 32 := by omega
    rw [decide_eq_true h32, Bool.true_and]
  · rw [decide_eq_false hi, Bool.false_and, Bool.false_and]

theorem b64DecodeLoop_unbounded {acc bits : UInt32} {acc' : Nat} (hbits : bits.toNat < 8)
    (hacc : acc.toNat = acc' % 2 ^ 32) (cs : List UInt8) :
    b64DecodeLoop acc bits cs = b64DecodeLoopUnbounded acc' bits.toNat cs := by
  induction cs generalizing acc bits acc' with
  | nil => rfl
  | cons c cs ih =>
    have hacc' := shift_or_toNat hacc (b64Index c)
    rw [b64DecodeLoop_cons, b64DecodeLoopUnbounded]
    dsimp only
    congr 1
    funext
    rw [if_congr (eight_le_iff hbits) rfl rfl]
    by_cases hge : bits.toNat + 6 ≥ 8
    · have hsub := toNat_sub_eight hbits hge
      rw [if_pos hge, if_pos hge, emitted_byte (by omega) hacc', ih (by omega) hacc', hsub, map_eq_bind]
    · have hsum := toNat_add_six hbits
      rw [if_neg hge, if_neg hge, ih (by omega) hacc', hsum]

theorem b64Decode_whitespace (s : List UInt8) :
    b64Decode s = b64Decode (s.filter fun c => ¬ isAsciiWhitespace c) := by
  rw [b64Decode, b64Decode, List.filter_filter]
  congr 1
  refine List.filter_congr fun c _ => ?_
  simp

variable {risc0 : Risc0} {bincode : Bincode risc0}

/-- What a sender posts is standard base64, and a receiver reads it back. -/
theorem payload_survives (hbincode : bincode.RoundTrips) (b : List UInt8) :
    b64Encode b = Base64.encode b ∧ b64Decode (b64Encode b) = .ok b ∧
    (∀ s, s.filter (fun c => ¬ isAsciiWhitespace c) = b64Encode b → b64Decode s = .ok b) ∧
    (∀ s, b64Decode s = b64DecodeLoopUnbounded 0 0 (stripped s)) ∧
    ∀ e bytes, encodeEnvelope bincode e = .ok bytes →
      (b64Decode (b64Encode bytes) >>= decodeEnvelope bincode) = .ok e := by
  refine ⟨b64Encode_eq b, b64Decode_b64Encode b, ?_, ?_, ?_⟩
  · intro s hs
    rw [b64Decode_whitespace, hs]
    exact b64Decode_b64Encode b
  · intro s
    exact b64DecodeLoop_unbounded (by decide) rfl (stripped s)
  · intro e bytes h
    rw [b64Decode_b64Encode]
    exact decodeEnvelope_encodeEnvelope hbincode h

theorem payload_survives_known_vector :
    let b := ascii "hello-lp0005"
    b64Encode b = Base64.encode b ∧ b64Decode (b64Encode b) = .ok b ∧
    (∀ s, s.filter (fun c => ¬ isAsciiWhitespace c) = b64Encode b → b64Decode s = .ok b) ∧
    (∀ s, b64Decode s = b64DecodeLoopUnbounded 0 0 (stripped s)) ∧
    ∀ e bytes, encodeEnvelope (Scenario.bincode Scenario.journal) e = .ok bytes →
      (b64Decode (b64Encode bytes) >>= decodeEnvelope (Scenario.bincode Scenario.journal)) = .ok e :=
  payload_survives (Scenario.bincode_roundTrips Scenario.journal) (ascii "hello-lp0005")

theorem symbol_b64Index {c : UInt8} (hc : b64Index c ≠ 255) : symbol (b64Index c).toNat = c := by
  have hmem := mem_of_b64Index_ne hc
  have hlt := List.idxOf_lt_length_of_mem hmem
  rw [← T_eq_symbol _ (b64Index_lt hc), b64Index_toNat hmem]
  exact (List.getElem_eq_getD 0).symm.trans (List.getElem_idxOf hlt)

theorem textBits_inj {cs ds : List UInt8} (hcs : ∀ c ∈ cs, b64Index c ≠ 255)
    (hds : ∀ d ∈ ds, b64Index d ≠ 255) (h : textBits cs = textBits ds) : cs = ds := by
  induction cs generalizing ds with
  | nil =>
    cases ds with
    | nil => rfl
    | cons d ds => cases h
  | cons c cs ih =>
    cases ds with
    | nil => cases h
    | cons d ds =>
      rw [List.forall_mem_cons] at hcs hds
      rw [textBits, textBits, List.flatMap_cons, List.flatMap_cons] at h
      obtain ⟨hbits, hrest⟩ := List.append_inj h (by rw [bitsOf_length, bitsOf_length])
      have hvalue := congrArg ofBits hbits
      rw [ofBits_bitsOf, ofBits_bitsOf, Nat.mod_eq_of_lt (b64Index_lt hcs.1),
        Nat.mod_eq_of_lt (b64Index_lt hds.1)] at hvalue
      rw [← symbol_b64Index hcs.1, hvalue, symbol_b64Index hds.1, ih hcs.2 hds.2 hrest]

theorem textBits_length (cs : List UInt8) : (textBits cs).length = 6 * cs.length := by
  induction cs with
  | nil => rfl
  | cons c cs ih =>
    rw [textBits, List.flatMap_cons, List.length_append, bitsOf_length, ← textBits, ih, List.length_cons,
      Nat.mul_succ, Nat.add_comm]

theorem eq_stripped_b64Encode_iff {cs bytes : List UInt8} {rest : List Bool}
    (hcs : ∀ c ∈ cs, b64Index c ≠ 255) (hbits : textBits cs = octetBits bytes ++ rest) :
    cs = stripped (b64Encode bytes) ↔ rest.length < 6 ∧ ∀ bit ∈ rest, bit = false := by
  have hcode := textBits_b64Encode bytes
  constructor
  · intro h
    rw [h, hcode] at hbits
    rw [← List.append_cancel_left hbits, List.length_replicate]
    exact ⟨Nat.mod_lt _ (by decide), fun bit hbit => List.eq_of_mem_replicate hbit⟩
  · rintro ⟨hlt, hzero⟩
    have hrest : rest = List.replicate rest.length false := List.eq_replicate_of_mem hzero
    have hlen := textBits_length cs
    rw [hbits, List.length_append, octetBits_length] at hlen
    have hmissing : missing 6 (8 * bytes.length) = rest.length := by
      rw [missing]
      omega
    refine textBits_inj hcs (stripped_b64Encode_valid bytes) ?_
    rw [hbits, hcode, hmissing, ← hrest]

end WakuRest

/-- What the decoder took off the front is what the encoder makes of the value. -/
def Bincode.Canonical {risc0 : Risc0} (bincode : Bincode risc0) : Prop :=
  ∀ bytes e n, bincode.decodeFromSlice bytes = .ok (e, n) → bincode.encodeToVec e = .ok (bytes.take n)

namespace WakuRest

variable {risc0 : Risc0} {bincode : Bincode risc0}

/-- An accepted text spells the envelope's bytes and then anything at all. -/
theorem recv_accepts (hbincode : bincode.Canonical) {s : List UInt8} {e : CredentialEnvelope risc0}
    (h : (b64Decode s >>= decodeEnvelope bincode) = .ok e) :
    (∀ c ∈ stripped s, c ∈ T) ∧
    ∃ bytes rest, encodeEnvelope bincode e = .ok bytes ∧
      textBits (stripped s) = octetBits bytes ++ rest ∧
      (stripped s = stripped (b64Encode bytes) ↔ rest.length < 6 ∧ ∀ bit ∈ rest, bit = false) := by
  obtain ⟨received, hreceived, hdecode⟩ := bind_ok.mp h
  obtain ⟨hvalid, hoctets⟩ := b64Decode_ok.mp hreceived
  obtain ⟨consumed, hvalue⟩ := (decodeEnvelope_ok bincode).mp hdecode
  have hencode := hbincode received e consumed hvalue
  obtain ⟨left, -, hbits⟩ := exists_octetBits_append (textBits (stripped s))
  have hsplit : textBits (stripped s) = octetBits (received.take consumed) ++
      (octetBits (received.drop consumed) ++ left) := by
    conv_lhs => rw [hbits, ← hoctets, ← List.take_append_drop consumed received]
    rw [octetBits, List.flatMap_append, List.append_assoc]
    rfl
  have hsymbols : ∀ c ∈ stripped s, c ∈ T := fun c hc => mem_of_b64Index_ne (hvalid c hc)
  exact ⟨hsymbols, _, _, mapError_ok.mpr hencode, hsplit, eq_stripped_b64Encode_iff hvalid hsplit⟩

end WakuRest

namespace Scenario

/-! The scenario's codec, refusing what is not the encoding of the value it reads. -/

def canonicalBincode : Bincode Risc0.ofJournals where
  encodeToVec := (bincode journal).encodeToVec
  decodeFromSlice bytes := do
    let (e, n) ← (bincode journal).decodeFromSlice bytes
    let encoding ← (bincode journal).encodeToVec e
    rejectIf (encoding ≠ bytes.take n) "InvalidIntegerType"
    return (e, n)

theorem canonicalBincode_canonical : canonicalBincode.Canonical := by
  intro bytes e n h
  obtain ⟨⟨e', n'⟩, hdecode, hrest⟩ := bind_ok.mp h
  obtain ⟨encoding, hencode, hcheck⟩ := bind_ok.mp hrest
  obtain ⟨hencoding, he⟩ := rejectIf_bind_ok.mp hcheck
  cases he
  rw [← not_not.mp hencoding]
  exact hencode

def sentBytes : List UInt8 :=
  [1] ++ List.replicate 32 0xaa ++ varBytes [0x30, 0x06, 0x02, 0x01, 0x00, 0x02, 0x01, 0x00] ++
    varBytes (ascii "tests")

end Scenario

open Scenario WakuRest in
theorem recv_accepts_tests :
    let s := b64Encode sentBytes
    (∀ c ∈ stripped s, c ∈ T) ∧
    ∃ bytes rest, encodeEnvelope canonicalBincode (numbered (ascii "tests")) = .ok bytes ∧
      textBits (stripped s) = octetBits bytes ++ rest ∧
      (stripped s = stripped (b64Encode bytes) ↔ rest.length < 6 ∧ ∀ bit ∈ rest, bit = false) :=
  recv_accepts canonicalBincode_canonical (by decide +kernel)

open Scenario WakuRest in
/-- A character that completes no octet, one whose last bits are not zero, and a
byte after the envelope. -/
theorem recv_accepts_remainder :
    let e := numbered (ascii "tests")
    canonicalBincode.Canonical ∧
    encodeEnvelope canonicalBincode e = .ok sentBytes ∧
    ∀ s ∈ [b64Encode sentBytes ++ ascii "A", b64Encode sentBytes ++ ascii "=B",
        b64Encode (sentBytes ++ [0])],
      (b64Decode s >>= decodeEnvelope canonicalBincode) = .ok e ∧
        stripped s ≠ stripped (b64Encode sentBytes) :=
  ⟨canonicalBincode_canonical, by decide +kernel, by decide +kernel⟩

end BalanceAttestation
