import BalanceAttestation.ByteLayout

/-! Step 3 of the on-chain proof script. It looks for the receipt by the first
offset whose four bytes say how much of the transaction is left. -/

namespace BalanceAttestation

namespace OnchainProofScript

open ByteLayout

/-- The first length prefix of more than 100000 bytes that run to the end. -/
def receiptOffset (raw : List UInt8) : Option Nat :=
  (List.range' 1 (raw.length - 5 - 1)).find? fun off =>
    let n := ofLeBytes ((raw.drop off).take 4)
    n > 100000 ∧ off + 4 + n = raw.length

def receiptKind (raw : List UInt8) : Int :=
  match receiptOffset raw with
  | some off => (raw.getD (off + 4) 0).toNat
  | none => -1

/-- What the step prints, as `ok` or as `bad`. -/
def checkReceipt (raw : List UInt8) : Except String String :=
  let kind := receiptKind raw
  if kind = 1 then .ok "InnerReceipt variant 1 = Succinct (a real STARK)"
  else if kind = 0 then .ok "InnerReceipt variant 0 = Composite (a real STARK)"
  else if kind = 2 then .ok "InnerReceipt variant 2 = Groth16 (a real SNARK)"
  else if kind = 3 then .error "InnerReceipt variant 3 = Fake — this is a RISC0_DEV_MODE receipt"
  else .error ("could not decode the InnerReceipt variant (got " ++ toString kind ++ ")")

/-- The proof as the last field, after its length. -/
def transaction (pre payload : List UInt8) : List UInt8 := pre ++ leBytes 4 payload.length ++ payload

/-- Some earlier offset spells the rest of the transaction. -/
def Misleads (pre : List UInt8) (n : Nat) : Prop :=
  ∃ off, 1 ≤ off ∧ off < pre.length ∧
    ofLeBytes (((pre ++ leBytes 4 n).drop off).take 4) = pre.length - off + n

section

variable {pre payload : List UInt8}

theorem transaction_length : (transaction pre payload).length = pre.length + 4 + payload.length := by
  rw [transaction, List.length_append, List.length_append, leBytes_length]

theorem word_of_le {off : Nat} (h : off ≤ pre.length) :
    ((transaction pre payload).drop off).take 4 =
      ((pre ++ leBytes 4 payload.length).drop off).take 4 := by
  have hlen : off ≤ (pre ++ leBytes 4 payload.length).length := by
    rw [List.length_append]
    omega
  have hword : 4 ≤ ((pre ++ leBytes 4 payload.length).drop off).length := by
    rw [List.length_drop, List.length_append, leBytes_length]
    omega
  rw [transaction, List.drop_append_of_le_length hlen, List.take_append_of_le_length hword]

theorem word_at_length (h : payload.length < 2 ^ 32) :
    ofLeBytes (((transaction pre payload).drop pre.length).take 4) = payload.length := by
  rw [word_of_le le_rfl, List.drop_left, List.take_of_length_le (by rw [leBytes_length]),
    ofLeBytes_leBytes]
  exact Nat.mod_eq_of_lt h

theorem receiptKind_of_offset (h : receiptOffset (transaction pre payload) = some pre.length) :
    receiptKind (transaction pre payload) = (payload.getD 0 0).toNat := by
  have hlen : (pre ++ leBytes 4 payload.length).length = pre.length + 4 := by
    rw [List.length_append, leBytes_length]
  rw [receiptKind, h]
  dsimp only
  rw [transaction, ← hlen, List.getD_eq_getElem?_getD, List.getElem?_append_right le_rfl, Nat.sub_self,
    List.getD_eq_getElem?_getD]

theorem receiptOffset_eq_iff (hpre : pre ≠ []) (hlow : 100000 < payload.length)
    (hhigh : payload.length < 2 ^ 32) :
    receiptOffset (transaction pre payload) = some pre.length ↔ ¬ Misleads pre payload.length := by
  have hpos := List.length_pos_iff.mpr hpre
  rw [receiptOffset, List.find?_range'_eq_some, transaction_length, word_at_length hhigh]
  constructor
  · rintro ⟨-, -, hfirst⟩ ⟨off, hoff, hlt, hword⟩
    have hno := hfirst off hoff hlt
    rw [word_of_le hlt.le, hword] at hno
    simp only [Bool.not_eq_true', decide_eq_false_iff_not] at hno
    omega
  · intro hmisleads
    refine ⟨by simpa using hlow, List.mem_range'_1.mpr ⟨hpos, by omega⟩, fun off hoff hlt => ?_⟩
    rw [word_of_le hlt.le]
    simp only [Bool.not_eq_true', decide_eq_false_iff_not]
    rintro ⟨-, hend⟩
    exact hmisleads ⟨off, hoff, hlt, by omega⟩

/-- The step reads the receipt exactly when no earlier bytes spell the rest. -/
theorem receipt_read_iff (hpre : pre ≠ []) (hlow : 100000 < payload.length)
    (hhigh : payload.length < 2 ^ 32) :
    (receiptOffset (transaction pre payload) = some pre.length ∧
      receiptKind (transaction pre payload) = (payload.getD 0 0).toNat) ↔
        ¬ Misleads pre payload.length := by
  rw [← receiptOffset_eq_iff hpre hlow hhigh]
  exact ⟨fun h => h.1, fun h => ⟨h, receiptKind_of_offset h⟩⟩

end

def prefixed : List UInt8 := 1 :: List.replicate 7 7

theorem prefixed_misleads_not : ¬ Misleads prefixed 100001 := by
  have hwords : ∀ off < prefixed.length, 1 ≤ off →
      ofLeBytes (((prefixed ++ leBytes 4 100001).drop off).take 4) ≠ prefixed.length - off + 100001 := by
    decide
  rintro ⟨off, hpos, hlt, hword⟩
  exact hwords off hlt hpos hword

theorem receipt_read_prefixed :
    let payload : List UInt8 := 1 :: List.replicate 100000 0
    receiptOffset (transaction prefixed payload) = some 8 ∧
      receiptKind (transaction prefixed payload) = 1 := by
  intro payload
  have hlen : payload.length = 100001 := by
    rw [List.length_cons, List.length_replicate]
  have hmisleads : ¬ Misleads prefixed payload.length := by
    rw [hlen]
    exact prefixed_misleads_not
  exact (receipt_read_iff (by decide) (by omega) (by omega)).mpr hmisleads

def misleading : List UInt8 := [0] ++ leBytes 4 100006 ++ [1]

/-- A fake receipt after a field whose bytes count to the end of the transaction. -/
theorem fake_receipt_read_as_real :
    let payload : List UInt8 := 3 :: List.replicate 100000 0
    let raw := transaction misleading payload
    receiptOffset raw = some 1 ∧ receiptKind raw = 1 ∧
      checkReceipt raw = .ok "InnerReceipt variant 1 = Succinct (a real STARK)" ∧
      payload.getD 0 0 = 3 := by
  intro payload raw
  have hlen : payload.length = 100001 := by
    rw [List.length_cons, List.length_replicate]
  have hraw : raw.length = 100011 := by
    rw [transaction_length, hlen]
    rfl
  have hword : ofLeBytes ((raw.drop 1).take 4) = 100006 := by
    rw [word_of_le (by decide), hlen]
    decide +kernel
  have hoffset : receiptOffset raw = some 1 := by
    rw [receiptOffset, List.find?_range'_eq_some, hword, hraw]
    refine ⟨by decide, List.mem_range'_1.mpr ⟨le_rfl, by decide⟩, fun j hj hlt => by omega⟩
  have hkind : receiptKind raw = 1 := by
    rw [receiptKind, hoffset]
    rfl
  refine ⟨hoffset, hkind, ?_, rfl⟩
  rw [checkReceipt, hkind]
  rfl

end OnchainProofScript

end BalanceAttestation
