import BalanceAttestation.PrivacyScript
import BalanceAttestation.StreamReader

/-! The words the gated-check script writes for a witness, read back in the order in
which the guest takes the fields of `PrivateInputs`. The layout is not of this
repository: it is what risc0's serde is taken to do, a word for a byte, 32-bit limbs
for an integer from the low end, a list after its length. -/

namespace BalanceAttestation

open StreamReader

namespace Risc0Serde

abbrev Decoder := Reader UInt32

def u32 : Decoder UInt32 := next

def u8 : Decoder UInt8 := do
  let word ← next
  if word.toNat < 256 then return word.toUInt8 else failure

def limbs : Nat → Decoder Nat
  | 0 => return 0
  | n + 1 => do
    let low ← next
    let high ← limbs n
    return low.toNat + 2 ^ 32 * high

def u64 : Decoder UInt64 := UInt64.ofNat <$> limbs 2

def u128 : Decoder U128 := BitVec.ofNat 128 <$> limbs 4

def bytes (n : Nat) : Decoder (Bytes n) := vector u8 n

def vec {α : Type} (element : Decoder α) : Decoder (List α) := do
  let length ← next
  list element length.toNat

end Risc0Serde

open Risc0Serde in
def PrivateInputs.deserialize : Decoder PrivateInputs := do
  let npk ← bytes 32
  let identifier ← u128
  let programOwner ← vector u32 8
  let balance ← u128
  let nonce ← u128
  let dataHash ← bytes 32
  let merklePath ← vec (bytes 32)
  let leafIndex ← u64
  return { npk, identifier, programOwner, balance, nonce, dataHash, merklePath, leafIndex }

namespace Risc0Serde

def limbWords (n v : Nat) : List UInt32 := (List.range n).map fun i => UInt32.ofNat (v >>> (32 * i))

theorem limbWords_succ (n v : Nat) :
    limbWords (n + 1) v = UInt32.ofNat v :: limbWords n (v >>> 32) := by
  rw [limbWords, List.range_succ_eq_map, List.map_cons, List.map_map]
  refine congrArg _ (List.map_congr_left fun i _ => ?_)
  rw [Function.comp_apply, ← Nat.shiftRight_add, Nat.mul_succ, Nat.add_comm]

theorem consumes_u8 (b : UInt8) : Consumes u8 [b.toUInt32] b := by
  intro rest
  have hb : b.toUInt32.toNat < 256 := by
    rw [UInt8.toNat_toUInt32]
    exact b.toNat_lt
  have hword : u8 (b.toUInt32 :: rest) = some (b.toUInt32.toUInt8, rest) := by
    change (if _ then _ else _ : Decoder UInt8) rest = _
    rw [if_pos hb]
    rfl
  rw [List.singleton_append, hword, UInt8.toUInt8_toUInt32]

theorem consumes_limbs (n v : Nat) : Consumes (limbs n) (limbWords n v) (v % 2 ^ (32 * n)) := by
  induction n generalizing v with
  | zero =>
    rw [Nat.mul_zero, Nat.pow_zero, Nat.mod_one]
    exact .pure 0
  | succ n ih =>
    have hmod : v % 2 ^ (32 * (n + 1)) =
        (UInt32.ofNat v).toNat + 2 ^ 32 * ((v >>> 32) % 2 ^ (32 * n)) := by
      rw [UInt32.toNat_ofNat', Nat.shiftRight_eq_div_pow, Nat.mul_succ, Nat.add_comm, Nat.pow_add,
        Nat.mod_mul]
    rw [hmod, limbWords_succ, ← List.singleton_append, ← List.append_nil (limbWords n _)]
    exact (Consumes.next _).bind ((ih (v >>> 32)).bind (.pure _))

theorem consumes_u64 (v : UInt64) : Consumes u64 (limbWords 2 v.toNat) v := by
  have h := (consumes_limbs 2 v.toNat).map UInt64.ofNat
  rwa [Nat.mod_eq_of_lt v.toNat_lt, UInt64.ofNat_toNat] at h

theorem consumes_u128 (v : U128) : Consumes u128 (limbWords 4 v.toNat) v := by
  have h := (consumes_limbs 4 v.toNat).map (BitVec.ofNat 128)
  rwa [Nat.mod_eq_of_lt v.isLt, BitVec.ofNat_toNat, BitVec.setWidth_eq] at h

theorem consumes_bytes {n : Nat} (bs : Bytes n) :
    Consumes (bytes n) (bs.toList.map UInt8.toUInt32) bs := by
  rw [List.map_eq_flatMap]
  exact .vector bs fun b _ => consumes_u8 b

theorem consumes_programId (words : ProgramId) : Consumes (vector u32 8) words.toList words := by
  have h := Consumes.vector words fun word _ => Consumes.next word
  rwa [List.flatMap_singleton'] at h

theorem consumes_vec {α : Type} {element : Decoder α} {enc : α → List UInt32} (as : List α)
    (hlen : as.length < 2 ^ 32) (h : ∀ a ∈ as, Consumes element (enc a) a) :
    Consumes (vec element) (UInt32.ofNat as.length :: as.flatMap enc) as := by
  have hword : (UInt32.ofNat as.length).toNat = as.length := by
    rw [UInt32.toNat_ofNat', Nat.mod_eq_of_lt hlen]
  refine (Consumes.next (UInt32.ofNat as.length)).bind ?_
  rw [hword]
  exact .list as h

end Risc0Serde

open Risc0Serde

namespace PrivateInputs

theorem consumes_risc0Words {w : PrivateInputs} (hpath : w.merklePath.length < 2 ^ 32) :
    Consumes deserialize w.risc0Words w := by
  have hwords : w.risc0Words = w.npk.toList.map UInt8.toUInt32 ++ (limbWords 4 w.identifier.toNat ++
      (w.programOwner.toList ++ (limbWords 4 w.balance.toNat ++ (limbWords 4 w.nonce.toNat ++
      (w.dataHash.toList.map UInt8.toUInt32 ++ ((UInt32.ofNat w.merklePath.length ::
        w.merklePath.flatMap fun sib => sib.toList.map UInt8.toUInt32) ++
      (limbWords 2 w.leafIndex.toNat ++ []))))))) := by
    simp [risc0Words, limbWords]
  rw [hwords]
  refine (consumes_bytes w.npk).bind ?_
  refine (consumes_u128 w.identifier).bind ?_
  refine (consumes_programId w.programOwner).bind ?_
  refine (consumes_u128 w.balance).bind ?_
  refine (consumes_u128 w.nonce).bind ?_
  refine (consumes_bytes w.dataHash).bind ?_
  refine (consumes_vec w.merklePath hpath fun sib _ => consumes_bytes sib).bind ?_
  exact (consumes_u64 w.leafIndex).bind (.pure w)

theorem risc0Words_length (w : PrivateInputs) :
    w.risc0Words.length = 87 + 32 * w.merklePath.length := by
  simp [risc0Words]
  omega

end PrivateInputs

namespace PrivacyScript

theorem risc0Words_inj {w w' : PrivateInputs} (hpath : w.merklePath.length < 2 ^ 32)
    (hpath' : w'.merklePath.length < 2 ^ 32) {root root' : Bytes 32}
    (h : risc0Words (.ofInputs w root) = risc0Words (.ofInputs w' root')) : w = w' := by
  rw [risc0Words_ofInputs hpath, risc0Words_ofInputs hpath'] at h
  have hcast : Function.Injective fun word : UInt32 => (word.toNat : Int) := by
    intro a b hab
    exact UInt32.toNat_inj.mp (Int.ofNat.inj hab)
  have hwords := List.map_injective_iff.mpr hcast h
  have hread := PrivateInputs.consumes_risc0Words hpath
  rw [hwords] at hread
  exact hread.unique (PrivateInputs.consumes_risc0Words hpath')

/-- The script's words are the ones the guest reads the witness back from. -/
theorem deserialize_risc0Words {w : PrivateInputs} (hpath : w.merklePath.length < 2 ^ 32)
    (root : Bytes 32) :
    (∃ words : List UInt32,
      risc0Words (.ofInputs w root) = words.map (fun word => (word.toNat : Int)) ∧
      PrivateInputs.deserialize words = some (w, []) ∧
      words.length = 87 + 32 * w.merklePath.length) ∧
    ∀ w' root', w'.merklePath.length < 2 ^ 32 →
      risc0Words (.ofInputs w' root') = risc0Words (.ofInputs w root) → w' = w := by
  refine ⟨⟨w.risc0Words, risc0Words_ofInputs hpath root, ?_, w.risc0Words_length⟩, ?_⟩
  · exact (PrivateInputs.consumes_risc0Words hpath).read_all
  · intro w' root' hpath' h
    exact risc0Words_inj hpath' hpath h

theorem deserialize_risc0Words_witness :
    (∃ words : List UInt32,
      risc0Words (.ofInputs (Scenario.witness 4000) Scenario.merkleRoot) =
        words.map (fun word => (word.toNat : Int)) ∧
      PrivateInputs.deserialize words = some (Scenario.witness 4000, []) ∧
      words.length = 87 + 32 * 3) ∧
    ∀ w' root', w'.merklePath.length < 2 ^ 32 →
      risc0Words (.ofInputs w' root') =
        risc0Words (.ofInputs (Scenario.witness 4000) Scenario.merkleRoot) →
      w' = Scenario.witness 4000 :=
  deserialize_risc0Words (by decide) Scenario.merkleRoot

end PrivacyScript

end BalanceAttestation
