import BalanceAttestation.AttestCli
import BalanceAttestation.SequencerClient
import BalanceAttestation.SerdeJson
import Mathlib.Data.List.Forall2

/-! Membership proofs out of JSON. The client takes an object or a pair, and each
sibling as byte values or as a hex text; nothing else decodes. -/

namespace BalanceAttestation

open Checks SerdeJson

/-- The bytes that pairs of hex digits spell, in either case. -/
def HexCrate.spelled : List Char → Option (List UInt8)
  | [] => some []
  | [_] => none
  | c :: d :: cs => do
    let high ← Python.hexValue c
    let low ← Python.hexValue d
    let rest ← spelled cs
    return UInt8.ofNat (16 * high + low) :: rest

def HexCrate.DecodesDigits (hex : HexCrate) : Prop :=
  ∀ s bs, hex.decode s = .ok bs ↔ spelled s.toList = some bs

namespace SequencerClient

def tryFromU8 (n : UInt64) : Option UInt8 := if n.toNat < 256 then some n.toUInt8 else none

def rpc (message : String) : ClientError := .rpc (-1) message

variable (hex : HexCrate)

def hashBytes (i : Nat) (v : Value) : Except ClientError (List UInt8) :=
  match v.asArray with
  | some arr => arr.mapM fun b =>
    okOr (b.asU64.bind tryFromU8) (rpc ("sibling[" ++ toString i ++ "] contains a non-byte value"))
  | none =>
    match v.asStr with
    | some hexStr =>
      (hex.decode hexStr).mapError fun e => rpc ("sibling[" ++ toString i ++ "] hex decode: " ++ e)
    | none =>
      .error (rpc ("sibling[" ++ toString i ++ "] is neither a byte array nor a hex string"))

def decodeHash (i : Nat) (v : Value) : Except ClientError (Bytes 32) := do
  let bytes ← hashBytes hex i v
  okOr (AttestCli.array32 bytes)
    (rpc ("sibling[" ++ toString i ++ "] length " ++ toString bytes.length ++ " != 32"))

/-- The loop, `i` values in. -/
def decodeHashes (i : Nat) : List Value → Except ClientError (List (Bytes 32))
  | [] => .ok []
  | v :: values => do
    let arr ← decodeHash hex i v
    let out ← decodeHashes (i + 1) values
    return arr :: out

def decodeHashArray (values : List Value) : Except ClientError (List (Bytes 32)) :=
  decodeHashes hex 0 values

def decodeProofTuple (v : Value) : Except ClientError MembershipProof :=
  match v.asObject with
  | some obj => do
    let leafIndex ← okOr ((obj "leaf_index").bind Value.asU64)
      (rpc "missing leaf_index in MembershipProof object")
    let siblingsArr ← okOr ((obj "siblings").bind Value.asArray)
      (rpc "missing siblings in MembershipProof object")
    let siblings ← decodeHashArray hex siblingsArr
    return ⟨leafIndex, siblings⟩
  | none =>
    match v.asArray with
    | some [index, siblings] => do
      let leafIndex ← okOr index.asU64 (rpc "leaf_index is not a u64")
      let siblingsArr ← okOr siblings.asArray (rpc "siblings is not an array")
      let siblings ← decodeHashArray hex siblingsArr
      return ⟨leafIndex, siblings⟩
    | some arr => .error (rpc ("MembershipProof tuple has " ++ toString arr.length ++
        " elements (expected 2)"))
    | none => .error (rpc "MembershipProof is neither object nor tuple")

end SequencerClient

/-- 32 byte values, or their hex digits. -/
inductive IsSibling : Value → Bytes 32 → Prop
  | byteArray (h : Bytes 32) : IsSibling (.ofBytes h.toList) h
  | hexString {s : String} {h : Bytes 32} (hs : HexCrate.spelled s.toList = some h.toList) :
    IsSibling (.string s) h

inductive ProofForm : Value → MembershipProof → Prop
  | object {get : String → Option Value} {n : UInt64} {elements : List Value}
    {siblings : List (Bytes 32)} (hindex : get "leaf_index" = some (.number (.posInt n)))
    (hsiblings : get "siblings" = some (.array elements))
    (helements : List.Forall₂ IsSibling elements siblings) : ProofForm (.object get) ⟨n, siblings⟩
  | tuple {n : UInt64} {elements : List Value} {siblings : List (Bytes 32)}
    (helements : List.Forall₂ IsSibling elements siblings) :
    ProofForm (.array [.number (.posInt n), .array elements]) ⟨n, siblings⟩

namespace SequencerClient

theorem mapM_ok {α β ε : Type} {f : α → Except ε β} {as : List α} {bs : List β} :
    as.mapM f = .ok bs ↔ List.Forall₂ (fun a b => f a = .ok b) as bs := by
  induction as generalizing bs with
  | nil => simp [pure, Except.pure, eq_comm]
  | cons a as ih =>
    rw [List.mapM_cons, bind_ok, List.forall₂_cons_left_iff]
    refine exists_congr fun b => ?_
    rw [bind_ok, ← exists_and_left]
    refine exists_congr fun rest => ?_
    rw [ih]
    exact and_congr_right fun _ => and_congr_right fun _ => ⟨fun h => (Except.ok.inj h).symm, fun h => h ▸ rfl⟩

theorem byte_eq_ok {v : Value} {b : UInt8} {e : ClientError} :
    okOr (v.asU64.bind tryFromU8) e = .ok b ↔ v = .number (.posInt b.toUInt64) := by
  rw [okOr_ok, Option.bind_eq_some_iff]
  constructor
  · rintro ⟨n, hn, hb⟩
    obtain ⟨hlt, hb⟩ := Option.ite_none_right_eq_some.mp hb
    have hwide : n = n.toUInt8.toUInt64 := by
      rw [← UInt64.toNat_inj, UInt8.toNat_toUInt64, UInt64.toNat_toUInt8, Nat.mod_eq_of_lt hlt]
    rw [Value.asU64_eq_some.mp hn, ← Option.some.inj hb, ← hwide]
  · rintro rfl
    refine ⟨_, rfl, ?_⟩
    rw [tryFromU8, if_pos (by simp [b.toNat_lt]), UInt8.toUInt8_toUInt64]

theorem hashBytes_array {i : Nat} {elements : List Value} {bytes : List UInt8} {hex : HexCrate} :
    hashBytes hex i (.array elements) = .ok bytes ↔ Value.array elements = .ofBytes bytes := by
  rw [hashBytes, Value.asArray]
  simp only [mapM_ok, byte_eq_ok, Value.ofBytes, Value.array.injEq]
  rw [← List.forall₂_map_right_iff, List.forall₂_eq_eq_eq]

variable {hex : HexCrate}

theorem hashBytes_ok (hhex : hex.DecodesDigits) {i : Nat} {v : Value} {bytes : List UInt8} :
    hashBytes hex i v = .ok bytes ↔
      v = .ofBytes bytes ∨ ∃ s, v = .string s ∧ HexCrate.spelled s.toList = some bytes := by
  cases v with
  | array elements => simp [hashBytes_array]
  | string s =>
    change (hex.decode s).mapError _ = .ok bytes ↔ _
    rw [mapError_ok, hhex]
    simp [Value.ofBytes]
  | null | bool _ | number _ | object _ => simp [hashBytes, Value.asArray, Value.asStr, Value.ofBytes]

theorem decodeHash_ok (hhex : hex.DecodesDigits) {i : Nat} {v : Value} {h : Bytes 32} :
    decodeHash hex i v = .ok h ↔ IsSibling v h := by
  have hlen : ∀ bytes e, okOr (AttestCli.array32 bytes) e = (.ok h : Except ClientError _) ↔
      bytes = h.toList := fun bytes e => okOr_ok.trans ByteLayout.ofSlice_eq_some
  simp only [decodeHash, bind_ok, hashBytes_ok hhex, hlen, exists_eq_right]
  constructor
  · rintro (rfl | ⟨s, rfl, hs⟩)
    · exact .byteArray h
    · exact .hexString hs
  · rintro (_ | hs)
    · exact .inl rfl
    · exact .inr ⟨_, rfl, hs⟩

theorem decodeHashes_ok (hhex : hex.DecodesDigits) {i : Nat} {values : List Value}
    {siblings : List (Bytes 32)} :
    decodeHashes hex i values = .ok siblings ↔ List.Forall₂ IsSibling values siblings := by
  induction values generalizing i siblings with
  | nil => simp [decodeHashes, eq_comm]
  | cons v values ih =>
    rw [decodeHashes, bind_ok, List.forall₂_cons_left_iff]
    refine exists_congr fun h => ?_
    rw [decodeHash_ok hhex, bind_ok, ← exists_and_left]
    refine exists_congr fun rest => ?_
    rw [ih]
    exact and_congr_right fun _ => and_congr_right fun _ => ⟨fun h => (Except.ok.inj h).symm, fun h => h ▸ rfl⟩

theorem bind_asU64_eq_some {v : Option Value} {n : UInt64} :
    v.bind Value.asU64 = some n ↔ v = some (.number (.posInt n)) := by
  simp [Option.bind_eq_some_iff, Value.asU64_eq_some]

theorem bind_asArray_eq_some {v : Option Value} {elements : List Value} :
    v.bind Value.asArray = some elements ↔ v = some (.array elements) := by
  simp [Option.bind_eq_some_iff, Value.asArray_eq_some]

theorem members_ok (hhex : hex.DecodesDigits) (index siblings : Option Value) {e e' : ClientError}
    {p : MembershipProof} :
    (do
      let leafIndex ← okOr (index.bind Value.asU64) e
      let siblingsArr ← okOr (siblings.bind Value.asArray) e'
      let out ← decodeHashArray hex siblingsArr
      return (⟨leafIndex, out⟩ : MembershipProof)) = .ok p ↔
    index = some (.number (.posInt p.leafIndex)) ∧ ∃ elements, siblings = some (.array elements) ∧
      List.Forall₂ IsSibling elements p.siblings := by
  simp only [bind_ok, okOr_ok, bind_asU64_eq_some, bind_asArray_eq_some, decodeHashArray,
    decodeHashes_ok hhex]
  constructor
  · rintro ⟨n, hindex, elements, hsiblings, out, hout, hp⟩
    obtain rfl := Except.ok.inj hp
    exact ⟨hindex, elements, hsiblings, hout⟩
  · rintro ⟨hindex, elements, hsiblings, hout⟩
    exact ⟨_, hindex, elements, hsiblings, _, hout, rfl⟩

theorem decodeProofTuple_ok (hhex : hex.DecodesDigits) {v : Value} {p : MembershipProof} :
    decodeProofTuple hex v = .ok p ↔ ProofForm v p := by
  constructor
  · intro h
    cases v with
    | object get =>
      obtain ⟨hindex, elements, hsiblings, hout⟩ := (members_ok hhex _ _).mp h
      exact .object hindex hsiblings hout
    | array arr =>
      match arr, h with
      | [index, siblings], h =>
        obtain ⟨hindex, elements, hsiblings, hout⟩ := (members_ok hhex (some index) (some siblings)).mp h
        rw [Option.some.inj hindex, Option.some.inj hsiblings]
        exact .tuple hout
      | [], h => cases h
      | [_], h => cases h
      | _ :: _ :: _ :: _, h => cases h
    | null | bool _ | number _ | string _ => cases h
  · rintro (⟨hindex, hsiblings, hout⟩ | @⟨n, elements, siblings, hout⟩)
    · exact (members_ok hhex _ _).mpr ⟨hindex, _, hsiblings, hout⟩
    · exact (members_ok hhex (some _) (some _) (p := ⟨n, siblings⟩)).mpr ⟨rfl, _, rfl, hout⟩

/-! What cannot be decoded is reported under a code of the client's own. -/

def IsOwn (e : ClientError) : Prop := ∃ message, e = rpc message

theorem decodeHash_error (i : Nat) (v : Value) : OnlyFails IsOwn (decodeHash hex i v) := by
  have hbytes : OnlyFails IsOwn (hashBytes hex i v) := by
    unfold hashBytes
    split
    · exact .mapM (fun _ => .okOr ⟨_, rfl⟩) _
    · split
      · exact .mapError (fun _ => ⟨_, rfl⟩) _
      · exact .error ⟨_, rfl⟩
  exact hbytes.bind fun _ => .okOr ⟨_, rfl⟩

theorem decodeHashes_error (i : Nat) (values : List Value) : OnlyFails IsOwn (decodeHashes hex i values) := by
  induction values generalizing i with
  | nil => exact .ok []
  | cons v values ih => exact (decodeHash_error i v).bind fun _ => (ih (i + 1)).bind fun _ => .ok _

theorem decodeProofTuple_error (v : Value) : OnlyFails IsOwn (decodeProofTuple hex v) := by
  have hmembers (index siblings : Option Value) (e e' : String) : OnlyFails IsOwn (do
      let leafIndex ← okOr (index.bind Value.asU64) (rpc e)
      let siblingsArr ← okOr (siblings.bind Value.asArray) (rpc e')
      let out ← decodeHashArray hex siblingsArr
      return (⟨leafIndex, out⟩ : MembershipProof)) := by
    refine .bind (.okOr ⟨e, rfl⟩) fun _ => .bind (.okOr ⟨e', rfl⟩) fun elements => ?_
    exact (decodeHashes_error 0 elements).bind fun _ => .ok _
  cases v with
  | object get => exact hmembers _ _ _ _
  | array arr =>
    match arr with
    | [index, siblings] => exact hmembers (some index) (some siblings) _ _
    | [] => exact .error ⟨_, rfl⟩
    | [_] => exact .error ⟨_, rfl⟩
    | _ :: _ :: _ :: _ => exact .error ⟨_, rfl⟩
  | null | bool _ | number _ | string _ => exact .error ⟨_, rfl⟩

end SequencerClient

namespace MembershipProof

variable (p : MembershipProof)

def siblingArrays : List Value := p.siblings.map fun s => .ofBytes s.toList

/-- As the client's own serializer writes it. -/
def toValue : Value :=
  .ofMembers [("leaf_index", .number (.posInt p.leafIndex)), ("siblings", .array p.siblingArrays)]

def byteTuple : Value := .array [.number (.posInt p.leafIndex), .array p.siblingArrays]

def hexTuple : Value := .array [.number (.posInt p.leafIndex),
  .array (p.siblings.map fun s => .string (Python.hex s.toList))]

theorem siblingArrays_siblings : List.Forall₂ IsSibling p.siblingArrays p.siblings := by
  rw [siblingArrays, List.forall₂_map_left_iff, List.forall₂_same]
  exact fun h _ => .byteArray h

end MembershipProof

theorem HexCrate.spelled_hex (bs : List UInt8) : spelled (Python.hex bs).toList = some bs := by
  rw [Python.hex, String.toList_ofList]
  induction bs with
  | nil => rfl
  | cons b bs ih =>
    have hb := b.toNat_lt
    have hhigh := Python.hexValue_digitChar (d := b.toNat / 16) (by omega)
    have hlow := Python.hexValue_digitChar (d := b.toNat % 16) (by omega)
    have hbyte : UInt8.ofNat (16 * (b.toNat / 16) + b.toNat % 16) = b := by
      rw [Nat.div_add_mod, UInt8.ofNat_toNat]
    rw [List.flatMap_cons, Python.hexPair, List.cons_append, List.cons_append, List.nil_append, spelled,
      hhigh, hlow, ih]
    exact congrArg (fun c => some (c :: bs)) hbyte

theorem MembershipProof.proofForm (p : MembershipProof) :
    ProofForm p.byteTuple p ∧ ProofForm p.hexTuple p ∧ ProofForm p.toValue p := by
  refine ⟨.tuple p.siblingArrays_siblings, .tuple ?_, .object rfl rfl p.siblingArrays_siblings⟩
  rw [List.forall₂_map_left_iff, List.forall₂_same]
  exact fun h _ => .hexString (HexCrate.spelled_hex h.toList)

/-- The client decodes what its grammar allows and nothing else. -/
theorem decodeProofTuple_exact {hex : HexCrate} (hhex : hex.DecodesDigits) :
    (∀ v p, SequencerClient.decodeProofTuple hex v = .ok p ↔ ProofForm v p) ∧
    (∀ v, (¬ ∃ p, ProofForm v p) → ∃ e, SequencerClient.decodeProofTuple hex v = .error e) ∧
    ∀ p : MembershipProof, ∀ form ∈ [p.byteTuple, p.hexTuple, p.toValue],
      SequencerClient.decodeProofTuple hex form = .ok p := by
  have hok := fun v p => SequencerClient.decodeProofTuple_ok hhex (v := v) (p := p)
  refine ⟨hok, ?_, ?_⟩
  · intro v hv
    cases h : SequencerClient.decodeProofTuple hex v with
    | error e => exact ⟨e, rfl⟩
    | ok p => exact absurd ⟨p, (hok v p).mp h⟩ hv
  · intro p form hform
    obtain ⟨hbytes, hhexes, hobject⟩ := p.proofForm
    simp only [List.mem_cons, List.not_mem_nil, or_false] at hform
    rcases hform with rfl | rfl | rfl
    · exact (hok _ p).mpr hbytes
    · exact (hok _ p).mpr hhexes
    · exact (hok _ p).mpr hobject

/-- The crate's decoder, without the place of a bad digit. -/
def Scenario.digitsCrate : HexCrate where
  encode := Python.hex
  decode s := okOr (HexCrate.spelled s.toList) "Invalid character"

theorem decodeProofTuple_exact_digits :
    (∀ v p, SequencerClient.decodeProofTuple Scenario.digitsCrate v = .ok p ↔ ProofForm v p) ∧
    (∀ v, (¬ ∃ p, ProofForm v p) →
      ∃ e, SequencerClient.decodeProofTuple Scenario.digitsCrate v = .error e) ∧
    ∀ p : MembershipProof, ∀ form ∈ [p.byteTuple, p.hexTuple, p.toValue],
      SequencerClient.decodeProofTuple Scenario.digitsCrate form = .ok p :=
  decodeProofTuple_exact fun _ _ => okOr_ok

end BalanceAttestation
