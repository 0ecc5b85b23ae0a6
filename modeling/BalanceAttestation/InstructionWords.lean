import BalanceAttestation.MarkerChain
import BalanceAttestation.WitnessCodec

/-! The words between the programs. The gate reads a witness out of its arguments and
hands an instruction on, the attestation program reads that, and a receipt carries the
words of a journal. In the layout assumed of risc0's serde each is read back in one
way only. -/

namespace BalanceAttestation

open Checks StreamReader

namespace Risc0Serde

theorem canonical_u8 : Canonical u8 fun b => [b.toUInt32] := by
  intro ws b rest h
  obtain ⟨word, mid, hword, h⟩ := bind_eq_some.mp h
  have hword : ws = word :: mid := Canonical.next hword
  by_cases hlt : word.toNat < 256
  · rw [if_pos hlt] at h
    obtain ⟨rfl, rfl⟩ := pure_eq_some.mp h
    have hwide : word.toUInt8.toUInt32 = word := by
      apply UInt32.toNat_inj.mp
      rw [UInt8.toNat_toUInt32, UInt32.toNat_toUInt8]
      exact Nat.mod_eq_of_lt hlt
    change ws = [word.toUInt8.toUInt32] ++ mid
    rw [hword, hwide]
    rfl
  · rw [if_neg hlt] at h
    cases h

theorem limbs_eq_some {n v : Nat} {ws rest : List UInt32} (h : limbs n ws = some (v, rest)) :
    v < 2 ^ (32 * n) ∧ ws = limbWords n v ++ rest := by
  induction n generalizing v ws with
  | zero =>
    obtain ⟨rfl, rfl⟩ := pure_eq_some.mp h
    exact ⟨by decide, rfl⟩
  | succ n ih =>
    obtain ⟨low, mid, hlow, h⟩ := bind_eq_some.mp h
    obtain ⟨high, left, hhigh, h⟩ := bind_eq_some.mp h
    obtain ⟨rfl, rfl⟩ := pure_eq_some.mp h
    obtain ⟨hlt, hmid⟩ := ih hhigh
    have hlow : ws = low :: mid := Canonical.next hlow
    have hword := low.toNat_lt
    have hfirst : UInt32.ofNat (low.toNat + 2 ^ 32 * high) = low := by
      apply UInt32.toNat_inj.mp
      rw [UInt32.toNat_ofNat']
      omega
    have hshift : (low.toNat + 2 ^ 32 * high) >>> 32 = high := by
      rw [Nat.shiftRight_eq_div_pow]
      omega
    refine ⟨?_, ?_⟩
    · rw [Nat.mul_succ, Nat.add_comm, Nat.pow_add]
      generalize 2 ^ (32 * n) = bound at hlt ⊢
      omega
    · rw [hlow, hmid, limbWords_succ, hfirst, hshift]
      rfl

theorem canonical_u64 : Canonical u64 fun v => limbWords 2 v.toNat := by
  intro ws v rest h
  obtain ⟨n, hn, rfl⟩ := map_eq_some.mp h
  obtain ⟨hlt, hws⟩ := limbs_eq_some hn
  have hnat : (UInt64.ofNat n).toNat = n := UInt64.toNat_ofNat_of_lt' hlt
  change ws = limbWords 2 (UInt64.ofNat n).toNat ++ rest
  rw [hws, hnat]

theorem canonical_u128 : Canonical u128 fun v => limbWords 4 v.toNat := by
  intro ws v rest h
  obtain ⟨n, hn, rfl⟩ := map_eq_some.mp h
  obtain ⟨hlt, hws⟩ := limbs_eq_some hn
  have hnat : (BitVec.ofNat 128 n).toNat = n := by
    rw [BitVec.toNat_ofNat]
    exact Nat.mod_eq_of_lt hlt
  change ws = limbWords 4 (BitVec.ofNat 128 n).toNat ++ rest
  rw [hws, hnat]

theorem canonical_bytes (n : Nat) : Canonical (bytes n) fun bs => bs.toList.map UInt8.toUInt32 := by
  intro ws bs rest h
  change ws = bs.toList.map UInt8.toUInt32 ++ rest
  rw [List.map_eq_flatMap]
  exact canonical_u8.vector n h

theorem canonical_programId : Canonical (vector u32 8) fun words => words.toList := by
  intro ws words rest h
  have hws : ws = words.toList.flatMap (fun word => [word]) ++ rest := Canonical.next.vector 8 h
  rw [List.flatMap_singleton'] at hws
  exact hws

theorem vec_eq_some {α : Type} {element : Decoder α} {enc : α → List UInt32} (h : Canonical element enc)
    {ws rest : List UInt32} {as : List α} (hread : vec element ws = some (as, rest)) :
    as.length < 2 ^ 32 ∧ ws = UInt32.ofNat as.length :: as.flatMap enc ++ rest := by
  obtain ⟨length, mid, hlength, hread⟩ := bind_eq_some.mp hread
  have hlength : ws = length :: mid := Canonical.next hlength
  have hsame := length_of_list hread
  have hlt := length.toNat_lt
  refine ⟨by omega, ?_⟩
  rw [hlength, h.list _ hread, hsame, UInt32.ofNat_toNat]
  rfl

end Risc0Serde

open Risc0Serde

/-- The words are the layout of the witness, and nothing else is read as it. -/
theorem PrivateInputs.deserialize_eq_some {ws rest : List UInt32} {w : PrivateInputs} :
    PrivateInputs.deserialize ws = some (w, rest) ↔
      w.merklePath.length < 2 ^ 32 ∧ ws = w.risc0Words ++ rest := by
  constructor
  · intro h
    simp only [PrivateInputs.deserialize, bind_eq_some, pure_eq_some] at h
    obtain ⟨npk, _, hnpk, identifier, _, hidentifier, programOwner, _, hprogramOwner, balance, _, hbalance,
      nonce, _, hnonce, dataHash, _, hdataHash, merklePath, _, hmerklePath, leafIndex, _, hleafIndex, rfl,
      rfl⟩ := h
    obtain ⟨hlength, hpath⟩ := vec_eq_some (canonical_bytes 32) hmerklePath
    refine ⟨hlength, ?_⟩
    rw [canonical_bytes 32 hnpk, canonical_u128 hidentifier, canonical_programId hprogramOwner,
      canonical_u128 hbalance, canonical_u128 hnonce, canonical_bytes 32 hdataHash, hpath,
      canonical_u64 hleafIndex]
    simp [risc0Words, limbWords]
  · rintro ⟨hlength, rfl⟩
    exact PrivateInputs.consumes_risc0Words hlength rest

namespace AttestStatement

def risc0Words (s : AttestStatement) : List UInt32 :=
  s.merkleRoot.toList.map UInt8.toUInt32 ++ limbWords 4 s.threshold.toNat ++
    s.contextId.toList.map UInt8.toUInt32 ++ s.presenterPubkey.toList.map UInt8.toUInt32

def deserialize : Decoder AttestStatement := do
  let merkleRoot ← bytes 32
  let threshold ← u128
  let contextId ← bytes 32
  let presenterPubkey ← bytes 33
  return { merkleRoot, threshold, contextId, presenterPubkey }

theorem consumes_risc0Words (s : AttestStatement) : Consumes deserialize s.risc0Words s := by
  have hwords : s.risc0Words = s.merkleRoot.toList.map UInt8.toUInt32 ++ (limbWords 4 s.threshold.toNat ++
      (s.contextId.toList.map UInt8.toUInt32 ++ (s.presenterPubkey.toList.map UInt8.toUInt32 ++ []))) := by
    simp only [risc0Words, List.append_assoc, List.append_nil]
  rw [hwords]
  refine (consumes_bytes s.merkleRoot).bind ?_
  refine (consumes_u128 s.threshold).bind ?_
  refine (consumes_bytes s.contextId).bind ?_
  exact (consumes_bytes s.presenterPubkey).bind (.pure s)

theorem canonical : Canonical deserialize risc0Words := by
  intro ws s rest h
  simp only [deserialize, bind_eq_some, pure_eq_some] at h
  obtain ⟨merkleRoot, _, hroot, threshold, _, hthreshold, contextId, _, hcontext, presenterPubkey, _, hkey,
    rfl, rfl⟩ := h
  rw [canonical_bytes 32 hroot, canonical_u128 hthreshold, canonical_bytes 32 hcontext,
    canonical_bytes 33 hkey]
  simp only [risc0Words, List.append_assoc]

theorem deserialize_eq_some {ws rest : List UInt32} {s : AttestStatement} :
    deserialize ws = some (s, rest) ↔ ws = s.risc0Words ++ rest := by
  constructor
  · intro h
    exact canonical h
  · rintro rfl
    exact s.consumes_risc0Words rest

end AttestStatement

namespace AttestInstruction

def risc0Words (i : AttestInstruction) : List UInt32 := i.witness.risc0Words ++ i.statement.risc0Words

def deserialize : Decoder AttestInstruction := do
  let witness ← PrivateInputs.deserialize
  let statement ← AttestStatement.deserialize
  return { witness, statement }

theorem deserialize_eq_some {ws rest : List UInt32} {i : AttestInstruction} :
    deserialize ws = some (i, rest) ↔
      i.witness.merklePath.length < 2 ^ 32 ∧ ws = i.risc0Words ++ rest := by
  simp only [deserialize, bind_eq_some, pure_eq_some]
  constructor
  · rintro ⟨witness, _, hwitness, statement, _, hstatement, rfl, rfl⟩
    obtain ⟨hlength, rfl⟩ := PrivateInputs.deserialize_eq_some.mp hwitness
    have hwords := AttestStatement.deserialize_eq_some.mp hstatement
    exact ⟨hlength, by rw [hwords, risc0Words, List.append_assoc]⟩
  · rintro ⟨hlength, rfl⟩
    rw [risc0Words, List.append_assoc]
    exact ⟨i.witness, _, PrivateInputs.deserialize_eq_some.mpr ⟨hlength, rfl⟩, i.statement, _,
      AttestStatement.deserialize_eq_some.mpr rfl, rfl, rfl⟩

end AttestInstruction

namespace PublicJournal

def risc0Words (j : PublicJournal) : List UInt32 :=
  j.statement.risc0Words ++ j.nullifier.toList.map UInt8.toUInt32

def deserialize : Decoder PublicJournal := do
  let merkleRoot ← bytes 32
  let threshold ← u128
  let contextId ← bytes 32
  let presenterPubkey ← bytes 33
  let nullifier ← bytes 32
  return { merkleRoot, threshold, contextId, presenterPubkey, nullifier }

/-- A journal is laid out as its statement with the nullifier after it. -/
theorem deserialize_eq : deserialize = do
    let s ← AttestStatement.deserialize
    let nullifier ← bytes 32
    return ⟨s.merkleRoot, s.threshold, s.contextId, s.presenterPubkey, nullifier⟩ := by
  simp only [deserialize, AttestStatement.deserialize, bind_assoc, pure_bind]

theorem deserialize_eq_some {ws rest : List UInt32} {j : PublicJournal} :
    deserialize ws = some (j, rest) ↔ ws = j.risc0Words ++ rest := by
  simp only [deserialize_eq, bind_eq_some, pure_eq_some]
  constructor
  · rintro ⟨s, _, hs, nullifier, _, hnullifier, rfl, rfl⟩
    rw [AttestStatement.canonical hs, canonical_bytes 32 hnullifier, risc0Words, List.append_assoc]
    rfl
  · rintro rfl
    rw [risc0Words, List.append_assoc]
    exact ⟨j.statement, _, AttestStatement.deserialize_eq_some.mpr rfl, j.nullifier, _,
      consumes_bytes j.nullifier rest, rfl, rfl⟩

end PublicJournal

/-- What each program reads back from words is what their layout spells out, and a
witness of any length but one that its length word cannot hold has a layout. -/
theorem words_exact :
    (∀ ws rest w, PrivateInputs.deserialize ws = some (w, rest) ↔
      w.merklePath.length < 2 ^ 32 ∧ ws = w.risc0Words ++ rest) ∧
    (∀ ws rest i, AttestInstruction.deserialize ws = some (i, rest) ↔
      i.witness.merklePath.length < 2 ^ 32 ∧ ws = i.risc0Words ++ rest) ∧
    (∀ ws rest j, PublicJournal.deserialize ws = some (j, rest) ↔ ws = j.risc0Words ++ rest) := by
  refine ⟨?_, ?_, ?_⟩
  · intro ws rest w
    exact PrivateInputs.deserialize_eq_some
  · intro ws rest i
    exact AttestInstruction.deserialize_eq_some
  · intro ws rest j
    exact PublicJournal.deserialize_eq_some

/-- What follows the witness in the words is left unread. -/
def PrivateInputs.fromSlice (words : List UInt32) : Option PrivateInputs :=
  (deserialize words).map Prod.fst

theorem PrivateInputs.fromSlice_eq_some {words : List UInt32} {w : PrivateInputs} :
    fromSlice words = some w ↔ w.merklePath.length < 2 ^ 32 ∧ ∃ rest, words = w.risc0Words ++ rest := by
  rw [fromSlice, Option.map_eq_some_iff]
  constructor
  · rintro ⟨⟨w', rest⟩, h, rfl⟩
    obtain ⟨hlength, hwords⟩ := PrivateInputs.deserialize_eq_some.mp h
    exact ⟨hlength, rest, hwords⟩
  · rintro ⟨hlength, rest, hwords⟩
    exact ⟨(w, rest), PrivateInputs.deserialize_eq_some.mpr ⟨hlength, hwords⟩, rfl⟩

/-- The attestation program reads its instruction out of words and emits these. -/
def AttestationLez.Emits (sha256 : HashFn) (input : ProgramInput AttestInstruction)
    (callee : ProgramOutput) : Prop :=
  ∃ words rest, AttestInstruction.deserialize words = some (input.instruction, rest) ∧
    AttestationLez.main sha256 input words = .ok callee

section

variable {sha256 : HashFn} {k256 : K256} {gateMarker presenter : AccountWithMetadata}
  {args : DeepGatedCheckArgs} {out : SpelOutput AccountWithMetadata AttestInstruction}
  {i : AttestInstruction} {input : ProgramInput AttestInstruction} {callee : ProgramOutput}

theorem AttestationLez.Emits.attested (h : AttestationLez.Emits sha256 input callee) :
    ∃ n, attest sha256 input.instruction.witness input.instruction.statement = .ok n ∧ n ≠ zeroBytes := by
  obtain ⟨words, rest, hread, hmain⟩ := h
  obtain ⟨n, hn, hz, -⟩ := AttestationLez.main_eq_ok.mp hmain
  exact ⟨n, hn, hz⟩

/-- The emitted words decide the instruction that ran. -/
theorem AttestationLez.Emits.instruction_eq (hlength : i.witness.merklePath.length < 2 ^ 32)
    (h : AttestationLez.Emits sha256 input callee) (hwords : callee.instructionData = i.risc0Words) :
    input.instruction = i := by
  obtain ⟨words, rest, hread, hmain⟩ := h
  obtain ⟨n, hn, hz, rfl⟩ := AttestationLez.main_eq_ok.mp hmain
  have hdeclared : AttestInstruction.deserialize words = some (i, []) := by
    refine AttestInstruction.deserialize_eq_some.mpr ⟨hlength, ?_⟩
    rw [List.append_nil]
    exact hwords
  exact congrArg Prod.fst (Option.some.inj (hread.symm.trans hdeclared))

/-- The program can emit an instruction's words exactly when it holds of the instruction. -/
theorem AttestationLez.exists_emits_iff (hlength : i.witness.merklePath.length < 2 ^ 32) :
    (∃ input callee, AttestationLez.Emits sha256 input callee ∧ callee.instructionData = i.risc0Words) ↔
      ∃ n, attest sha256 i.witness i.statement = .ok n ∧ n ≠ zeroBytes := by
  constructor
  · rintro ⟨input, callee, hemits, hdata⟩
    rw [← hemits.instruction_eq hlength hdata]
    exact hemits.attested
  · rintro ⟨n, hn, hz⟩
    have hread : AttestInstruction.deserialize i.risc0Words = some (i, []) :=
      AttestInstruction.deserialize_eq_some.mpr ⟨hlength, (List.append_nil _).symm⟩
    exact ⟨⟨ATTESTATION_LEZ_PROGRAM_ID, none, [], i⟩, _,
      ⟨i.risc0Words, [], hread, AttestationLez.main_eq_ok.mpr ⟨n, hn, hz, rfl⟩⟩, rfl⟩

/-- A caller cannot claim a marker for one nullifier while having proved another: the
output that carries the declared words ran the declared instruction, and exists exactly
when that instruction attests to the nullifier of the call. -/
theorem chained_call_bound
    (hok : Deep.gatedCheck sha256 k256 PrivateInputs.fromSlice gateMarker presenter args = .ok out) :
    ∃ call rest, out.chained = [call] ∧
      args.witnessWords = call.instruction.witness.risc0Words ++ rest ∧
      (∀ input callee, AttestationLez.Emits sha256 input callee →
        callee.instructionData = call.instruction.risc0Words → input.instruction = call.instruction) ∧
      ((∃ input callee, AttestationLez.Emits sha256 input callee ∧
          callee.instructionData = call.instruction.risc0Words) ↔
        attest sha256 call.instruction.witness call.instruction.statement = .ok args.nullifier ∧
          args.nullifier ≠ zeroBytes) := by
  obtain ⟨pk, w, hp, rfl⟩ := Deep.gatedCheck_eq_ok.mp hok
  obtain ⟨hlength, rest, hwords⟩ := PrivateInputs.fromSlice_eq_some.mp hp.witness
  refine ⟨_, rest, rfl, hwords, ?_, ?_⟩
  · intro input callee hemits hdata
    exact hemits.instruction_eq hlength hdata
  · rw [AttestationLez.exists_emits_iff hlength]
    constructor
    · rintro ⟨n, hn, hz⟩
      have hsame : n = args.nullifier := (attest_eq_ok.mp hn).2.2.symm.trans hp.nullifier
      rw [← hsame]
      exact ⟨hn, hz⟩
    · intro h
      exact ⟨args.nullifier, h⟩

/-- The chain of markers counts a call exactly when its gate returned under the marker's
address and the attestation program can emit the words of what the gate declared. -/
theorem GateCall.accepted_iff_emits {pda : Bytes 32 → Bytes 32} {c : GateCall} :
    c.accepted sha256 k256 PrivateInputs.fromSlice pda = true ↔
      c.gateMarker.accountId = pda c.args.gateTag ∧ ∃ out,
        Deep.gatedCheck sha256 k256 PrivateInputs.fromSlice c.gateMarker c.presenter c.args = .ok out ∧
        ∀ call ∈ out.chained, ∃ input callee, AttestationLez.Emits sha256 input callee ∧
          callee.instructionData = call.instruction.risc0Words := by
  cases hout : Deep.gatedCheck sha256 k256 PrivateInputs.fromSlice c.gateMarker c.presenter c.args with
  | error e => simp [GateCall.accepted, hout]
  | ok out =>
    rw [GateCall.accepted_iff hout]
    obtain ⟨pk, w, hp, rfl⟩ := Deep.gatedCheck_eq_ok.mp hout
    obtain ⟨hlength, -⟩ := PrivateInputs.fromSlice_eq_some.mp hp.witness
    have hcall (stmt : AttestStatement) : (∃ input callee, AttestationLez.Emits sha256 input callee ∧
        callee.instructionData = (⟨w, stmt⟩ : AttestInstruction).risc0Words) ↔
          ∃ n, attest sha256 w stmt = .ok n ∧ n ≠ zeroBytes :=
      AttestationLez.exists_emits_iff (i := ⟨w, stmt⟩) hlength
    simp [ChainedCall.returns_iff, hcall]

end

namespace Scenario

theorem fromSlice_honest : PrivateInputs.fromSlice honest.witnessWords = some (witness 4000) :=
  PrivateInputs.fromSlice_eq_some.mpr ⟨by decide, [], (List.append_nil _).symm⟩

theorem gatedCheck_words : Deep.gatedCheck Sha256.digest honestK256 PrivateInputs.fromSlice gateMarker
    (presenter 4000) honest = .ok (output gateMarker (presenter 4000) 4000 honest) := by
  have hp : Deep.Passes Sha256.digest honestK256 (fromSlice 4000) (presenter 4000) honest pubkey
      (witness 4000) := passes (BitVec.le_refl 4000) (BitVec.le_refl 4000) digest_eq gateTag_eq
  exact Deep.gatedCheck_eq_ok.mpr ⟨pubkey, witness 4000, { hp with witness := fromSlice_honest }, rfl⟩

end Scenario

open Scenario in
theorem chained_call_bound_honest :
    ∃ call rest, (output gateMarker (presenter 4000) 4000 honest).chained = [call] ∧
      honest.witnessWords = call.instruction.witness.risc0Words ++ rest ∧
      (∀ input callee, AttestationLez.Emits Sha256.digest input callee →
        callee.instructionData = call.instruction.risc0Words → input.instruction = call.instruction) ∧
      ((∃ input callee, AttestationLez.Emits Sha256.digest input callee ∧
          callee.instructionData = call.instruction.risc0Words) ↔
        attest Sha256.digest call.instruction.witness call.instruction.statement = .ok honest.nullifier ∧
          honest.nullifier ≠ zeroBytes) :=
  chained_call_bound gatedCheck_words

end BalanceAttestation
