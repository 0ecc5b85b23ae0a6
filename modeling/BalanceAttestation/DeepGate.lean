import BalanceAttestation.GateAgreement

/-! What the deep gate has established when it returns, and what that says
about the balances: the anchored one and the attested one. -/

namespace BalanceAttestation

open ByteLayout Checks

def GatedCheckArgs.presentation (args : GatedCheckArgs) (pk : Bytes 33) : Presentation where
  journal := args.journal pk
  nonce := args.presenterNonce
  signatureDer := args.presenterSignatureDer
  expectedContextId := args.expectedContextId
  minimumThreshold := args.minimumThreshold

namespace Deep

/-- Every check of the deep gate, one field each, for the key and the witness
the arguments decode to. -/
structure Passes (sha256 : HashFn) (k256 : K256) (fromSlice : List UInt32 → Option PrivateInputs)
    (presenter : AccountWithMetadata) (args : DeepGatedCheckArgs) (pk : Bytes 33)
    (w : PrivateInputs) : Prop where
  context : args.contextId = args.expectedContextId
  floor : args.minimumThreshold ≤ args.threshold
  key : args.presenterPubkey = pk.toList
  signature : SignatureVerifies sha256 k256 args.presenterNonce (args.journal pk)
    args.presenterSignatureDer
  witness : fromSlice args.witnessWords = some w
  nullifier : computeNullifier sha256 pk args.contextId (w.accountId sha256) = args.nullifier
  account : presenter.accountId = w.accountId sha256
  owner : presenter.account.programOwner = AUTHENTICATED_TRANSFER_PROGRAM_ID
  balance : args.minimumThreshold ≤ presenter.account.balance
  tag : computeGateTag sha256 args.nullifier args.minimumThreshold args.expectedContextId =
    args.gateTag

variable {sha256 : HashFn} {k256 : K256} {fromSlice : List UInt32 → Option PrivateInputs}
  {gateMarker presenter : AccountWithMetadata} {args : DeepGatedCheckArgs}
  {out : SpelOutput AccountWithMetadata AttestInstruction}

theorem checkPresentation_eq_ok {args : GatedCheckArgs} {pk : Bytes 33} :
    checkPresentation sha256 k256 args = .ok pk ↔
      args.presenterPubkey = pk.toList ∧ (args.presentation pk).judge sha256 k256 = .ok () := by
  have hargs (hkey : args.presenterPubkey = pk.toList) : (args.presentation pk).args = args := by
    rw [Presentation.args, GatedCheckArgs.presentation, GatedCheckArgs.journal, ← hkey]
  constructor
  · intro h
    have hkey : args.presenterPubkey = pk.toList := by
      simp only [checkPresentation, rejectIf_bind_ok, okOr_bind_ok, pubkeyBytes_eq_some] at h
      obtain ⟨_, _, k, hk, h⟩ := h
      obtain ⟨_, _, h⟩ := bind_ok.mp h
      rw [hk, Except.ok.inj h]
    rw [← hargs hkey, checkPresentation_eq] at h
    refine ⟨hkey, ?_⟩
    cases hj : (args.presentation pk).judge sha256 k256 with
    | ok => rfl
    | error fault =>
      rw [hj] at h
      cases h
  · intro h
    obtain ⟨hkey, hj⟩ := h
    rw [← hargs hkey, checkPresentation_eq, hj]
    rfl

theorem gatedCheck_eq_ok : gatedCheck sha256 k256 fromSlice gateMarker presenter args = .ok out ↔
    ∃ pk w, Passes sha256 k256 fromSlice presenter args pk w ∧ out = ⟨[gateMarker, presenter],
      [⟨ATTESTATION_LEZ_PROGRAM_ID, [],
        ⟨w, ⟨args.merkleRoot, args.threshold, args.contextId, pk⟩⟩⟩]⟩ := by
  simp only [gatedCheck, bind_ok (x := checkPresentation _ _ _), checkPresentation_eq_ok,
    judge_eq_ok, checkAttested, okOr_bind_ok, rejectIf_bind_ok, not_not, BitVec.not_lt]
  constructor
  · intro h
    obtain ⟨pk, ⟨hkey, hctx, hfloor, hsig⟩, w, hw, hn, ha, ho, hb, ht, hout⟩ := h
    exact ⟨pk, w, ⟨hctx, hfloor, hkey, hsig, hw, hn, ha, ho, hb, ht⟩, (Except.ok.inj hout).symm⟩
  · intro h
    obtain ⟨pk, w, hp, rfl⟩ := h
    exact ⟨pk, ⟨hp.key, hp.context, hp.floor, hp.signature⟩, w, hp.witness, hp.nullifier,
      hp.account, hp.owner, hp.balance, hp.tag, rfl⟩

/-- An accepted call with a chained attestation that returns anchors the floor,
not the attested threshold: that one is met by the witness's balance, and by
the anchored balance once it is no more than the floor or the witness claims no
more than the anchored balance. -/
theorem gatedCheck_balance
    (hok : gatedCheck sha256 k256 fromSlice gateMarker presenter args = .ok out)
    (hchain : ∀ call ∈ out.chained, ∃ n,
      attest sha256 call.instruction.witness call.instruction.statement = .ok n) :
    args.minimumThreshold ≤ presenter.account.balance ∧
    ∃ w, fromSlice args.witnessWords = some w ∧
      args.minimumThreshold ≤ args.threshold ∧ args.threshold ≤ w.balance ∧
      (args.threshold ≤ args.minimumThreshold ∨ w.balance ≤ presenter.account.balance →
        args.threshold ≤ presenter.account.balance) := by
  obtain ⟨pk, w, hp, rfl⟩ := gatedCheck_eq_ok.mp hok
  obtain ⟨n, hn⟩ := hchain _ List.mem_cons_self
  have hbal : args.threshold ≤ w.balance := (attest_eq_ok.mp hn).2.1
  refine ⟨hp.balance, w, hp.witness, hp.floor, hbal, ?_⟩
  intro h
  rcases h with h | h
  · exact BitVec.le_trans h hp.balance
  · exact BitVec.le_trans hbal h

end Deep

namespace Scenario

theorem accountId_eq (balance : U128) : (witness balance).accountId Sha256.digest = accountId := by
  change deriveAccountId Sha256.digest (.replicate 32 7) 1 = accountId
  decide +kernel

theorem nullifier_eq : computeNullifier Sha256.digest pubkey contextId accountId = nullifier := by
  decide +kernel

theorem passes {balance threshold floor held : U128} {root tag digest : Bytes 32}
    {signatureDer : List UInt8} (hfloor : floor ≤ threshold) (hheld : floor ≤ held)
    (hdigest : VerifierOffchain.presenterChallengeDigest Sha256.digest nonce
      ⟨root, threshold, contextId, pubkey, nullifier⟩ = digest)
    (htag : computeGateTag Sha256.digest nullifier floor contextId = tag) :
    Deep.Passes Sha256.digest (k256 digest signatureDer) (fromSlice balance) (presenter held)
      (args balance threshold floor root tag signatureDer) pubkey (witness balance) := by
  obtain ⟨hkey, hder, hverify⟩ := K256.ofTable_singleton pubkey.toList digest.toList signatureDer
  exact
    { context := rfl
      floor := hfloor
      key := rfl
      signature := ⟨pubkey.toList, signatureDer, hkey, hder,
        (hverify _).mpr (congrArg List.Vector.toList hdigest)⟩
      witness := if_pos rfl
      nullifier := by rw [accountId_eq]; exact nullifier_eq
      account := (accountId_eq balance).symm
      owner := rfl
      balance := hheld
      tag := htag }

theorem attest_eq_nullifier {balance threshold : U128} {root : Bytes 32}
    (hroot : (witness balance).recoveredRoot Sha256.digest = root) (hle : threshold ≤ balance) :
    attest Sha256.digest (witness balance) ⟨root, threshold, contextId, pubkey⟩ = .ok nullifier :=
  attest_eq_ok.mpr ⟨hroot, hle, by rw [accountId_eq]; exact nullifier_eq⟩

def gateMarker : AccountWithMetadata := ⟨⟨.replicate 8 0, 0, [], 0⟩, false, zeroBytes⟩

def output (marker presenter : AccountWithMetadata) (balance : U128) (args : DeepGatedCheckArgs) :
    SpelOutput AccountWithMetadata AttestInstruction :=
  ⟨[marker, presenter], [⟨ATTESTATION_LEZ_PROGRAM_ID, [],
    ⟨witness balance, ⟨args.merkleRoot, args.threshold, args.contextId, pubkey⟩⟩⟩]⟩

theorem gateTag_eq : computeGateTag Sha256.digest nullifier 4000 contextId = honest.gateTag := by
  decide +kernel

theorem gatedCheck_honest (marker : AccountWithMetadata) :
    Deep.gatedCheck Sha256.digest honestK256 (fromSlice 4000) marker (presenter 4000) honest =
      .ok (output marker (presenter 4000) 4000 honest) :=
  Deep.gatedCheck_eq_ok.mpr ⟨pubkey, witness 4000,
    passes (BitVec.le_refl 4000) (BitVec.le_refl 4000) digest_eq gateTag_eq, rfl⟩

theorem recoveredRoot_eq : (witness 4000).recoveredRoot Sha256.digest = merkleRoot := by
  decide +kernel

theorem attest_honest : attest Sha256.digest (witness 4000)
    ⟨merkleRoot, 4000, contextId, pubkey⟩ = .ok nullifier :=
  attest_eq_nullifier recoveredRoot_eq (by decide)

def unfloored : DeepGatedCheckArgs := args 100 100 0
  (beBytes 32 0xe82f73a4a55c84a235eb74b50872e62d1179393cd80e1c2748916171c451bdba)
  (beBytes 32 0xb7d8fd8394a1a4c0c6fd6d14d46ac0b5fe2909c3b1af60ee3d577a398764cea8)
  ((beBytes 36 0x3045022100d8bed3d2847e9e026aa0b5e95297fb920f325f8e9c476081715bfcdea322bc).toList ++
    (beBytes 35 0xca0220531da9897f883a50888a7fdd87cc8faa8aad565fd14e324a4068892d706d75cc).toList)

def unflooredDigest : Bytes 32 :=
  beBytes 32 0xa699516dc4ce9ca930820c9bfbd3d9b6d28eb3839cda1e27ae19622879f1828a

end Scenario

open Scenario in
theorem gatedCheck_unfloored :
    Deep.gatedCheck Sha256.digest (k256 unflooredDigest unfloored.presenterSignatureDer)
        (fromSlice 100) gateMarker (presenter 0) unfloored =
      .ok (output gateMarker (presenter 0) 100 unfloored) ∧
    attest Sha256.digest (witness 100)
        ⟨unfloored.merkleRoot, unfloored.threshold, contextId, pubkey⟩ = .ok nullifier ∧
    (presenter 0).account.balance < unfloored.threshold := by
  have hdigest : VerifierOffchain.presenterChallengeDigest Sha256.digest nonce
      ⟨unfloored.merkleRoot, 100, contextId, pubkey, nullifier⟩ = unflooredDigest := by
    decide +kernel
  have htag : computeGateTag Sha256.digest nullifier 0 contextId = unfloored.gateTag := by
    decide +kernel
  refine ⟨?_, attest_eq_nullifier (by decide +kernel) (by decide), by decide⟩
  exact Deep.gatedCheck_eq_ok.mpr
    ⟨pubkey, witness 100, passes (by decide) (by decide) hdigest htag, rfl⟩

open Scenario in
theorem gatedCheck_balance_honest :
    honest.minimumThreshold ≤ (presenter 4000).account.balance ∧
    ∃ w, fromSlice 4000 honest.witnessWords = some w ∧
      honest.minimumThreshold ≤ honest.threshold ∧ honest.threshold ≤ w.balance ∧
      (honest.threshold ≤ honest.minimumThreshold ∨
        w.balance ≤ (presenter 4000).account.balance →
        honest.threshold ≤ (presenter 4000).account.balance) := by
  refine Deep.gatedCheck_balance (gatedCheck_honest gateMarker) ?_
  intro call hcall
  rw [List.mem_singleton.mp hcall]
  exact ⟨nullifier, attest_honest⟩

end BalanceAttestation
