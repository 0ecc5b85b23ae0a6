import BalanceAttestation.OnchainVerdict
import BalanceAttestation.PrivacyScript

/-! The privacy path from the script that builds a call to the script that looks for its
marker. What the one prints is the policy the other is run with. -/

namespace BalanceAttestation

open ByteLayout Checks OnchainProofScript Python

section

variable {sha256 : HashFn} {k256 : K256} {hexCrate : HexCrate} {keys : K256.KeyPairs}
  {secret : Bytes 32} {key : keys.SigningKey} {pk : Bytes 33}

/-- The call the script's flags spell out passes the deep gate. -/
theorem gatedCheckArgs_passes {fromSlice : List UInt32 → Option PrivateInputs} {words : List UInt32}
    {w : PrivateInputs} {ctx nonce : Bytes 32} {threshold floor : U128} {presenter : AccountWithMetadata}
    (hpub : PresenterKey.publicKey keys.toSigner key = .ok pk) (hle : floor ≤ threshold)
    (hdecode : fromSlice words = some w) (haccount : presenter.accountId = w.accountId sha256)
    (howner : presenter.account.programOwner = AUTHENTICATED_TRANSFER_PROGRAM_ID)
    (hheld : floor ≤ presenter.account.balance)
    (hsigns : Signs k256 keys.toSigner key (VerifierOffchain.presenterChallengeDigest sha256 nonce
      ⟨w.recoveredRoot sha256, threshold, ctx, pk,
        computeNullifier sha256 pk ctx (w.accountId sha256)⟩).toList) :
    Deep.Passes sha256 k256 fromSlice presenter (w.gatedCheckArgs sha256 words pk ctx threshold floor nonce
      (PresenterKey.sign keys.toSigner key sha256 nonce
        ⟨w.recoveredRoot sha256, threshold, ctx, pk,
          computeNullifier sha256 pk ctx (w.accountId sha256)⟩)) pk w where
  context := rfl
  floor := hle
  key := rfl
  signature := hsigns.signatureVerifies hpub
  witness := hdecode
  nullifier := rfl
  account := haccount
  owner := howner
  balance := hheld
  tag := rfl

/-- A call that passes is accepted, when it names its marker's address and its witness
proves the threshold. -/
theorem GateCall.accepted_of_passes {fromSlice : List UInt32 → Option PrivateInputs}
    {pda : Bytes 32 → Bytes 32} {c : GateCall} {w : PrivateInputs}
    (hpasses : Deep.Passes sha256 k256 fromSlice c.presenter c.args pk w)
    (hmarker : c.gateMarker.accountId = pda c.args.gateTag)
    (hattest : attest sha256 w ⟨c.args.merkleRoot, c.args.threshold, c.args.contextId, pk⟩ =
      .ok c.args.nullifier) (hzero : c.args.nullifier ≠ zeroBytes) :
    c.accepted sha256 k256 fromSlice pda = true := by
  have hout : Deep.gatedCheck sha256 k256 fromSlice c.gateMarker c.presenter c.args = .ok _ :=
    Deep.gatedCheck_eq_ok.mpr ⟨pk, w, hpasses, rfl⟩
  refine (GateCall.accepted_iff hout).mpr ⟨hmarker, ?_⟩
  intro call hcall
  rw [List.mem_singleton.mp hcall]
  exact ChainedCall.returns_iff.mpr ⟨_, hattest, hzero⟩

/-- For any key pair, label, nonce and witness whose words decode back to it: the call that
the building script prints is accepted, and once it is on the chain the verifying script,
run with the printed nullifier, the floor and the context, ends with `VERIFIED.` exactly
when its first three checks pass. -/
theorem onchain_lifecycle (fromSlice : List UInt32 → Option PrivateInputs)
    (spel : List String → Option DeepGatedCheckArgs) (hhex : hexCrate.Documented)
    (hkey : keys.fromBytes secret = .ok key)
    (hpub : PresenterKey.publicKey keys.toSigner key = .ok pk) (w : PrivateInputs)
    {args : PrivacyScript.Args} {threshold floor : U128} (hthreshold : args.threshold = threshold.toNat)
    (hfloor : args.minimumThreshold.getD threshold.toNat = floor.toNat)
    (hle : floor ≤ threshold) (hbalance : threshold ≤ w.balance) {nonce : Bytes 32} {words : List UInt32}
    (hwords : PrivacyScript.risc0Words (.ofInputs w (w.recoveredRoot sha256)) =
      words.map fun word => (word.toNat : Int))
    (hdecode : fromSlice words = some w) {presenter : AccountWithMetadata}
    (haccount : presenter.accountId = w.accountId sha256)
    (howner : presenter.account.programOwner = AUTHENTICATED_TRANSFER_PROGRAM_ID)
    (hheld : floor ≤ presenter.account.balance) {host : OnchainProofScript.Host} {verifier : ProgramId}
    {ledger : Ledger}
    (htruthful : Truthful sha256 k256 fromSlice host verifier ledger)
    (hclaims : ∀ a ∈ ClaimOnce.run (GateCall.marker sha256 k256 fromSlice
      (OnchainProofScript.markerPda sha256 verifier)) ∅ ledger.calls, ledger.owner a = verifier) :
    let root := w.recoveredRoot sha256
    let ctx := PrivacyScript.contextIdFrom sha256 args.context
    let n := computeNullifier sha256 pk ctx (w.accountId sha256)
    let j : PublicJournal := ⟨root, threshold, ctx, pk, n⟩
    let typed := w.gatedCheckArgs sha256 words pk ctx threshold floor nonce
      (PresenterKey.sign keys.toSigner key sha256 nonce j)
    PrivacyScript.challengeNonce sha256 args.nonce n = .ok nonce.toList →
    Signs k256 keys.toSigner key (VerifierOffchain.presenterChallengeDigest sha256 nonce j).toList →
    spel typed.flags = some typed → n ≠ zeroBytes →
    ∃ pres out, AttestCli.keygen hexCrate keys secret = .ok pres ∧
      PrivacyScript.main sha256 hexCrate keys args (.ofInputs w root) pres = .ok out ∧
      "nullifier   " ++ hex n.toList ∈ out.printed ∧ spel out.lines = some typed ∧
      ∀ c : GateCall, spel out.lines = some c.args → c.presenter = presenter →
        c.gateMarker.accountId = OnchainProofScript.markerPda sha256 verifier c.args.gateTag →
          c.accepted sha256 k256 fromSlice (OnchainProofScript.markerPda sha256 verifier) = true ∧
          (c ∈ ledger.calls →
            (status sha256 host ⟨hex n.toList, floor.toNat, hex ctx.toList⟩ = 0 ↔ Ready sha256 host)) := by
  intro root ctx n j typed hnonce hsigns hspel hzero
  obtain ⟨out, hmain, hlines, hnullifier, -⟩ :=
    PrivacyScript.main_eq_ok hhex hkey pk w hthreshold hfloor hwords hnonce
  refine ⟨_, out, AttestCli.keygen_eq_ok hkey hpub, hmain, hnullifier, ?_, ?_⟩
  · rw [hlines]
    exact hspel
  intro c hargs hpresenter hmarker
  have htyped : c.args = typed := by
    rw [hlines] at hargs
    exact Option.some.inj (hargs.symm.trans hspel)
  have hpasses : Deep.Passes sha256 k256 fromSlice c.presenter c.args pk w := by
    rw [htyped, hpresenter]
    exact gatedCheckArgs_passes hpub hle hdecode haccount howner hheld hsigns
  have hattest : attest sha256 w ⟨c.args.merkleRoot, c.args.threshold, c.args.contextId, pk⟩ =
      .ok c.args.nullifier := by
    rw [htyped]
    exact attest_eq_ok.mpr ⟨rfl, hbalance, rfl⟩
  have haccepted : c.accepted sha256 k256 fromSlice (OnchainProofScript.markerPda sha256 verifier) = true :=
    GateCall.accepted_of_passes hpasses hmarker hattest (by rw [htyped]; exact hzero)
  refine ⟨haccepted, fun hc => ?_⟩
  have htag : c.args.gateTag = computeGateTag sha256 n floor ctx := by rw [htyped]; rfl
  have howned : ledger.owner (OnchainProofScript.markerPda sha256 verifier c.args.gateTag) = verifier :=
    hclaims _ (ClaimOnce.mem_run.mpr (.inr ⟨c, hc, GateCall.marker_eq_some.mpr ⟨haccepted, hmarker⟩⟩))
  rw [htag] at howned
  exact status_eq_zero_iff.trans (and_iff_left (htruthful.checkOwner_iff.mpr howned))

end

/-! The lifecycle of the label's call, against a chain that holds it alone. -/

namespace Scenario

theorem labelArgs_nullifier : labelArgs.nullifier = labelJournal.nullifier :=
  congrArg PublicJournal.nullifier labelJournal_eq

theorem labelSigns_digest : Signs (k256 labelDigest labelSignature) keys.toSigner ()
    (VerifierOffchain.presenterChallengeDigest Sha256.digest nonce labelJournal).toList := by
  rw [labelDigest_eq]
  exact labelSigns

theorem labelCall_accepted : (onchainCall labelArgs).accepted Sha256.digest
    (k256 labelDigest labelSignature) (fromSlice 4000) onchainPda = true := by
  have hsigns := labelSigns_digest
  rw [← labelJournal_eq] at hsigns
  have hpasses : Deep.Passes Sha256.digest (k256 labelDigest labelSignature) (fromSlice 4000)
      (presenter 4000) labelArgs pubkey (witness 4000) := by
    rw [labelArgs, ← labelJournal_eq]
    exact gatedCheckArgs_passes (PresenterKey.publicKey_eq_ok.mpr rfl) (BitVec.le_refl 4000) (if_pos rfl)
      (accountId_eq 4000).symm rfl (BitVec.le_refl 4000) hsigns
  refine GateCall.accepted_of_passes hpasses rfl ?_ ?_
  · exact attest_eq_ok.mpr ⟨rfl, BitVec.le_refl 4000, rfl⟩
  · change labelArgs.nullifier ≠ zeroBytes
    rw [labelArgs_nullifier]
    decide

end Scenario

open Scenario OnchainProofScript in
theorem onchain_lifecycle_label :
    ∃ pres out, AttestCli.keygen hexCrate keys (.replicate 32 7) = .ok pres ∧
      PrivacyScript.main Sha256.digest hexCrate keys scriptArgs
        (.ofInputs (witness 4000) ((witness 4000).recoveredRoot Sha256.digest)) pres = .ok out ∧
      "nullifier   " ++ hex labelJournal.nullifier.toList ∈ out.printed ∧
      (onchainCall labelArgs).accepted Sha256.digest (k256 labelDigest labelSignature) (fromSlice 4000)
        (OnchainProofScript.markerPda Sha256.digest programId) = true ∧
      status Sha256.digest (scriptHost (onchainPda labelArgs.gateTag))
        ⟨hex labelJournal.nullifier.toList, 4000, hex labelJournal.contextId.toList⟩ = 0 := by
  have hkey : keys.fromBytes (.replicate 32 7) = .ok () := by simp [keys]
  have hnonce (n : Bytes 32) : PrivacyScript.challengeNonce Sha256.digest scriptArgs.nonce n =
      .ok nonce.toList := by
    simp only [PrivacyScript.challengeNonce, scriptArgs]
    rw [if_pos (by decide)]
    decide +kernel
  have hzero : labelArgs.nullifier ≠ zeroBytes := by
    rw [labelArgs_nullifier]
    decide
  have hsigns := labelSigns_digest
  have hspel : spel labelArgs.flags = some labelArgs := if_pos rfl
  have hclaims (a : Bytes 32) (ha : a ∈ ClaimOnce.run (GateCall.marker Sha256.digest
      (k256 labelDigest labelSignature) (fromSlice 4000) onchainPda) ∅ (ledger labelArgs).calls) :
      (ledger labelArgs).owner a = programId :=
    ownedBy_eq_iff.mpr ((mem_run_onchainCall labelCall_accepted).mp ha)
  rw [← labelJournal_eq] at hsigns
  obtain ⟨pres, out, hpres, hmain, hprinted, hparsed, hcall⟩ := onchain_lifecycle (fromSlice 4000) spel
    hexCrate_documented hkey (PresenterKey.publicKey_eq_ok.mpr rfl) (witness 4000)
    (show scriptArgs.threshold = (4000 : U128).toNat from rfl) rfl
    (BitVec.le_refl 4000) (BitVec.le_refl 4000)
    (PrivacyScript.risc0Words_ofInputs (by decide) _) (if_pos rfl)
    (show (presenter 4000).accountId = _ from (accountId_eq 4000).symm) rfl (BitVec.le_refl 4000)
    (truthful labelCall_accepted) hclaims (hnonce _) hsigns
    (by rw [labelArgs, ← labelJournal_eq] at hspel; exact hspel) hzero
  obtain ⟨haccepted, hstatus⟩ := hcall (onchainCall labelArgs)
    (by rw [labelArgs, ← labelJournal_eq]; exact hparsed) rfl rfl
  have hverified := (hstatus (List.mem_singleton_self _)).mpr (scriptHost_ready _)
  have hn : computeNullifier Sha256.digest pubkey
      (PrivacyScript.contextIdFrom Sha256.digest scriptArgs.context)
      ((witness 4000).accountId Sha256.digest) = labelJournal.nullifier :=
    congrArg PublicJournal.nullifier labelJournal_eq
  have hctx : PrivacyScript.contextIdFrom Sha256.digest scriptArgs.context = labelJournal.contextId :=
    congrArg PublicJournal.contextId labelJournal_eq
  rw [hn] at hprinted hverified
  rw [hctx] at hverified
  exact ⟨pres, out, hpres, hmain, hprinted, haccepted, hverified⟩

end BalanceAttestation
