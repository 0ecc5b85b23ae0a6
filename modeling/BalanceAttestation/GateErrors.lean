import BalanceAttestation.DeepGate

/-! The error table of the deep gate. Its conditions are checked in a fixed order,
so a call is refused for the first of them that it violates, and for no other. -/

namespace BalanceAttestation

open Checks

namespace Deep

/-- The rows of the table, in the order the gate checks them. -/
inductive GateCondition
  | context
  | floor
  | key
  | signature
  | witness
  | nullifier
  | account
  | owner
  | balance
  | tag
  deriving DecidableEq

namespace GateCondition

def order : List GateCondition :=
  [context, floor, key, signature, witness, nullifier, account, owner, balance, tag]

def error : GateCondition → SpelError
  | context => ⟨E_CONTEXT_MISMATCH, "context mismatch"⟩
  | floor => ⟨E_THRESHOLD_TOO_LOW, "threshold too low"⟩
  | key => ⟨E_BAD_PUBKEY_LEN, "presenter_pubkey: expected 33-byte compressed secp256k1 key"⟩
  | signature => ⟨E_BAD_SIGNATURE, "bad presenter signature"⟩
  | witness => ⟨E_BAD_WITNESS, "witness_words did not decode"⟩
  | nullifier => ⟨E_NULLIFIER_MISMATCH, "nullifier does not match the supplied witness"⟩
  | account => ⟨E_PRESENTER_NOT_ATTESTED,
      "the signing account is not the account the witness attests to"⟩
  | owner => ⟨E_PRESENTER_NOT_NATIVE,
      "the presenter account is not owned by the pinned token program"⟩
  | balance => ⟨E_ANCHORED_BALANCE_TOO_LOW,
      "the attested account's on-chain balance is below the gate's minimum"⟩
  | tag => ⟨E_GATE_TAG_MISMATCH, "gate_tag does not commit to the enforced threshold and context"⟩

/-- What a row demands. A row about the key or the witness demands nothing of
arguments in which another row finds none. -/
def Holds (sha256 : HashFn) (k256 : K256) (fromSlice : List UInt32 → Option PrivateInputs)
    (presenter : AccountWithMetadata) (args : DeepGatedCheckArgs) : GateCondition → Prop
  | context => args.contextId = args.expectedContextId
  | floor => args.minimumThreshold ≤ args.threshold
  | key => args.presenterPubkey.length = 33
  | signature => ∀ pk : Bytes 33, args.presenterPubkey = pk.toList →
      SignatureVerifies sha256 k256 args.presenterNonce (args.journal pk) args.presenterSignatureDer
  | witness => ∃ w, fromSlice args.witnessWords = some w
  | nullifier => ∀ pk : Bytes 33, args.presenterPubkey = pk.toList →
      ∀ w, fromSlice args.witnessWords = some w →
        computeNullifier sha256 pk args.contextId (w.accountId sha256) = args.nullifier
  | account => ∀ w, fromSlice args.witnessWords = some w →
      presenter.accountId = w.accountId sha256
  | owner => presenter.account.programOwner = AUTHENTICATED_TRANSFER_PROGRAM_ID
  | balance => args.minimumThreshold ≤ presenter.account.balance
  | tag => computeGateTag sha256 args.nullifier args.minimumThreshold args.expectedContextId =
      args.gateTag

end GateCondition

variable {sha256 : HashFn} {k256 : K256} {fromSlice : List UInt32 → Option PrivateInputs}
  {gateMarker presenter : AccountWithMetadata} {args : DeepGatedCheckArgs}

open GateCondition

section Decoded

variable {pk pk' : Bytes 33} {w w' : PrivateInputs}

theorem key_unique (h : args.presenterPubkey = pk.toList) (h' : args.presenterPubkey = pk'.toList) :
    pk' = pk :=
  List.Vector.eq _ _ (h'.symm.trans h)

theorem witness_unique (h : fromSlice args.witnessWords = some w)
    (h' : fromSlice args.witnessWords = some w') : w' = w :=
  Option.some.inj (h'.symm.trans h)

end Decoded

theorem passes_iff_holds : (∃ pk w, Passes sha256 k256 fromSlice presenter args pk w) ↔
    ∀ c, GateCondition.Holds sha256 k256 fromSlice presenter args c := by
  constructor
  · intro h c
    obtain ⟨pk, w, hp⟩ := h
    cases c with
    | context => exact hp.context
    | floor => exact hp.floor
    | key => exact (congrArg List.length hp.key).trans pk.toList_length
    | signature =>
      intro pk' hkey
      rw [key_unique hp.key hkey]
      exact hp.signature
    | witness => exact ⟨w, hp.witness⟩
    | nullifier =>
      intro pk' hkey w' hdecode
      rw [key_unique hp.key hkey, witness_unique hp.witness hdecode]
      exact hp.nullifier
    | account =>
      intro w' hdecode
      rw [witness_unique hp.witness hdecode]
      exact hp.account
    | owner => exact hp.owner
    | balance => exact hp.balance
    | tag => exact hp.tag
  · intro h
    obtain ⟨w, hw⟩ := h .witness
    let pk : Bytes 33 := ⟨args.presenterPubkey, h .key⟩
    have hkey : args.presenterPubkey = pk.toList := rfl
    exact ⟨pk, w,
      { context := h .context
        floor := h .floor
        key := hkey
        signature := h .signature _ hkey
        witness := hw
        nullifier := h .nullifier _ hkey w hw
        account := h .account w hw
        owner := h .owner
        balance := h .balance
        tag := h .tag }⟩

/-- What the checks of `checks` make of a refusal with `e`. -/
def Refused (sha256 : HashFn) (k256 : K256) (fromSlice : List UInt32 → Option PrivateInputs)
    (presenter : AccountWithMetadata) (args : DeepGatedCheckArgs) (checks : List GateCondition)
    (e : SpelError) : Prop :=
  ∃ c, FirstFails (GateCondition.Holds sha256 k256 fromSlice presenter args) checks c ∧ e = c.error

variable {checks : List GateCondition} {c : GateCondition} {e : SpelError}

theorem Refused.here (hc : ¬ c.Holds sha256 k256 fromSlice presenter args) (he : c.error = e) :
    Refused sha256 k256 fromSlice presenter args (c :: checks) e :=
  ⟨c, .here hc, he.symm⟩

theorem Refused.later (hc : c.Holds sha256 k256 fromSlice presenter args)
    (h : Refused sha256 k256 fromSlice presenter args checks e) :
    Refused sha256 k256 fromSlice presenter args (c :: checks) e := by
  obtain ⟨d, hd, he⟩ := h
  exact ⟨d, .later hc hd, he⟩

theorem verifyPresenterSignature_error {digest : Bytes 32} {pk : Bytes 33} {signatureDer : List UInt8}
    (h : verifyPresenterSignature k256 digest pk signatureDer = .error e) :
    GateCondition.signature.error = e ∧ ¬ ∃ vk sig, k256.fromSec1Bytes pk.toList = some vk ∧
      k256.fromDer signatureDer = some sig ∧ k256.verify vk digest.toList sig = true := by
  simp only [verifyPresenterSignature, okOr_bind_error, rejectIf_error] at h
  rcases h with ⟨hnone, rfl⟩ | ⟨vk, hvk, ⟨hnone, rfl⟩ | ⟨sig, hsig, hverify, rfl⟩⟩
  · exact ⟨rfl, by simp [hnone]⟩
  · exact ⟨rfl, by simp [hnone]⟩
  · exact ⟨rfl, by simp [hvk, hsig, hverify]⟩

theorem checkPresentation_error
    (h : checkPresentation sha256 k256 args.toGatedCheckArgs = .error e) :
    Refused sha256 k256 fromSlice presenter args [.context, .floor, .key, .signature] e := by
  simp only [checkPresentation, rejectIf_bind_error, okOr_bind_error, not_not, BitVec.not_lt] at h
  rcases h with ⟨hctx, he⟩ | ⟨hctx, h⟩
  · exact .here hctx he
  refine .later hctx ?_
  rcases h with ⟨hfloor, he⟩ | ⟨hfloor, h⟩
  · exact .here (BitVec.not_le.mpr hfloor) he
  refine .later hfloor ?_
  rcases h with ⟨hnone, he⟩ | ⟨pk, hpk, h⟩
  · refine .here (fun hlen => ?_) he
    have hlen' : args.presenterPubkey.length = 33 := hlen
    simp [pubkeyBytes, hlen'] at hnone
  have hkey : args.presenterPubkey = pk.toList := pubkeyBytes_eq_some.mp hpk
  refine .later ((congrArg List.length hkey).trans pk.toList_length) ?_
  rcases bind_error.mp h with h | ⟨_, _, h⟩
  · obtain ⟨he, hsig⟩ := verifyPresenterSignature_error h
    exact .here (fun hverifies => hsig (hverifies pk hkey)) he
  · cases h

theorem checkAttested_error {pk : Bytes 33} (hkey : args.presenterPubkey = pk.toList)
    (h : checkAttested sha256 fromSlice gateMarker presenter args pk = .error e) :
    Refused sha256 k256 fromSlice presenter args
      [.witness, .nullifier, .account, .owner, .balance, .tag] e := by
  simp only [checkAttested, okOr_bind_error, rejectIf_bind_error, not_not, BitVec.not_lt] at h
  rcases h with ⟨hnone, he⟩ | ⟨w, hw, h⟩
  · refine .here (fun hdecodes => ?_) he
    obtain ⟨w, hw⟩ := hdecodes
    cases hnone.symm.trans hw
  refine .later ⟨w, hw⟩ ?_
  rcases h with ⟨hne, he⟩ | ⟨hn, h⟩
  · exact .here (fun hholds => hne (hholds pk hkey w hw)) he
  have hnullifier (pk' : Bytes 33) (hkey' : args.presenterPubkey = pk'.toList) (w' : PrivateInputs)
      (hdecode : fromSlice args.witnessWords = some w') :
      computeNullifier sha256 pk' args.contextId (w'.accountId sha256) = args.nullifier := by
    rw [key_unique hkey hkey', witness_unique hw hdecode]
    exact hn
  refine .later hnullifier ?_
  rcases h with ⟨hne, he⟩ | ⟨ha, h⟩
  · exact .here (fun hholds => hne (hholds w hw)) he
  have haccount (w' : PrivateInputs) (hdecode : fromSlice args.witnessWords = some w') :
      presenter.accountId = w'.accountId sha256 := by
    rw [witness_unique hw hdecode]
    exact ha
  refine .later haccount ?_
  rcases h with ⟨hne, he⟩ | ⟨ho, h⟩
  · exact .here hne he
  refine .later ho ?_
  rcases h with ⟨hlt, he⟩ | ⟨hb, h⟩
  · exact .here (BitVec.not_le.mpr hlt) he
  refine .later hb ?_
  rcases h with ⟨hne, he⟩ | ⟨_, h⟩
  · exact .here hne he
  · cases h

theorem gatedCheck_error (h : gatedCheck sha256 k256 fromSlice gateMarker presenter args = .error e) :
    Refused sha256 k256 fromSlice presenter args order e := by
  rcases bind_error.mp h with h | ⟨pk, hpk, h⟩
  · have hrefused : Refused sha256 k256 fromSlice presenter args [.context, .floor, .key, .signature] e :=
      checkPresentation_error h
    obtain ⟨c, hc, he⟩ := hrefused
    exact ⟨c, hc.append _, he⟩
  · obtain ⟨hkey, hjudge⟩ := checkPresentation_eq_ok.mp hpk
    obtain ⟨hctx, hfloor, hsig⟩ := (judge_eq_ok _).mp hjudge
    have hsig' (pk' : Bytes 33) (hkey' : args.presenterPubkey = pk'.toList) :
        SignatureVerifies sha256 k256 args.presenterNonce (args.journal pk')
          args.presenterSignatureDer := by
      rw [key_unique hkey hkey']
      exact hsig
    exact .later hctx (.later hfloor (.later ((congrArg List.length hkey).trans pk.toList_length)
      (.later hsig' (checkAttested_error hkey h))))

/-- The gate returns exactly when every row holds, then with both accounts as they
came and the decoded witness chained to the attestation program. It refuses with
the error of the first row violated, so of the only one where there is only one. -/
theorem gatedCheck_table (sha256 : HashFn) (k256 : K256)
    (fromSlice : List UInt32 → Option PrivateInputs) (gateMarker presenter : AccountWithMetadata)
    (args : DeepGatedCheckArgs) :
    let result := gatedCheck sha256 k256 fromSlice gateMarker presenter args
    let Holds := GateCondition.Holds sha256 k256 fromSlice presenter args
    ((∃ out, result = .ok out) ↔ ∃ pk w, Passes sha256 k256 fromSlice presenter args pk w) ∧
    ((∃ out, result = .ok out) ↔ ∀ c, Holds c) ∧
    (∀ out, result = .ok out → ∃ pk : Bytes 33, args.presenterPubkey = pk.toList ∧
      ∃ w, fromSlice args.witnessWords = some w ∧ out.accounts = [gateMarker, presenter] ∧
        out.chained = [⟨ATTESTATION_LEZ_PROGRAM_ID, [],
          ⟨w, ⟨args.merkleRoot, args.threshold, args.contextId, pk⟩⟩⟩]) ∧
    (∀ e, result = .error e → ∃ c, FirstFails Holds order c ∧ ¬ Holds c ∧ e = c.error) ∧
    ∀ c, ¬ Holds c → (∀ c', c' ≠ c → Holds c') → result = .error c.error := by
  intro result Holds
  have hok : (∃ out, result = .ok out) ↔ ∃ pk w, Passes sha256 k256 fromSlice presenter args pk w := by
    simp only [result, gatedCheck_eq_ok]
    constructor
    · intro h
      obtain ⟨_, pk, w, hp, _⟩ := h
      exact ⟨pk, w, hp⟩
    · intro h
      obtain ⟨pk, w, hp⟩ := h
      exact ⟨_, pk, w, hp, rfl⟩
  have herror (e : SpelError) (h : result = .error e) :
      ∃ c, FirstFails Holds order c ∧ ¬ Holds c ∧ e = c.error := by
    obtain ⟨c, hc, he⟩ := gatedCheck_error h
    exact ⟨c, hc, hc.not_holds, he⟩
  refine ⟨hok, hok.trans passes_iff_holds, ?_, herror, ?_⟩
  · intro out h
    obtain ⟨pk, w, hp, rfl⟩ := gatedCheck_eq_ok.mp h
    exact ⟨pk, hp.key, w, hp.witness, rfl, rfl⟩
  · intro c hc honly
    cases hresult : result with
    | ok out => exact absurd ((hok.trans passes_iff_holds).mp ⟨out, hresult⟩ c) hc
    | error e =>
      obtain ⟨d, _, hd, rfl⟩ := herror e hresult
      by_cases hdc : d = c
      · rw [hdc]
      · exact absurd (honly d hdc) hd

end Deep

end BalanceAttestation
