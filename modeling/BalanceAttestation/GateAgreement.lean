import BalanceAttestation.SpelGuests

/-! One policy, four gates. A presentation is a credential held against a
context and a floor; `judge` says what becomes of it, and each gate is `judge`
with its own error codes. -/

namespace BalanceAttestation

open ByteLayout Checks VerifierOffchain VerifierProgram

inductive Fault
  | contextMismatch
  | thresholdTooLow
  | invalidPubkey
  | invalidSignature
  | signatureRejected
  deriving DecidableEq

namespace Fault

def verifyError : Fault → VerifyError
  | contextMismatch => .contextMismatch
  | thresholdTooLow => .thresholdTooLow
  | invalidPubkey => .invalidPubkey
  | invalidSignature => .invalidSignature
  | signatureRejected => .signatureRejected

def gateError : Fault → GateError
  | contextMismatch => .contextMismatch
  | thresholdTooLow => .thresholdTooLow
  | invalidPubkey => .invalidPubkey
  | invalidSignature => .invalidSignature
  | signatureRejected => .signatureRejected

def spelError : Fault → SpelError
  | contextMismatch => ⟨3004, "context mismatch"⟩
  | thresholdTooLow => ⟨3001, "threshold too low"⟩
  | invalidPubkey | invalidSignature | signatureRejected => ⟨3005, "bad presenter signature"⟩

end Fault

structure Presentation where
  journal : PublicJournal
  nonce : Bytes 32
  signatureDer : List UInt8
  expectedContextId : Bytes 32
  minimumThreshold : U128

namespace Presentation

def judgeSignature (sha256 : HashFn) (k256 : K256) (p : Presentation) : Except Fault Unit := do
  let vk ← okOr (k256.fromSec1Bytes p.journal.presenterPubkey.toList) .invalidPubkey
  let sig ← okOr (k256.fromDer p.signatureDer) .invalidSignature
  rejectIf (k256.verify vk (sha256 (presenterChallengeBytes p.nonce p.journal)).toList sig = false)
    .signatureRejected

def judge (sha256 : HashFn) (k256 : K256) (p : Presentation) : Except Fault Unit := do
  rejectIf (p.journal.contextId ≠ p.expectedContextId) .contextMismatch
  rejectIf (p.journal.threshold < p.minimumThreshold) .thresholdTooLow
  p.judgeSignature sha256 k256

def gateInputs (p : Presentation) : GateInputs where
  attested := p.journal
  expectedContextId := p.expectedContextId
  minimumThreshold := p.minimumThreshold
  challengeNonce := p.nonce
  presenterSignatureDer := p.signatureDer

def args (p : Presentation) : GatedCheckArgs where
  merkleRoot := p.journal.merkleRoot
  threshold := p.journal.threshold
  contextId := p.journal.contextId
  presenterPubkey := p.journal.presenterPubkey.toList
  nullifier := p.journal.nullifier
  presenterNonce := p.nonce
  presenterSignatureDer := p.signatureDer
  expectedContextId := p.expectedContextId
  minimumThreshold := p.minimumThreshold

end Presentation

theorem pubkeyBytes_eq_some {key : List UInt8} {pk : Bytes 33} :
    pubkeyBytes key = some pk ↔ key = pk.toList := ofSlice_eq_some

@[simp] theorem pubkeyBytes_toList (pk : Bytes 33) : pubkeyBytes pk.toList = some pk :=
  pubkeyBytes_eq_some.mpr rfl

section Refinement

variable {sha256 : HashFn} {k256 : K256} {risc0 : Risc0} (p : Presentation)

theorem judgeSignature_eq_ok : p.judgeSignature sha256 k256 = .ok () ↔
    SignatureVerifies sha256 k256 p.nonce p.journal p.signatureDer := by
  simp only [Presentation.judgeSignature, okOr_bind_ok, rejectIf_ok, Bool.not_eq_false,
    SignatureVerifies, exists_and_left]

theorem judge_eq_ok : p.judge sha256 k256 = .ok () ↔
    p.journal.contextId = p.expectedContextId ∧ p.minimumThreshold ≤ p.journal.threshold ∧
      SignatureVerifies sha256 k256 p.nonce p.journal p.signatureDer := by
  simp only [Presentation.judge, rejectIf_bind_ok, not_not, BitVec.not_lt, judgeSignature_eq_ok]

theorem checkGate_eq : checkGate sha256 k256 p.gateInputs =
    (p.judge sha256 k256).mapError Fault.gateError := by
  simp only [Presentation.judge, Presentation.judgeSignature, mapError_bind, mapError_rejectIf,
    mapError_okOr]
  rfl

theorem verifyPresenterSignature_eq :
    verifyPresenterSignature sha256 k256 p.journal p.nonce p.signatureDer =
      (p.judgeSignature sha256 k256).mapError Fault.verifyError := by
  simp only [Presentation.judgeSignature, mapError_bind, mapError_rejectIf, mapError_okOr]
  rfl

theorem verifyCredential_eq {receipt : risc0.Receipt}
    (hr : verifyReceipt risc0 receipt = .ok p.journal) :
    verifyCredential sha256 k256 risc0 receipt p.nonce p.signatureDer p.expectedContextId
      p.minimumThreshold =
        ((p.judge sha256 k256).mapError Fault.verifyError).map fun _ => p.journal := by
  rw [verifyCredential, hr]
  change (rejectIf _ _ >>= fun _ => rejectIf _ _ >>= fun _ =>
    verifyPresenterSignature sha256 k256 p.journal p.nonce p.signatureDer >>= _) = _
  rw [verifyPresenterSignature_eq]
  simp only [Presentation.judge, mapError_bind, mapError_rejectIf, map_eq_bind, bind_assoc]
  rfl

theorem verifyCredential_eq_ok {receipt : risc0.Receipt} {nonce : Bytes 32} {sig : List UInt8}
    {ctx : Bytes 32} {floor : U128} {j : PublicJournal} :
    verifyCredential sha256 k256 risc0 receipt nonce sig ctx floor = .ok j ↔
      verifyReceipt risc0 receipt = .ok j ∧ j.contextId = ctx ∧ floor ≤ j.threshold ∧
        SignatureVerifies sha256 k256 nonce j sig := by
  cases hr : verifyReceipt risc0 receipt with
  | error e =>
    rw [verifyCredential, hr]
    constructor
    · intro h
      cases h
    · intro h
      cases h.1
  | ok j' =>
    have hj : Presentation.judge sha256 k256 ⟨j', nonce, sig, ctx, floor⟩ = .ok () ↔ _ :=
      judge_eq_ok _
    rw [verifyCredential_eq ⟨j', nonce, sig, ctx, floor⟩ hr, map_mapError_ok]
    constructor
    · intro h
      obtain ⟨_, hok, rfl⟩ := h
      exact ⟨rfl, hj.mp hok⟩
    · intro h
      obtain ⟨heq, hrest⟩ := h
      cases heq
      exact ⟨(), hj.mpr hrest, rfl⟩

theorem Deep.verifyPresenterSignature_eq :
    Deep.verifyPresenterSignature k256 (sha256 (presenterChallengeBytes p.nonce p.journal))
      p.journal.presenterPubkey p.signatureDer =
        (p.judgeSignature sha256 k256).mapError Fault.spelError := by
  simp only [Presentation.judgeSignature, mapError_bind, mapError_rejectIf, mapError_okOr]
  rfl

theorem Deep.checkPresentation_eq : Deep.checkPresentation sha256 k256 p.args =
    ((p.judge sha256 k256).mapError Fault.spelError).map fun _ => p.journal.presenterPubkey := by
  rw [Deep.checkPresentation, Presentation.args]
  simp only [pubkeyBytes_toList]
  change (rejectIf _ _ >>= fun _ => rejectIf _ _ >>= fun _ =>
    Deep.verifyPresenterSignature k256 (sha256 (presenterChallengeBytes p.nonce p.journal))
      p.journal.presenterPubkey p.signatureDer >>= _) = _
  rw [Deep.verifyPresenterSignature_eq]
  simp only [Presentation.judge, mapError_bind, mapError_rejectIf, map_eq_bind, bind_assoc]
  rfl

/-- The shallow guest is the first four steps of the deep one. -/
theorem Shallow.gatedCheck_eq_map (presenter : AccountWithMetadata) (args : GatedCheckArgs) :
    Shallow.gatedCheck sha256 k256 presenter args =
      (Deep.checkPresentation sha256 k256 args).map fun _ => ⟨[presenter.account], []⟩ := by
  simp only [Shallow.gatedCheck, Deep.checkPresentation, map_eq_bind, bind_assoc]
  rfl

theorem Shallow.gatedCheck_eq (presenter : AccountWithMetadata) :
    Shallow.gatedCheck sha256 k256 presenter p.args =
      ((p.judge sha256 k256).mapError Fault.spelError).map fun _ => ⟨[presenter.account], []⟩ := by
  rw [Shallow.gatedCheck_eq_map, Deep.checkPresentation_eq]
  cases (p.judge sha256 k256).mapError Fault.spelError <;> rfl

end Refinement

section Agreement

variable {sha256 : HashFn} {k256 : K256} {risc0 : Risc0}
  {fromSlice : List UInt32 → Option PrivateInputs}

def Deep.presentationCodes : List UInt32 :=
  [E_THRESHOLD_TOO_LOW, E_CONTEXT_MISMATCH, E_BAD_SIGNATURE, E_BAD_PUBKEY_LEN]

def Deep.attestedCodes : List UInt32 :=
  [E_BAD_WITNESS, E_NULLIFIER_MISMATCH, E_ANCHORED_BALANCE_TOO_LOW, E_PRESENTER_NOT_ATTESTED,
    E_PRESENTER_NOT_NATIVE, E_GATE_TAG_MISMATCH]

theorem Deep.codes_disjoint : ∀ c ∈ attestedCodes, c ∉ presentationCodes := by
  simp only [attestedCodes, List.forall_mem_cons]
  refine ⟨?_, ?_, ?_, ?_, ?_, ?_, List.forall_mem_nil _⟩ <;> decide

theorem Deep.checkAttested_code {gateMarker presenter : AccountWithMetadata}
    {args : DeepGatedCheckArgs} {pk : Bytes 33} {e : SpelError}
    (h : Deep.checkAttested sha256 fromSlice gateMarker presenter args pk = .error e) :
    e.code ∈ attestedCodes := by
  simp only [Deep.checkAttested, okOr_bind_error, rejectIf_bind_error] at h
  rcases h with ⟨_, rfl⟩ | ⟨w, _, h⟩
  · simp [attestedCodes]
  rcases h with ⟨_, rfl⟩ | ⟨_, h⟩
  · simp [attestedCodes]
  rcases h with ⟨_, rfl⟩ | ⟨_, h⟩
  · simp [attestedCodes]
  rcases h with ⟨_, rfl⟩ | ⟨_, h⟩
  · simp [attestedCodes]
  rcases h with ⟨_, rfl⟩ | ⟨_, h⟩
  · simp [attestedCodes]
  rcases h with ⟨_, rfl⟩ | ⟨_, h⟩
  · simp [attestedCodes]
  · cases h

/-- The four gates, run on one presentation, return `verdict` under their own
error codes: the two host verifiers, the shallow guest, and the deep guest up to
its signature step, whose failures later on have other codes. -/
structure GatesAgree (sha256 : HashFn) (k256 : K256) (risc0 : Risc0) (receipt : risc0.Receipt)
    (p : Presentation) (verdict : Except Fault Unit) : Prop where
  offchain : verifyCredential sha256 k256 risc0 receipt p.nonce p.signatureDer p.expectedContextId
    p.minimumThreshold = (verdict.mapError Fault.verifyError).map fun _ => p.journal
  program : checkGate sha256 k256 p.gateInputs = verdict.mapError Fault.gateError
  shallow : ∀ presenter, Shallow.gatedCheck sha256 k256 presenter p.args =
    (verdict.mapError Fault.spelError).map fun _ => ⟨[presenter.account], []⟩
  deepRejects : ∀ fault, verdict = .error fault →
    ∀ fromSlice gateMarker presenter (args : DeepGatedCheckArgs), args.toGatedCheckArgs = p.args →
      Deep.gatedCheck sha256 k256 fromSlice gateMarker presenter args = .error fault.spelError
  deepPasses : verdict = .ok () →
    ∀ fromSlice gateMarker presenter (args : DeepGatedCheckArgs), args.toGatedCheckArgs = p.args →
      Deep.gatedCheck sha256 k256 fromSlice gateMarker presenter args =
        Deep.checkAttested sha256 fromSlice gateMarker presenter args p.journal.presenterPubkey ∧
      ∀ e, Deep.gatedCheck sha256 k256 fromSlice gateMarker presenter args = .error e →
        e.code ∉ Deep.presentationCodes

theorem gates_agree {p : Presentation} {receipt : risc0.Receipt}
    (hr : verifyReceipt risc0 receipt = .ok p.journal) :
    ∃ verdict, GatesAgree sha256 k256 risc0 receipt p verdict := by
  have hdeep (fromSlice : List UInt32 → Option PrivateInputs)
      (gateMarker presenter : AccountWithMetadata) (args : DeepGatedCheckArgs)
      (hargs : args.toGatedCheckArgs = p.args) :
      Deep.gatedCheck sha256 k256 fromSlice gateMarker presenter args =
        ((p.judge sha256 k256).mapError Fault.spelError).map (fun _ => p.journal.presenterPubkey) >>=
          Deep.checkAttested sha256 fromSlice gateMarker presenter args := by
    rw [Deep.gatedCheck, hargs, Deep.checkPresentation_eq]
  refine ⟨p.judge sha256 k256, verifyCredential_eq p hr, checkGate_eq p, Shallow.gatedCheck_eq p,
    ?_, ?_⟩
  · intro fault hfault fromSlice gateMarker presenter args hargs
    rw [hdeep _ _ _ _ hargs, hfault]
    rfl
  · intro hok fromSlice gateMarker presenter args hargs
    have hpast : Deep.gatedCheck sha256 k256 fromSlice gateMarker presenter args =
        Deep.checkAttested sha256 fromSlice gateMarker presenter args p.journal.presenterPubkey := by
      rw [hdeep _ _ _ _ hargs, hok]
      rfl
    refine ⟨hpast, ?_⟩
    intro e he
    exact Deep.codes_disjoint _ (Deep.checkAttested_code (hpast.symm.trans he))

end Agreement

open Scenario in
theorem gates_agree_honest : ∃ verdict, GatesAgree Sha256.digest honestK256 Risc0.ofJournals journal
    ⟨journal, nonce, honest.presenterSignatureDer, contextId, 4000⟩ verdict :=
  gates_agree rfl

end BalanceAttestation
