import BalanceAttestation.AttestationCore
import BalanceAttestation.Checks

/-! The two programs that prove the attestation: the standalone guest, whose
body spells the statement out, and the LEZ program, which calls `attest`. What
they read from the host is an argument, what they commit is the result. -/

namespace BalanceAttestation

open Checks

structure Account where
  programOwner : ProgramId
  balance : U128
  data : List UInt8
  nonce : U128
  deriving DecidableEq

structure AccountWithMetadata where
  account : Account
  isAuthorized : Bool
  accountId : Bytes 32
  deriving DecidableEq

structure AccountPostState where
  account : Account
  deriving DecidableEq

structure ProgramInput (I : Type) where
  selfProgramId : ProgramId
  callerProgramId : Option ProgramId
  preStates : List AccountWithMetadata
  instruction : I

structure ProgramOutput where
  selfProgramId : ProgramId
  callerProgramId : Option ProgramId
  instructionData : List UInt32
  preStates : List AccountWithMetadata
  postStates : List AccountPostState
  deriving DecidableEq

def zeroBytes : Bytes 32 := .replicate 32 0

def PublicJournal.statement (j : PublicJournal) : AttestStatement where
  merkleRoot := j.merkleRoot
  threshold := j.threshold
  contextId := j.contextId
  presenterPubkey := j.presenterPubkey

def debugBytes (bs : List UInt8) : String :=
  "[" ++ ", ".intercalate (bs.map fun b => toString b.toNat) ++ "]"

/-- `assert_eq!` shows both values. -/
def assertEqPanic (left right : List UInt8) (message : String) : Panic :=
  ⟨"assertion `left == right` failed: " ++
    (message ++ ("\n  left: " ++ debugBytes left ++ "\n right: " ++ debugBytes right))⟩

def assertEq {n : Nat} (left right : Bytes n) (message : String) : Except Panic Unit :=
  if left = right then .ok () else .error (assertEqPanic left.toList right.toList message)

namespace Attestation

def main (sha256 : HashFn) (privIn : PrivateInputs) (journal : PublicJournal) :
    Except Panic PublicJournal := do
  let accountId := deriveAccountId sha256 privIn.npk privIn.identifier
  let leafCommitment := computeCommitment sha256 accountId privIn.programOwner privIn.balance
    privIn.nonce privIn.dataHash
  let leafHash := sha256 leafCommitment.toList
  let recoveredRoot := foldMerklePath sha256 leafHash privIn.leafIndex privIn.merklePath
  assertEq recoveredRoot journal.merkleRoot "merkle path does not anchor to the claimed root"
  assert (privIn.balance ≥ journal.threshold) "balance is below the attested threshold"
  let nullifier := computeNullifier sha256 journal.presenterPubkey journal.contextId accountId
  return { journal with nullifier }

end Attestation

namespace AttestationLez

def main (sha256 : HashFn) (input : ProgramInput AttestInstruction)
    (instructionWords : List UInt32) : Except Panic ProgramOutput := do
  let nullifier ← attest sha256 input.instruction.witness input.instruction.statement
  assert (nullifier ≠ zeroBytes) "nullifier must be non-zero for the caller's PDA seed"
  let postStates := input.preStates.map fun pre => ⟨pre.account⟩
  return ⟨input.selfProgramId, input.callerProgramId, instructionWords, input.preStates, postStates⟩

end AttestationLez

variable {sha256 : HashFn}

/-- The duplicated body makes the checks of `attest` in the same order, on the journal's
own statement; the nullifier the host supplied is overwritten. -/
theorem Attestation.main_eq (w : PrivateInputs) (j : PublicJournal) :
    Attestation.main sha256 w j =
      if w.recoveredRoot sha256 = j.merkleRoot then
        if w.balance ≥ j.threshold then
          .ok { j with nullifier :=
            computeNullifier sha256 j.presenterPubkey j.contextId (w.accountId sha256) }
        else .error ⟨"balance is below the attested threshold"⟩
      else .error (assertEqPanic (w.recoveredRoot sha256).toList j.merkleRoot.toList
        "merkle path does not anchor to the claimed root") := by
  simp only [Attestation.main, assertEq, assert_bind]
  change (if w.recoveredRoot sha256 = j.merkleRoot then _ else _) >>= _ = _
  split <;> rfl

theorem Attestation.main_eq_ok {w : PrivateInputs} {j c : PublicJournal} :
    Attestation.main sha256 w j = .ok c ↔
      w.recoveredRoot sha256 = j.merkleRoot ∧ w.balance ≥ j.threshold ∧
        c = { j with nullifier :=
          computeNullifier sha256 j.presenterPubkey j.contextId (w.accountId sha256) } := by
  rw [Attestation.main_eq]
  by_cases hr : w.recoveredRoot sha256 = j.merkleRoot
  · by_cases hb : w.balance ≥ j.threshold
    · simp [hr, hb, eq_comm]
    · simp [hr, hb]
  · simp [hr]

theorem Attestation.main_eq_attest {w : PrivateInputs} {j c : PublicJournal} :
    Attestation.main sha256 w j = .ok c ↔
      ∃ n, attest sha256 w j.statement = .ok n ∧ c = { j with nullifier := n } := by
  rw [Attestation.main_eq_ok]
  simp only [attest_eq_ok, PublicJournal.statement, and_assoc, exists_and_left, exists_eq_left']

theorem AttestationLez.main_eq_ok {input : ProgramInput AttestInstruction}
    {words : List UInt32} {out : ProgramOutput} :
    AttestationLez.main sha256 input words = .ok out ↔
      ∃ n, attest sha256 input.instruction.witness input.instruction.statement = .ok n ∧
        n ≠ zeroBytes ∧ out = ⟨input.selfProgramId, input.callerProgramId, words,
          input.preStates, input.preStates.map fun pre => ⟨pre.account⟩⟩ := by
  rw [AttestationLez.main, bind_ok]
  apply exists_congr
  intro n
  apply and_congr_right
  intro _
  rw [assert_bind]
  by_cases hn : n = zeroBytes
  · simp [hn]
  · simp [hn, pure, Except.pure, eq_comm]

theorem AttestationLez.exists_main_eq_ok {input : ProgramInput AttestInstruction}
    {words : List UInt32} :
    (∃ out, AttestationLez.main sha256 input words = .ok out) ↔
      ∃ n, attest sha256 input.instruction.witness input.instruction.statement = .ok n ∧
        n ≠ zeroBytes := by
  constructor
  · intro h
    obtain ⟨out, hout⟩ := h
    obtain ⟨n, hn, hz, _⟩ := AttestationLez.main_eq_ok.mp hout
    exact ⟨n, hn, hz⟩
  · intro h
    obtain ⟨n, hn, hz⟩ := h
    exact ⟨_, AttestationLez.main_eq_ok.mpr ⟨n, hn, hz, rfl⟩⟩

/-- Both programs prove what `attest` proves. The standalone guest commits the
stub with the nullifier replaced, whatever it was; the LEZ program refuses an
all-zero nullifier and passes every account through. -/
theorem attestation_programs_agree (sha256 : HashFn) (w : PrivateInputs) (j : PublicJournal) :
    (∀ j', Attestation.main sha256 w j = .ok j' ↔
      ∃ n, attest sha256 w j.statement = .ok n ∧ j' = { j with nullifier := n }) ∧
    (∀ stub, Attestation.main sha256 w { j with nullifier := stub } = Attestation.main sha256 w j) ∧
    ∀ (selfProgramId : ProgramId) (callerProgramId : Option ProgramId)
        (preStates : List AccountWithMetadata) (words : List UInt32),
      let emitted := AttestationLez.main sha256
        ⟨selfProgramId, callerProgramId, preStates, ⟨w, j.statement⟩⟩ words
      ((∃ out, emitted = .ok out) ↔ ∃ n, attest sha256 w j.statement = .ok n ∧ n ≠ zeroBytes) ∧
      ∀ out, emitted = .ok out → out.preStates = preStates ∧
        out.postStates.map AccountPostState.account = preStates.map AccountWithMetadata.account := by
  refine ⟨?_, ?_, ?_⟩
  · intro j'
    exact Attestation.main_eq_attest
  · intro stub
    rfl
  · intro selfProgramId callerProgramId preStates words
    refine ⟨AttestationLez.exists_main_eq_ok, ?_⟩
    intro out hout
    obtain ⟨n, _, _, rfl⟩ := AttestationLez.main_eq_ok.mp hout
    exact ⟨rfl, by simp [Function.comp_def]⟩

end BalanceAttestation
