import BalanceAttestation.ClaimOnce
import BalanceAttestation.GateAgreement

/-! The governance gate: a vote counts when its attestation passes `check_gate`
and its nullifier is new to the proposal. -/

namespace BalanceAttestation

open ByteLayout ClaimOnce VerifierProgram

def GOVERNANCE_CONTEXT_ID : Bytes 32 :=
  ⟨ascii "/lp-0005/integ/governance-v1/" ++ List.replicate 3 0, by decide +kernel⟩

inductive VoteError
  | gate (e : GateError)
  | nullifierReused
  | notEligible
  deriving DecidableEq

/-- Counters wrap, as `u64` does in a release build. -/
structure ProposalState where
  yesVotes : UInt64
  noVotes : UInt64
  usedNullifiers : Finset (Bytes 32)
  deriving DecidableEq

def ProposalState.default : ProposalState := ⟨0, 0, ∅⟩

structure VoteCall where
  attestation : PublicJournal
  presenterNonce : Bytes 32
  presenterSignatureDer : List UInt8
  minimumStake : U128
  voteYes : Bool

def VoteCall.gateInputs (c : VoteCall) : GateInputs where
  attested := c.attestation
  expectedContextId := GOVERNANCE_CONTEXT_ID
  minimumThreshold := c.minimumStake
  challengeNonce := c.presenterNonce
  presenterSignatureDer := c.presenterSignatureDer

section

variable (sha256 : HashFn) (k256 : K256)

def castVote (state : ProposalState) (c : VoteCall) : Except VoteError Unit × ProposalState :=
  match checkGate sha256 k256 c.gateInputs with
  | .error e => (.error (.gate e), state)
  | .ok () =>
    let isNew := c.attestation.nullifier ∉ state.usedNullifiers
    let state := { state with usedNullifiers := insert c.attestation.nullifier state.usedNullifiers }
    if ¬ isNew then (.error .nullifierReused, state)
    else if c.voteYes then (.ok (), { state with yesVotes := state.yesVotes + 1 })
    else (.ok (), { state with noVotes := state.noVotes + 1 })

def castVotes (state : ProposalState) (calls : List VoteCall) : ProposalState :=
  calls.foldl (fun state c => (castVote sha256 k256 state c).2) state

def VoteCall.spends (c : VoteCall) : Option (Bytes 32) :=
  match checkGate sha256 k256 c.gateInputs with
  | .error _ => none
  | .ok () => some c.attestation.nullifier

end

section Votes

variable {sha256 : HashFn} {k256 : K256} {state : ProposalState} {c : VoteCall}

theorem VoteCall.spends_eq_some {n : Bytes 32} : c.spends sha256 k256 = some n ↔
    checkGate sha256 k256 c.gateInputs = .ok () ∧ c.attestation.nullifier = n := by
  rw [VoteCall.spends]
  cases checkGate sha256 k256 c.gateInputs <;> simp

theorem castVote_cases (sha256 : HashFn) (k256 : K256) (state : ProposalState) (c : VoteCall) :
    (∃ e, checkGate sha256 k256 c.gateInputs = .error e ∧
      castVote sha256 k256 state c = (.error (.gate e), state)) ∨
    (checkGate sha256 k256 c.gateInputs = .ok () ∧
      c.attestation.nullifier ∈ state.usedNullifiers ∧
      castVote sha256 k256 state c = (.error .nullifierReused, state)) ∨
    (checkGate sha256 k256 c.gateInputs = .ok () ∧
      c.attestation.nullifier ∉ state.usedNullifiers ∧
      castVote sha256 k256 state c = (.ok (),
        { yesVotes := if c.voteYes then state.yesVotes + 1 else state.yesVotes
          noVotes := if c.voteYes then state.noVotes else state.noVotes + 1
          usedNullifiers := insert c.attestation.nullifier state.usedNullifiers })) := by
  rw [castVote]
  cases hgate : checkGate sha256 k256 c.gateInputs with
  | error e => exact .inl ⟨e, rfl, rfl⟩
  | ok u =>
    by_cases hused : c.attestation.nullifier ∈ state.usedNullifiers
    · exact .inr (.inl ⟨rfl, hused, by simp [hused]⟩)
    · refine .inr (.inr ⟨rfl, hused, ?_⟩)
      cases c.voteYes <;> simp [hused]

theorem castVote_eq_ok : (castVote sha256 k256 state c).1 = .ok () ↔
    checkGate sha256 k256 c.gateInputs = .ok () ∧
      c.attestation.nullifier ∉ state.usedNullifiers := by
  rcases castVote_cases sha256 k256 state c with ⟨e, hgate, hcast⟩ | ⟨hgate, hused, hcast⟩ |
    ⟨hgate, hnew, hcast⟩
  · simp [hcast, hgate]
  · simp [hcast, hused]
  · simp [hcast, hgate, hnew]

theorem castVote_usedNullifiers : (castVote sha256 k256 state c).2.usedNullifiers =
    step (VoteCall.spends sha256 k256) state.usedNullifiers c := by
  rw [step, VoteCall.spends]
  rcases castVote_cases sha256 k256 state c with ⟨e, hgate, hcast⟩ | ⟨hgate, hused, hcast⟩ |
    ⟨hgate, _, hcast⟩
  · simp [hcast, hgate]
  · simp [hcast, hgate, hused]
  · simp [hcast, hgate]

theorem castVotes_usedNullifiers (state : ProposalState) (calls : List VoteCall) :
    (castVotes sha256 k256 state calls).usedNullifiers =
      run (VoteCall.spends sha256 k256) state.usedNullifiers calls := by
  induction calls generalizing state with
  | nil => rfl
  | cons c calls ih =>
    change (castVotes sha256 k256 (castVote sha256 k256 state c).2 calls).usedNullifiers =
      run _ (step _ state.usedNullifiers c) calls
    rw [ih, castVote_usedNullifiers]

theorem castVote_of_used (hused : c.attestation.nullifier ∈ state.usedNullifiers) :
    (castVote sha256 k256 state c).1 ≠ .ok () ∧ (castVote sha256 k256 state c).2 = state ∧
      (checkGate sha256 k256 c.gateInputs = .ok () →
        (castVote sha256 k256 state c).1 = .error .nullifierReused) := by
  rcases castVote_cases sha256 k256 state c with ⟨e, hgate, hcast⟩ | ⟨_, _, hcast⟩ |
    ⟨_, hnew, _⟩
  · simp [hcast, hgate]
  · simp [hcast]
  · exact absurd hused hnew

theorem mem_usedNullifiers_castVotes (hok : (castVote sha256 k256 state c).1 = .ok ())
    (calls : List VoteCall) : c.attestation.nullifier ∈
      (castVotes sha256 k256 (castVote sha256 k256 state c).2 calls).usedNullifiers := by
  rw [castVotes_usedNullifiers]
  refine mem_run.mpr (.inl ?_)
  rw [castVote_usedNullifiers]
  exact mem_step.mpr (.inr (VoteCall.spends_eq_some.mpr ⟨(castVote_eq_ok.mp hok).1, rfl⟩))

/-- The presenter's signature does not fix the direction of the vote, so from
one state either direction is accepted; but once one is, at any later state of
the run the same attestation, nonce and signature are refused either way. -/
theorem castVote_once (sha256 : HashFn) (k256 : K256) (state : ProposalState)
    (attestation : PublicJournal) (nonce : Bytes 32) (signatureDer : List UInt8)
    (minimumStake : U128) :
    let vote (yes : Bool) : VoteCall := ⟨attestation, nonce, signatureDer, minimumStake, yes⟩
    ((castVote sha256 k256 state (vote true)).1 = .ok () ↔
      (castVote sha256 k256 state (vote false)).1 = .ok ()) ∧
    ∀ (yes : Bool), (castVote sha256 k256 state (vote yes)).1 = .ok () →
      ∀ (calls : List VoteCall) (yes' : Bool),
        let later := castVotes sha256 k256 (castVote sha256 k256 state (vote yes)).2 calls
        castVote sha256 k256 later (vote yes') = (.error .nullifierReused, later) := by
  intro vote
  refine ⟨by rw [castVote_eq_ok, castVote_eq_ok]; rfl, ?_⟩
  intro yes hok calls yes' later
  have hused : (vote yes').attestation.nullifier ∈ later.usedNullifiers :=
    mem_usedNullifiers_castVotes hok calls
  have hgate : checkGate sha256 k256 (vote yes').gateInputs = .ok () := (castVote_eq_ok.mp hok).1
  obtain ⟨_, hstate, herror⟩ := castVote_of_used hused
  exact Prod.ext (herror hgate) hstate

end Votes

/-! The journal of the repository's own vote tests, under the tests' key. -/

namespace Scenario

def voteJournal : PublicJournal where
  merkleRoot := .replicate 32 0x11
  threshold := 1000
  contextId := GOVERNANCE_CONTEXT_ID
  presenterPubkey := pubkey
  nullifier := .replicate 32 0xaa

def voteSignature : List UInt8 :=
  (beBytes 36 0x304402205ab762d220936e033ad227b31683f4b9b40d26d69aa6a240cf163cee3c0c4c05).toList ++
    (beBytes 34 0x02200e344afe8e4140f1fc5dfea5120077a145094549fa1ea1f939bf4a5aab3311d0).toList

def voteK256 : K256 :=
  k256 (beBytes 32 0xad42c17a32d84af21cf4d2f5bf117022a3d6345db148a16cd4eaf9df97f3a837) voteSignature

def vote (yes : Bool) : VoteCall := ⟨voteJournal, .replicate 32 0x44, voteSignature, 500, yes⟩

end Scenario

open Scenario in
theorem castVote_either_direction :
    castVote Sha256.digest voteK256 .default (vote true) = (.ok (), ⟨1, 0, {.replicate 32 0xaa}⟩) ∧
    castVote Sha256.digest voteK256 .default (vote false) =
      (.ok (), ⟨0, 1, {.replicate 32 0xaa}⟩) := by
  decide +kernel

end BalanceAttestation
