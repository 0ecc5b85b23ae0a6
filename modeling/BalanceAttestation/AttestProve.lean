import BalanceAttestation.AttestCli
import BalanceAttestation.DemoRequests
import Mathlib

/-! `attest prove`: the request it builds around a made-up path, and the journal of the
credential it writes. -/

namespace BalanceAttestation

namespace AttestCli

/-- The arguments of `attest prove`. -/
structure Prove where
  presenter : String
  balance : U128
  threshold : U128
  context : String
  out : String
  deriving DecidableEq

def Prove.flags (cmd : Prove) : List String :=
  ["prove", "--presenter", cmd.presenter, "--balance", toString cmd.balance.toNat,
    "--threshold", toString cmd.threshold.toNat, "--context", cmd.context, "--out", cmd.out]

def TREE_DEPTH : Nat := 5

variable (sha256 : HashFn)

def proveRequest (presenterPubkey : Bytes 33) (cmd : Prove) : ProveRequest :=
  let req : ProveRequest :=
    { npk := .replicate 32 0x33
      identifier := 42
      programOwner := .replicate 8 0x11223344
      balance := cmd.balance
      nonce := 7
      dataHash := sha256 (ascii "demo-account-data")
      merklePath := []
      leafIndex := 3
      merkleRoot := zeroBytes
      threshold := cmd.threshold
      contextId := contextIdFrom sha256 cmd.context
      presenterPubkey }
  let (_, leafHash) := Sdk.precomputeLeaf sha256 req
  let (path, root) := Sdk.syntheticMerklePath sha256 leafHash req.leafIndex TREE_DEPTH
  { req with merklePath := path, merkleRoot := root }

/-- The journal of the credential that is written. -/
def prove (presenterPubkey : Bytes 33) (cmd : Prove) : Except Panic PublicJournal :=
  let inputs := Sdk.guestInputs sha256 (proveRequest sha256 presenterPubkey cmd)
  Attestation.main sha256 inputs.1 inputs.2

theorem Prove.flags_injective : Function.Injective Prove.flags := by
  rintro ⟨presenter, balance, threshold, context, out⟩
    ⟨presenter', balance', threshold', context', out'⟩ h
  simp only [flags, List.cons.injEq, true_and, and_true] at h
  obtain ⟨rfl, hbalance, hthreshold, rfl, rfl⟩ := h
  obtain rfl := BitVec.eq_of_toNat_eq (Nat.repr_injective hbalance)
  obtain rfl := BitVec.eq_of_toNat_eq (Nat.repr_injective hthreshold)
  rfl

variable {sha256} {presenterPubkey : Bytes 33} {cmd : Prove} {j : PublicJournal}

theorem prove_eq_ok : prove sha256 presenterPubkey cmd = .ok j ↔
    cmd.balance ≥ cmd.threshold ∧
      j = (Sdk.guestInputs sha256 (proveRequest sha256 presenterPubkey cmd)).2 :=
  Sdk.main_guestInputs _ rfl j

theorem prove_statement (h : prove sha256 presenterPubkey cmd = .ok j) :
    j.contextId = contextIdFrom sha256 cmd.context ∧ j.threshold = cmd.threshold := by
  obtain ⟨-, rfl⟩ := prove_eq_ok.mp h
  exact ⟨rfl, rfl⟩

end AttestCli

end BalanceAttestation
