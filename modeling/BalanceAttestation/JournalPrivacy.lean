import BalanceAttestation.AttestationPrograms
import BalanceAttestation.CommitmentTree

/-! What the committed journal reveals. Two runs of the standalone guest on
stubs with one statement differ at most in the nullifier, and the nullifier
depends on the witness through its account id alone. -/

namespace BalanceAttestation

open ByteLayout

variable {sha256 : HashFn}

theorem PublicJournal.ext_statement {c c' : PublicJournal} (hs : c.statement = c'.statement)
    (hn : c.nullifier = c'.nullifier) : c = c' := by
  obtain ⟨root, threshold, ctx, pk, n⟩ := c
  obtain ⟨root', threshold', ctx', pk', n'⟩ := c'
  simp only [PublicJournal.statement, AttestStatement.mk.injEq] at hs
  simp only [PublicJournal.mk.injEq]
  exact ⟨hs.1, hs.2.1, hs.2.2.1, hs.2.2.2, hn⟩

theorem Attestation.main_statement {w : PrivateInputs} {j c : PublicJournal}
    (h : Attestation.main sha256 w j = .ok c) : c.statement = j.statement := by
  obtain ⟨_, _, rfl⟩ := Attestation.main_eq_ok.mp h
  rfl

theorem Attestation.main_nullifier {w : PrivateInputs} {j c : PublicJournal}
    (h : Attestation.main sha256 w j = .ok c) : c.nullifier =
      computeNullifier sha256 j.statement.presenterPubkey j.statement.contextId
        (deriveAccountId sha256 w.npk w.identifier) := by
  obtain ⟨_, _, rfl⟩ := Attestation.main_eq_ok.mp h
  rfl

/-- Two runs on stubs that agree on the statement commit journals that agree on
it; if the witnesses name one account the journals are the same, whatever else
the witnesses and the stubs' nullifiers hold. -/
theorem journal_noninterference {w w' : PrivateInputs} {j j' c c' : PublicJournal}
    (hroot : j.merkleRoot = j'.merkleRoot) (hthreshold : j.threshold = j'.threshold)
    (hcontext : j.contextId = j'.contextId) (hkey : j.presenterPubkey = j'.presenterPubkey)
    (hc : Attestation.main sha256 w j = .ok c) (hc' : Attestation.main sha256 w' j' = .ok c') :
    (c.merkleRoot = c'.merkleRoot ∧ c.threshold = c'.threshold ∧ c.contextId = c'.contextId ∧
      c.presenterPubkey = c'.presenterPubkey) ∧
    (w.npk = w'.npk → w.identifier = w'.identifier → c = c') := by
  have hstub : j.statement = j'.statement := by
    simp only [PublicJournal.statement, hroot, hthreshold, hcontext, hkey]
  have hstatement : c.statement = c'.statement := by
    rw [Attestation.main_statement hc, Attestation.main_statement hc', hstub]
  refine ⟨?_, ?_⟩
  · simpa only [PublicJournal.statement, AttestStatement.mk.injEq] using hstatement
  · intro hnpk hid
    refine PublicJournal.ext_statement hstatement ?_
    rw [Attestation.main_nullifier hc, Attestation.main_nullifier hc', hstub, hnpk, hid]

/-! One account at two balances, side by side in one tree. -/

namespace Sample

def rich : PrivateInputs :=
  { witness with
    merklePath := [beBytes 32 0x3740deeef59d5af32f7f39f4b1841626de49c86a07bcee0cdee1a1b4aebe9b91]
    leafIndex := 0 }

def poor : PrivateInputs where
  npk := .replicate 32 7
  identifier := 1
  programOwner := .replicate 8 12
  balance := 5000
  nonce := 4
  dataHash := .replicate 32 9
  merklePath := [beBytes 32 0x97ebd214a1551e1ebc9573f699c96e50c32b6470aa9f2a523f63026ab88cae0a]
  leafIndex := 1

def stub (nullifier : Bytes 32) : PublicJournal where
  merkleRoot := beBytes 32 0x40da9aeaf99b18843a775e5fb2ba139379a365f4e77c6ce75cec5ea679fec46f
  threshold := 4000
  contextId := .replicate 32 42
  presenterPubkey := .replicate 33 2
  nullifier

end Sample

open Sample in
theorem journal_noninterference_sample : ∃ c,
    Attestation.main Sha256.digest rich (stub (.replicate 32 0)) = .ok c ∧
    Attestation.main Sha256.digest poor (stub (.replicate 32 1)) = .ok c := by
  have hrich : Attestation.main Sha256.digest rich (stub (.replicate 32 0)) = .ok _ :=
    Attestation.main_eq_ok.mpr ⟨by decide +kernel, by decide, rfl⟩
  have hpoor : Attestation.main Sha256.digest poor (stub (.replicate 32 1)) = .ok _ :=
    Attestation.main_eq_ok.mpr ⟨by decide +kernel, by decide, rfl⟩
  have heq := (journal_noninterference rfl rfl rfl rfl hrich hpoor).2 rfl rfl
  exact ⟨_, hrich, heq ▸ hpoor⟩

end BalanceAttestation
