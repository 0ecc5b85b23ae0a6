import BalanceAttestation.DeployedGuest
import BalanceAttestation.Preimages

/-! The envelope a credential travels in, and its fingerprint. The signature, the
metadata and the receipt are hashed one after the other without their lengths,
so a byte may belong to either of two neighbours. -/

namespace BalanceAttestation

open ByteLayout

inductive TransportError
  | upstream (reason : String)
  | encode (reason : String)
  | decode (reason : String)
  deriving DecidableEq

structure CredentialEnvelope (risc0 : Risc0) where
  receipt : risc0.Receipt
  challengeNonce : Bytes 32
  presenterSignatureDer : List UInt8
  appMeta : List UInt8

section

variable {risc0 : Risc0} (encodeReceipt : risc0.Receipt → List UInt8)

namespace CredentialEnvelope

def fingerprintBytes (e : CredentialEnvelope risc0) : List UInt8 :=
  ascii "/lp-0005/v0.1/EnvelopeFingerprint/" ++ e.challengeNonce.toList ++
    e.presenterSignatureDer ++ e.appMeta ++ encodeReceipt e.receipt

def fingerprint (sha256 : HashFn) (e : CredentialEnvelope risc0) : Bytes 32 :=
  sha256 (e.fingerprintBytes encodeReceipt)

def signed (e : CredentialEnvelope risc0) : List UInt8 := e.presenterSignatureDer ++ e.appMeta

def CutElsewhere (e e' : CredentialEnvelope risc0) : Prop :=
  e.challengeNonce = e'.challengeNonce ∧ e.receipt = e'.receipt ∧ e.signed = e'.signed ∧
    e.presenterSignatureDer ≠ e'.presenterSignatureDer

/-- The receipt of `e` starts with bytes that end the metadata of `e'`. -/
def RunsInto (e e' : CredentialEnvelope risc0) : Prop :=
  e.challengeNonce = e'.challengeNonce ∧ ∃ x, x ≠ [] ∧
    encodeReceipt e.receipt = x ++ encodeReceipt e'.receipt ∧ e'.signed = e.signed ++ x

def Shifted (e e' : CredentialEnvelope risc0) : Prop :=
  e.CutElsewhere e' ∨ e.RunsInto encodeReceipt e' ∨ e'.RunsInto encodeReceipt e

variable {encodeReceipt} {e e' : CredentialEnvelope risc0}

theorem fingerprintBytes_eq_iff : e.fingerprintBytes encodeReceipt = e'.fingerprintBytes encodeReceipt ↔
    e.challengeNonce = e'.challengeNonce ∧
      e.signed ++ encodeReceipt e.receipt = e'.signed ++ encodeReceipt e'.receipt := by
  simp only [fingerprintBytes, signed, List.append_assoc, List.append_cancel_left_eq]
  constructor
  · intro h
    exact prefixFree_bytes 32 h
  · intro h
    rw [h.1, h.2]

theorem RunsInto.fingerprintBytes_eq (h : e.RunsInto encodeReceipt e') :
    e.fingerprintBytes encodeReceipt = e'.fingerprintBytes encodeReceipt ∧ e ≠ e' := by
  obtain ⟨hnonce, x, hx, hreceipt, hsigned⟩ := h
  refine ⟨fingerprintBytes_eq_iff.mpr ⟨hnonce, by rw [hreceipt, hsigned, List.append_assoc]⟩, ?_⟩
  intro he
  rw [he] at hreceipt
  exact hx (List.append_left_eq_self.mp hreceipt.symm)

theorem Shifted.fingerprintBytes_eq (h : e.Shifted encodeReceipt e') :
    e.fingerprintBytes encodeReceipt = e'.fingerprintBytes encodeReceipt ∧ e ≠ e' := by
  rcases h with ⟨hnonce, hreceipt, hsigned, hne⟩ | h | h
  · refine ⟨fingerprintBytes_eq_iff.mpr ⟨hnonce, by rw [hreceipt, hsigned]⟩, ?_⟩
    intro he
    exact hne (congrArg presenterSignatureDer he)
  · exact h.fingerprintBytes_eq
  · exact ⟨h.fingerprintBytes_eq.1.symm, h.fingerprintBytes_eq.2.symm⟩

theorem eq_or_cutElsewhere (hnonce : e.challengeNonce = e'.challengeNonce)
    (hreceipt : e.receipt = e'.receipt) (hsigned : e.signed = e'.signed) :
    e = e' ∨ e.CutElsewhere e' := by
  by_cases hsig : e.presenterSignatureDer = e'.presenterSignatureDer
  · have hmeta : e.appMeta = e'.appMeta := by
      rw [signed, signed, hsig] at hsigned
      exact List.append_cancel_left hsigned
    obtain ⟨r, n, sig, m⟩ := e
    obtain ⟨r', n', sig', m'⟩ := e'
    exact .inl (by simp only [mk.injEq]; exact ⟨hreceipt, hnonce, hsig, hmeta⟩)
  · exact .inr ⟨hnonce, hreceipt, hsigned, hsig⟩

theorem eq_or_shifted (hinj : Function.Injective encodeReceipt)
    (h : e.fingerprintBytes encodeReceipt = e'.fingerprintBytes encodeReceipt) :
    e = e' ∨ e.Shifted encodeReceipt e' := by
  obtain ⟨hnonce, happend⟩ := fingerprintBytes_eq_iff.mp h
  -- One signature and metadata is the other's and some bytes more, perhaps none.
  rcases List.append_eq_append_iff.mp happend with ⟨x, hsigned, hreceipt⟩ | ⟨x, hsigned, hreceipt⟩
  · by_cases hx : x = []
    · rw [hx, List.append_nil] at hsigned
      rw [hx, List.nil_append] at hreceipt
      exact (eq_or_cutElsewhere hnonce (hinj hreceipt) hsigned.symm).imp_right .inl
    · exact .inr (.inr (.inl ⟨hnonce, x, hx, hreceipt, hsigned⟩))
  · by_cases hx : x = []
    · rw [hx, List.append_nil] at hsigned
      rw [hx, List.nil_append] at hreceipt
      exact (eq_or_cutElsewhere hnonce (hinj hreceipt).symm hsigned).imp_right .inl
    · exact .inr (.inr (.inr ⟨hnonce.symm, x, hx, hreceipt, hsigned⟩))

end CredentialEnvelope

end

/-- The hashed strings of two envelopes tell them apart unless the bytes of one
are the other's with a boundary between two fields moved. -/
theorem fingerprint_identifies_iff {risc0 : Risc0} {encodeReceipt : risc0.Receipt → List UInt8}
    (hinj : Function.Injective encodeReceipt) (e e' : CredentialEnvelope risc0) :
    (e.fingerprintBytes encodeReceipt = e'.fingerprintBytes encodeReceipt → e = e') ↔
      ¬ e.Shifted encodeReceipt e' := by
  constructor
  · intro h hshift
    obtain ⟨heq, hne⟩ := hshift.fingerprintBytes_eq
    exact hne (h heq)
  · intro hshift h
    exact (CredentialEnvelope.eq_or_shifted hinj h).resolve_right hshift

/-! The envelope of the repository's tests, and the one with a byte of its
metadata moved to the signature. The receipt is its journal, in canonical bytes. -/

namespace Scenario

theorem canonicalBytes_prefixFree : PrefixFree PublicJournal.canonicalBytes := by
  intro j j' s t h
  have hchallenge : VerifierOffchain.presenterChallengeBytes nonce j ++ s =
      VerifierOffchain.presenterChallengeBytes nonce j' ++ t := by
    simp only [PublicJournal.canonicalBytes, V2.canonicalJournalBytes, List.append_assoc] at h
    simp only [VerifierOffchain.presenterChallengeBytes, List.append_assoc, h]
  obtain ⟨hbytes, hrest⟩ := List.append_inj hchallenge
    (by rw [presenterChallengeBytes_length, presenterChallengeBytes_length])
  exact ⟨(presenterChallengeBytes_inj hbytes).2, hrest⟩

def envelope (signatureDer appMeta : List UInt8) : CredentialEnvelope Risc0.ofJournals :=
  ⟨journal, .replicate 32 0xaa, signatureDer, appMeta⟩

def testEnvelope : CredentialEnvelope Risc0.ofJournals :=
  envelope [0x30, 0x06, 0x02, 0x01, 0x00, 0x02, 0x01, 0x00] (ascii "test")

def movedEnvelope : CredentialEnvelope Risc0.ofJournals :=
  envelope [0x30, 0x06, 0x02, 0x01, 0x00, 0x02, 0x01, 0x00, 0x74] (ascii "est")

end Scenario

open Scenario in
theorem fingerprint_identifies_test :
    (testEnvelope.fingerprintBytes PublicJournal.canonicalBytes =
        movedEnvelope.fingerprintBytes PublicJournal.canonicalBytes → testEnvelope = movedEnvelope) ↔
      ¬ testEnvelope.Shifted PublicJournal.canonicalBytes movedEnvelope :=
  fingerprint_identifies_iff canonicalBytes_prefixFree.injective _ _

open Scenario in
theorem fingerprint_moved_byte :
    PrefixFree PublicJournal.canonicalBytes ∧
    testEnvelope.fingerprintBytes PublicJournal.canonicalBytes =
      movedEnvelope.fingerprintBytes PublicJournal.canonicalBytes ∧
    (∀ sha256, testEnvelope.fingerprint PublicJournal.canonicalBytes sha256 =
      movedEnvelope.fingerprint PublicJournal.canonicalBytes sha256) ∧
    testEnvelope.presenterSignatureDer ≠ movedEnvelope.presenterSignatureDer ∧
    testEnvelope.appMeta ≠ movedEnvelope.appMeta := by
  have hbytes : testEnvelope.fingerprintBytes PublicJournal.canonicalBytes =
      movedEnvelope.fingerprintBytes PublicJournal.canonicalBytes := by
    decide +kernel
  exact ⟨canonicalBytes_prefixFree, hbytes, fun sha256 => congrArg sha256 hbytes,
    by decide +kernel, by decide +kernel⟩

end BalanceAttestation
