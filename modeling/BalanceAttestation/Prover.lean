import BalanceAttestation.DemoRequests
import Mathlib.Data.List.Infix

/-! The SDK's prover. Risc0 reports a failure as one text, and the SDK looks in it for
the guest's own messages before anything else. -/

/-! What the standard library does with a text. -/

namespace RustStr

def isWhitespace (c : Char) : Bool :=
  (9 ≤ c.toNat ∧ c.toNat ≤ 13) ∨ c.toNat = 0x20 ∨ c.toNat = 0x85 ∨ c.toNat = 0xa0 ∨
    c.toNat = 0x1680 ∨ (0x2000 ≤ c.toNat ∧ c.toNat ≤ 0x200a) ∨ c.toNat = 0x2028 ∨
    c.toNat = 0x2029 ∨ c.toNat = 0x202f ∨ c.toNat = 0x205f ∨ c.toNat = 0x3000

def trim (s : String) : String :=
  String.ofList ((s.toList.dropWhile isWhitespace).reverse.dropWhile isWhitespace).reverse

def contains (s text : String) : Bool := text.toList <:+: s.toList

theorem contains_append {s t text : String} (h : contains t text = true) : contains (s ++ t) text = true := by
  rw [contains, decide_eq_true_iff] at h ⊢
  rw [String.toList_append]
  exact h.trans (List.suffix_append _ _).isInfix

theorem contains_left (text t : String) : contains (text ++ t) text = true := by
  rw [contains, decide_eq_true_iff, String.toList_append]
  exact (List.prefix_append _ _).isInfix

end RustStr

namespace BalanceAttestation

open Checks RustStr

namespace Sdk

inductive ReceiptKind
  | composite
  | groth16
  deriving DecidableEq

/-- Risc0 at work on the attestation program, for the two values it reads. -/
structure Prover (risc0 : Risc0) where
  proveWithOpts : ReceiptKind → PrivateInputs → PublicJournal → Except String risc0.Receipt

structure AttestationProof (risc0 : Risc0) where
  receipt : risc0.Receipt
  journal : PublicJournal

inductive ProveError
  | statementFalse (reason : String)
  | proverUnavailable (message : String)
  | groth16Unavailable (message : String)
  | sessionLimit (message : String)
  | other (message : String)
  deriving DecidableEq

def balanceMarker : String := "balance is below the attested threshold"

def rootMarker : String := "merkle path does not anchor to the claimed root"

namespace ProveError

def display : ProveError → String
  | statementFalse reason => "the attestation is not true for these inputs: " ++ reason ++
    "\nThis is not a bug: the circuit refuses to prove a false statement."
  | proverUnavailable message => "the Risc0 prover is unavailable: " ++ message ++
    "\nInstall it with:  curl -L https://risczero.com/install | bash && rzup install r0vm 3.0.5"
  | groth16Unavailable message => "Groth16 wrapping failed: " ++ message ++
    "\nIt needs Docker running for the BN254 prover sidecar. Either start Docker, " ++
    "or use the default composite receipt, which needs no sidecar but is ~300 KB instead of ~1.5 KB."
  | sessionLimit message => "proving exceeded the zkVM session limit: " ++ message ++
    "\nThe most common cause is an over-deep Merkle path; check merkle_path.len()."
  | other message => "proof generation failed: " ++ message

variable (toLowercase : String → String)

def classify (msg : String) : ProveError :=
  let low := toLowercase msg
  if contains msg balanceMarker then .statementFalse balanceMarker
  else if contains msg rootMarker then .statementFalse rootMarker
  else if contains low "guest panicked" then
    .statementFalse (trim ((msg.splitOn "Guest panicked:")[1]?.getD msg))
  else if contains low "session limit" ∨ contains low "cycle limit" then .sessionLimit msg
  else if contains low "groth16" ∨ contains low "stark2snark" ∨ contains low "docker" then
    .groth16Unavailable msg
  else if contains low "r0vm" ∨ contains low "no such file" ∨ contains low "not found" then
    .proverUnavailable msg
  else .other msg

end ProveError

variable (sha256 : HashFn) {risc0 : Risc0} (prover : Prover risc0) (toLowercase : String → String)

def proveWithKind (req : ProveRequest) (kind : ReceiptKind) : Except String (AttestationProof risc0) := do
  let (privIn, journalStub) := guestInputs sha256 req
  let receipt ← prover.proveWithOpts kind privIn journalStub
  let journal ← risc0.decodeJournal receipt
  return ⟨receipt, journal⟩

def proveChecked (req : ProveRequest) : Except ProveError (AttestationProof risc0) :=
  (proveWithKind sha256 prover req .composite).mapError (ProveError.classify toLowercase)

def proveGroth16Checked (req : ProveRequest) : Except ProveError (AttestationProof risc0) :=
  (proveWithKind sha256 prover req .groth16).mapError (ProveError.classify toLowercase)

/-- A receipt is of a finished run of the guest, and commits what the run committed. -/
def Prover.ProvesRuns (prover : Prover risc0) : Prop :=
  ∀ kind w stub receipt, prover.proveWithOpts kind w stub = .ok receipt →
    ∃ j, Attestation.main sha256 w stub = .ok j ∧ risc0.verify receipt = .ok () ∧
      risc0.decodeJournal receipt = .ok j

/-- The guest's message is in the text, among whatever else. -/
def Reports (panic : Panic) (msg : String) : Prop :=
  ∀ marker ∈ [balanceMarker, rootMarker], contains panic.message marker = true → contains msg marker = true

def Prover.ReportsPanics (prover : Prover risc0) : Prop :=
  ∀ kind w stub panic msg, Attestation.main sha256 w stub = .error panic →
    prover.proveWithOpts kind w stub = .error msg → Reports panic msg

section

variable {sha256 : HashFn} {risc0 : Risc0} {prover : Prover risc0} {toLowercase : String → String}
  {req : ProveRequest} {kind : ReceiptKind}

theorem proveWithKind_eq_ok {proof : AttestationProof risc0} :
    proveWithKind sha256 prover req kind = .ok proof ↔
      prover.proveWithOpts kind (guestInputs sha256 req).1 (guestInputs sha256 req).2 = .ok proof.receipt ∧
        risc0.decodeJournal proof.receipt = .ok proof.journal := by
  simp only [proveWithKind, bind_ok]
  constructor
  · rintro ⟨receipt, hreceipt, journal, hjournal, h⟩
    obtain rfl := Except.ok.inj h
    exact ⟨hreceipt, hjournal⟩
  · rintro ⟨hreceipt, hjournal⟩
    exact ⟨_, hreceipt, _, hjournal, rfl⟩

/-- A proof that comes out is of a true statement, and carries the host's own stub. -/
theorem proveWithKind_sound (hprover : prover.ProvesRuns sha256) {proof : AttestationProof risc0}
    (h : proveWithKind sha256 prover req kind = .ok proof) :
    (guestInputs sha256 req).1.recoveredRoot sha256 = req.merkleRoot ∧ req.threshold ≤ req.balance ∧
      proof.journal = (guestInputs sha256 req).2 ∧
      VerifierOffchain.verifyReceipt risc0 proof.receipt = .ok proof.journal := by
  obtain ⟨hreceipt, hjournal⟩ := proveWithKind_eq_ok.mp h
  obtain ⟨j, hmain, hverify, hdecode⟩ := hprover _ _ _ _ hreceipt
  obtain rfl := Except.ok.inj (hjournal.symm.trans hdecode)
  obtain ⟨hroot, hbalance, hstub⟩ := Attestation.main_eq_ok.mp hmain
  refine ⟨hroot, hbalance, hstub, ?_⟩
  rw [VerifierOffchain.verifyReceipt, hverify, hdecode]
  rfl

theorem contains_assertEqPanic (left right : List UInt8) (message : String) :
    contains (assertEqPanic left right message).message message = true :=
  contains_append (contains_left message _)

/-- The guest's panics are two, and the root is looked at first. -/
theorem main_panics {w : PrivateInputs} {stub : PublicJournal} {panic : Panic}
    (h : Attestation.main sha256 w stub = .error panic) :
    (w.recoveredRoot sha256 ≠ stub.merkleRoot ∧ contains panic.message rootMarker = true) ∨
      (w.recoveredRoot sha256 = stub.merkleRoot ∧ w.balance < stub.threshold ∧
        contains panic.message balanceMarker = true) := by
  rw [Attestation.main_eq] at h
  by_cases hroot : w.recoveredRoot sha256 = stub.merkleRoot
  · rw [if_pos hroot] at h
    by_cases hbalance : w.balance ≥ stub.threshold
    · rw [if_pos hbalance] at h
      cases h
    · rw [if_neg hbalance] at h
      cases h
      exact .inr ⟨hroot, BitVec.not_le.mp hbalance, by decide +kernel⟩
  · rw [if_neg hroot] at h
    rw [← Except.error.inj h]
    exact .inl ⟨hroot, contains_assertEqPanic _ _ _⟩

/-- Of the guest's two messages the text is searched for the balance's first. -/
theorem classify_of_marker {msg : String}
    (h : contains msg balanceMarker = true ∨ contains msg rootMarker = true) :
    ProveError.classify toLowercase msg =
      .statementFalse (if contains msg balanceMarker then balanceMarker else rootMarker) := by
  rw [ProveError.classify]
  by_cases hbalance : contains msg balanceMarker = true
  · rw [if_pos hbalance, if_pos hbalance]
  · rw [if_neg hbalance, if_pos (h.resolve_left hbalance), if_neg hbalance]

theorem exists_panic {w : PrivateInputs} {stub : PublicJournal}
    (h : ¬ (w.recoveredRoot sha256 = stub.merkleRoot ∧ w.balance ≥ stub.threshold)) :
    ∃ panic, Attestation.main sha256 w stub = .error panic := by
  cases hmain : Attestation.main sha256 w stub with
  | error panic => exact ⟨panic, rfl⟩
  | ok j =>
    obtain ⟨hroot, hbalance, -⟩ := Attestation.main_eq_ok.mp hmain
    exact absurd ⟨hroot, hbalance⟩ h

theorem proveWithKind_panics (hprover : prover.ProvesRuns sha256)
    (hreports : prover.ReportsPanics sha256) {panic : Panic}
    (h : Attestation.main sha256 (guestInputs sha256 req).1 (guestInputs sha256 req).2 = .error panic) :
    ∃ msg, prover.proveWithOpts kind (guestInputs sha256 req).1 (guestInputs sha256 req).2 = .error msg ∧
      Reports panic msg ∧ proveWithKind sha256 prover req kind = .error msg := by
  cases hmade : prover.proveWithOpts kind (guestInputs sha256 req).1 (guestInputs sha256 req).2 with
  | ok receipt =>
    obtain ⟨j, hmain, -, -⟩ := hprover _ _ _ _ hmade
    cases h.symm.trans hmain
  | error msg =>
    refine ⟨msg, rfl, hreports _ _ _ _ _ h hmade, ?_⟩
    rw [proveWithKind]
    dsimp only
    rw [hmade]
    rfl

end

end Sdk

open Sdk in
/-- Either call gives a proof of a true statement only. A false one it refuses with the
condition it breaks, the root before the balance, unless the text of a root that does
not match holds the balance's message too: that one is looked for first. -/
theorem prove_checked {sha256 : HashFn} {risc0 : Risc0} {prover : Prover risc0}
    (hprover : prover.ProvesRuns sha256) (hreports : prover.ReportsPanics sha256)
    (toLowercase : String → String) (req : ProveRequest) :
    let w := (guestInputs sha256 req).1
    let stub := (guestInputs sha256 req).2
    let root := w.recoveredRoot sha256
    ∀ call ∈ [(ReceiptKind.composite, proveChecked sha256 prover toLowercase req),
        (.groth16, proveGroth16Checked sha256 prover toLowercase req)],
      (∀ proof, call.2 = .ok proof →
        root = req.merkleRoot ∧ req.threshold ≤ req.balance ∧ proof.journal = stub ∧
          VerifierOffchain.verifyReceipt risc0 proof.receipt = .ok proof.journal) ∧
      (root ≠ req.merkleRoot → ∃ msg, prover.proveWithOpts call.1 w stub = .error msg ∧
        call.2 = .error (.statementFalse
          (if contains msg balanceMarker then balanceMarker else rootMarker))) ∧
      (root = req.merkleRoot → req.balance < req.threshold →
        call.2 = .error (.statementFalse balanceMarker)) := by
  intro w stub root call hcall
  obtain ⟨kind, rfl⟩ : ∃ kind, call =
      (kind, (proveWithKind sha256 prover req kind).mapError (ProveError.classify toLowercase)) := by
    simp only [List.mem_cons, List.not_mem_nil, or_false] at hcall
    rcases hcall with rfl | rfl
    · exact ⟨.composite, rfl⟩
    · exact ⟨.groth16, rfl⟩
  have hfalse (h : ¬ (root = req.merkleRoot ∧ req.balance ≥ req.threshold)) :
      ∃ panic, Attestation.main sha256 w stub = .error panic :=
    exists_panic h
  refine ⟨?_, ?_, ?_⟩
  · intro proof hproof
    exact proveWithKind_sound hprover (mapError_ok.mp hproof)
  · intro hroot
    obtain ⟨panic, hpanic⟩ := hfalse fun h => hroot h.1
    obtain ⟨msg, hmade, hmsg, herror⟩ := proveWithKind_panics hprover hreports hpanic
    obtain ⟨-, hmessage⟩ | ⟨hsame, -⟩ := main_panics hpanic
    · refine ⟨msg, hmade, ?_⟩
      dsimp only
      rw [herror]
      exact congrArg Except.error (classify_of_marker (.inr (hmsg rootMarker (by simp) hmessage)))
    · exact absurd hsame hroot
  · intro hroot hbalance
    obtain ⟨panic, hpanic⟩ := hfalse fun h => BitVec.not_le.mpr hbalance h.2
    obtain ⟨msg, hmade, hmsg, herror⟩ := proveWithKind_panics hprover hreports hpanic
    obtain ⟨hother, -⟩ | ⟨-, -, hmessage⟩ := main_panics hpanic
    · exact absurd hroot hother
    · have hmarker := hmsg balanceMarker (by simp) hmessage
      dsimp only
      rw [herror]
      refine congrArg Except.error ((classify_of_marker (.inl hmarker)).trans ?_)
      rw [if_pos hmarker]

/-! A prover that gives the panic as risc0 does, and a balance that is short. -/

namespace Scenario

def guestProver (sha256 : HashFn) : Sdk.Prover Risc0.ofJournals where
  proveWithOpts _ w stub :=
    (Attestation.main sha256 w stub).mapError fun panic => "Guest panicked: " ++ panic.message

theorem guestProver_provesRuns (sha256 : HashFn) : (guestProver sha256).ProvesRuns sha256 :=
  fun _ _ _ receipt h => ⟨receipt, mapError_ok.mp h, rfl, rfl⟩

theorem guestProver_reportsPanics (sha256 : HashFn) : (guestProver sha256).ReportsPanics sha256 := by
  intro kind w stub panic msg hpanic herror
  change (Attestation.main sha256 w stub).mapError _ = .error msg at herror
  rw [hpanic] at herror
  obtain rfl := Except.error.inj herror
  intro marker _ hmarker
  exact contains_append hmarker

def shortFixture : DemoFixture where
  npk := .replicate 32 0x33
  identifier := 42
  programOwner := .replicate 8 0x11223344
  balance := 50
  nonce := 7
  dataSeed := ascii "demo-account-data"
  leafIndex := 3
  treeDepth := 5
  threshold := 100
  contextId := .replicate 32 0xcc
  presenterPubkey := .replicate 33 0x02

end Scenario

open Sdk Scenario in
theorem prove_checked_short :
    let req := shortFixture.intoRequest Sha256.digest
    proveChecked Sha256.digest (guestProver Sha256.digest) String.toLower req =
      .error (.statementFalse "balance is below the attested threshold") := by
  intro req
  obtain ⟨-, -, hshort⟩ := prove_checked (guestProver_provesRuns Sha256.digest)
    (guestProver_reportsPanics Sha256.digest) String.toLower req _ List.mem_cons_self
  have hbalance : req.balance < req.threshold := by decide
  exact hshort (intoRequest_anchored shortFixture) hbalance

end BalanceAttestation
