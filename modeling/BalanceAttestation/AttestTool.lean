import BalanceAttestation.AttestProve
import BalanceAttestation.GateAgreement
import BalanceAttestation.PrivacyScript
import BalanceAttestation.Prover
import BalanceAttestation.SerdeJson

/-! The commands of the `attest` tool over the files they read and write. What a
command draws at random, how its writes end and the time it takes are part of the call. -/

namespace BalanceAttestation

open Checks RustStr SerdeJson VerifierOffchain

def VerifierOffchain.VerifyError.display : VerifyError → String
  | .receipt reason => "risc0 receipt verification failed: " ++ reason
  | .journal reason => "could not decode the journal: " ++ reason
  | .invalidPubkey => "invalid presenter pubkey encoding"
  | .invalidSignature => "invalid signature encoding"
  | .signatureRejected => "presenter signature did not verify under journal.presenter_pubkey"
  | .contextMismatch => "application context mismatch"
  | .thresholdTooLow => "threshold smaller than required minimum"

/-- The files that can be read, by path. -/
abbrev Files := String → Option (List UInt8)

/-- How a write ends: in full, or with an error and something else in the file. -/
inductive Write
  | done
  | failed (reason : String) (left : Option (List UInt8))

namespace Files

variable (files : Files) (path : String)

def read : Except String (List UInt8) := okOr (files path) "No such file or directory (os error 2)"

def readToString : Except String String := do
  let bytes ← files.read path
  okOr (String.fromUTF8? ⟨bytes.toArray⟩) "stream did not contain valid UTF-8"

def write (bytes : List UInt8) : Write → Except String Unit × Files
  | .done => (.ok (), Function.update files path (some bytes))
  | .failed reason left => (.error reason, Function.update files path left)

end Files

namespace AttestCli

/-- What the tool calls of other crates, errors as texts. -/
structure Crates (risc0 : Risc0) where
  hex : HexCrate
  keys : K256.KeyPairs
  toStringPretty : Value → String
  fromStr : String → Except String Value
  /-- `json!` of a `u128`. -/
  ofU128 : U128 → Except String Value
  encodeToVec : risc0.Receipt → Except String (List UInt8)
  decodeFromSlice : List UInt8 → Except String (risc0.Receipt × Nat)
  prover : Sdk.Prover risc0
  toLowercase : String → String

inductive Cmd
  | keygen (out : String)
  | journal (credential : String)
  | challenge
  | signChallenge (credential presenter nonce : String)
  | signDigest (secret digest : String)
  | prove (cmd : Prove) (groth16 : Bool)
  | gatedCheckArgs (credential presenter context : String) (threshold : U128) (nonce : String)
  | verify (credential context : String) (threshold : U128) (nonce signature presenter : Option String)

structure Invocation where
  cmd : Cmd
  drawn : Bytes 32
  write : Write
  elapsed : String

structure Exit where
  stdout : String
  result : Except String Unit
  files : Files

def println (line : String) : String := line ++ "\n"

/-- A command that only reads. -/
def Exit.reading (files : Files) : Except String String → Exit
  | .ok stdout => ⟨stdout, .ok (), files⟩
  | .error e => ⟨"", .error e, files⟩

/-- The end of a command that writes a file. -/
def Exit.writing (files : Files) (path : String) (bytes : List UInt8) (write : Write)
    (before after : String) : Exit :=
  let (written, files) := files.write path bytes write
  match written with
  | .error e => ⟨before, .error e, files⟩
  | .ok () => ⟨before ++ after, .ok (), files⟩

/-- `v[key].as_str()`. -/
def textAt (v : Value) (key : String) : Option String :=
  (v.asObject.bind fun get => get key).bind Value.asStr

def PresenterFile.toValue (pres : PresenterFile) : Value :=
  .ofMembers [("secret_hex", .string pres.secretHex), ("public_hex", .string pres.publicHex)]

def bytesAsCsv (bytes : List UInt8) : String := ",".intercalate (bytes.map fun b => toString b.toNat)

section

variable (sha256 : HashFn) (k256 : K256) {risc0 : Risc0} (crates : Crates risc0)

def parseNonce (hexIn : String) : Except String (Bytes 32) := do
  let bytes ← (crates.hex.decode (trim hexIn)).mapError fun _ => "nonce is not valid hex"
  okOr (array32 bytes) "nonce must be exactly 32 bytes"

variable (files : Files)

def loadPresenter (path : String) : Except String crates.keys.SigningKey := do
  let raw ← (files.readToString path).mapError fun _ => "reading " ++ path
  let v ← crates.fromStr raw
  let hexSk ← okOr (textAt v "secret_hex") "missing secret_hex"
  let bytes ← crates.hex.decode hexSk
  let bytes ← okOr (array32 bytes) "bad sk length"
  crates.keys.fromBytes bytes

def readCredential (path : String) : Except String risc0.Receipt := do
  let bytes ← files.read path
  let (receipt, _) ← crates.decodeFromSlice bytes
  return receipt

/-- The prover reads its own journal off the receipt and does not verify it again. -/
def decodeJournal (receipt : risc0.Receipt) : Except String PublicJournal :=
  (risc0.decodeJournal receipt).mapError fun _ => "could not decode journal from credential"

def journal (credential : String) : Except String String := do
  let receipt ← readCredential crates files credential
  let journal ← (verifyReceipt risc0 receipt).mapError VerifyError.display
  let threshold ← crates.ofU128 journal.threshold
  return println (crates.toStringPretty (.ofMembers [
    ("merkle_root", .string (crates.hex.encode journal.merkleRoot.toList)),
    ("threshold", threshold),
    ("context_id", .string (crates.hex.encode journal.contextId.toList)),
    ("presenter_pubkey", .string (crates.hex.encode journal.presenterPubkey.toList)),
    ("nullifier", .string (crates.hex.encode journal.nullifier.toList))]))

def signChallenge (credential presenter nonce : String) : Except String String := do
  let pk ← loadPresenter crates files presenter
  let receipt ← readCredential crates files credential
  let journal ← decodeJournal receipt
  let nonceBytes ← parseNonce crates nonce
  let signature := PresenterKey.sign crates.keys.toSigner pk sha256 nonceBytes journal
  return println (crates.hex.encode signature)

def gatedCheckLines (journal : PublicJournal) (nonceBytes : Bytes 32) (signature : List UInt8)
    (expectedContext : Bytes 32) (threshold : U128) : List String :=
  let hex (b : Bytes 32) := crates.hex.encode b.toList
  ["--merkle-root '" ++ hex journal.merkleRoot ++ "'",
    "--threshold " ++ toString journal.threshold.toNat,
    "--context-id '" ++ hex journal.contextId ++ "'",
    "--presenter-pubkey '" ++ bytesAsCsv journal.presenterPubkey.toList ++ "'",
    "--nullifier '" ++ hex journal.nullifier ++ "'",
    "--presenter-nonce '" ++ hex nonceBytes ++ "'",
    "--presenter-signature-der '" ++ bytesAsCsv signature ++ "'",
    "--expected-context-id '" ++ hex expectedContext ++ "'",
    "--minimum-threshold " ++ toString threshold.toNat]

def gatedCheckArgs (credential presenter context : String) (threshold : U128) (nonce : String) :
    Except String (List String) := do
  let pk ← loadPresenter crates files presenter
  let receipt ← readCredential crates files credential
  let journal ← decodeJournal receipt
  let nonceBytes ← parseNonce crates nonce
  let signature := PresenterKey.sign crates.keys.toSigner pk sha256 nonceBytes journal
  let expectedContext := contextIdFrom sha256 context
  return gatedCheckLines crates journal nonceBytes signature expectedContext threshold

/-- The nonce and the signature: both given, or the nonce drawn and signed on the spot. -/
def challengeResponse (receipt : risc0.Receipt) (drawn : Bytes 32) :
    Option String → Option String → Option String → Except String (Bytes 32 × List UInt8)
  | some nonceHex, some signatureHex, _ => do
    let n ← parseNonce crates nonceHex
    let s ← (crates.hex.decode (trim signatureHex)).mapError fun _ => "--signature is not valid hex"
    return (n, s)
  | none, none, some presenterPath => do
    let pk ← loadPresenter crates files presenterPath
    let journal ← (verifyReceipt risc0 receipt).mapError VerifyError.display
    return (drawn, PresenterKey.sign crates.keys.toSigner pk sha256 drawn journal)
  | _, _, _ => .error ("supply either (--nonce + --signature) for external challenge-response, " ++
      "or --presenter for the self-contained demo mode")

def verifiedLines (journal : PublicJournal) : String :=
  println "verified." ++ println ("threshold attested: " ++ toString journal.threshold.toNat) ++
    println ("context_id:         0x" ++ crates.hex.encode journal.contextId.toList) ++
    println ("nullifier:          0x" ++ crates.hex.encode journal.nullifier.toList)

def verify (drawn : Bytes 32) (credential context : String) (threshold : U128)
    (nonce signature presenter : Option String) : Except String String := do
  let receipt ← readCredential crates files credential
  let (nonceBytes, sigBytes) ← challengeResponse sha256 crates files receipt drawn nonce signature presenter
  let expectedContext := contextIdFrom sha256 context
  let journal ← (verifyCredential sha256 k256 risc0 receipt nonceBytes sigBytes expectedContext
    threshold).mapError VerifyError.display
  return verifiedLines crates journal

/-! The commands that write a file. -/

def keygenExit (files : Files) (drawn : Bytes 32) (write : Write) (out : String) : Exit :=
  match keygen crates.hex crates.keys drawn with
  | .error e => ⟨"", .error e, files⟩
  | .ok pres =>
    .writing files out (crates.toStringPretty pres.toValue).toUTF8.toList write ""
      (println ("wrote presenter key to " ++ out) ++ println ("public:  0x" ++ pres.publicHex))

def checkedProof (req : ProveRequest) (groth16 : Bool) : Except String (Sdk.AttestationProof risc0) :=
  (if groth16 then Sdk.proveGroth16Checked sha256 crates.prover crates.toLowercase req
    else Sdk.proveChecked sha256 crates.prover crates.toLowercase req).mapError Sdk.ProveError.display

def presenterPublic (files : Files) (path : String) : Except String (Bytes 33) := do
  let pk ← loadPresenter crates files path
  (PresenterKey.publicKey crates.keys.toSigner pk).mapError Panic.message

def proveExit (files : Files) (write : Write) (elapsed : String) (cmd : Prove) (groth16 : Bool) : Exit :=
  match presenterPublic crates files cmd.presenter with
  | .error e => ⟨"", .error e, files⟩
  | .ok presenterPubkey =>
    let req := proveRequest sha256 presenterPubkey cmd
    let stdout := println ("proving" ++ (if groth16 then " (Groth16-wrapped)" else "") ++ "...")
    match checkedProof sha256 crates req groth16 with
    | .error e => ⟨stdout, .error e, files⟩
    | .ok proof =>
      let stdout := stdout ++ println ("proved in " ++ elapsed)
      match crates.encodeToVec proof.receipt with
      | .error e => ⟨stdout, .error e, files⟩
      | .ok bytes =>
        .writing files cmd.out bytes write stdout
          (println ("wrote credential (" ++ toString bytes.length ++ " bytes) to " ++ cmd.out) ++
            println ("nullifier: 0x" ++ crates.hex.encode proof.journal.nullifier.toList))

def exec (files : Files) (call : Invocation) : Exit :=
  match call.cmd with
  | .challenge => .reading files (.ok (println (crates.hex.encode call.drawn.toList)))
  | .keygen out => keygenExit crates files call.drawn call.write out
  | .prove cmd groth16 => proveExit sha256 crates files call.write call.elapsed cmd groth16
  | .journal credential => .reading files (journal crates files credential)
  | .signChallenge credential presenter nonce =>
    .reading files (signChallenge sha256 crates files credential presenter nonce)
  | .signDigest secret digest => .reading files (signDigest crates.hex crates.keys secret digest)
  | .gatedCheckArgs credential presenter context threshold nonce =>
    .reading files ((gatedCheckArgs sha256 crates files credential presenter context threshold nonce).map
      fun lines => String.join (lines.map println))
  | .verify credential context threshold nonce signature presenter =>
    .reading files (verify sha256 k256 crates files call.drawn credential context threshold nonce signature
      presenter)

/-- The files after some calls, whatever becomes of each. -/
def run (files : Files) (calls : List Invocation) : Files :=
  calls.foldl (fun files call => (exec sha256 k256 crates files call).files) files

end

/-- The file a command may write. -/
def Cmd.writes : Cmd → Option String
  | keygen out => some out
  | prove cmd _ => some cmd.out
  | _ => none

section Frame

variable {sha256 : HashFn} {k256 : K256} {risc0 : Risc0} {crates : Crates risc0} {files : Files}

theorem reading_files (files : Files) (r : Except String String) : (Exit.reading files r).files = files := by
  cases r <;> rfl

theorem writing_files {path path' : String} (h : path' ≠ path) (bytes : List UInt8) (w : Write)
    (before after : String) : (Exit.writing files path bytes w before after).files path' = files path' := by
  cases w <;> exact Function.update_of_ne h _ _

theorem writing_ok {path : String} {bytes : List UInt8} {w : Write} {before after : String}
    (h : (Exit.writing files path bytes w before after).result = .ok ()) :
    (Exit.writing files path bytes w before after).files path = some bytes := by
  cases w with
  | done => exact Function.update_self _ _ _
  | failed reason left => cases h

/-- A command leaves alone every file but the one it writes. -/
theorem exec_files {call : Invocation} {path : String} (h : call.cmd.writes ≠ some path) :
    (exec sha256 k256 crates files call).files path = files path := by
  obtain ⟨cmd, drawn, w, elapsed⟩ := call
  cases cmd with
  | keygen out =>
    have hout : path ≠ out := fun he => h (congrArg some he.symm)
    change (keygenExit crates files drawn w out).files path = files path
    rw [keygenExit]
    cases keygen crates.hex crates.keys drawn with
    | error e => rfl
    | ok pres => exact writing_files hout _ _ _ _
  | prove cmd groth16 =>
    have hout : path ≠ cmd.out := fun he => h (congrArg some he.symm)
    change (proveExit sha256 crates files w elapsed cmd groth16).files path = files path
    rw [proveExit]
    cases presenterPublic crates files cmd.presenter with
    | error e => rfl
    | ok pk =>
      dsimp only
      cases checkedProof sha256 crates (proveRequest sha256 pk cmd) groth16 with
      | error e => rfl
      | ok proof =>
        dsimp only
        cases crates.encodeToVec proof.receipt with
        | error e => rfl
        | ok bytes => exact writing_files hout _ _ _ _
  | challenge => rfl
  | journal credential => exact congrFun (reading_files _ _) path
  | signChallenge credential presenter nonce => exact congrFun (reading_files _ _) path
  | signDigest secret digest => exact congrFun (reading_files _ _) path
  | gatedCheckArgs credential presenter context threshold nonce => exact congrFun (reading_files _ _) path
  | verify credential context threshold nonce signature presenter => exact congrFun (reading_files _ _) path

theorem run_files {calls : List Invocation} {path : String}
    (h : ∀ call ∈ calls, call.cmd.writes ≠ some path) :
    run sha256 k256 crates files calls path = files path := by
  induction calls generalizing files with
  | nil => rfl
  | cons call calls ih =>
    obtain ⟨hcall, hcalls⟩ := List.forall_mem_cons.mp h
    have hrest := @ih (exec sha256 k256 crates files call).files hcalls
    rw [run, List.foldl_cons, ← run, hrest, exec_files hcall]

end Frame

end AttestCli

end BalanceAttestation
