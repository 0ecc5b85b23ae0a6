import BalanceAttestation.AttestProve
import BalanceAttestation.Latch

/-! The Basecamp bridge. It runs the `attest` tool as a child process, and a flag that
says a credential is ready lets `send` pass. -/

namespace BalanceAttestation

/-! What the bridge meets outside. -/

/-- How a child process was left when the bridge stopped waiting for it. -/
inductive Outcome
  | exited (code : Int)
  | crashed
  | failedToStart
  | unfinished
  deriving DecidableEq

/-- `QString::arg` and `QProcess::exitCode`. -/
structure Qt where
  arg : String → String → String
  exitCode : Outcome → Int

/-- The exit code of a process that has not finished normally is 0. -/
structure Qt.ZeroUnlessExited (qt : Qt) : Prop where
  exited : ∀ code, qt.exitCode (.exited code) = code
  otherwise : ∀ outcome, (∀ code, outcome ≠ .exited code) → qt.exitCode outcome = 0

structure Process where
  outcome : Outcome
  standardError : String

/-- The credentials that can be read, by path. -/
abbrev Disk := String → Option PublicJournal

/-- A run of `attest` on `args`. It ends with code 0 only if it has proved what the
arguments ask for and written the credential. -/
structure ProverRun (sha256 : HashFn) (clap : List String → Option AttestCli.Prove)
    (args : List String) extends Process where
  disk : Disk
  wrote : outcome = .exited 0 → ∃ cmd presenterPubkey journal, clap args = some cmd ∧
    AttestCli.prove sha256 presenterPubkey cmd = .ok journal ∧ disk cmd.out = some journal

/-- What clap accepts it reads as it was written. -/
def AttestCli.ReadsFlags (clap : List String → Option AttestCli.Prove) : Prop :=
  ∀ cmd cmd', clap (AttestCli.Prove.flags cmd) = some cmd' → cmd' = cmd

structure Host where
  attestBin : String
  fileExists : String → Bool
  applicationDirPath : String
  canonicalFilePath : String → String

def findAttest (host : Host) : String :=
  if host.attestBin ≠ "" ∧ host.fileExists host.attestBin then host.attestBin
  else
    let sidecar := host.applicationDirPath ++ "/attest"
    if host.fileExists sidecar then sidecar
    else
      let devPath := host.applicationDirPath ++ "/../../../target/release/attest"
      if host.fileExists devPath then host.canonicalFilePath devPath else ""

/-- A call of `prove`, with what its child processes do. -/
structure ProveCall (sha256 : HashFn) (clap : List String → Option AttestCli.Prove) where
  context : String
  threshold : UInt64
  host : Host
  keygen : String → List String → Process
  prover : String → (args : List String) → ProverRun sha256 clap args
  credentialSize : Nat

structure AttestationBridge where
  status : String
  credentialReady : Bool
  credentialPath : String
  artefactsDir : String

namespace AttestationBridge

variable (qt : Qt) {sha256 : HashFn} {clap : List String → Option AttestCli.Prove}

/-- The constructor. -/
def create (cacheBase : String) : AttestationBridge :=
  let artefactsDir := cacheBase ++ "/lp-0005"
  { status := qt.arg "ready — artefacts at %1" artefactsDir
    credentialReady := false
    credentialPath := ""
    artefactsDir }

def presenterPath (artefactsDir : String) : String := artefactsDir ++ "/presenter.json"

def credentialFile (artefactsDir : String) : String := artefactsDir ++ "/credential.bin"

def proveArgs (artefactsDir context : String) (threshold : UInt64) : List String :=
  ["prove", "--presenter", presenterPath artefactsDir, "--balance", "1000000",
    "--threshold", toString threshold.toNat, "--context", context, "--out", credentialFile artefactsDir]

def prove (bridge : AttestationBridge) (call : ProveCall sha256 clap) (disk : Disk) :
    AttestationBridge × Disk :=
  if call.context = "" then ({ bridge with status := "prove: context is empty" }, disk)
  else
    let attest := findAttest call.host
    if attest = "" then
      ({ bridge with status := "prove: cannot locate the `attest` binary. " ++
          "Set ATTEST_BIN or place it next to the plugin." }, disk)
    else
      let kg := call.keygen attest ["keygen", "--out", presenterPath bridge.artefactsDir]
      if ¬ call.host.fileExists (presenterPath bridge.artefactsDir) ∧ qt.exitCode kg.outcome ≠ 0 then
        ({ bridge with status := qt.arg (qt.arg "prove: keygen failed (%1): %2"
            (toString (qt.exitCode kg.outcome))) kg.standardError }, disk)
      else
        let pv := call.prover attest (proveArgs bridge.artefactsDir call.context call.threshold)
        if qt.exitCode pv.outcome ≠ 0 then
          ({ bridge with status := qt.arg (qt.arg "prove: failed (%1): %2"
              (toString (qt.exitCode pv.outcome))) pv.standardError }, pv.disk)
        else
          let credentialPath := credentialFile bridge.artefactsDir
          ({ bridge with
              credentialPath
              credentialReady := true
              status := qt.arg (qt.arg "proved — credential ready (%1 KB) at %2"
                (toString (call.credentialSize / 1024))) credentialPath }, pv.disk)

def send (bridge : AttestationBridge) (topic : String) : AttestationBridge :=
  if ¬ bridge.credentialReady then
    { bridge with status := "send: no credential — run prove first" }
  else
    { bridge with status := qt.arg (qt.arg ("send (stub): would publish credential at %1 to " ++
        "Logos Delivery topic '%2'. Real binding tracked in whats-left.md #2.")
        bridge.credentialPath) topic }

variable {qt}

@[simp] theorem send_credentialReady (bridge : AttestationBridge) (topic : String) :
    (bridge.send qt topic).credentialReady = bridge.credentialReady := by
  unfold send
  split <;> rfl

@[simp] theorem send_credentialPath (bridge : AttestationBridge) (topic : String) :
    (bridge.send qt topic).credentialPath = bridge.credentialPath := by
  unfold send
  split <;> rfl

@[simp] theorem send_artefactsDir (bridge : AttestationBridge) (topic : String) :
    (bridge.send qt topic).artefactsDir = bridge.artefactsDir := by
  unfold send
  split <;> rfl

end AttestationBridge

theorem toNat_threshold (threshold : UInt64) : (BitVec.ofNat 128 threshold.toNat).toNat = threshold.toNat := by
  rw [BitVec.toNat_ofNat]
  exact Nat.mod_eq_of_lt (lt_trans threshold.toNat_lt (by decide))

open AttestationBridge in
theorem proveArgs_eq_flags (artefactsDir context : String) (threshold : UInt64) :
    proveArgs artefactsDir context threshold = AttestCli.Prove.flags
      { presenter := presenterPath artefactsDir
        balance := 1000000
        threshold := BitVec.ofNat 128 threshold.toNat
        context
        out := credentialFile artefactsDir } := by
  have hbalance : toString (1000000 : U128).toNat = "1000000" := by decide +kernel
  rw [AttestCli.Prove.flags, toNat_threshold, hbalance, proveArgs]

namespace ProveCall

open AttestationBridge

variable (qt : Qt) (artefactsDir : String) {sha256 : HashFn}
  {clap : List String → Option AttestCli.Prove} (call : ProveCall sha256 clap)

/-- The call comes as far as its second step. -/
def Started : Prop :=
  call.context ≠ "" ∧ findAttest call.host ≠ "" ∧
    ¬ (¬ call.host.fileExists (presenterPath artefactsDir) ∧
      qt.exitCode (call.keygen (findAttest call.host)
        ["keygen", "--out", presenterPath artefactsDir]).outcome ≠ 0)

def proverRun : ProverRun sha256 clap (proveArgs artefactsDir call.context call.threshold) :=
  call.prover (findAttest call.host) (proveArgs artefactsDir call.context call.threshold)

/-- The bridge takes the call for a success. -/
def Reported : Prop :=
  call.Started qt artefactsDir ∧ qt.exitCode (call.proverRun artefactsDir).outcome = 0

def Proved : Prop := call.Started qt artefactsDir ∧ (call.proverRun artefactsDir).outcome = .exited 0

variable {qt artefactsDir call}

theorem Proved.reported (hqt : qt.ZeroUnlessExited) (h : call.Proved qt artefactsDir) :
    call.Reported qt artefactsDir :=
  ⟨h.1, by rw [h.2]; exact hqt.exited 0⟩

theorem reported_not_proved_iff (hqt : qt.ZeroUnlessExited) :
    call.Reported qt artefactsDir ∧ ¬ call.Proved qt artefactsDir ↔
      call.Started qt artefactsDir ∧ ∀ code, (call.proverRun artefactsDir).outcome ≠ .exited code := by
  constructor
  · rintro ⟨⟨hstarted, hzero⟩, hbad⟩
    refine ⟨hstarted, fun code hcode => hbad ⟨hstarted, ?_⟩⟩
    rw [hcode, hqt.exited] at hzero
    rw [hcode, hzero]
  · rintro ⟨hstarted, hleft⟩
    exact ⟨⟨hstarted, hqt.otherwise _ hleft⟩, fun hproved => hleft 0 hproved.2⟩

/-- The credential is for what the call asked. -/
theorem Proved.written (hclap : AttestCli.ReadsFlags clap) (h : call.Proved qt artefactsDir) :
    ∃ journal, (call.proverRun artefactsDir).disk (credentialFile artefactsDir) = some journal ∧
      journal.contextId = AttestCli.contextIdFrom sha256 call.context ∧
      journal.threshold.toNat = call.threshold.toNat := by
  obtain ⟨cmd, presenterPubkey, journal, hread, hprove, hdisk⟩ := (call.proverRun artefactsDir).wrote h.2
  rw [proveArgs_eq_flags] at hread
  obtain rfl := hclap _ _ hread
  obtain ⟨hcontext, hthreshold⟩ := AttestCli.prove_statement hprove
  refine ⟨journal, hdisk, hcontext, ?_⟩
  rw [hthreshold]
  exact toNat_threshold call.threshold

/-- What one call does: it raises the flag or it only writes a status. -/
theorem prove_cases (qt : Qt) (call : ProveCall sha256 clap) (bridge : AttestationBridge) (disk : Disk) :
    (call.Reported qt bridge.artefactsDir ∧ ∃ status, bridge.prove qt call disk =
      ({ bridge with
          credentialPath := credentialFile bridge.artefactsDir
          credentialReady := true
          status }, (call.proverRun bridge.artefactsDir).disk)) ∨
    (¬ call.Reported qt bridge.artefactsDir ∧
      ∃ status disk', bridge.prove qt call disk = ({ bridge with status }, disk')) := by
  rw [prove]
  by_cases hcontext : call.context = ""
  · rw [if_pos hcontext]
    exact .inr ⟨fun h => h.1.1 hcontext, _, _, rfl⟩
  rw [if_neg hcontext]
  dsimp only
  by_cases hattest : findAttest call.host = ""
  · rw [if_pos hattest]
    exact .inr ⟨fun h => h.1.2.1 hattest, _, _, rfl⟩
  rw [if_neg hattest]
  by_cases hkeygen : ¬ call.host.fileExists (presenterPath bridge.artefactsDir) ∧
      qt.exitCode (call.keygen (findAttest call.host)
        ["keygen", "--out", presenterPath bridge.artefactsDir]).outcome ≠ 0
  · rw [if_pos hkeygen]
    exact .inr ⟨fun h => h.1.2.2 hkeygen, _, _, rfl⟩
  rw [if_neg hkeygen]
  by_cases hcode : qt.exitCode (call.prover (findAttest call.host)
      (proveArgs bridge.artefactsDir call.context call.threshold)).outcome ≠ 0
  · rw [if_pos hcode]
    exact .inr ⟨fun h => hcode h.2, _, _, rfl⟩
  · rw [if_neg hcode]
    exact .inl ⟨⟨⟨hcontext, hattest, hkeygen⟩, not_not.mp hcode⟩, _, rfl⟩

end ProveCall

/-! A session: calls of the two slots, in any order. -/

section Sessions

inductive BridgeEvent (sha256 : HashFn) (clap : List String → Option AttestCli.Prove)
  | prove (call : ProveCall sha256 clap)
  | send (topic : String)

structure Session where
  bridge : AttestationBridge
  disk : Disk

variable {sha256 : HashFn} {clap : List String → Option AttestCli.Prove}

def BridgeEvent.call? : BridgeEvent sha256 clap → Option (ProveCall sha256 clap)
  | .prove call => some call
  | .send _ => none

/-- The calls of `prove` so far, the most recent one last. -/
def proveCalls (events : List (BridgeEvent sha256 clap)) : List (ProveCall sha256 clap) :=
  events.filterMap BridgeEvent.call?

namespace Session

def next (qt : Qt) (s : Session) : BridgeEvent sha256 clap → Session
  | .prove call =>
    let (bridge, disk) := s.bridge.prove qt call s.disk
    ⟨bridge, disk⟩
  | .send topic => { s with bridge := s.bridge.send qt topic }

def run (qt : Qt) (cacheBase : String) (disk : Disk) (events : List (BridgeEvent sha256 clap)) : Session :=
  events.foldl (next qt) ⟨.create qt cacheBase, disk⟩

/-- The file that `send` would publish is a credential for what the call asked. -/
def Holds (s : Session) (call : ProveCall sha256 clap) : Prop :=
  ∃ journal, s.disk s.bridge.credentialPath = some journal ∧
    journal.contextId = AttestCli.contextIdFrom sha256 call.context ∧
    journal.threshold.toNat = call.threshold.toNat

end Session

namespace Session

open AttestationBridge ProveCall

variable {qt : Qt} {artefactsDir : String} {call : ProveCall sha256 clap}

theorem next_prove_artefactsDir (s : Session) :
    (s.next qt (.prove call)).bridge.artefactsDir = s.bridge.artefactsDir := by
  rcases prove_cases qt call s.bridge s.disk with ⟨-, status, hstep⟩ | ⟨-, status, disk', hstep⟩
  · rw [next, hstep]
  · rw [next, hstep]

theorem next_prove_credentialReady (s : Session) :
    (s.next qt (.prove call)).bridge.credentialReady = true ↔
      s.bridge.credentialReady = true ∨ call.Reported qt s.bridge.artefactsDir := by
  rcases prove_cases qt call s.bridge s.disk with
    ⟨hreported, status, hstep⟩ | ⟨hnot, status, disk', hstep⟩
  · rw [next, hstep]
    exact iff_of_true rfl (.inr hreported)
  · rw [next, hstep]
    exact (or_iff_left hnot).symm

theorem holds_prove (hqt : qt.ZeroUnlessExited) (hclap : AttestCli.ReadsFlags clap) {s : Session}
    (hproved : call.Proved qt s.bridge.artefactsDir) : (s.next qt (.prove call)).Holds call := by
  obtain ⟨journal, hdisk, hstatement⟩ := hproved.written hclap
  rcases prove_cases qt call s.bridge s.disk with ⟨-, status, hstep⟩ | ⟨hnot, -⟩
  · rw [next, hstep]
    exact ⟨journal, hdisk, hstatement⟩
  · exact absurd (hproved.reported hqt) hnot

theorem serves (hqt : qt.ZeroUnlessExited) (hclap : AttestCli.ReadsFlags clap) (artefactsDir : String) :
    Latch.Serves (fun call : ProveCall sha256 clap => call.Reported qt artefactsDir)
      (fun call => call.Proved qt artefactsDir) BridgeEvent.call? (next qt)
      (fun s => s.bridge.artefactsDir = artefactsDir) (fun s => s.bridge.credentialReady = true) Holds where
  inv_next s e hs := by
    cases e with
    | prove call => exact (next_prove_artefactsDir s).trans hs
    | send topic => exact (send_artefactsDir s.bridge topic).trans hs
  flag_attempt s e call hs he := by
    subst hs
    cases e with
    | prove call' =>
      obtain rfl := Option.some.inj he
      exact next_prove_credentialReady s
    | send topic => cases he
  flag_other s e hs he := by
    cases e with
    | prove call => cases he
    | send topic => rw [next, send_credentialReady]
  holds_attempt s e call hs he hproved := by
    subst hs
    cases e with
    | prove call' =>
      obtain rfl := Option.some.inj he
      exact holds_prove hqt hclap hproved
    | send topic => cases he
  holds_other s e call hs he hholds := by
    cases e with
    | prove call' => cases he
    | send topic =>
      obtain ⟨journal, hdisk, hstatement⟩ := hholds
      exact ⟨journal, by rw [next, send_credentialPath]; exact hdisk, hstatement⟩

end Session

/-- Whenever `send` passes, the last call of `prove` was a success, and its credential
is the one in the file. -/
def PublishesProduced (qt : Qt) (cacheBase : String) (disk : Disk)
    (events : List (BridgeEvent sha256 clap)) : Prop :=
  ∀ pre topic post, events = pre ++ .send topic :: post →
    (Session.run qt cacheBase disk pre).bridge.credentialReady = true →
      ∃ call, (proveCalls pre).getLast? = some call ∧ call.Proved qt (cacheBase ++ "/lp-0005") ∧
        (Session.run qt cacheBase disk pre).Holds call

section Runs

variable {qt : Qt} (hqt : qt.ZeroUnlessExited) (hclap : AttestCli.ReadsFlags clap)
  (cacheBase : String) (disk : Disk) (events : List (BridgeEvent sha256 clap))

include hqt hclap

theorem publishesProduced_iff_not_misleads : PublishesProduced qt cacheBase disk events ↔
    ∀ pre topic post, events = pre ++ .send topic :: post →
      ¬ Latch.Misleads (fun call => call.Reported qt (cacheBase ++ "/lp-0005"))
        (fun call => call.Proved qt (cacheBase ++ "/lp-0005")) (proveCalls pre) := by
  have hlooks := (Session.serves hqt hclap (cacheBase ++ "/lp-0005")).looks_iff
    (s := ⟨.create qt cacheBase, disk⟩) rfl (by simp [AttestationBridge.create])
    (fun call hproved => hproved.reported hqt) events
  constructor
  · intro h pre topic post hevents
    refine hlooks.mp ?_ pre (.send topic) post hevents rfl
    rintro pre (call | topic) post hevents hother hready
    · cases hother
    · exact h pre topic post hevents hready
  · intro h pre topic post hevents hready
    refine hlooks.mpr ?_ pre (.send topic) post hevents rfl hready
    rintro pre (call | topic) post hevents hother
    · cases hother
    · exact h pre topic post hevents

/-- A session publishes only what was produced exactly when before each `send` the
last `attest prove` did not stop short of an exit, and the last call did not fail
after another had been taken for a success. -/
theorem bridge_publishes_produced_iff : PublishesProduced qt cacheBase disk events ↔
    ∀ pre topic post, events = pre ++ .send topic :: post →
      ∀ call, (proveCalls pre).getLast? = some call →
        (call.Started qt (cacheBase ++ "/lp-0005") →
          ∃ code, (call.proverRun (cacheBase ++ "/lp-0005")).outcome = .exited code) ∧
        (¬ call.Reported qt (cacheBase ++ "/lp-0005") →
          ∀ earlier ∈ proveCalls pre, ¬ earlier.Reported qt (cacheBase ++ "/lp-0005")) := by
  rw [publishesProduced_iff_not_misleads hqt hclap]
  refine forall_congr' fun pre => forall_congr' fun topic => forall_congr' fun post => ?_
  refine forall_congr' fun _ => ?_
  rw [Latch.not_misleads_iff]
  refine forall_congr' fun call => forall_congr' fun _ => and_congr ?_ ?_
  · rw [ProveCall.reported_not_proved_iff hqt, not_and]
    exact imp_congr_right fun _ => by rw [not_forall_not]
  · refine imp_congr_right fun _ => ?_
    simp only [Latch.Raised, not_exists, not_and]

end Runs

end Sessions

namespace Scenario

def bridgeQt : Qt where
  arg text a := if text.contains "%1" then text.replace "%1" a else text.replace "%2" a
  exitCode
    | .exited code => code
    | _ => 0

theorem bridgeQt_zeroUnlessExited : bridgeQt.ZeroUnlessExited where
  exited _ := rfl
  otherwise outcome h := by
    cases outcome with
    | exited code => exact absurd rfl (h code)
    | crashed | failedToStart | unfinished => rfl

def proveCommand : AttestCli.Prove where
  presenter := "cache/lp-0005/presenter.json"
  balance := 1000000
  threshold := 100000
  context := "gov-v1"
  out := "cache/lp-0005/credential.bin"

def clap (args : List String) : Option AttestCli.Prove :=
  if args = proveCommand.flags then some proveCommand else none

theorem clap_readsFlags : AttestCli.ReadsFlags clap := by
  intro cmd cmd' h
  obtain ⟨hflags, hcmd⟩ := Option.ite_none_right_eq_some.mp h
  rw [← Option.some.inj hcmd]
  exact (AttestCli.Prove.flags_injective hflags).symm

def provedJournal : PublicJournal :=
  (Sdk.guestInputs Sha256.digest (AttestCli.proveRequest Sha256.digest pubkey proveCommand)).2

def provedRun (args : List String) : ProverRun Sha256.digest clap args :=
  if h : clap args = some proveCommand then
    { outcome := .exited 0
      standardError := ""
      disk := fun _ => some provedJournal
      wrote := fun _ => ⟨proveCommand, pubkey, provedJournal, h,
        AttestCli.prove_eq_ok.mpr ⟨by decide, rfl⟩, rfl⟩ }
  else
    { outcome := .exited 2
      standardError := ""
      disk := fun _ => none
      wrote := nofun }

theorem provedRun_outcome {args : List String} (h : clap args = some proveCommand) :
    (provedRun args).outcome = .exited 0 := by
  rw [provedRun, dif_pos h]

def attestHost : Host where
  attestBin := ""
  fileExists path := path = "/opt/attest" ∨ path = "cache/lp-0005/presenter.json"
  applicationDirPath := "/opt"
  canonicalFilePath path := path

def provedCall : ProveCall Sha256.digest clap where
  context := "gov-v1"
  threshold := 100000
  host := attestHost
  keygen _ _ := ⟨.exited 0, ""⟩
  prover _ args := provedRun args
  credentialSize := 300000

def crashedCall : ProveCall Sha256.digest clap :=
  { provedCall with
    prover := fun _ _ =>
      { outcome := .crashed
        standardError := ""
        disk := fun _ => none
        wrote := nofun } }

def emptyCall : ProveCall Sha256.digest clap := { provedCall with context := "" }

end Scenario

open Scenario in
theorem bridge_publishes_produced_proved :
    PublishesProduced bridgeQt "cache" (fun _ => none) [.prove provedCall, .send "gov-v1"] ↔
      ∀ pre topic post, [.prove provedCall, .send "gov-v1"] = pre ++ .send topic :: post →
        ∀ call, (proveCalls pre).getLast? = some call →
          (call.Started bridgeQt "cache/lp-0005" →
            ∃ code, (call.proverRun "cache/lp-0005").outcome = .exited code) ∧
          (¬ call.Reported bridgeQt "cache/lp-0005" →
            ∀ earlier ∈ proveCalls pre, ¬ earlier.Reported bridgeQt "cache/lp-0005") :=
  bridge_publishes_produced_iff bridgeQt_zeroUnlessExited clap_readsFlags "cache" (fun _ => none)
    [.prove provedCall, .send "gov-v1"]

namespace Scenario

theorem provedCall_reported : provedCall.Reported bridgeQt "cache/lp-0005" := by
  have hread : clap (AttestationBridge.proveArgs "cache/lp-0005" "gov-v1" 100000) = some proveCommand := by
    decide +kernel
  refine ⟨⟨by decide, by decide, by decide +kernel⟩, ?_⟩
  change bridgeQt.exitCode (provedRun (AttestationBridge.proveArgs "cache/lp-0005" "gov-v1" 100000)).outcome = 0
  rw [provedRun_outcome hread]
  rfl

theorem crashedCall_reported : crashedCall.Reported bridgeQt "cache/lp-0005" :=
  ⟨provedCall_reported.1, rfl⟩

end Scenario

open Scenario in
/-- A prover that crashed, and a call without a context after one that proved. -/
theorem bridge_publishes_unproduced :
    bridgeQt.ZeroUnlessExited ∧ AttestCli.ReadsFlags clap ∧
    ¬ PublishesProduced bridgeQt "cache" (fun _ => none) [.prove crashedCall, .send "gov-v1"] ∧
    ¬ PublishesProduced bridgeQt "cache" (fun _ => none)
      [.prove provedCall, .prove emptyCall, .send "gov-v1"] := by
  refine ⟨bridgeQt_zeroUnlessExited, clap_readsFlags, ?_, ?_⟩
  · rw [publishesProduced_iff_not_misleads bridgeQt_zeroUnlessExited clap_readsFlags]
    intro h
    refine h [.prove crashedCall] "gov-v1" [] rfl (.unearned crashedCall rfl crashedCall_reported ?_)
    intro hproved
    cases hproved.2
  · rw [publishesProduced_iff_not_misleads bridgeQt_zeroUnlessExited clap_readsFlags]
    intro h
    refine h [.prove provedCall, .prove emptyCall] "gov-v1" [] rfl (.stale emptyCall rfl ?_ ?_)
    · exact fun hreported => hreported.1.1 rfl
    · exact ⟨provedCall, List.mem_cons_self, provedCall_reported⟩

end BalanceAttestation
