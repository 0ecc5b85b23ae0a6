import BalanceAttestation.Base58Ids
import BalanceAttestation.DecimalText
import BalanceAttestation.MarkerChain
import BalanceAttestation.OnchainProofScript
import BalanceAttestation.PythonBytes
import BalanceAttestation.SerdeJson
import Mathlib

/-! The on-chain proof script as a whole. It looks at two binaries, at three kinds of
replies of the sequencer and at the marker's address, which it derives for itself. -/

namespace Python

open Checks

def b64Value (c : Char) : Option Nat :=
  if 'A' ≤ c ∧ c ≤ 'Z' then some (c.toNat - 65)
  else if 'a' ≤ c ∧ c ≤ 'z' then some (c.toNat - 71)
  else if '0' ≤ c ∧ c ≤ '9' then some (c.toNat + 4)
  else if c = '+' then some 62
  else if c = '/' then some 63
  else none

/-- What is not of the alphabet is skipped. `quad` characters of a group are read, `left`
is what the last one leaves over. -/
def b64Loop (quad left pads : Nat) : List Char → Except PyError (List UInt8)
  | [] => if quad = 0 then .ok [] else .error .valueError
  | c :: cs =>
    if c = '=' then
      if quad ≥ 2 ∧ quad + (pads + 1) ≥ 4 then .ok []
      else b64Loop quad left (if quad ≥ 2 then pads + 1 else pads) cs
    else
      match b64Value c with
      | none => b64Loop quad left pads cs
      | some v =>
        match quad with
        | 0 => b64Loop 1 v 0 cs
        | 1 => (b64Loop 2 (v % 16) 0 cs).map (UInt8.ofNat (left * 4 + v / 16) :: ·)
        | 2 => (b64Loop 3 (v % 4) 0 cs).map (UInt8.ofNat (left * 16 + v / 4) :: ·)
        | _ => (b64Loop 0 0 0 cs).map (UInt8.ofNat (left * 64 + v) :: ·)

def b64decode (s : String) : Except PyError (List UInt8) :=
  if s.toList.all fun c => c.toNat < 128 then b64Loop 0 0 0 s.toList else .error .valueError

/-- Four characters make three bytes. What a group that is open owes, in quarters of a byte. -/
def b64Owed : Nat → Nat
  | 0 => 0
  | 1 => 3
  | 2 => 2
  | _ => 1

theorem b64Loop_length {quad left pads : Nat} {cs : List Char} {bytes : List UInt8}
    (h : b64Loop quad left pads cs = .ok bytes) : 4 * bytes.length ≤ 3 * cs.length + b64Owed quad := by
  induction cs generalizing quad left pads bytes with
  | nil =>
    rw [b64Loop] at h
    split at h
    · obtain rfl := Except.ok.inj h
      exact Nat.zero_le _
    · cases h
  | cons c cs ih =>
    have hgroup {quad left : Nat} {b : UInt8} (h : (b64Loop quad left 0 cs).map (b :: ·) = .ok bytes) :
        4 * bytes.length ≤ 4 + (3 * cs.length + b64Owed quad) := by
      rw [map_eq_bind] at h
      obtain ⟨rest, hrest, hbytes⟩ := bind_ok.mp h
      obtain rfl := Except.ok.inj hbytes
      rw [List.length_cons, Nat.mul_succ, Nat.add_comm]
      exact Nat.add_le_add_left (ih hrest) 4
    rw [List.length_cons]
    rw [b64Loop] at h
    split at h
    · split at h
      · obtain rfl := Except.ok.inj h
        exact Nat.zero_le _
      · have hrest := ih h
        omega
    · split at h
      · have hrest := ih h
        omega
      -- The first character of a group makes no byte, each of the other three makes one.
      · split at h
        · have hrest := ih h
          simp only [b64Owed] at hrest ⊢
          omega
        · have hrest := hgroup h
          simp only [b64Owed] at hrest ⊢
          omega
        · have hrest := hgroup h
          simp only [b64Owed] at hrest ⊢
          omega
        · have hrest := hgroup h
          simp only [b64Owed] at hrest ⊢
          omega

theorem b64decode_length {s : String} {bytes : List UInt8} (h : b64decode s = .ok bytes) :
    4 * bytes.length ≤ 3 * s.length := by
  rw [b64decode] at h
  split at h
  · rw [← String.length_toList]
    exact b64Loop_length h
  · cases h

theorem length_le_utf8ByteSize (s : String) : s.length ≤ s.utf8ByteSize := by
  have hencode : s.toByteArray = s.toList.utf8Encode := by
    rw [← String.toByteArray_ofList, String.ofList_toList]
  rw [← String.size_toByteArray, hencode, ← String.length_toList]
  induction s.toList with
  | nil => exact Nat.zero_le _
  | cons c cs ih =>
    have hchar : 0 < (String.utf8EncodeChar c).length := List.length_pos_iff.mpr String.utf8EncodeChar_ne_nil
    rw [List.utf8Encode_cons, List.utf8Encode_singleton, ByteArray.size_append, List.size_toByteArray,
      List.length_cons]
    omega

end Python

namespace BalanceAttestation

open ByteLayout Checks Python SerdeJson

namespace OnchainProofScript

/-! What `jq` and the shell do. -/

def field (name : String) : Json → Option Json
  | .object members => some (((members.reverse.find? fun m => m.1 = name).map Prod.snd).getD .null)
  | .null => some .null
  | _ => none

/-- `$(...)` drops the newlines at the end, and every zero byte. -/
def substituted (s : String) : String :=
  String.ofList ((s.toList.filter (· ≠ Char.ofNat 0)).reverse.dropWhile (· = '\n')).reverse

/-- What the script finds: files, the JSON the sequencer replies with, the output of
`spel`, whether the system hands a text to a program as one argument, and the texts
`jq` gives values on several lines and on one. -/
structure Host where
  files : String → Option (List UInt8)
  rpc : String → String → Option Json
  spel : String → String → Option String
  takesArgument : String → Bool
  pretty : Json → String
  compact : Json → String

structure Policy where
  nullifier : String
  floor : Int
  context : String

inductive Line
  | ok (text : String)
  | bad (text : String)
  | plain (text : String)
  deriving DecidableEq

def ATTESTATION_BIN : String := "artifacts/programs/attestation_lez.bin"

def VERIFIER_BIN : String := "artifacts/programs/attestation_verifier_deep.bin"

def GATED_CHECK_TX : String := "e8ed66c79373ebbea77a254db866793d68fd1b71357731ed93d70bade7bbb4ab"

def recordedImageId : String := "1047297a1fdd686d82435cd858c2d8acb86b20a74d5f779a8d9bcd9f8261b27c"

section

variable (sha256 : HashFn) (host : Host)

def result (method param : String) : Option Json :=
  (host.rpc method ("[\"" ++ param ++ "\"]")).bind (field "result")

/-- `$(jq ... '... // empty')`. -/
def textOf (print : Json → String) : Option Json → String
  | none | some .null | some (.bool false) => ""
  | some j => substituted (print j)

/-- `jq -r` gives a string as it is. -/
def raw (j : Json) : String :=
  match j with
  | .string s => s
  | j => host.pretty j

/-- Empty when the length has no four bytes and the command stops. -/
def deployTxHash (b : List UInt8) : String :=
  if b.length < 2 ^ 32 then hex (sha256 (leBytes 4 b.length ++ b)).toList else ""

def imageIdAt (t : List Char) : Option String :=
  if "ImageID (hex bytes):".toList.isPrefixOf t then
    let digits := ((t.drop 20).dropWhile isSpace).take 64
    if digits.length = 64 ∧ digits.all fun c => ('0' ≤ c ∧ c ≤ '9') ∨ ('a' ≤ c ∧ c ≤ 'f') then
      some (String.ofList digits)
    else none
  else none

/-- The first subcommand whose output shows an id; without `spel` there is none. -/
def imageId (bin : String) : String :=
  match host.spel "program-id" bin with
  | none => ""
  | some out =>
    match out.toList.tails.findSome? imageIdAt with
    | some id => id
    | none =>
      match host.spel "inspect" bin with
      | none => ""
      | some out => (out.toList.tails.findSome? imageIdAt).getD ""

def checkDeployed (name bin : String) : Line :=
  match host.files bin with
  | none => .bad (name ++ " binary missing at " ++ bin)
  | some b =>
    let h := deployTxHash sha256 b
    match result host "getTransaction" h with
    | none | some .null => .bad (name ++ "  computed " ++ h ++ " is NOT on chain")
    | some _ => .ok (name ++ "  SHA256(borsh(bytecode)) = " ++ h ++ " found on chain")

def txBase64 : String := textOf (raw host) (result host "getTransaction" GATED_CHECK_TX)

def checkVariant : Line :=
  if txBase64 host = "" then .bad ("gated_check transaction not found  " ++ GATED_CHECK_TX)
  else
    match b64decode (txBase64 host) with
    | .ok (b :: bytes) =>
      if b = 1 then
        .ok ("borsh variant byte 1 = PrivacyPreserving, " ++ toString (b :: bytes).length ++
          " bytes on chain")
      else .bad ("borsh variant byte " ++ toString b.toNat ++ " (expected 1 = PrivacyPreserving)")
    | _ => .bad "borsh variant byte  (expected 1 = PrivacyPreserving)"

/-- Nothing when Python raises, or does not start for the length of its argument. -/
def receiptBytes : Option (List UInt8) :=
  if host.takesArgument (txBase64 host) then (b64decode (txBase64 host)).toOption else none

def checkKind : List Line :=
  if txBase64 host = "" then []
  else
    match receiptBytes host with
    | none => [.bad "could not decode the InnerReceipt variant (got )"]
    | some bytes =>
      match checkReceipt bytes with
      | .ok text => [.ok text]
      | .error text => [.bad text]

def gateTagText (nullifier : String) (floor : Int) (context : String) : Except PyError (Bytes 32) := do
  let n ← fromHex nullifier
  let f ← toBytesLittle 16 floor
  let c ← fromHex context
  return sha256 (ascii "/lp-0005/v0.1/GateTag/" ++ List.replicate 10 0 ++ n ++ f ++ c)

def pdaBytes (image : List UInt8) (tag : Bytes 32) : List UInt8 :=
  ascii "/LEE/v0.2/AccountId/PDA/" ++ List.replicate 8 0 ++ image ++ tag.toList

/-- The gate tag and the marker's address as texts. -/
def derive (image : String) (policy : Policy) : Except PyError (String × String) := do
  let tag ← gateTagText sha256 policy.nullifier policy.floor policy.context
  let image ← fromHex image
  return (hex tag.toList, b58 (sha256 (pdaBytes image tag)).toList)

def ownerText (words : List Nat) : String := "[" ++ DecimalText.commas words ++ "]"

def expectedOwner (image : String) : Except PyError String := do
  let b ← fromHex image
  return ownerText ((List.range 8).map fun i => ofLeBytes ((b.drop (4 * i)).take 4))

def verifierId : String :=
  let id := imageId host VERIFIER_BIN
  if id = "" then recordedImageId else id

/-- The tag and the address, empty when Python raises. -/
def derived (policy : Policy) : String × String :=
  match derive sha256 (verifierId host) policy with
  | .ok texts => texts
  | .error _ => ("", "")

def policyLines (policy : Policy) : List Line :=
  (if imageId host VERIFIER_BIN = "" then
    [.plain "  (spel not on PATH; falling back to the recorded ImageID)"] else []) ++
  [.ok ("verifier ImageID " ++ verifierId host),
    .ok ("enforced policy  floor " ++ toString policy.floor ++ ", context " ++
      String.ofList (policy.context.toList.take 16) ++ "…"),
    .ok ("gate tag         " ++ (derived sha256 host policy).1),
    .ok ("derived PDA      " ++ (derived sha256 host policy).2)]

def checkOwner (policy : Policy) : Line :=
  let pda := (derived sha256 host policy).2
  let expected := match expectedOwner (verifierId host) with
    | .ok text => text
    | .error _ => ""
  let owner := textOf host.compact ((result host "getAccount" pda).bind (field "program_owner"))
  if owner = "" then .bad ("marker PDA " ++ pda ++ " not found on chain")
  else if owner = expected then .ok "owned by the deep verifier"
  else .bad ("owned by " ++ owner ++ ", expected " ++ expected)

def lines (policy : Policy) : List Line :=
  [checkDeployed sha256 host "attestation program" ATTESTATION_BIN,
    checkDeployed sha256 host "verifier program" VERIFIER_BIN, checkVariant host] ++
  checkKind host ++ policyLines sha256 host policy ++ [checkOwner sha256 host policy]

def Line.isBad : Line → Bool
  | .bad _ => true
  | _ => false

/-- The exit status, 0 with `VERIFIED.`. -/
def status (policy : Policy) : Nat := if (lines sha256 host policy).any Line.isBad then 1 else 0

end

/-! What the derivations come to. -/

section Derivations

variable {sha256 : HashFn} {host : Host}

def markerPda (sha256 : HashFn) (verifier : ProgramId) (tag : Bytes 32) : Bytes 32 :=
  sha256 (pdaBytes (wordsToLeBytes verifier) tag)

/-- The policy, spelled out for the script. -/
def policyOf (n : Bytes 32) (floor : U128) (ctx : Bytes 32) : Policy :=
  ⟨hex n.toList, floor.toNat, hex ctx.toList⟩

theorem gateTagText_policyOf (n : Bytes 32) (floor : U128) (ctx : Bytes 32) :
    gateTagText sha256 (policyOf n floor ctx).nullifier (policyOf n floor ctx).floor
      (policyOf n floor ctx).context = .ok (computeGateTag sha256 n floor ctx) := by
  have hfloor : toBytesLittle 16 floor.toNat = .ok (leBytes 16 floor.toNat) :=
    toBytesLittle_cast floor.isLt
  rw [gateTagText]
  dsimp only [policyOf]
  rw [fromHex_hex, fromHex_hex, hfloor]
  rfl

theorem derive_policyOf (verifier : ProgramId) (n : Bytes 32) (floor : U128) (ctx : Bytes 32) :
    derive sha256 (hex (wordsToLeBytes verifier)) (policyOf n floor ctx) =
      .ok (hex (computeGateTag sha256 n floor ctx).toList,
        b58 (markerPda sha256 verifier (computeGateTag sha256 n floor ctx)).toList) := by
  rw [derive, gateTagText_policyOf, fromHex_hex]
  rfl

theorem words_of_bytes (words : List UInt32) :
    (List.range words.length).map (fun i => ofLeBytes
      (((words.flatMap fun word => leBytes 4 word.toNat).drop (4 * i)).take 4)) =
        words.map UInt32.toNat := by
  induction words with
  | nil => rfl
  | cons word words ih =>
    have hword : ofLeBytes (leBytes 4 word.toNat) = word.toNat := by
      rw [ofLeBytes_leBytes]
      exact Nat.mod_eq_of_lt word.toNat_lt
    have hhead : ((leBytes 4 word.toNat ++ words.flatMap fun word => leBytes 4 word.toNat).drop
        (4 * 0)).take 4 = leBytes 4 word.toNat :=
      List.take_left' (leBytes_length 4 _)
    have htail (i : Nat) : (leBytes 4 word.toNat ++ words.flatMap fun word => leBytes 4 word.toNat).drop
        (4 * (i + 1)) = (words.flatMap fun word => leBytes 4 word.toNat).drop (4 * i) := by
      rw [Nat.mul_succ, Nat.add_comm, ← List.drop_drop, List.drop_left' (leBytes_length 4 _)]
    rw [List.length_cons, List.range_succ_eq_map, List.map_cons, List.map_map, List.flatMap_cons, hhead,
      hword, List.map_cons, ← ih]
    refine congrArg _ (List.map_congr_left fun i _ => ?_)
    exact congrArg (fun bytes => ofLeBytes (bytes.take 4)) (htail i)

theorem expectedOwner_hex (verifier : ProgramId) :
    expectedOwner (hex (wordsToLeBytes verifier)) =
      .ok (ownerText (verifier.toList.map UInt32.toNat)) := by
  have hlen : verifier.toList.length = 8 := verifier.toList_length
  have hwords := words_of_bytes verifier.toList
  rw [hlen] at hwords
  rw [expectedOwner, fromHex_hex, ← hwords]
  rfl

theorem ownerText_injective : Function.Injective ownerText := by
  intro ws ws' h
  rw [ownerText, ownerText, String.append_left_inj, String.append_right_inj] at h
  exact DecimalText.commas_injective h

theorem substituted_eq {s : String} (h : ∀ c ∈ s.toList, c ≠ Char.ofNat 0 ∧ c ≠ '\n') :
    substituted s = s := by
  have hfilter : s.toList.filter (· ≠ Char.ofNat 0) = s.toList :=
    List.filter_eq_self.mpr fun c hc => decide_eq_true (h c hc).1
  have hlast : s.toList.reverse.dropWhile (· = '\n') = s.toList.reverse := by
    cases hs : s.toList.reverse with
    | nil => rfl
    | cons c cs =>
      have hc : c ∈ s.toList := List.mem_reverse.mp (hs ▸ List.mem_cons_self)
      exact List.dropWhile_cons_of_neg (by simpa using (h c hc).2)
  rw [substituted, hfilter, hlast, List.reverse_reverse, String.ofList_toList]

theorem substituted_ownerText (words : List Nat) : substituted (ownerText words) = ownerText words := by
  refine substituted_eq fun c hc => ?_
  rw [ownerText, String.toList_append, String.toList_append, List.mem_append, List.mem_append] at hc
  rcases hc with (hc | hc) | hc
  · obtain rfl : c = '[' := List.mem_singleton.mp hc
    decide
  · have hdigit := DecimalText.mem_commas hc
    refine ⟨?_, ?_⟩ <;> rintro rfl <;> exact absurd hdigit (by decide)
  · obtain rfl : c = ']' := List.mem_singleton.mp hc
    decide

end Derivations

/-- The first three checks: the two binaries' hashes are known, and so is the transaction,
a privacy-preserving one with a receipt that is no fake. -/
structure Ready (sha256 : HashFn) (host : Host) : Prop where
  deployed : ∀ bin ∈ [ATTESTATION_BIN, VERIFIER_BIN], ∃ b, host.files bin = some b ∧
    ∃ j, result host "getTransaction" (deployTxHash sha256 b) = some j ∧ j ≠ .null
  proved : txBase64 host ≠ "" ∧ ∃ bytes, b64decode (txBase64 host) = .ok (1 :: bytes) ∧
    host.takesArgument (txBase64 host) = true ∧ receiptKind (1 :: bytes) ∈ [0, 1, 2]

/-! What each check has found when it is not bad. -/

section Findings

variable {sha256 : HashFn} {host : Host} {policy : Policy}

theorem status_eq_zero : status sha256 host policy = 0 ↔
    ∀ line ∈ lines sha256 host policy, line.isBad = false := by
  rw [status]
  cases hbad : (lines sha256 host policy).any Line.isBad with
  | true =>
    obtain ⟨line, hline, hisBad⟩ := List.any_eq_true.mp hbad
    constructor
    · intro h
      cases h
    · intro h
      exact absurd (h line hline) (by simp [hisBad])
  | false => simpa using hbad

theorem checkDeployed_good {name bin : String} : (checkDeployed sha256 host name bin).isBad = false ↔
    ∃ b, host.files bin = some b ∧
      ∃ j, result host "getTransaction" (deployTxHash sha256 b) = some j ∧ j ≠ .null := by
  rw [checkDeployed]
  cases hfile : host.files bin with
  | none => simp [Line.isBad]
  | some b =>
    dsimp only
    simp only [Option.some.injEq, exists_eq_left']
    split
    · next hreply => simp [Line.isBad, hreply]
    · next hreply => simp [Line.isBad, hreply]
    · next j hnull hreply =>
      have hnull : j ≠ .null := hnull
      simp [Line.isBad, hreply, hnull]

theorem checkVariant_good : (checkVariant host).isBad = false ↔
    txBase64 host ≠ "" ∧ ∃ bytes, b64decode (txBase64 host) = .ok (1 :: bytes) := by
  rw [checkVariant]
  by_cases hempty : txBase64 host = ""
  · simp [Line.isBad, hempty]
  · rw [if_neg hempty, ne_eq, and_iff_right hempty]
    cases hdecode : b64decode (txBase64 host) with
    | error e => simp [Line.isBad]
    | ok raw =>
      cases raw with
      | nil => simp [Line.isBad]
      | cons b bytes => by_cases hb : b = 1 <;> simp [Line.isBad, hb]

theorem checkReceipt_ok {raw : List UInt8} :
    (∃ text, checkReceipt raw = .ok text) ↔ receiptKind raw ∈ [0, 1, 2] := by
  simp only [List.mem_cons, List.not_mem_nil, or_false]
  constructor
  · rintro ⟨text, h⟩
    rw [checkReceipt] at h
    split_ifs at h with hone hzero htwo
    · exact .inr (.inl hone)
    · exact .inl hzero
    · exact .inr (.inr htwo)
  · rintro (h | h | h) <;> exact ⟨_, by rw [checkReceipt, h]; rfl⟩

theorem checkKind_good {raw : List UInt8} (hempty : txBase64 host ≠ "")
    (hdecode : b64decode (txBase64 host) = .ok raw) :
    (∀ line ∈ checkKind host, line.isBad = false) ↔
      host.takesArgument (txBase64 host) = true ∧ receiptKind raw ∈ [0, 1, 2] := by
  rw [checkKind, if_neg hempty, receiptBytes, hdecode, ← checkReceipt_ok]
  by_cases hargument : host.takesArgument (txBase64 host) = true
  · rw [if_pos hargument, and_iff_right hargument]
    cases hkind : checkReceipt raw with
    | ok text => simp [Line.isBad, Except.toOption, hkind]
    | error text => simp [Line.isBad, Except.toOption, hkind]
  · rw [if_neg hargument]
    simp [Line.isBad, hargument]

theorem checkOwner_good {expected : String} (hexpected : expectedOwner (verifierId host) = .ok expected)
    (hne : expected ≠ "") : (checkOwner sha256 host policy).isBad = false ↔
      textOf host.compact ((result host "getAccount" (derived sha256 host policy).2).bind
        (field "program_owner")) = expected := by
  rw [checkOwner, hexpected]
  dsimp only
  split_ifs with hempty howner
  · simp [Line.isBad, hempty, hne.symm]
  · simp [Line.isBad, howner]
  · simp [Line.isBad, howner]

theorem policyLines_good (sha256 : HashFn) (host : Host) (policy : Policy) :
    ∀ line ∈ policyLines sha256 host policy, line.isBad = false := by
  rw [policyLines, List.forall_mem_append]
  refine ⟨?_, by simp [Line.isBad]⟩
  split
  · intro line hline
    rw [List.mem_singleton.mp hline]
    rfl
  · exact List.forall_mem_nil _

theorem status_eq_zero_iff : status sha256 host policy = 0 ↔
    Ready sha256 host ∧ (checkOwner sha256 host policy).isBad = false := by
  have hpolicy := policyLines_good sha256 host policy
  have hlines : status sha256 host policy = 0 ↔
      ((checkDeployed sha256 host "attestation program" ATTESTATION_BIN).isBad = false ∧
        (checkDeployed sha256 host "verifier program" VERIFIER_BIN).isBad = false) ∧
      ((checkVariant host).isBad = false ∧ ∀ line ∈ checkKind host, line.isBad = false) ∧
        (checkOwner sha256 host policy).isBad = false := by
    rw [status_eq_zero, lines]
    simp only [List.forall_mem_append, List.forall_mem_cons]
    tauto
  rw [hlines, checkDeployed_good, checkDeployed_good, checkVariant_good, ← and_assoc]
  refine and_congr_left fun _ => ?_
  constructor
  · rintro ⟨⟨hattestation, hverifier⟩, ⟨hempty, bytes, hdecode⟩, hkind⟩
    exact
      { deployed := List.forall_mem_cons.mpr ⟨hattestation, List.forall_mem_singleton.mpr hverifier⟩
        proved := ⟨hempty, bytes, hdecode, (checkKind_good hempty hdecode).mp hkind⟩ }
  · rintro ⟨hdeployed, hempty, bytes, hdecode, hkind⟩
    exact ⟨⟨hdeployed _ (by simp), hdeployed _ (by simp)⟩, ⟨hempty, bytes, hdecode⟩,
      (checkKind_good hempty hdecode).mpr hkind⟩

theorem length_of_receiptKind {raw : List UInt8} (h : receiptKind raw ∈ [0, 1, 2]) : 100000 < raw.length := by
  rw [receiptKind] at h
  split at h
  · next off hoff =>
    have hword := List.find?_some hoff
    simp only [decide_eq_true_eq] at hword
    omega
  · simp at h

/-- Where one argument has less than 131072 bytes, as on Linux, no run ends with `VERIFIED.`:
the text of a receipt this long does not reach Python. -/
theorem status_of_argument_limit
    (hlimit : ∀ s, host.takesArgument s = true → s.utf8ByteSize < 131072) :
    status sha256 host policy ≠ 0 := by
  intro hstatus
  obtain ⟨⟨-, -, bytes, hdecode, hargument, hkind⟩, -⟩ := status_eq_zero_iff.mp hstatus
  have hbytes := length_of_receiptKind hkind
  have htext := b64decode_length hdecode
  have hsize := (length_le_utf8ByteSize _).trans_lt (hlimit _ hargument)
  omega

end Findings

/-- What is on the chain: the strings its transactions' hashes are taken of, the gate
calls it applied in order, and the owner of every account. -/
structure Ledger where
  hashed : List (List UInt8)
  calls : List GateCall
  owner : Bytes 32 → ProgramId

def ownerJson (owner : ProgramId) : Json :=
  .array (owner.toList.map fun word => .number (.posInt word.toUInt64))

section Verdict

variable (sha256 : HashFn) (k256 : K256) (fromSlice : List UInt32 → Option PrivateInputs)

/-- The sequencer tells what is on the chain, `spel` the verifier's id, and an account
belongs to the verifier only when one of its calls claimed it. -/
structure Truthful (host : Host) (verifier : ProgramId) (ledger : Ledger) : Prop where
  transaction : ∀ bin b j, host.files bin = some b →
    result host "getTransaction" (deployTxHash sha256 b) = some j → j ≠ .null →
      b.length < 2 ^ 32 ∧ ∃ s ∈ ledger.hashed, sha256 s = sha256 (leBytes 4 b.length ++ b)
  account : ∀ a : Bytes 32, (result host "getAccount" (b58 a.toList)).bind (field "program_owner") =
    some (ownerJson (ledger.owner a))
  compact : ∀ owner : ProgramId, host.compact (ownerJson owner) = ownerText (owner.toList.map UInt32.toNat)
  image : verifierId host = hex (wordsToLeBytes verifier)
  claimed : ∀ a, ledger.owner a = verifier →
    a ∈ ClaimOnce.run (GateCall.marker sha256 k256 fromSlice (markerPda sha256 verifier)) ∅ ledger.calls

variable {sha256 k256 fromSlice} {host : Host} {verifier : ProgramId} {ledger : Ledger} {n ctx : Bytes 32}
  {floor : U128}

theorem ownerText_ne (words : List Nat) : ownerText words ≠ "" := by
  intro h
  have hlist := congrArg String.toList h
  rw [ownerText, String.toList_append, String.toList_append] at hlist
  cases hlist

theorem Truthful.checkOwner_iff (h : Truthful sha256 k256 fromSlice host verifier ledger) :
    (checkOwner sha256 host (policyOf n floor ctx)).isBad = false ↔
      ledger.owner (markerPda sha256 verifier (computeGateTag sha256 n floor ctx)) = verifier := by
  let marker := markerPda sha256 verifier (computeGateTag sha256 n floor ctx)
  have hderived : (derived sha256 host (policyOf n floor ctx)).2 = b58 marker.toList := by
    rw [derived, h.image, derive_policyOf]
  have hexpected : expectedOwner (verifierId host) = .ok (ownerText (verifier.toList.map UInt32.toNat)) := by
    rw [h.image, expectedOwner_hex]
  have howner : textOf host.compact (some (ownerJson (ledger.owner marker))) =
      ownerText ((ledger.owner marker).toList.map UInt32.toNat) := by
    change substituted (host.compact (ownerJson (ledger.owner marker))) = _
    rw [h.compact, substituted_ownerText]
  rw [checkOwner_good hexpected (ownerText_ne _), hderived, h.account marker, howner]
  constructor
  · intro htext
    have hwords := List.map_injective_iff.mpr (fun _ _ => UInt32.toNat_inj.mp) (ownerText_injective htext)
    exact List.Vector.eq _ _ hwords
  · intro hverifier
    rw [hverifier]

/-- The call behind a marker, short of a collision of two gate tags or two addresses. -/
theorem exists_backs_of_claimed
    (h : markerPda sha256 verifier (computeGateTag sha256 n floor ctx) ∈
      ClaimOnce.run (GateCall.marker sha256 k256 fromSlice (markerPda sha256 verifier)) ∅ ledger.calls) :
    ∃ c ∈ ledger.calls, c.accepted sha256 k256 fromSlice (markerPda sha256 verifier) = true ∧
      ((∃ pk w, c.Backs sha256 k256 fromSlice n floor ctx pk w) ∨
        Collision sha256 (gateTagBytes c.args.nullifier c.args.minimumThreshold c.args.expectedContextId)
          (gateTagBytes n floor ctx) ∨
        Collision sha256 (pdaBytes (wordsToLeBytes verifier) (computeGateTag sha256 c.args.nullifier
          c.args.minimumThreshold c.args.expectedContextId))
          (pdaBytes (wordsToLeBytes verifier) (computeGateTag sha256 n floor ctx))) := by
  obtain hbefore | ⟨c, hc, hmarker⟩ := ClaimOnce.mem_run.mp h
  · exact absurd hbefore (Finset.notMem_empty _)
  obtain ⟨haccepted, haddress⟩ := GateCall.marker_eq_some.mp hmarker
  obtain ⟨hpda, hbacks⟩ := GateCall.backs_of_accepted haccepted
  refine ⟨c, hc, haccepted, ?_⟩
  rcases eq_or_collision (h := sha256) (hpda.symm.trans haddress) with hsame | hcollision
  · have htag : computeGateTag sha256 c.args.nullifier c.args.minimumThreshold c.args.expectedContextId =
        computeGateTag sha256 n floor ctx := List.Vector.eq _ _ (List.append_cancel_left hsame)
    rcases eq_or_collision (h := sha256) htag with htag | hcollision
    · obtain ⟨rfl, rfl, rfl⟩ := gateTagBytes_inj htag
      exact .inl hbacks
    · exact .inr (.inl hcollision)
  · exact .inr (.inr hcollision)

end Verdict

theorem payload_variant {raw pre payload : List UInt8} (hraw : raw = transaction pre payload)
    (hpre : pre ≠ []) (hlow : 100000 < payload.length) (hhigh : payload.length < 2 ^ 32)
    (hmisleads : ¬ Misleads pre payload.length) (h : receiptKind raw ∈ [0, 1, 2]) :
    payload.getD 0 0 ∈ [0, 1, 2] := by
  have hoffset := (receiptOffset_eq_iff hpre hlow hhigh).mpr hmisleads
  rw [hraw, receiptKind_of_offset hoffset] at h
  generalize payload.getD 0 0 = variant at h ⊢
  simp only [List.mem_cons, List.not_mem_nil, or_false] at h ⊢
  have hnat : variant.toNat = 0 ∨ variant.toNat = 1 ∨ variant.toNat = 2 := by omega
  exact hnat.imp UInt8.toNat_inj.mp (Or.imp UInt8.toNat_inj.mp UInt8.toNat_inj.mp)

/-- When the script ends with `VERIFIED.`, both binaries are on the chain, the transaction
is a privacy-preserving one in which the step reads no fake, and an accepted call enforced
this floor in this context on an account that held it, or two strings collide. What the
step reads is the receipt's kind when that is the long last field and nothing misleads. -/
theorem onchain_verified {sha256 : HashFn} {k256 : K256} {fromSlice : List UInt32 → Option PrivateInputs}
    {host : Host} {verifier : ProgramId} {ledger : Ledger}
    (htruthful : Truthful sha256 k256 fromSlice host verifier ledger) (n : Bytes 32) (floor : U128)
    (ctx : Bytes 32) (hstatus : status sha256 host (policyOf n floor ctx) = 0) :
    (∀ bin ∈ [ATTESTATION_BIN, VERIFIER_BIN], ∃ b, host.files bin = some b ∧
      ∃ s ∈ ledger.hashed, s = leBytes 4 b.length ++ b ∨
        Collision sha256 s (leBytes 4 b.length ++ b)) ∧
    (∃ raw, b64decode (txBase64 host) = .ok raw ∧ raw.head? = some 1 ∧ receiptKind raw ∈ [0, 1, 2] ∧
      ∀ pre payload, raw = transaction pre payload → pre ≠ [] → 100000 < payload.length →
        payload.length < 2 ^ 32 → ¬ Misleads pre payload.length → payload.getD 0 0 ∈ [0, 1, 2]) ∧
    ∃ c ∈ ledger.calls, c.accepted sha256 k256 fromSlice (markerPda sha256 verifier) = true ∧
      ((∃ pk w, c.Backs sha256 k256 fromSlice n floor ctx pk w) ∨
        Collision sha256 (gateTagBytes c.args.nullifier c.args.minimumThreshold c.args.expectedContextId)
          (gateTagBytes n floor ctx) ∨
        Collision sha256 (pdaBytes (wordsToLeBytes verifier) (computeGateTag sha256 c.args.nullifier
          c.args.minimumThreshold c.args.expectedContextId))
          (pdaBytes (wordsToLeBytes verifier) (computeGateTag sha256 n floor ctx))) := by
  obtain ⟨⟨hdeployed, hempty, bytes, hdecode, -, hkind⟩, howner⟩ := status_eq_zero_iff.mp hstatus
  refine ⟨?_, ⟨1 :: bytes, hdecode, rfl, hkind, ?_⟩, ?_⟩
  · intro bin hbin
    obtain ⟨b, hfile, j, hreply, hnull⟩ := hdeployed bin hbin
    obtain ⟨-, s, hs, hhash⟩ := htruthful.transaction bin b j hfile hreply hnull
    exact ⟨b, hfile, s, hs, eq_or_collision hhash⟩
  · intro pre payload hraw hpre hlow hhigh hmisleads
    exact payload_variant hraw hpre hlow hhigh hmisleads hkind
  · exact exists_backs_of_claimed (htruthful.claimed _ (htruthful.checkOwner_iff.mp howner))

end OnchainProofScript

/-! The script against a chain with one gate call, for the tests' witness. -/

namespace Scenario

open OnchainProofScript

def onchainPda : Bytes 32 → Bytes 32 := OnchainProofScript.markerPda Sha256.digest programId

def onchainCall (args : DeepGatedCheckArgs) : GateCall :=
  ⟨{ gateMarker with accountId := onchainPda args.gateTag }, presenter 4000, args⟩

def ownedBy (marker a : Bytes 32) : ProgramId :=
  if b58 a.toList = b58 marker.toList then programId else .replicate 8 0

def ledger (args : DeepGatedCheckArgs) : Ledger :=
  ⟨[leBytes 4 1 ++ [0x7f]], [onchainCall args], ownedBy (onchainPda args.gateTag)⟩

def zerosText (k : Nat) : String :=
  String.ofList (['A', 'a', 'O', 'G', 'A', 'Q', 'A', 'B'] ++ List.replicate (4 * k) 'A')

/-- A receipt of 100003 bytes, zeros after the first. -/
def txText : String := zerosText 33334

def found (j : Json) : Option Json := some (.object [("result", j)])

def reply (marker : Bytes 32) (method param : String) : Option Json :=
  if method = "getTransaction" then
    if param = "[\"" ++ GATED_CHECK_TX ++ "\"]" then found (.string txText)
    else if param = "[\"" ++ deployTxHash Sha256.digest [0x7f] ++ "\"]" then found (.string "AgEAAAB/")
    else found .null
  else if param = "[\"" ++ b58 marker.toList ++ "\"]" then
    found (.object [("program_owner", ownerJson programId)])
  else found (.object [("program_owner", ownerJson (.replicate 8 0))])

def numberText : Json → String
  | .number (.posInt n) => toString n.toNat
  | _ => ""

def compactText : Json → String
  | .array elements => "[" ++ ",".intercalate (elements.map numberText) ++ "]"
  | _ => ""

def scriptHost (marker : Bytes 32) : OnchainProofScript.Host where
  files bin := if bin ∈ [ATTESTATION_BIN, VERIFIER_BIN] then some [0x7f] else none
  rpc := reply marker
  spel _ _ := none
  takesArgument _ := true
  pretty _ := ""
  compact := compactText

theorem b64Loop_zeros (k : Nat) :
    b64Loop 0 0 0 (List.replicate (4 * k) 'A') = .ok (List.replicate (3 * k) 0) := by
  induction k with
  | zero => rfl
  | succ k ih =>
    have hA : b64Value 'A' = some 0 := by decide
    rw [Nat.mul_succ, List.replicate_succ, List.replicate_succ, List.replicate_succ, List.replicate_succ]
    simp only [b64Loop, hA, ih, if_neg (by decide : ¬ 'A' = '=')]
    rfl

theorem zerosText_alphabet {k : Nat} {c : Char} (h : c ∈ (zerosText k).toList) :
    c ∈ ['A', 'a', 'O', 'G', 'Q', 'B'] := by
  rw [zerosText, String.toList_ofList, List.mem_append] at h
  rcases h with h | h
  · revert h
    simp only [List.mem_cons]
    tauto
  · rw [List.eq_of_mem_replicate h]
    exact List.mem_cons_self

theorem decode_zerosText (k : Nat) :
    b64decode (zerosText k) = .ok ([1, 0xa3, 0x86, 1, 0, 1] ++ List.replicate (3 * k) 0) := by
  have hascii : (zerosText k).toList.all (fun c => c.toNat < 128) = true := by
    rw [List.all_eq_true]
    intro c hc
    have hsmall : ∀ c ∈ ['A', 'a', 'O', 'G', 'Q', 'B'], c.toNat < 128 := by simp
    exact decide_eq_true (hsmall c (zerosText_alphabet hc))
  obtain ⟨hA, ha, hO, hG, hQ, hB⟩ : b64Value 'A' = some 0 ∧ b64Value 'a' = some 26 ∧
      b64Value 'O' = some 14 ∧ b64Value 'G' = some 6 ∧ b64Value 'Q' = some 16 ∧
      b64Value 'B' = some 1 := by
    decide
  have hloop (cs : List Char) : b64Loop 0 0 0 (['A', 'a', 'O', 'G', 'A', 'Q', 'A', 'B'] ++ cs) =
      (b64Loop 0 0 0 cs).map ([1, 0xa3, 0x86, 1, 0, 1] ++ ·) := by
    simp [b64Loop, hA, ha, hO, hG, hQ, hB]
    cases b64Loop 0 0 0 cs <;> rfl
  rw [b64decode, if_pos hascii, zerosText, String.toList_ofList, hloop, b64Loop_zeros]
  rfl

theorem result_transaction (marker : Bytes 32) (param : String) :
    result (scriptHost marker) "getTransaction" param =
    if "[\"" ++ param ++ "\"]" = "[\"" ++ GATED_CHECK_TX ++ "\"]" then some (.string txText)
    else if "[\"" ++ param ++ "\"]" = "[\"" ++ deployTxHash Sha256.digest [0x7f] ++ "\"]" then
      some (.string "AgEAAAB/")
    else some .null := by
  change (reply marker "getTransaction" _).bind (field "result") = _
  rw [reply, if_pos rfl]
  split
  · rfl
  · split <;> rfl

theorem param_inj {s t : String} (h : "[\"" ++ s ++ "\"]" = "[\"" ++ t ++ "\"]") : s = t :=
  (String.append_right_inj _).mp ((String.append_left_inj _).mp h)

theorem deployTxHash_ne : deployTxHash Sha256.digest [0x7f] ≠ GATED_CHECK_TX := by decide +kernel

theorem onchainCall_accepted : (onchainCall honest).accepted Sha256.digest honestK256 (fromSlice 4000)
    onchainPda = true := by
  refine (GateCall.accepted_iff (gatedCheck_honest (onchainCall honest).gateMarker)).mpr ⟨rfl, ?_⟩
  intro c hc
  rw [List.mem_singleton.mp hc]
  exact ChainedCall.returns_iff.mpr ⟨nullifier, attest_honest, by decide⟩

theorem ownedBy_eq_iff {marker a : Bytes 32} : ownedBy marker a = programId ↔ a = marker := by
  rw [ownedBy]
  split
  · next hids =>
    rw [Base58.b58_eq, Base58.b58_eq] at hids
    exact iff_of_true rfl (List.Vector.eq _ _ (Base58.encoding_injective hids))
  · next hids =>
    exact iff_of_false (by decide) fun h => hids (by rw [h])

theorem mem_run_onchainCall {k256 : K256} {args : DeepGatedCheckArgs} {a : Bytes 32}
    (haccepted : (onchainCall args).accepted Sha256.digest k256 (fromSlice 4000) onchainPda = true) :
    a ∈ ClaimOnce.run (GateCall.marker Sha256.digest k256 (fromSlice 4000) onchainPda) ∅
      (ledger args).calls ↔ a = onchainPda args.gateTag := by
  have hmarker : GateCall.marker Sha256.digest k256 (fromSlice 4000) onchainPda (onchainCall args) =
      some (onchainPda args.gateTag) :=
    GateCall.marker_eq_some.mpr ⟨haccepted, rfl⟩
  rw [ClaimOnce.mem_run, ledger]
  simp only [List.mem_singleton, exists_eq_left, hmarker, Finset.notMem_empty, false_or]
  rw [Option.some_inj, eq_comm]

theorem truthful {k256 : K256} {args : DeepGatedCheckArgs}
    (haccepted : (onchainCall args).accepted Sha256.digest k256 (fromSlice 4000) onchainPda = true) :
    Truthful Sha256.digest k256 (fromSlice 4000) (scriptHost (onchainPda args.gateTag)) programId
      (ledger args) where
  transaction bin b j hfile hreply hnull := by
    change (if bin ∈ [ATTESTATION_BIN, VERIFIER_BIN] then some [0x7f] else none) = some b at hfile
    obtain ⟨-, hb⟩ := Option.ite_none_right_eq_some.mp hfile
    obtain rfl := Option.some.inj hb
    exact ⟨by decide, _, List.mem_cons_self, rfl⟩
  account a := by
    change ((reply (onchainPda args.gateTag) "getAccount" _).bind (field "result")).bind
      (field "program_owner") = some (ownerJson (ownedBy (onchainPda args.gateTag) a))
    rw [reply, if_neg (by decide), ownedBy]
    by_cases hids : b58 a.toList = b58 (onchainPda args.gateTag).toList
    · rw [if_pos hids, if_pos (by rw [hids])]
      rfl
    · rw [if_neg hids, if_neg fun h => hids (param_inj h)]
      rfl
  compact owner := by
    have hnumber (word : UInt32) : numberText (.number (.posInt word.toUInt64)) = toString word.toNat := by
      rw [numberText, UInt32.toNat_toUInt64]
    change compactText (ownerJson owner) = _
    rw [ownerJson, compactText, ownerText, DecimalText.commas, List.map_map, List.map_map]
    simp only [Function.comp_def, hnumber]
  image := by
    change recordedImageId = _
    decide +kernel
  claimed a h := (mem_run_onchainCall haccepted).mpr (ownedBy_eq_iff.mp h)

theorem txBase64_eq (marker : Bytes 32) : txBase64 (scriptHost marker) = txText := by
  have hclean : ∀ c ∈ ['A', 'a', 'O', 'G', 'Q', 'B'], c ≠ Char.ofNat 0 ∧ c ≠ '\n' := by simp
  rw [txBase64, result_transaction, if_pos rfl]
  exact substituted_eq fun c hc => hclean c (zerosText_alphabet hc)

def txPayload : List UInt8 := 1 :: List.replicate 100002 0

theorem decode_txText : b64decode txText = .ok (transaction [1] txPayload) := by
  have hlength : leBytes 4 txPayload.length = [0xa3, 0x86, 1, 0] := by
    rw [txPayload, List.length_cons, List.length_replicate]
    decide
  rw [txText, decode_zerosText, transaction, hlength]
  rfl

theorem receiptKind_tx : receiptKind (transaction [1] txPayload) = 1 := by
  have hlength : txPayload.length = 100003 := by rw [txPayload, List.length_cons, List.length_replicate]
  have hmisleads : ¬ Misleads [1] txPayload.length := by
    rintro ⟨off, hpos, hlt, -⟩
    simp only [List.length_cons, List.length_nil] at hlt
    omega
  have hoffset := (receiptOffset_eq_iff (List.cons_ne_nil 1 []) (by omega) (by omega)).mpr hmisleads
  rw [receiptKind_of_offset hoffset]
  rfl

theorem scriptHost_ready (marker : Bytes 32) : Ready Sha256.digest (scriptHost marker) where
  deployed bin hbin := by
    refine ⟨[0x7f], if_pos hbin, .string "AgEAAAB/", ?_, by simp⟩
    rw [result_transaction, if_neg, if_pos rfl]
    exact fun h => deployTxHash_ne (param_inj h)
  proved := by
    have hdecode : b64decode (txBase64 (scriptHost marker)) = .ok (transaction [1] txPayload) := by
      rw [txBase64_eq, decode_txText]
    refine ⟨?_, _, hdecode, rfl, ?_⟩
    · intro hempty
      rw [txBase64_eq, txText, zerosText] at hempty
      have hlist := congrArg String.toList hempty
      rw [String.toList_ofList] at hlist
      cases hlist
    · have hkind : receiptKind (transaction [1] txPayload) ∈ [0, 1, 2] := by
        rw [receiptKind_tx]
        simp
      exact hkind

theorem script_verifies : status Sha256.digest (scriptHost (onchainPda honest.gateTag))
    (policyOf nullifier 4000 contextId) = 0 := by
  refine status_eq_zero_iff.mpr ⟨scriptHost_ready _, ?_⟩
  rw [(truthful onchainCall_accepted).checkOwner_iff, gateTag_eq]
  exact if_pos rfl

end Scenario

open Scenario OnchainProofScript in
theorem onchain_verified_honest :
    status Sha256.digest (scriptHost (onchainPda honest.gateTag)) (policyOf nullifier 4000 contextId) = 0 ∧
    ∃ c ∈ (ledger honest).calls, c.accepted Sha256.digest honestK256 (fromSlice 4000)
        (OnchainProofScript.markerPda Sha256.digest programId) = true ∧
      ((∃ pk w, c.Backs Sha256.digest honestK256 (fromSlice 4000) nullifier 4000 contextId pk w) ∨
        Collision Sha256.digest (gateTagBytes c.args.nullifier c.args.minimumThreshold
          c.args.expectedContextId) (gateTagBytes nullifier 4000 contextId) ∨
        Collision Sha256.digest (pdaBytes (wordsToLeBytes programId) (computeGateTag Sha256.digest
          c.args.nullifier c.args.minimumThreshold c.args.expectedContextId))
          (pdaBytes (wordsToLeBytes programId) (computeGateTag Sha256.digest nullifier 4000 contextId))) :=
  ⟨script_verifies,
    (onchain_verified (truthful onchainCall_accepted) nullifier 4000 contextId script_verifies).2.2⟩

end BalanceAttestation
