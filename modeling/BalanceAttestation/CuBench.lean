import BalanceAttestation.AccountSnapshots
import BalanceAttestation.Base58Ids
import BalanceAttestation.MarkerChain
import Mathlib.Data.List.Forall2

/-! The cost benchmark. It replays one instruction of a dry run on the accounts the
sequencer holds, with the inputs the sequencer would have written for it. -/

namespace BalanceAttestation

open ByteLayout Checks SerdeJson

namespace CuBench

def MAX_NUM_CYCLES_PUBLIC_EXECUTION : UInt64 := 1024 * 1024 * 32

structure Args where
  elf : String
  tx : String
  sequencer : String

structure DryRunAccount where
  id : String
  flags : List String

structure DryRun where
  instruction : String
  instructionData : String
  accounts : List DryRunAccount

structure RpcAccount where
  programOwner : ProgramId
  balance : U128
  data : List UInt8
  nonce : U128

/-! The derived readers. A structure is read from an object or from an array of its
members in order. -/

namespace DryRunAccount

def fields (id flags : Option Json) : Option DryRunAccount := do
  let id ← Json.required Json.string? id
  let flags ← Json.defaulted (Json.elements? Json.string?) [] flags
  return { id, flags }

def deserialize : Json → Option DryRunAccount
  | .object members => do fields (← Json.member members "id") (← Json.member members "flags")
  | .array [id] => fields (some id) none
  | .array [id, flags] => fields (some id) (some flags)
  | _ => none

end DryRunAccount

namespace DryRun

def fields (instruction instructionData accounts : Option Json) : Option DryRun := do
  let instruction ← Json.required Json.string? instruction
  let instructionData ← Json.required Json.string? instructionData
  let accounts ← Json.required (Json.elements? DryRunAccount.deserialize) accounts
  return { instruction, instructionData, accounts }

def deserialize : Json → Option DryRun
  | .object members => do
    fields (← Json.member members "instruction") (← Json.member members "instruction_data")
      (← Json.member members "accounts")
  | .array [instruction, instructionData, accounts] =>
    fields (some instruction) (some instructionData) (some accounts)
  | _ => none

end DryRun

def u32Value (v : Value) : Option UInt32 :=
  v.asU64.bind fun n => if n.toNat < 2 ^ 32 then some n.toUInt32 else none

def wordsValue (v : Value) : Option ProgramId := do
  let words ← (← v.asArray).mapM u32Value
  if h : words.length = 8 then some ⟨words, h⟩ else none

/-- A value holds no integer above 64 bits, only a float for it. -/
def u128Value (v : Value) : Option U128 := v.asU64.map fun n => BitVec.ofNat 128 n.toNat

namespace RpcAccount

def fields (programOwner balance data nonce : Option Value) : Option RpcAccount := do
  let programOwner ← programOwner.bind wordsValue
  let balance ← balance.bind u128Value
  let data ← Value.defaulted AccountSnapshot.bytesValue [] data
  let nonce ← nonce.bind u128Value
  return { programOwner, balance, data, nonce }

def fromValue : Value → Option RpcAccount
  | .object get => fields (get "program_owner") (get "balance") (get "data") (get "nonce")
  | .array [programOwner, balance, data, nonce] =>
    fields (some programOwner) (some balance) (some data) (some nonce)
  | _ => none

end RpcAccount

/-- The four values written for the guest. -/
structure Inputs where
  programId : ProgramId
  callerProgramId : Option ProgramId
  preStates : List AccountWithMetadata
  instructionData : List UInt32

structure Segment where
  cycles : UInt32
  po2 : Nat

structure Report where
  instruction : String
  programIdHex : String
  userCycles : UInt64
  provingCycles : UInt64
  segments : Nat
  instructionDataWords : Nat
  preStates : Nat
  publicExecutionLimit : UInt64

/-- What the tool finds and calls: files, as bytes and as texts, JSON, the image id of
a binary, LEZ's check of an account's data, the sequencer and the executor. -/
structure Machine where
  Binary : Type
  read : String → Option (List UInt8)
  readToString : String → Option String
  parse : String → Option Json
  decodeBinary : List UInt8 → Option Binary
  computeImageId : Binary → Option ProgramId
  dataTryFrom : List UInt8 → Except String (List UInt8)
  server : Value → Response
  execute : UInt64 → Inputs → List UInt8 → Option (List Segment)

def chunks4 : List UInt8 → List UInt32
  | a :: b :: c :: d :: rest => UInt32.ofNat (ofLeBytes [a, b, c, d]) :: chunks4 rest
  | _ => []

section

variable (hex : HexCrate) (machine : Machine)

def decodeHex (raw context : String) : Except String (List UInt8) :=
  (hex.decode (String.ofList (AttestCli.trimStart0x raw.toList))).mapError fun _ => context

def decodeInstructionData (hexStr : String) : Except String (List UInt32) := do
  let bytes ← decodeHex hex hexStr "instruction_data is not valid hex"
  rejectIf (bytes.length % 4 ≠ 0)
    ("instruction_data length " ++ toString bytes.length ++ " is not a multiple of 4 bytes")
  return chunks4 bytes

def parseAccountId (raw : String) : Except String (Bytes 32) := do
  let bytes ← decodeHex hex raw "account id is not valid hex"
  okOr (AttestCli.array32 bytes) ("account id is " ++ toString bytes.length ++ " bytes, expected 32")

def resultOf (resp : Value) : Option Value :=
  match resp.asObject with
  | none => none
  | some get =>
    match get "result" with
    | some .null => none
    | result => result

def fetchAccount (sequencer : String) (accountId : Bytes 32) : Except String RpcAccount := do
  let idB58 ← okOr (Base58.bs58Encode accountId) "index out of bounds"
  match machine.server (SequencerClient.request "getAccount" [.string idB58]) with
  | .failed _ | .errorStatus _ _ => .error "getAccount request failed"
  | .body none => .error "getAccount response was not JSON"
  | .body (some resp) =>
    let result ← okOr (resultOf resp.toValue) ("account " ++ idB58 ++ " not found on " ++ sequencer)
    okOr (RpcAccount.fromValue result) "unexpected getAccount result shape"

def preState (sequencer : String) (acc : DryRunAccount) : Except String AccountWithMetadata := do
  let rawId ← parseAccountId hex acc.id
  let fetched ← fetchAccount machine sequencer rawId
  let data ← (machine.dataTryFrom fetched.data).mapError fun e => "account data rejected by LEZ: " ++ e
  let account : Account :=
    { programOwner := fetched.programOwner, balance := fetched.balance, data, nonce := fetched.nonce }
  let isAuthorized := acc.flags.any fun f => f = "signer"
  return ⟨account, isAuthorized, rawId⟩

def buildInputs (sequencer : String) (elf : List UInt8) (dryRun : DryRun) : Except String Inputs := do
  let binary ← okOr (machine.decodeBinary elf) "deployed binary is not a valid risc0 ProgramBinary"
  let programId ← okOr (machine.computeImageId binary) "cannot compute image id"
  let instructionData ← decodeInstructionData hex dryRun.instructionData
  let preStates ← dryRun.accounts.mapM (preState hex machine sequencer)
  return { programId, callerProgramId := none, preStates, instructionData }

def report (instruction : String) (inputs : Inputs) (session : List Segment) : Report where
  instruction := instruction
  programIdHex := hex.encode (wordsToLeBytes inputs.programId)
  userCycles := session.foldl (fun sum s => sum + s.cycles.toUInt64) 0
  provingCycles := session.foldl (fun sum s => sum + 1 <<< UInt64.ofNat s.po2) 0
  segments := session.length
  instructionDataWords := inputs.instructionData.length
  preStates := inputs.preStates.length
  publicExecutionLimit := MAX_NUM_CYCLES_PUBLIC_EXECUTION

def main (args : Args) : Except String Report := do
  let elf ← okOr (machine.read args.elf) ("cannot read ELF " ++ args.elf)
  let text ← okOr (machine.readToString args.tx) ("cannot read " ++ args.tx)
  let dryRun ← okOr ((machine.parse text).bind DryRun.deserialize)
    "dry-run file is not the JSON emitted by `spel --dry-run=json`"
  let inputs ← buildInputs hex machine args.sequencer elf dryRun
  let session ← okOr (machine.execute MAX_NUM_CYCLES_PUBLIC_EXECUTION inputs elf)
    "execution failed, the sequencer would have rejected this transaction"
  return report hex dryRun.instruction inputs session

end

/-! What the sequencer writes for a transaction on the chain it holds. -/

structure Transaction where
  programId : ProgramId
  accounts : List (Bytes 32 × Bool)
  instructionData : List UInt32

namespace Transaction

def preStates (chain : Bytes 32 → Option Account) (tx : Transaction) : Option (List AccountWithMetadata) :=
  tx.accounts.mapM fun entry => (chain entry.1).map fun account => ⟨account, entry.2, entry.1⟩

def inputs (chain : Bytes 32 → Option Account) (tx : Transaction) : Option Inputs :=
  (tx.preStates chain).map fun preStates =>
    { programId := tx.programId, callerProgramId := none, preStates, instructionData := tx.instructionData }

end Transaction

def Spells (raw : String) (bytes : List UInt8) : Prop :=
  HexCrate.spelled (AttestCli.trimStart0x raw.toList) = some bytes

def DryRunAccount.Names (acc : DryRunAccount) (entry : Bytes 32 × Bool) : Prop :=
  Spells acc.id entry.1.toList ∧ entry.2 = acc.flags.any fun f => f = "signer"

/-- The words in little-endian order, and the accounts one by one. -/
structure DryRun.Renders (dryRun : DryRun) (tx : Transaction) : Prop where
  words : Spells dryRun.instructionData (tx.instructionData.flatMap fun word => leBytes 4 word.toNat)
  accounts : List.Forall₂ DryRunAccount.Names dryRun.accounts tx.accounts

/-! A transaction's dry run as it is documented, an id in hex behind `0x` and the words in hex. -/

def Transaction.dryRun (instruction : String) (tx : Transaction) : DryRun where
  instruction := instruction
  instructionData := Python.hex (tx.instructionData.flatMap fun word => leBytes 4 word.toNat)
  accounts := tx.accounts.map fun entry =>
    ⟨"0x" ++ Python.hex entry.1.toList, if entry.2 then ["signer"] else []⟩

def DryRunAccount.toJson (acc : DryRunAccount) : Json :=
  .object [("id", .string acc.id), ("flags", .array (acc.flags.map .string))]

def DryRun.toJson (dryRun : DryRun) : Json :=
  .object [("instruction", .string dryRun.instruction), ("instruction_data", .string dryRun.instructionData),
    ("accounts", .array (dryRun.accounts.map DryRunAccount.toJson))]

/-- The file and the binary can be read. -/
structure Machine.Reads (machine : Machine) (args : Args) (elf : List UInt8) (dryRun : DryRun)
    (programId : ProgramId) : Prop where
  binary : machine.read args.elf = some elf
  dryRun : ∃ text j, machine.readToString args.tx = some text ∧ machine.parse text = some j ∧
    DryRun.deserialize j = some dryRun
  image : ∃ binary, machine.decodeBinary elf = some binary ∧
    machine.computeImageId binary = some programId

/-- An integer of JSON, which a value holds as a float when it has more than 64 bits. -/
def Amount (m : Option Value) (n : U128) : Prop :=
  (∃ k : UInt64, m = some (.number (.posInt k)) ∧ k.toNat = n.toNat) ∨
    (2 ^ 64 ≤ n.toNat ∧ ∃ bits, m = some (.number (.float bits)))

def ofWords (words : List UInt32) : Value := .array (words.map fun word => .number (.posInt word.toUInt64))

def Describes (v : Value) (account : Account) : Prop :=
  ∃ get, v = .object get ∧ get "program_owner" = some (ofWords account.programOwner.toList) ∧
    Amount (get "balance") account.balance ∧ get "data" = some (.ofBytes account.data) ∧
    Amount (get "nonce") account.nonce

/-- The sequencer answers for this chain, whose accounts hold data LEZ takes. -/
structure Machine.Serves (machine : Machine) (chain : Bytes 32 → Option Account) : Prop where
  found : ∀ id account, chain id = some account → ∃ resp get v,
    machine.server (SequencerClient.accountRequest (Base58.encoding id.toList)) = .body (some resp) ∧
      resp.toValue = .object get ∧ get "result" = some v ∧ Describes v account
  absent : ∀ id, chain id = none → ∃ resp get,
    machine.server (SequencerClient.accountRequest (Base58.encoding id.toList)) = .body (some resp) ∧
      resp.toValue = .object get ∧ (get "result" = none ∨ get "result" = some .null)
  data : ∀ id account, chain id = some account → machine.dataTryFrom account.data = .ok account.data

/-- What the tool can read of an account. -/
def Fits (account : Account) : Prop := account.balance.toNat < 2 ^ 64 ∧ account.nonce.toNat < 2 ^ 64

instance (account : Account) : Decidable (Fits account) :=
  inferInstanceAs (Decidable (account.balance.toNat < 2 ^ 64 ∧ account.nonce.toNat < 2 ^ 64))

section Words

theorem chunks4_word (word : UInt32) (rest : List UInt8) :
    chunks4 (leBytes 4 word.toNat ++ rest) = word :: chunks4 rest := by
  have hlt : word.toNat < 256 ^ 4 := word.toNat_lt
  change UInt32.ofNat (ofLeBytes (leBytes 4 word.toNat)) :: chunks4 rest = _
  rw [ofLeBytes_leBytes, Nat.mod_eq_of_lt hlt, UInt32.ofNat_toNat]

theorem chunks4_flatMap (words : List UInt32) :
    chunks4 (words.flatMap fun word => leBytes 4 word.toNat) = words := by
  induction words with
  | nil => rfl
  | cons word words ih => rw [List.flatMap_cons, chunks4_word, ih]

theorem words_length (words : List UInt32) :
    (words.flatMap fun word => leBytes 4 word.toNat).length % 4 = 0 := by
  induction words with
  | nil => rfl
  | cons word words ih =>
    rw [List.flatMap_cons, List.length_append, leBytes_length]
    omega

theorem flatMap_chunks4 {bytes : List UInt8} (h : bytes.length % 4 = 0) :
    ((chunks4 bytes).flatMap fun word => leBytes 4 word.toNat) = bytes := by
  fun_induction chunks4 bytes with
  | case1 a b c d rest ih =>
    have hlt : ofLeBytes [a, b, c, d] < 2 ^ 32 := by simpa using ofLeBytes_lt [a, b, c, d]
    have hword : leBytes 4 (ofLeBytes [a, b, c, d]) = [a, b, c, d] := leBytes_ofLeBytes [a, b, c, d]
    have hrest : rest.length % 4 = 0 := by
      simp only [List.length_cons] at h
      omega
    rw [List.flatMap_cons, ih hrest, UInt32.toNat_ofNat', Nat.mod_eq_of_lt hlt, hword]
    rfl
  | case2 bytes hshort =>
    have hnil : bytes = [] := by
      match bytes, h with
      | [], _ => rfl
      | [_], h => simp at h
      | [_, _], h => simp at h
      | [_, _, _], h => simp at h
      | a :: b :: c :: d :: rest, _ => exact absurd rfl (hshort a b c d rest)
    rw [hnil]
    rfl

end Words

section Values

variable {v : Value}

theorem u32Value_eq_some {word : UInt32} :
    u32Value v = some word ↔ v = .number (.posInt word.toUInt64) := by
  rw [u32Value, Option.bind_eq_some_iff]
  constructor
  · rintro ⟨n, hn, hword⟩
    obtain ⟨hlt, hword⟩ := Option.ite_none_right_eq_some.mp hword
    have hwide : n = n.toUInt32.toUInt64 := by
      rw [← UInt64.toNat_inj, UInt32.toNat_toUInt64, UInt64.toNat_toUInt32, Nat.mod_eq_of_lt hlt]
    rw [Value.asU64_eq_some.mp hn, ← Option.some.inj hword, ← hwide]
  · rintro rfl
    refine ⟨_, rfl, ?_⟩
    rw [if_pos (word.toNat_toUInt64 ▸ word.toNat_lt), UInt32.toUInt32_toUInt64]

theorem wordsValue_ofWords (words : ProgramId) : wordsValue (ofWords words.toList) = some words := by
  have hmap (ws : List UInt32) :
      (ws.map fun word => Value.number (.posInt word.toUInt64)).mapM u32Value = some ws := by
    induction ws with
    | nil => rfl
    | cons word ws ih =>
      rw [List.map_cons, List.mapM_cons, u32Value_eq_some.mpr rfl, ih]
      rfl
  have hlen := words.toList_length
  change ((words.toList.map _).mapM u32Value).bind _ = _
  rw [hmap, Option.bind_some, dif_pos hlen]
  rfl

theorem Amount.u128Value {m : Option Value} {n : U128} (h : Amount m n) :
    m.bind u128Value = if n.toNat < 2 ^ 64 then some n else none := by
  rcases h with ⟨k, rfl, hk⟩ | ⟨hlarge, bits, rfl⟩
  · have hlt : n.toNat < 2 ^ 64 := hk ▸ k.toNat_lt
    have hn : BitVec.ofNat 128 k.toNat = n := by rw [hk, BitVec.ofNat_toNat, BitVec.setWidth_eq]
    rw [if_pos hlt]
    exact congrArg some hn
  · rw [if_neg (by omega)]
    rfl

theorem Describes.fromValue {account : Account} (h : Describes v account) :
    RpcAccount.fromValue v = if Fits account then
      some ⟨account.programOwner, account.balance, account.data, account.nonce⟩ else none := by
  obtain ⟨get, rfl, howner, hbalance, hdata, hnonce⟩ := h
  have hbytes : AccountSnapshot.bytesValue (.ofBytes account.data) = some account.data :=
    AccountSnapshot.bytesValue_eq_some.mpr rfl
  simp only [RpcAccount.fromValue, RpcAccount.fields, howner, hdata, hbalance.u128Value, hnonce.u128Value,
    Option.bind_some, wordsValue_ofWords, Value.defaulted, hbytes, Option.bind_eq_bind]
  by_cases hb : account.balance.toNat < 2 ^ 64
  · by_cases hn : account.nonce.toNat < 2 ^ 64
    · rw [if_pos hb, if_pos hn, if_pos ⟨hb, hn⟩]
      rfl
    · rw [if_pos hb, if_neg hn, if_neg fun h : Fits account => hn h.2]
      rfl
  · rw [if_neg hb, if_neg fun h : Fits account => hb h.1]
    rfl

end Values

section Written

theorem DryRunAccount.deserialize_toJson (acc : DryRunAccount) : deserialize acc.toJson = some acc := by
  have hread : ∀ s : String, Json.string? (.string s) = some s := fun _ => rfl
  have hflags := Json.elements?_map hread acc.flags
  simp [toJson, deserialize, fields, Json.member, Json.named, Json.required, Json.string?, Json.defaulted, hflags]

theorem DryRun.deserialize_toJson (dryRun : DryRun) : deserialize dryRun.toJson = some dryRun := by
  have haccounts := Json.elements?_map DryRunAccount.deserialize_toJson dryRun.accounts
  simp [toJson, deserialize, fields, Json.member, Json.named, Json.required, Json.string?, haccounts]

theorem spells_hex (bytes : List UInt8) : Spells (Python.hex bytes) bytes := by
  have h := HexCrate.spelled_hex bytes
  rw [Python.hex, String.toList_ofList] at h
  rw [Spells, Python.hex, String.toList_ofList, AttestCli.trimStart0x_hexPairs]
  exact h

theorem spells_hex_0x (bytes : List UInt8) : Spells ("0x" ++ Python.hex bytes) bytes := by
  have h := spells_hex bytes
  rw [Spells] at h ⊢
  rw [String.toList_append]
  exact h

theorem Transaction.renders_dryRun (instruction : String) (tx : Transaction) :
    (tx.dryRun instruction).Renders tx where
  words := spells_hex _
  accounts := by
    rw [Transaction.dryRun, List.forall₂_map_left_iff, List.forall₂_same]
    rintro ⟨id, signer⟩ -
    refine ⟨spells_hex_0x _, ?_⟩
    cases signer <;> rfl

end Written

section Replay

variable {hex : HexCrate} {machine : Machine} {chain : Bytes 32 → Option Account} {sequencer : String}

theorem decodeHex_eq_ok (hhex : hex.DecodesDigits) {raw context : String} {bytes : List UInt8} :
    decodeHex hex raw context = .ok bytes ↔ Spells raw bytes := by
  have h := hhex (String.ofList (AttestCli.trimStart0x raw.toList)) bytes
  rw [String.toList_ofList] at h
  rw [Spells, ← h, decodeHex]
  cases hex.decode (String.ofList (AttestCli.trimStart0x raw.toList)) <;> simp [Except.mapError]

/-- Nothing but the words' own bytes is decoded to them. -/
theorem decodeInstructionData_eq_ok (hhex : hex.DecodesDigits) {raw : String} {words : List UInt32} :
    decodeInstructionData hex raw = .ok words ↔
      Spells raw (words.flatMap fun word => leBytes 4 word.toNat) := by
  rw [decodeInstructionData, bind_ok]
  constructor
  · rintro ⟨bytes, hbytes, h⟩
    obtain ⟨hlen, h⟩ := rejectIf_bind_ok.mp h
    rw [← Except.ok.inj h, flatMap_chunks4 (not_not.mp hlen)]
    exact (decodeHex_eq_ok hhex).mp hbytes
  · intro h
    have hlen := not_not.mpr (words_length words)
    refine ⟨_, (decodeHex_eq_ok hhex).mpr h, rejectIf_bind_ok.mpr ⟨hlen, ?_⟩⟩
    rw [chunks4_flatMap]
    rfl

theorem parseAccountId_eq_ok (hhex : hex.DecodesDigits) {raw : String} {id : Bytes 32} :
    parseAccountId hex raw = .ok id ↔ Spells raw id.toList := by
  rw [parseAccountId, bind_ok]
  constructor
  · rintro ⟨bytes, hbytes, h⟩
    rw [← ofSlice_eq_some.mp (okOr_ok.mp h)]
    exact (decodeHex_eq_ok hhex).mp hbytes
  · intro h
    exact ⟨_, (decodeHex_eq_ok hhex).mpr h, okOr_ok.mpr (AttestCli.array32_toList id)⟩

theorem fetchAccount_body {id : Bytes 32} {resp : Json}
    (hbody : machine.server (SequencerClient.accountRequest (Base58.encoding id.toList)) =
      .body (some resp)) :
    fetchAccount machine sequencer id = okOr (resultOf resp.toValue)
      ("account " ++ Base58.encoding id.toList ++ " not found on " ++ sequencer) >>= fun result =>
        okOr (RpcAccount.fromValue result) "unexpected getAccount result shape" := by
  have hid : Base58.bs58Encode id = some (Base58.encoding id.toList) := Base58.text_eq id.toList
  rw [SequencerClient.accountRequest] at hbody
  rw [fetchAccount, hid]
  simp only [okOr, bind, Except.bind, hbody]

theorem fetchAccount_found (hserves : machine.Serves chain) {id : Bytes 32} {account : Account}
    (h : chain id = some account) : fetchAccount machine sequencer id = if Fits account then
      .ok ⟨account.programOwner, account.balance, account.data, account.nonce⟩
      else .error "unexpected getAccount result shape" := by
  obtain ⟨resp, get, v, hbody, hresp, hresult, hdescribes⟩ := hserves.found id account h
  have hv : resultOf resp.toValue = some v := by
    obtain ⟨_, rfl, -⟩ := hdescribes
    rw [hresp, resultOf, Value.asObject]
    simp [hresult]
  rw [fetchAccount_body hbody, hv]
  change okOr (RpcAccount.fromValue v) _ = _
  rw [hdescribes.fromValue]
  split <;> rfl

theorem fetchAccount_absent (hserves : machine.Serves chain) {id : Bytes 32} (h : chain id = none) :
    fetchAccount machine sequencer id =
      .error ("account " ++ Base58.encoding id.toList ++ " not found on " ++ sequencer) := by
  obtain ⟨resp, get, hbody, hresp, hresult⟩ := hserves.absent id h
  have hnone : resultOf resp.toValue = none := by
    rw [hresp, resultOf, Value.asObject]
    rcases hresult with hresult | hresult <;> simp [hresult]
  rw [fetchAccount_body hbody, hnone]
  rfl

theorem preState_eq_ok (hhex : hex.DecodesDigits) (hserves : machine.Serves chain) {acc : DryRunAccount}
    {pre : AccountWithMetadata} : preState hex machine sequencer acc = .ok pre ↔
      acc.Names (pre.accountId, pre.isAuthorized) ∧ chain pre.accountId = some pre.account ∧
        Fits pre.account := by
  rw [preState, bind_ok]
  constructor
  · rintro ⟨id, hid, h⟩
    obtain ⟨fetched, hfetched, h⟩ := bind_ok.mp h
    cases hchain : chain id with
    | none =>
      rw [fetchAccount_absent hserves hchain] at hfetched
      cases hfetched
    | some account =>
      rw [fetchAccount_found hserves hchain] at hfetched
      split at hfetched
      · next hfits =>
        rw [← Except.ok.inj hfetched] at h
        simp only [hserves.data id account hchain, Except.mapError] at h
        rw [← Except.ok.inj h]
        exact ⟨⟨(parseAccountId_eq_ok hhex).mp hid, rfl⟩, hchain, hfits⟩
      · cases hfetched
  · rintro ⟨⟨hid, hsigner⟩, hchain, hfits⟩
    refine ⟨_, (parseAccountId_eq_ok hhex).mpr hid, ?_⟩
    rw [fetchAccount_found hserves hchain, if_pos hfits]
    change (((machine.dataTryFrom pre.account.data).mapError _) >>= _) = _
    rw [hserves.data _ _ hchain]
    exact congrArg (fun b => Except.ok (AccountWithMetadata.mk pre.account b pre.accountId)) hsigner.symm

theorem Transaction.preStates_eq_some {tx : Transaction} {pres : List AccountWithMetadata} :
    tx.preStates chain = some pres ↔
      tx.accounts = pres.map (fun pre => (pre.accountId, pre.isAuthorized)) ∧
      ∀ pre ∈ pres, chain pre.accountId = some pre.account := by
  obtain ⟨programId, accounts, words⟩ := tx
  rw [Transaction.preStates]
  induction accounts generalizing pres with
  | nil => cases pres <;> simp
  | cons entry accounts ih =>
    simp only [List.mapM_cons, Option.bind_eq_bind, Option.bind_eq_some_iff, Option.map_eq_some_iff, ih]
    constructor
    · rintro ⟨pre, ⟨account, haccount, rfl⟩, rest, ⟨hkeys, hchain⟩, h⟩
      rw [← Option.some.inj h, List.map_cons, ← hkeys, List.forall_mem_cons]
      exact ⟨rfl, haccount, hchain⟩
    · rintro ⟨hkeys, hchain⟩
      cases pres with
      | nil => cases hkeys
      | cons pre rest =>
        obtain ⟨rfl, htail⟩ := List.cons.inj hkeys
        obtain ⟨hpre, hchain⟩ := List.forall_mem_cons.mp hchain
        exact ⟨pre, ⟨pre.account, hpre, rfl⟩, rest, ⟨htail, hchain⟩, rfl⟩

theorem mapM_preState (hhex : hex.DecodesDigits) (hserves : machine.Serves chain) {accs : List DryRunAccount}
    {pres : List AccountWithMetadata} : accs.mapM (preState hex machine sequencer) = .ok pres ↔
      List.Forall₂ DryRunAccount.Names accs (pres.map fun pre => (pre.accountId, pre.isAuthorized)) ∧
        ∀ pre ∈ pres, chain pre.accountId = some pre.account ∧ Fits pre.account := by
  rw [SequencerClient.mapM_ok, List.forall₂_map_right_iff]
  simp only [preState_eq_ok hhex hserves]
  induction accs generalizing pres with
  | nil => cases pres <;> simp
  | cons acc accs ih =>
    cases pres with
    | nil => simp
    | cons pre pres =>
      rw [List.forall₂_cons, List.forall₂_cons, List.forall_mem_cons, ih]
      tauto

/-- The inputs of some transaction the dry run renders, on the accounts of the chain. -/
theorem buildInputs_eq_ok (hhex : hex.DecodesDigits) (hserves : machine.Serves chain) {elf : List UInt8}
    {dryRun : DryRun} {inputs : Inputs} : buildInputs hex machine sequencer elf dryRun = .ok inputs ↔
      (∃ binary, machine.decodeBinary elf = some binary ∧
        machine.computeImageId binary = some inputs.programId) ∧
        ∃ tx, dryRun.Renders tx ∧ tx.programId = inputs.programId ∧ tx.inputs chain = some inputs ∧
          ∀ pre ∈ inputs.preStates, Fits pre.account := by
  rw [buildInputs, okOr_bind_ok]
  constructor
  · rintro ⟨binary, hbinary, h⟩
    obtain ⟨programId, himage, h⟩ := okOr_bind_ok.mp h
    obtain ⟨words, hwords, h⟩ := bind_ok.mp h
    obtain ⟨pres, hpres, h⟩ := bind_ok.mp h
    obtain ⟨hnames, hchain⟩ := (mapM_preState hhex hserves).mp hpres
    rw [← Except.ok.inj h]
    have hspells := (decodeInstructionData_eq_ok hhex).mp hwords
    refine ⟨⟨binary, hbinary, himage⟩, ⟨programId, _, words⟩, ⟨hspells, hnames⟩, rfl, ?_,
      fun pre hpre => (hchain pre hpre).2⟩
    exact Option.map_eq_some_iff.mpr
      ⟨pres, Transaction.preStates_eq_some.mpr ⟨rfl, fun pre hpre => (hchain pre hpre).1⟩, rfl⟩
  · rintro ⟨⟨binary, hbinary, himage⟩, tx, hrenders, hprogram, hinputs, hfits⟩
    obtain ⟨pres, hpres, rfl⟩ := Option.map_eq_some_iff.mp hinputs
    obtain ⟨hkeys, hchain⟩ := Transaction.preStates_eq_some.mp hpres
    have hnames := hrenders.accounts
    rw [hkeys] at hnames
    have hwords := (decodeInstructionData_eq_ok hhex).mpr hrenders.words
    have hstates : dryRun.accounts.mapM (preState hex machine sequencer) = .ok pres :=
      (mapM_preState hhex hserves).mpr ⟨hnames, fun pre hpre => ⟨hchain pre hpre, hfits pre hpre⟩⟩
    exact ⟨binary, hbinary, okOr_bind_ok.mpr ⟨_, himage,
      bind_ok.mpr ⟨_, hwords, bind_ok.mpr ⟨pres, hstates, rfl⟩⟩⟩⟩

theorem DryRun.Renders.unique {dryRun : DryRun} {tx tx' : Transaction} (h : dryRun.Renders tx)
    (h' : dryRun.Renders tx') (hprogram : tx.programId = tx'.programId) : tx = tx' := by
  have hnames : Relator.RightUnique DryRunAccount.Names := by
    rintro acc ⟨id, signer⟩ ⟨id', signer'⟩ ⟨hid, hsigner⟩ ⟨hid', hsigner'⟩
    have hbytes : id.toList = id'.toList := Option.some.inj (hid.symm.trans hid')
    have hid : id = id' := List.Vector.eq _ _ hbytes
    have hsigner : signer = signer' := hsigner.trans hsigner'.symm
    rw [hid, hsigner]
  have haccounts : tx.accounts = tx'.accounts := hnames.forall₂ h.accounts h'.accounts
  have hwords : tx.instructionData = tx'.instructionData := by
    have hbytes := congrArg chunks4 (Option.some.inj (h.words.symm.trans h'.words))
    simpa only [chunks4_flatMap] using hbytes
  cases tx
  cases tx'
  simp_all

theorem Machine.Reads.unique {args : Args} {elf elf' : List UInt8} {dryRun dryRun' : DryRun}
    {programId programId' : ProgramId} (h : machine.Reads args elf dryRun programId)
    (h' : machine.Reads args elf' dryRun' programId') :
    elf = elf' ∧ dryRun = dryRun' ∧ programId = programId' := by
  obtain ⟨text, j, htext, hj, hread⟩ := h.dryRun
  obtain ⟨text', j', htext', hj', hread'⟩ := h'.dryRun
  obtain ⟨binary, hbinary, himage⟩ := h.image
  obtain ⟨binary', hbinary', himage'⟩ := h'.image
  have helf := Option.some.inj (h.binary.symm.trans h'.binary)
  rw [htext] at htext'
  obtain rfl := Option.some.inj htext'
  rw [hj] at hj'
  obtain rfl := Option.some.inj hj'
  rw [helf, hbinary'] at hbinary
  obtain rfl := Option.some.inj hbinary
  exact ⟨helf, Option.some.inj (hread.symm.trans hread'), Option.some.inj (himage.symm.trans himage')⟩

theorem main_eq_ok (hhex : hex.DecodesDigits) (hserves : machine.Serves chain) {args : Args} {r : Report} :
    main hex machine args = .ok r ↔ ∃ elf dryRun tx inputs session,
      machine.Reads args elf dryRun tx.programId ∧ dryRun.Renders tx ∧ tx.inputs chain = some inputs ∧
        (∀ pre ∈ inputs.preStates, Fits pre.account) ∧
        machine.execute MAX_NUM_CYCLES_PUBLIC_EXECUTION inputs elf = some session ∧
        r = report hex dryRun.instruction inputs session := by
  rw [main, okOr_bind_ok]
  constructor
  · rintro ⟨elf, helf, h⟩
    obtain ⟨text, htext, h⟩ := okOr_bind_ok.mp h
    obtain ⟨dryRun, hread, h⟩ := okOr_bind_ok.mp h
    obtain ⟨j, hj, hread⟩ := Option.bind_eq_some_iff.mp hread
    obtain ⟨inputs, hbuild, h⟩ := bind_ok.mp h
    obtain ⟨session, hsession, h⟩ := okOr_bind_ok.mp h
    obtain ⟨himage, tx, hrenders, hprogram, hinputs, hfits⟩ := (buildInputs_eq_ok hhex hserves).mp hbuild
    refine ⟨elf, dryRun, tx, inputs, session, ⟨helf, ⟨text, j, htext, hj, hread⟩, ?_⟩, hrenders,
      hinputs, hfits, hsession, (Except.ok.inj h).symm⟩
    rw [hprogram]
    exact himage
  · rintro ⟨elf, dryRun, tx, inputs, session, hreads, hrenders, hinputs, hfits, hsession, rfl⟩
    obtain ⟨helf, ⟨text, j, htext, hj, hread⟩, himage⟩ := hreads
    have hprogram : tx.programId = inputs.programId := by
      obtain ⟨pres, -, rfl⟩ := Option.map_eq_some_iff.mp hinputs
      rfl
    rw [hprogram] at himage
    have hbuild : buildInputs hex machine args.sequencer elf dryRun = .ok inputs :=
      (buildInputs_eq_ok hhex hserves).mpr ⟨himage, tx, hrenders, hprogram, hinputs, hfits⟩
    refine ⟨elf, helf, okOr_bind_ok.mpr ⟨text, htext, okOr_bind_ok.mpr ⟨dryRun, ?_, ?_⟩⟩⟩
    · rw [hj, Option.bind_some, hread]
    · exact bind_ok.mpr ⟨inputs, hbuild, okOr_bind_ok.mpr ⟨session, hsession, rfl⟩⟩

end Replay

end CuBench

open CuBench in
/-- What the tool reports is the session of the sequencer's own four inputs for the
transaction the dry run renders, and every transaction has a dry run. There is no report
when the chain lacks one of the accounts or holds a balance or nonce above 64 bits there. -/
theorem replay_exact {hex : HexCrate} (hhex : hex.DecodesDigits) {machine : Machine}
    {chain : Bytes 32 → Option Account} (hserves : machine.Serves chain) (args : CuBench.Args) :
    (∀ r, CuBench.main hex machine args = .ok r →
      ∃ elf dryRun tx, machine.Reads args elf dryRun tx.programId ∧ dryRun.Renders tx) ∧
    (∀ elf dryRun tx, machine.Reads args elf dryRun tx.programId → dryRun.Renders tx → ∀ r,
      (CuBench.main hex machine args = .ok r ↔ ∃ inputs session, tx.inputs chain = some inputs ∧
        (∀ pre ∈ inputs.preStates, Fits pre.account) ∧
        machine.execute MAX_NUM_CYCLES_PUBLIC_EXECUTION inputs elf = some session ∧
        r = report hex dryRun.instruction inputs session)) ∧
    (∀ dryRun tx tx', DryRun.Renders dryRun tx → dryRun.Renders tx' → tx.programId = tx'.programId →
      tx = tx') ∧
    ∀ instruction tx, DryRun.deserialize (Transaction.dryRun instruction tx).toJson =
        some (tx.dryRun instruction) ∧ (tx.dryRun instruction).Renders tx := by
  refine ⟨?_, ?_, fun _ _ _ => DryRun.Renders.unique,
    fun instruction tx => ⟨DryRun.deserialize_toJson _, tx.renders_dryRun instruction⟩⟩
  · intro r h
    obtain ⟨elf, dryRun, tx, _, _, hreads, hrenders, _⟩ := (main_eq_ok hhex hserves).mp h
    exact ⟨elf, dryRun, tx, hreads, hrenders⟩
  · intro elf dryRun tx hreads hrenders r
    rw [main_eq_ok hhex hserves]
    constructor
    · rintro ⟨elf', dryRun', tx', inputs, session, hreads', hrenders', h⟩
      obtain ⟨rfl, rfl, hprogram⟩ := hreads.unique hreads'
      obtain rfl := hrenders.unique hrenders' hprogram
      exact ⟨inputs, session, h⟩
    · rintro ⟨inputs, session, h⟩
      exact ⟨elf, dryRun, tx, inputs, session, hreads, hrenders, h⟩

/-! A sequencer that looks an account up by its text, and the replay of one transaction. -/

namespace Scenario

open CuBench

def held (accounts : List (Bytes 32 × Account)) (id : Bytes 32) : Option Account :=
  (accounts.find? fun entry => entry.1 = id).map Prod.snd

def amountJson (n : U128) : Json :=
  .number (if n.toNat < 2 ^ 64 then .posInt (UInt64.ofNat n.toNat) else .float 0)

def accountJson (account : Account) : Json := .object [
  ("program_owner", .array (account.programOwner.toList.map fun word => .number (.posInt word.toUInt64))),
  ("balance", amountJson account.balance),
  ("data", .array (account.data.map fun b => .number (.posInt b.toUInt64))),
  ("nonce", amountJson account.nonce)]

def askedId : Value → Option String
  | .object get =>
    match get "params" with
    | some (.array [.string s]) => some s
    | _ => none
  | _ => none

def accountServer (accounts : List (Bytes 32 × Account)) (v : Value) : Response :=
  match askedId v with
  | none => .failed "Invalid params"
  | some s =>
    let found := accounts.find? fun entry => Base58.encoding entry.1.toList = s
    .body (some (.object [("result", (found.map fun entry => accountJson entry.2).getD .null)]))

theorem amountJson_toValue (n : U128) : Amount (some (amountJson n).toValue) n := by
  rw [amountJson]
  split
  · next h => exact .inl ⟨_, rfl, UInt64.toNat_ofNat_of_lt' h⟩
  · next h => exact .inr ⟨by omega, 0, rfl⟩

theorem accountJson_describes (account : Account) : Describes (accountJson account).toValue account := by
  have howner : (Json.array (account.programOwner.toList.map fun word =>
      .number (.posInt word.toUInt64))).toValue = ofWords account.programOwner.toList := by
    rw [Json.toValue, toValues_map]
    rfl
  have hdata : (Json.array (account.data.map fun b => .number (.posInt b.toUInt64))).toValue =
      .ofBytes account.data := by
    rw [Json.toValue, toValues_map]
    rfl
  refine ⟨_, rfl, ?_, amountJson_toValue account.balance, ?_, amountJson_toValue account.nonce⟩
  · rw [← howner]
    rfl
  · rw [← hdata]
    rfl

theorem find?_encoding (accounts : List (Bytes 32 × Account)) (id : Bytes 32) :
    (accounts.find? fun entry => Base58.encoding entry.1.toList = Base58.encoding id.toList) =
      accounts.find? fun entry => entry.1 = id := by
  congr 1
  funext entry
  have h : Base58.encoding entry.1.toList = Base58.encoding id.toList ↔ entry.1 = id :=
    ⟨fun h => List.Vector.eq _ _ (Base58.encoding_injective h), fun h => by rw [h]⟩
  exact decide_eq_decide.mpr h

theorem accountServer_request (accounts : List (Bytes 32 × Account)) (id : Bytes 32) :
    accountServer accounts (SequencerClient.accountRequest (Base58.encoding id.toList)) =
      .body (some (.object [("result", ((held accounts id).map accountJson).getD .null)])) := by
  have hasked : askedId (SequencerClient.accountRequest (Base58.encoding id.toList)) =
      some (Base58.encoding id.toList) := rfl
  rw [accountServer, hasked, held, Option.map_map]
  simp only [find?_encoding]
  rfl

def benchMachine (accounts : List (Bytes 32 × Account)) (dryRun : DryRun) : Machine where
  Binary := Unit
  read path := if path = "gate.bin" then some [0x7f] else none
  readToString path := if path = "dryrun.json" then some "dry run" else none
  parse _ := some dryRun.toJson
  decodeBinary _ := some ()
  computeImageId _ := some programId
  dataTryFrom bytes := if bytes.length ≤ 102400 then .ok bytes else .error "data is too big"
  server := accountServer accounts
  execute _ _ _ := some [⟨48211, 16⟩, ⟨1094, 11⟩]

theorem benchMachine_serves {accounts : List (Bytes 32 × Account)} {dryRun : DryRun}
    (hdata : ∀ entry ∈ accounts, entry.2.data.length ≤ 102400) :
    (benchMachine accounts dryRun).Serves (held accounts) where
  found id account h := by
    refine ⟨_, _, _, accountServer_request accounts id, rfl, ?_, accountJson_describes account⟩
    rw [h]
    rfl
  absent id h := by
    refine ⟨_, _, accountServer_request accounts id, rfl, .inr ?_⟩
    rw [h]
    rfl
  data id account h := by
    obtain ⟨entry, hentry, rfl⟩ := Option.map_eq_some_iff.mp h
    exact if_pos (hdata entry (List.mem_of_find?_eq_some hentry))

def benchAccounts : List (Bytes 32 × Account) := [
  (.replicate 32 7, ⟨AUTHENTICATED_TRANSFER_PROGRAM_ID, 4000, [], 3⟩),
  (.replicate 32 9, ⟨.replicate 8 0, 0, [], 0⟩)]

def benchTransaction : Transaction :=
  ⟨programId, [(.replicate 32 9, false), (.replicate 32 7, true)], [1, 4000, 0xffffffff]⟩

end Scenario

open Scenario CuBench in
theorem replay_exact_gate :
    let machine := benchMachine benchAccounts (benchTransaction.dryRun "gated_check")
    CuBench.main digitsCrate machine ⟨"gate.bin", "dryrun.json", "http://127.0.0.1:3040"⟩ =
      .ok ⟨"gated_check", Python.hex (wordsToLeBytes programId), 49305, 67584, 2, 3, 2, 33554432⟩ := by
  intro machine
  have hdata : ∀ entry ∈ benchAccounts, entry.2.data.length ≤ 102400 := by simp [benchAccounts]
  have hreads : machine.Reads ⟨"gate.bin", "dryrun.json", "http://127.0.0.1:3040"⟩ [0x7f]
      (benchTransaction.dryRun "gated_check") programId :=
    ⟨rfl, ⟨_, _, rfl, rfl, DryRun.deserialize_toJson _⟩, ⟨(), rfl, rfl⟩⟩
  have hrenders := benchTransaction.renders_dryRun "gated_check"
  refine ((replay_exact (fun _ _ => okOr_ok) (benchMachine_serves hdata) _).2.1 _ _ benchTransaction hreads
    hrenders _).mpr ⟨_, _, rfl, ?_, rfl, rfl⟩
  simp [Fits]

end BalanceAttestation
