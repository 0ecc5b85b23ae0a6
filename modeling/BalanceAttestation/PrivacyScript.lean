import BalanceAttestation.AttestCli

/-! The script that builds the arguments of a privacy-preserving `gated_check`.
It derives in Python what the Rust crates derive, from integers and byte strings
of any width, and writes the flags as text. -/

namespace BalanceAttestation

open ByteLayout Checks Python

namespace PrivacyScript

def NULLIFIER_PREFIX : List UInt8 := ascii "/lp-0005/v0.1/Nullifier/" ++ List.replicate 8 0

def PRIVATE_ACCOUNT_ID_PREFIX : List UInt8 :=
  ascii "/LEE/v0.3/AccountId/Private/" ++ List.replicate 4 0

def CHALLENGE_TAG : List UInt8 := ascii "/lp-0005/v0.1/PresenterChallenge/"

def GATE_TAG_PREFIX : List UInt8 := ascii "/lp-0005/v0.1/GateTag/" ++ List.replicate 10 0

structure Witness where
  npk : List Int
  identifier : Int
  programOwner : List Int
  balance : Int
  nonce : Int
  dataHash : List Int
  merklePath : List (List Int)
  leafIndex : Int
  merkleRoot : List Int

structure Args where
  context : String
  threshold : Int
  minimumThreshold : Option Int
  nonce : Option String
  out : String

structure Output where
  lines : List String
  printed : List String

def contextBytes (label : String) : List UInt8 := label.toUTF8.toList

def u128Words (v : Int) : List Int :=
  (List.range 4).map fun (i : Nat) => Int.land (v >>> (32 * i)) 0xFFFFFFFF

def u64Words (v : Int) : List Int := [Int.land v 0xFFFFFFFF, Int.land (v >>> 32) 0xFFFFFFFF]

def risc0Words (witness : Witness) : List Int :=
  witness.npk ++ u128Words witness.identifier ++ witness.programOwner ++ u128Words witness.balance ++
    u128Words witness.nonce ++ witness.dataHash ++ (witness.merklePath.length : Int) ::
    witness.merklePath.flatten ++ u64Words witness.leafIndex

def hexarg (b : List UInt8) : String := "'" ++ hex b ++ "'"

def output (args : Args) (words : List Int) (accountId contextId nullifier gateTag : Bytes 32)
    (pubkey nonce merkleRoot signature : List UInt8) (minimumThreshold : Int) : Output where
  lines := [
    "--witness-words '" ++ csv words ++ "'",
    "--merkle-root " ++ hexarg merkleRoot,
    "--threshold " ++ toString args.threshold,
    "--context-id " ++ hexarg contextId.toList,
    "--presenter-pubkey '" ++ csv (ints pubkey) ++ "'",
    "--nullifier " ++ hexarg nullifier.toList,
    "--presenter-nonce " ++ hexarg nonce,
    "--presenter-signature-der '" ++ csv (ints signature) ++ "'",
    "--expected-context-id " ++ hexarg contextId.toList,
    "--minimum-threshold " ++ toString minimumThreshold,
    "--gate-tag " ++ hexarg gateTag.toList]
  printed := [
    "account_id  " ++ hex accountId.toList,
    "context_id  " ++ hex contextId.toList,
    "nullifier   " ++ hex nullifier.toList,
    "gate_tag    " ++ hex gateTag.toList ++ "   (the gate_marker PDA seed)",
    "floor       " ++ toString minimumThreshold ++ "   (attested threshold " ++
      toString args.threshold ++ ")",
    "witness     " ++ toString words.length ++ " u32 words",
    "wrote       " ++ args.out]

section

variable (sha256 : HashFn)

def deriveAccountId (npk : List UInt8) (identifier : Int) : Except PyError (Bytes 32) := do
  let identifier ← toBytesLittle 16 identifier
  return sha256 (PRIVATE_ACCOUNT_ID_PREFIX ++ npk ++ identifier)

def contextIdFrom (label : String) : Bytes 32 := sha256 (contextBytes label)

def computeNullifier (pubkey contextId accountId : List UInt8) : Bytes 32 :=
  sha256 (NULLIFIER_PREFIX ++ pubkey ++ contextId ++ accountId)

def computeGateTag (nullifier : List UInt8) (minimumThreshold : Int)
    (expectedContextId : List UInt8) : Except PyError (Bytes 32) := do
  let minimumThreshold ← toBytesLittle 16 minimumThreshold
  return sha256 (GATE_TAG_PREFIX ++ nullifier ++ minimumThreshold ++ expectedContextId)

def challengeDigest (nonce merkleRoot : List UInt8) (threshold : Int)
    (contextId pubkey nullifier : List UInt8) : Except PyError (Bytes 32) := do
  let threshold ← toBytesLittle 16 threshold
  return sha256 (CHALLENGE_TAG ++ nonce ++ merkleRoot ++ threshold ++ contextId ++ pubkey ++ nullifier)

/-- `--nonce` decoded, or one derived from the nullifier when it is absent or empty. -/
def challengeNonce (nonce : Option String) (nullifier : Bytes 32) : Except PyError (List UInt8) :=
  let derived := sha256 (ascii "lp-0005-challenge" ++ nullifier.toList)
  match nonce with
  | some s => if s ≠ "" then fromHex s else .ok derived.toList
  | none => .ok derived.toList

variable (hexCrate : HexCrate) (keys : K256.KeyPairs)

def sign (secretHex : String) (digest : List UInt8) : Except PyError String :=
  match AttestCli.signDigest hexCrate keys secretHex (hex digest) with
  | .error _ => .error (.systemExit 1)
  | .ok stdout => .ok (strip stdout)

def main (args : Args) (w : Witness) (pres : AttestCli.PresenterFile) : Except PyError Output := do
  let pubkey ← fromHex pres.publicHex
  let accountId ← deriveAccountId sha256 (← bytes w.npk) w.identifier
  let contextId := contextIdFrom sha256 args.context
  let nullifier := computeNullifier sha256 pubkey contextId.toList accountId.toList
  let minimumThreshold := args.minimumThreshold.getD args.threshold
  let gateTag ← computeGateTag sha256 nullifier.toList minimumThreshold contextId.toList
  let nonce ← challengeNonce sha256 args.nonce nullifier
  let merkleRoot ← bytes w.merkleRoot
  let digest ← challengeDigest sha256 nonce merkleRoot args.threshold contextId.toList pubkey
    nullifier.toList
  let sigDer ← sign hexCrate keys pres.secretHex digest.toList
  let words := risc0Words w
  let signature ← fromHex sigDer
  return output args words accountId contextId nullifier gateTag pubkey nonce merkleRoot signature
    minimumThreshold

end

def Witness.ofInputs (w : PrivateInputs) (merkleRoot : Bytes 32) : Witness where
  npk := ints w.npk.toList
  identifier := w.identifier.toNat
  programOwner := w.programOwner.toList.map fun word => (word.toNat : Int)
  balance := w.balance.toNat
  nonce := w.nonce.toNat
  dataHash := ints w.dataHash.toList
  merklePath := w.merklePath.map fun sib => ints sib.toList
  leafIndex := w.leafIndex.toNat
  merkleRoot := ints merkleRoot.toList

end PrivacyScript

/-- The flags that spell an argument list out. -/
def DeepGatedCheckArgs.flags (args : DeepGatedCheckArgs) : List String :=
  let hexarg (b : Bytes 32) := "'" ++ hex b.toList ++ "'"
  ["--witness-words '" ++ csv (args.witnessWords.map fun word => (word.toNat : Int)) ++ "'",
    "--merkle-root " ++ hexarg args.merkleRoot,
    "--threshold " ++ toString args.threshold.toNat,
    "--context-id " ++ hexarg args.contextId,
    "--presenter-pubkey '" ++ csv (ints args.presenterPubkey) ++ "'",
    "--nullifier " ++ hexarg args.nullifier,
    "--presenter-nonce " ++ hexarg args.presenterNonce,
    "--presenter-signature-der '" ++ csv (ints args.presenterSignatureDer) ++ "'",
    "--expected-context-id " ++ hexarg args.expectedContextId,
    "--minimum-threshold " ++ toString args.minimumThreshold.toNat,
    "--gate-tag " ++ hexarg args.gateTag]

def PrivateInputs.gatedCheckArgs (sha256 : HashFn) (w : PrivateInputs) (words : List UInt32)
    (pk : Bytes 33) (ctx : Bytes 32) (threshold floor : U128) (nonce : Bytes 32)
    (signatureDer : List UInt8) : DeepGatedCheckArgs :=
  let nullifier := computeNullifier sha256 pk ctx (w.accountId sha256)
  { merkleRoot := w.recoveredRoot sha256
    threshold
    contextId := ctx
    presenterPubkey := pk.toList
    nullifier
    presenterNonce := nonce
    presenterSignatureDer := signatureDer
    expectedContextId := ctx
    minimumThreshold := floor
    witnessWords := words
    gateTag := computeGateTag sha256 nullifier floor ctx }

def Signs (k256 : K256) (signer : K256.Signer) (key : signer.SigningKey) (message : List UInt8) :
    Prop :=
  ∃ vk sig, k256.fromSec1Bytes (signer.toEncodedPoint key) = some vk ∧
    k256.fromDer (signer.signDer key message) = some sig ∧ k256.verify vk message sig = true

namespace PrivacyScript

theorem limb_cast (v i : Nat) : Int.land ((v : Int) >>> (32 * i)) 0xFFFFFFFF =
    ((UInt32.ofNat (v >>> (32 * i))).toNat : Int) := by
  have hmask : v >>> (32 * i) &&& 0xFFFFFFFF = v >>> (32 * i) % 2 ^ 32 :=
    Nat.and_two_pow_sub_one_eq_mod (v >>> (32 * i)) 32
  rw [UInt32.toNat_ofNat', ← hmask]
  rfl

theorem u128Words_cast (v : Nat) : u128Words v =
    ((List.range 4).map fun i => UInt32.ofNat (v >>> (32 * i))).map fun word => (word.toNat : Int) := by
  rw [u128Words, List.map_map]
  exact List.map_congr_left fun i _ => limb_cast v i

theorem u64Words_cast (v : Nat) : u64Words v =
    ((List.range 2).map fun i => UInt32.ofNat (v >>> (32 * i))).map fun word => (word.toNat : Int) := by
  have hlow := limb_cast v 0
  have hhigh := limb_cast v 1
  rw [Nat.mul_zero, Int.shiftRight_zero] at hlow
  change [_, _] = [_, _]
  rw [hlow]
  exact congrArg (_ :: [·]) hhigh

theorem ints_toUInt32 (bs : List UInt8) :
    ints bs = (bs.map UInt8.toUInt32).map fun word => (word.toNat : Int) := by
  simp [ints]

theorem risc0Words_ofInputs {w : PrivateInputs} (hpath : w.merklePath.length < 2 ^ 32)
    (root : Bytes 32) : risc0Words (Witness.ofInputs w root) =
      w.risc0Words.map fun word => (word.toNat : Int) := by
  have hlen : ((UInt32.ofNat w.merklePath.length).toNat : Int) = w.merklePath.length := by
    rw [UInt32.toNat_ofNat', Nat.mod_eq_of_lt hpath]
  have hsibs : (w.merklePath.map fun sib => (sib.toList.map UInt8.toUInt32).map
      fun word => (word.toNat : Int)).flatten =
      (w.merklePath.flatMap fun sib => sib.toList.map UInt8.toUInt32).map
        fun word => (word.toNat : Int) := by
    rw [← List.flatMap_def, List.map_flatMap]
  simp only [risc0Words, Witness.ofInputs, PrivateInputs.risc0Words, u128Words_cast, u64Words_cast,
    hsibs, ints_toUInt32, List.map_append, List.map_cons, List.length_map, hlen]

variable {sha256 : HashFn}

theorem deriveAccountId_ofInputs (w : PrivateInputs) :
    deriveAccountId sha256 w.npk.toList w.identifier.toNat = .ok (w.accountId sha256) := by
  rw [deriveAccountId, toBytesLittle_cast w.identifier.isLt]
  rfl

theorem computeGateTag_cast (nullifier ctx : Bytes 32) (floor : U128) :
    computeGateTag sha256 nullifier.toList floor.toNat ctx.toList =
      .ok (BalanceAttestation.computeGateTag sha256 nullifier floor ctx) := by
  rw [computeGateTag, toBytesLittle_cast floor.isLt]
  rfl

theorem challengeDigest_cast (nonce : Bytes 32) (j : PublicJournal) :
    challengeDigest sha256 nonce.toList j.merkleRoot.toList j.threshold.toNat j.contextId.toList
      j.presenterPubkey.toList j.nullifier.toList =
        .ok (VerifierOffchain.presenterChallengeDigest sha256 nonce j) := by
  rw [challengeDigest, toBytesLittle_cast j.threshold.isLt]
  rfl

variable {hexCrate : HexCrate} {keys : K256.KeyPairs} {secret : Bytes 32} {key : keys.SigningKey}

theorem sign_eq_ok (hhex : hexCrate.Documented) (hkey : keys.fromBytes secret = .ok key)
    (digest : Bytes 32) :
    sign hexCrate keys (hexCrate.encode secret.toList) digest.toList =
      .ok (hex (PresenterKey.signDigest keys.toSigner key digest)) := by
  rw [sign, AttestCli.signDigest_eq_ok hhex hkey]
  exact congrArg Except.ok (strip_hex_line _)

/-- What the script writes spells out what the Rust side derives. -/
theorem main_eq_ok (hhex : hexCrate.Documented) (hkey : keys.fromBytes secret = .ok key)
    (pk : Bytes 33) (w : PrivateInputs) {args : Args} {threshold floor : U128} {nonce : Bytes 32}
    {words : List UInt32} (hthreshold : args.threshold = threshold.toNat)
    (hfloor : args.minimumThreshold.getD threshold.toNat = floor.toNat)
    (hwords : risc0Words (Witness.ofInputs w (w.recoveredRoot sha256)) =
      words.map fun word => (word.toNat : Int)) :
    let ctx := contextIdFrom sha256 args.context
    let n := BalanceAttestation.computeNullifier sha256 pk ctx (w.accountId sha256)
    let digest := VerifierOffchain.presenterChallengeDigest sha256 nonce
      ⟨w.recoveredRoot sha256, threshold, ctx, pk, n⟩
    let typed := w.gatedCheckArgs sha256 words pk ctx threshold floor nonce
      (PresenterKey.signDigest keys.toSigner key digest)
    challengeNonce sha256 args.nonce n = .ok nonce.toList →
    ∃ out, main sha256 hexCrate keys args (Witness.ofInputs w (w.recoveredRoot sha256))
        ⟨hexCrate.encode secret.toList, hexCrate.encode pk.toList⟩ = .ok out ∧
      out.lines = typed.flags ∧
      "nullifier   " ++ hex n.toList ∈ out.printed ∧
      "gate_tag    " ++ hex typed.gateTag.toList ++ "   (the gate_marker PDA seed)" ∈ out.printed := by
  intro ctx n digest typed hnonce
  have hpubkey : fromHex (hexCrate.encode pk.toList) = .ok pk.toList := by
    rw [hhex.encode_eq, fromHex_hex]
  have htag : computeGateTag sha256 n.toList floor.toNat ctx.toList = _ :=
    computeGateTag_cast n ctx floor
  have hdigest : challengeDigest sha256 nonce.toList _ threshold.toNat ctx.toList pk.toList
      n.toList = .ok digest :=
    challengeDigest_cast nonce ⟨w.recoveredRoot sha256, threshold, ctx, pk, n⟩
  have hsign := sign_eq_ok hhex hkey digest
  refine ⟨output args (words.map fun word => (word.toNat : Int)) (w.accountId sha256) ctx n
    typed.gateTag pk.toList nonce.toList (w.recoveredRoot sha256).toList typed.presenterSignatureDer
    floor.toNat, ?_, ?_, ?_, ?_⟩
  · simp only [main, bind_ok, hthreshold, hfloor, hwords]
    exact ⟨_, hpubkey, _, bytes_ints _, _, deriveAccountId_ofInputs w, _, htag, _, hnonce, _,
      bytes_ints _, _, hdigest, _, hsign, _, fromHex_hex _, rfl⟩
  · simp only [output, hthreshold]
    rfl
  · simp [output]
  · simp [output]

end PrivacyScript

section DeepPath

variable {sha256 : HashFn} {k256 : K256} {hexCrate : HexCrate} {keys : K256.KeyPairs}
  {secret : Bytes 32} {key : keys.SigningKey} {pk : Bytes 33}

theorem Signs.signatureVerifies {nonce : Bytes 32} {j : PublicJournal}
    (hpub : PresenterKey.publicKey keys.toSigner key = .ok j.presenterPubkey)
    (h : Signs k256 keys.toSigner key (VerifierOffchain.presenterChallengeDigest sha256 nonce j).toList) :
    SignatureVerifies sha256 k256 nonce j (PresenterKey.sign keys.toSigner key sha256 nonce j) := by
  obtain ⟨vk, s, hvk, hs, hverify⟩ := h
  rw [PresenterKey.publicKey_eq_ok.mp hpub] at hvk
  exact ⟨vk, s, hvk, hs, hverify⟩

/-- For any key pair, label, nonce and witness whose words decode back to it, the script
writes flags that pass the deep gate for the witness's account, and prints the
nullifier of the chained attestation and the guest's gate tag. -/
theorem script_passes_deep_gate (fromSlice : List UInt32 → Option PrivateInputs)
    (spel : List String → Option DeepGatedCheckArgs) (hhex : hexCrate.Documented)
    (hkey : keys.fromBytes secret = .ok key)
    (hpub : PresenterKey.publicKey keys.toSigner key = .ok pk) (w : PrivateInputs)
    {args : PrivacyScript.Args} {threshold floor : U128}
    (hthreshold : args.threshold = threshold.toNat)
    (hfloor : args.minimumThreshold.getD threshold.toNat = floor.toNat)
    (hle : floor ≤ threshold) (hbalance : threshold ≤ w.balance) {nonce : Bytes 32}
    {words : List UInt32}
    (hwords : PrivacyScript.risc0Words (.ofInputs w (w.recoveredRoot sha256)) =
      words.map fun word => (word.toNat : Int))
    (hdecode : fromSlice words = some w) (gateMarker presenter : AccountWithMetadata)
    (haccount : presenter.accountId = w.accountId sha256)
    (howner : presenter.account.programOwner = AUTHENTICATED_TRANSFER_PROGRAM_ID)
    (hheld : floor ≤ presenter.account.balance) :
    let root := w.recoveredRoot sha256
    let ctx := PrivacyScript.contextIdFrom sha256 args.context
    let n := computeNullifier sha256 pk ctx (w.accountId sha256)
    let j : PublicJournal := ⟨root, threshold, ctx, pk, n⟩
    let typed := w.gatedCheckArgs sha256 words pk ctx threshold floor nonce
      (PresenterKey.sign keys.toSigner key sha256 nonce j)
    PrivacyScript.challengeNonce sha256 args.nonce n = .ok nonce.toList →
    Signs k256 keys.toSigner key
      (VerifierOffchain.presenterChallengeDigest sha256 nonce j).toList →
    spel typed.flags = some typed →
    ∃ pres out, AttestCli.keygen hexCrate keys secret = .ok pres ∧
      PrivacyScript.main sha256 hexCrate keys args (.ofInputs w root) pres = .ok out ∧
      spel out.lines = some typed ∧
      Deep.gatedCheck sha256 k256 fromSlice gateMarker presenter typed =
        .ok ⟨[gateMarker, presenter],
          [⟨ATTESTATION_LEZ_PROGRAM_ID, [], ⟨w, ⟨root, threshold, ctx, pk⟩⟩⟩]⟩ ∧
      attest sha256 w ⟨root, threshold, ctx, pk⟩ = .ok n ∧
      "nullifier   " ++ hex n.toList ∈ out.printed ∧
      "gate_tag    " ++ hex (computeGateTag sha256 n floor ctx).toList ++
        "   (the gate_marker PDA seed)" ∈ out.printed := by
  intro root ctx n j typed hnonce hsigns hspel
  obtain ⟨out, hmain, hlines, hnullifier, htag⟩ :=
    PrivacyScript.main_eq_ok hhex hkey pk w hthreshold hfloor hwords hnonce
  have hpasses : Deep.Passes sha256 k256 fromSlice presenter typed pk w :=
    { context := rfl
      floor := hle
      key := rfl
      signature := hsigns.signatureVerifies (j := j) hpub
      witness := hdecode
      nullifier := rfl
      account := haccount
      owner := howner
      balance := hheld
      tag := rfl }
  refine ⟨_, out, AttestCli.keygen_eq_ok hkey hpub, hmain, ?_, ?_, ?_, hnullifier, htag⟩
  · rw [hlines]
    exact hspel
  · exact Deep.gatedCheck_eq_ok.mpr ⟨pk, w, hpasses, rfl⟩
  · exact attest_eq_ok.mpr ⟨rfl, hbalance, rfl⟩

end DeepPath

/-! The script run for the tests' key and witness, under a label and a hex nonce. -/

namespace Scenario

def scriptArgs : PrivacyScript.Args where
  context := "lp-0005-onchain"
  threshold := 4000
  minimumThreshold := none
  nonce := some "0909090909090909090909090909090909090909090909090909090909090909"
  out := "/tmp/gated-check-privacy.args"

def labelJournal : PublicJournal where
  merkleRoot := merkleRoot
  threshold := 4000
  contextId := beBytes 32 0xe3067bf74e80f59eb81fd44dbbf83fc0b245dbe952af7416d764d3cf3cf3d08c
  presenterPubkey := pubkey
  nullifier := beBytes 32 0xb3eb30aa4815a7e9159dc8eaed97fa2854f1c9d135e91b08e761ccb7190bd91e

def labelDigest : Bytes 32 :=
  beBytes 32 0x240849b3d636555b50dc0bbdd82c5d58625abc69595903f7bbab49a32a97384b

def labelSignature : List UInt8 :=
  (beBytes 36 0x304402200a77ac052a515bd1b2fccae2a641534fa847e2628429c7334d2c67aec701d351).toList ++
    (beBytes 34 0x02206383796cb6e8a8257015e3f0aff8e7b518e2a0ea7549228129fe332a598033da).toList

def keys : K256.KeyPairs where
  SigningKey := Unit
  toEncodedPoint _ := pubkey.toList
  signDer _ message := if message = labelDigest.toList then labelSignature else []
  fromBytes bytes := if bytes = .replicate 32 7 then .ok () else .error "signature error"

def hexCrate : HexCrate where
  encode := hex
  decode s := (fromHex s).mapError fun _ => "Invalid character"

theorem hexCrate_documented : hexCrate.Documented where
  encode_eq _ := rfl
  decode_encode bs := by
    change (fromHex (hex bs)).mapError _ = _
    rw [fromHex_hex]
    rfl

theorem labelSigns : Signs (k256 labelDigest labelSignature) keys.toSigner () labelDigest.toList := by
  obtain ⟨hkey, hder, hverify⟩ := K256.ofTable_singleton pubkey.toList labelDigest.toList
    labelSignature
  have hsign : keys.signDer () labelDigest.toList = labelSignature := by simp [keys]
  refine ⟨pubkey.toList, labelSignature, hkey, ?_, (hverify _).mpr rfl⟩
  rw [hsign]
  exact hder

theorem labelJournal_eq : (⟨(witness 4000).recoveredRoot Sha256.digest, 4000,
      PrivacyScript.contextIdFrom Sha256.digest scriptArgs.context, pubkey,
      computeNullifier Sha256.digest pubkey (PrivacyScript.contextIdFrom Sha256.digest scriptArgs.context)
        ((witness 4000).accountId Sha256.digest)⟩ : PublicJournal) = labelJournal := by
  have hctx : PrivacyScript.contextIdFrom Sha256.digest scriptArgs.context = labelJournal.contextId := by
    decide +kernel
  have hn : computeNullifier Sha256.digest pubkey labelJournal.contextId accountId =
      labelJournal.nullifier := by
    decide +kernel
  rw [recoveredRoot_eq, hctx, accountId_eq, hn]
  rfl

theorem labelDigest_eq :
    VerifierOffchain.presenterChallengeDigest Sha256.digest nonce labelJournal = labelDigest := by
  decide +kernel

def labelArgs : DeepGatedCheckArgs :=
  (witness 4000).gatedCheckArgs Sha256.digest (witness 4000).risc0Words pubkey
    (PrivacyScript.contextIdFrom Sha256.digest scriptArgs.context) 4000 4000 nonce
    (PresenterKey.sign keys.toSigner () Sha256.digest nonce labelJournal)

def spel (lines : List String) : Option DeepGatedCheckArgs :=
  if lines = labelArgs.flags then some labelArgs else none

end Scenario

open Scenario in
theorem script_passes_deep_gate_onchain :
    ∃ pres out, AttestCli.keygen hexCrate keys (.replicate 32 7) = .ok pres ∧
      PrivacyScript.main Sha256.digest hexCrate keys scriptArgs
        (.ofInputs (witness 4000) ((witness 4000).recoveredRoot Sha256.digest)) pres = .ok out ∧
      spel out.lines = some labelArgs ∧
      ∃ result, Deep.gatedCheck Sha256.digest (k256 labelDigest labelSignature) (fromSlice 4000)
        gateMarker (presenter 4000) labelArgs = .ok result := by
  have hkey : keys.fromBytes (.replicate 32 7) = .ok () := by simp [keys]
  have hnonce (n : Bytes 32) : PrivacyScript.challengeNonce Sha256.digest scriptArgs.nonce n =
      .ok nonce.toList := by
    simp only [PrivacyScript.challengeNonce, scriptArgs]
    rw [if_pos (by decide)]
    decide +kernel
  have hsigns : Signs (k256 labelDigest labelSignature) keys.toSigner ()
      (VerifierOffchain.presenterChallengeDigest Sha256.digest nonce labelJournal).toList := by
    rw [labelDigest_eq]
    exact labelSigns
  have hspel : spel labelArgs.flags = some labelArgs := if_pos rfl
  rw [← labelJournal_eq] at hsigns
  rw [labelArgs, ← labelJournal_eq] at hspel ⊢
  obtain ⟨pres, out, hpres, hmain, hparsed, hgate, _⟩ := script_passes_deep_gate (fromSlice 4000) spel
    hexCrate_documented hkey (PresenterKey.publicKey_eq_ok.mpr rfl) (witness 4000)
    (show scriptArgs.threshold = (4000 : U128).toNat from rfl) rfl
    (BitVec.le_refl 4000) (BitVec.le_refl 4000)
    (PrivacyScript.risc0Words_ofInputs (by decide) _) (if_pos rfl) gateMarker (presenter 4000)
    (accountId_eq 4000).symm rfl (BitVec.le_refl 4000) (hnonce _) hsigns hspel
  exact ⟨pres, out, hpres, hmain, hparsed, _, hgate⟩

theorem script_contextBytes_ne (label : String) :
    AttestCli.contextBytes label ≠ PrivacyScript.contextBytes label := by
  intro h
  have htag : (ascii "/lp-0005/v0.1/context/").length = 22 := by decide +kernel
  have hlen := congrArg List.length h
  rw [AttestCli.contextBytes, PrivacyScript.contextBytes, List.length_append, htag] at hlen
  omega

theorem script_contextId_collision {sha256 : HashFn} {label : String}
    (h : AttestCli.contextIdFrom sha256 label = PrivacyScript.contextIdFrom sha256 label) :
    Collision sha256 (AttestCli.contextBytes label) (PrivacyScript.contextBytes label) :=
  (eq_or_collision h).resolve_left (script_contextBytes_ne label)

/-- A label never names the same gate in both tools: the strings they hash
differ, and so do the nullifier and the gate tag, short of a collision. -/
theorem script_context_differs (sha256 : HashFn) (label : String) (pk : Bytes 33)
    (accountId : Bytes 32) (floor : U128) :
    let ctx := AttestCli.contextIdFrom sha256 label
    let ctx' := PrivacyScript.contextIdFrom sha256 label
    let n := computeNullifier sha256 pk ctx accountId
    let n' := PrivacyScript.computeNullifier sha256 pk.toList ctx'.toList accountId.toList
    AttestCli.contextBytes label ≠ PrivacyScript.contextBytes label ∧
    (n = n' → Collision sha256 (AttestCli.contextBytes label) (PrivacyScript.contextBytes label) ∨
      Collision sha256 (nullifierBytes pk ctx accountId) (nullifierBytes pk ctx' accountId)) ∧
    (PrivacyScript.computeGateTag sha256 n'.toList floor.toNat ctx'.toList =
        .ok (computeGateTag sha256 n floor ctx) →
      Collision sha256 (AttestCli.contextBytes label) (PrivacyScript.contextBytes label) ∨
      Collision sha256 (gateTagBytes n' floor ctx') (gateTagBytes n floor ctx)) := by
  intro ctx ctx' n n'
  refine ⟨script_contextBytes_ne label, ?_, ?_⟩
  · intro h
    rcases eq_or_collision (h := sha256) h with h | h
    · obtain ⟨_, hctx, _⟩ := nullifierBytes_inj h
      exact .inl (script_contextId_collision hctx)
    · exact .inr h
  · intro h
    rw [PrivacyScript.computeGateTag_cast] at h
    rcases eq_or_collision (h := sha256) (Except.ok.inj h) with h | h
    · obtain ⟨_, _, hctx⟩ := gateTagBytes_inj h
      exact .inl (script_contextId_collision hctx.symm)
    · exact .inr h

open Scenario in
theorem script_context_differs_onchain :
    let ctx := AttestCli.contextIdFrom Sha256.digest "lp-0005-onchain"
    let ctx' := PrivacyScript.contextIdFrom Sha256.digest "lp-0005-onchain"
    let n := computeNullifier Sha256.digest pubkey ctx accountId
    let n' := PrivacyScript.computeNullifier Sha256.digest pubkey.toList ctx'.toList accountId.toList
    AttestCli.contextBytes "lp-0005-onchain" ≠ PrivacyScript.contextBytes "lp-0005-onchain" ∧
    n ≠ n' ∧
    PrivacyScript.computeGateTag Sha256.digest n'.toList 4000 ctx'.toList ≠
      .ok (computeGateTag Sha256.digest n 4000 ctx) := by
  decide +kernel

end BalanceAttestation
