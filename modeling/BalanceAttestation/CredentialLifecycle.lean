import BalanceAttestation.AttestTool
import BalanceAttestation.DecimalText

/-! A credential from its key file to its verdict. What `keygen` and `prove` leave on
disk is what the later commands read, however many other calls come between. -/

namespace BalanceAttestation

open ByteLayout Checks RustStr SerdeJson VerifierOffchain

/-- The flags that spell the arguments of the shallow gate out. -/
def GatedCheckArgs.flags (args : GatedCheckArgs) : List String :=
  let hex (b : Bytes 32) := Python.hex b.toList
  ["--merkle-root '" ++ hex args.merkleRoot ++ "'",
    "--threshold " ++ toString args.threshold.toNat,
    "--context-id '" ++ hex args.contextId ++ "'",
    "--presenter-pubkey '" ++ AttestCli.bytesAsCsv args.presenterPubkey ++ "'",
    "--nullifier '" ++ hex args.nullifier ++ "'",
    "--presenter-nonce '" ++ hex args.presenterNonce ++ "'",
    "--presenter-signature-der '" ++ AttestCli.bytesAsCsv args.presenterSignatureDer ++ "'",
    "--expected-context-id '" ++ hex args.expectedContextId ++ "'",
    "--minimum-threshold " ++ toString args.minimumThreshold.toNat]

theorem AttestCli.bytesAsCsv_injective : Function.Injective AttestCli.bytesAsCsv := by
  have hcommas (bs : List UInt8) : AttestCli.bytesAsCsv bs = DecimalText.commas (bs.map UInt8.toNat) := by
    rw [AttestCli.bytesAsCsv, DecimalText.commas, List.map_map]
    rfl
  intro bs bs' h
  rw [hcommas, hcommas] at h
  have hbytes := DecimalText.commas_injective h
  exact List.map_injective_iff.mpr (fun _ _ => UInt8.toNat_inj.mp) hbytes

/-- What is printed for the chain determines the call. -/
theorem GatedCheckArgs.flags_injective : Function.Injective GatedCheckArgs.flags := by
  have hhex (b b' : Bytes 32) (h : Python.hex b.toList = Python.hex b'.toList) : b = b' :=
    List.Vector.eq _ _ (Python.hex_injective h)
  have hnumber (x x' : U128) (h : toString x.toNat = toString x'.toNat) : x = x' :=
    BitVec.eq_of_toNat_eq (Nat.repr_injective h)
  intro args args' h
  obtain ⟨root, threshold, ctx, pk, n, nonce, sig, expected, floor⟩ := args
  obtain ⟨root', threshold', ctx', pk', n', nonce', sig', expected', floor'⟩ := args'
  simp only [flags, List.cons.injEq, String.append_right_inj, String.append_left_inj, and_true] at h
  obtain ⟨hroot, hthreshold, hctx, hpk, hn, hnonce, hsig, hexpected, hfloor⟩ := h
  rw [hhex _ _ hroot, hnumber _ _ hthreshold, hhex _ _ hctx, AttestCli.bytesAsCsv_injective hpk, hhex _ _ hn,
    hhex _ _ hnonce, AttestCli.bytesAsCsv_injective hsig, hhex _ _ hexpected, hnumber _ _ hfloor]

namespace RustStr

theorem isWhitespace_digitChar {d : Nat} (h : d < 16) : isWhitespace (Nat.digitChar d) = false := by
  revert d
  decide

theorem isWhitespace_hexPairs (bs : List UInt8) :
    ∀ c ∈ bs.flatMap Python.hexPair, isWhitespace c = false := by
  intro c hc
  obtain ⟨b, _, hc⟩ := List.mem_flatMap.mp hc
  have hb := b.toNat_lt
  simp only [Python.hexPair, List.mem_cons, List.not_mem_nil, or_false] at hc
  rcases hc with rfl | rfl
  · exact isWhitespace_digitChar (by omega)
  · exact isWhitespace_digitChar (by omega)

theorem dropWhile_isWhitespace {cs : List Char} (h : ∀ c ∈ cs, isWhitespace c = false) :
    cs.dropWhile isWhitespace = cs := by
  cases cs with
  | nil => rfl
  | cons c cs => simp [h c List.mem_cons_self]

/-- A printed line comes back from `trim`, its newline gone. -/
theorem trim_println {s : String} (h : ∀ c ∈ s.toList, isWhitespace c = false) :
    trim (AttestCli.println s) = s := by
  have hnewline : isWhitespace '\n' = true := by decide
  have hline : (AttestCli.println s).toList = s.toList ++ ['\n'] := by
    rw [AttestCli.println, String.toList_append]
    rfl
  have hback : (s.toList ++ ['\n']).reverse.dropWhile isWhitespace = s.toList.reverse := by
    rw [List.reverse_append, List.reverse_singleton, List.singleton_append,
      List.dropWhile_cons_of_pos hnewline]
    exact dropWhile_isWhitespace fun c hc => h c (List.mem_reverse.mp hc)
  rw [trim, hline]
  cases hs : s.toList with
  | nil =>
    have hempty : s = "" := String.toList_inj.mp (hs.trans rfl)
    rw [hempty]
    decide
  | cons c cs =>
    rw [hs] at h hback
    have hfront : (c :: cs ++ ['\n']).dropWhile isWhitespace = c :: cs ++ ['\n'] := by
      simp [h c List.mem_cons_self]
    rw [hfront, hback, List.reverse_reverse, ← hs, String.ofList_toList]

theorem trim_println_hex (bs : List UInt8) : trim (AttestCli.println (Python.hex bs)) = Python.hex bs := by
  refine trim_println ?_
  rw [Python.hex, String.toList_ofList]
  exact isWhitespace_hexPairs bs

end RustStr

theorem Files.readToString_utf8 {files : Files} {path text : String}
    (h : files path = some text.toUTF8.toList) : files.readToString path = .ok text := by
  have hbytes : (⟨text.toUTF8.toList.toArray⟩ : ByteArray) = text.toUTF8 := by
    have htoList : text.toUTF8.toList = text.toUTF8.data.toList := by
      rw [ByteArray.toList, toList_loop_eq]
      rfl
    rw [htoList]
  have hread : files.read path = .ok text.toUTF8.toList := by rw [Files.read, h]; rfl
  have hvalid : text.toUTF8.IsValidUTF8 := text.isValidUTF8
  rw [Files.readToString, hread]
  change okOr (String.fromUTF8? ⟨text.toUTF8.toList.toArray⟩) _ = _
  rw [hbytes, String.fromUTF8?, dif_pos hvalid]
  rfl

namespace AttestCli

/-- What is documented of the crates. -/
structure Crates.Documented (sha256 : HashFn) {risc0 : Risc0} (crates : Crates risc0) : Prop where
  hex : crates.hex.Documented
  json : ∀ secret publicKey,
    let pres : PresenterFile := ⟨crates.hex.encode secret, crates.hex.encode publicKey⟩
    crates.fromStr (crates.toStringPretty pres.toValue) = .ok pres.toValue
  bincode : ∀ receipt bytes, crates.encodeToVec receipt = .ok bytes →
    ∃ consumed, crates.decodeFromSlice bytes = .ok (receipt, consumed)
  prover : crates.prover.ProvesRuns sha256

section

variable {sha256 : HashFn} {k256 : K256} {risc0 : Risc0} {crates : Crates risc0} {files files' : Files}
  {path : String}

/-- The key file of this key. -/
structure HoldsKey (crates : Crates risc0) (files : Files) (path : String) (key : crates.keys.SigningKey)
    (pk : Bytes 33) : Prop where
  loads : loadPresenter crates files path = .ok key
  «public» : PresenterKey.publicKey crates.keys.toSigner key = .ok pk

/-- A credential that verifies and carries this journal. -/
def HoldsCredential (crates : Crates risc0) (files : Files) (path : String) (j : PublicJournal) : Prop :=
  ∃ receipt, readCredential crates files path = .ok receipt ∧ verifyReceipt risc0 receipt = .ok j

theorem HoldsKey.congr (hfile : files' path = files path) {key : crates.keys.SigningKey} {pk : Bytes 33}
    (h : HoldsKey crates files path key pk) : HoldsKey crates files' path key pk := by
  refine ⟨?_, h.public⟩
  have hloads := h.loads
  rw [loadPresenter, Files.readToString, Files.read] at hloads ⊢
  rw [hfile]
  exact hloads

theorem HoldsCredential.congr (hfile : files' path = files path) {j : PublicJournal}
    (h : HoldsCredential crates files path j) : HoldsCredential crates files' path j := by
  obtain ⟨receipt, hread, hverify⟩ := h
  refine ⟨receipt, ?_, hverify⟩
  rw [readCredential, Files.read] at hread ⊢
  rw [hfile]
  exact hread

theorem loadPresenter_keyFile (hcrates : crates.Documented sha256) {secret : Bytes 32}
    {publicKey : List UInt8} (h : files path = some (crates.toStringPretty (PresenterFile.toValue
      ⟨crates.hex.encode secret.toList, crates.hex.encode publicKey⟩)).toUTF8.toList) :
    loadPresenter crates files path = crates.keys.fromBytes secret := by
  have htext := Files.readToString_utf8 h
  have hparse := hcrates.json secret.toList publicKey
  rw [loadPresenter, htext]
  change (crates.fromStr _ >>= _) = _
  rw [hparse]
  change (crates.hex.decode (crates.hex.encode secret.toList) >>= _) = _
  rw [hcrates.hex.decode_encode]
  change (okOr (array32 secret.toList) _ >>= _) = _
  rw [array32_toList]
  rfl

theorem keygenExit_ok (hcrates : crates.Documented sha256) {drawn : Bytes 32} {w : Write}
    (h : (keygenExit crates files drawn w path).result = .ok ()) :
    ∃ key pk, crates.keys.fromBytes drawn = .ok key ∧
      HoldsKey crates (keygenExit crates files drawn w path).files path key pk := by
  rw [keygenExit] at h ⊢
  cases hkeygen : keygen crates.hex crates.keys drawn with
  | error e =>
    rw [hkeygen] at h
    cases h
  | ok pres =>
    rw [hkeygen] at h
    simp only [keygen, bind_ok, mapError_ok] at hkeygen
    obtain ⟨key, hkey, pk, hpub, hpres⟩ := hkeygen
    obtain rfl := Except.ok.inj hpres
    have hfile := writing_ok h
    exact ⟨key, pk, hkey, (loadPresenter_keyFile hcrates hfile).trans hkey, hpub⟩

theorem checkedProof_ok {req : ProveRequest} {groth16 : Bool} {proof : Sdk.AttestationProof risc0}
    (h : checkedProof sha256 crates req groth16 = .ok proof) :
    ∃ kind, Sdk.proveWithKind sha256 crates.prover req kind = .ok proof := by
  rw [checkedProof, mapError_ok] at h
  cases groth16 with
  | false => exact ⟨.composite, mapError_ok.mp h⟩
  | true => exact ⟨.groth16, mapError_ok.mp h⟩

theorem proveExit_ok (hcrates : crates.Documented sha256) {w : Write} {elapsed : String} {cmd : Prove}
    {groth16 : Bool} (h : (proveExit sha256 crates files w elapsed cmd groth16).result = .ok ()) :
    ∃ pk j, presenterPublic crates files cmd.presenter = .ok pk ∧ prove sha256 pk cmd = .ok j ∧
      HoldsCredential crates (proveExit sha256 crates files w elapsed cmd groth16).files cmd.out j := by
  rw [proveExit] at h ⊢
  cases hpk : presenterPublic crates files cmd.presenter with
  | error e =>
    rw [hpk] at h
    cases h
  | ok pk =>
    rw [hpk] at h
    dsimp only at h ⊢
    cases hproof : checkedProof sha256 crates (proveRequest sha256 pk cmd) groth16 with
    | error e =>
      rw [hproof] at h
      cases h
    | ok proof =>
      rw [hproof] at h
      dsimp only at h ⊢
      cases hbytes : crates.encodeToVec proof.receipt with
      | error e =>
        rw [hbytes] at h
        cases h
      | ok bytes =>
        rw [hbytes] at h
        obtain ⟨kind, hkind⟩ := checkedProof_ok hproof
        obtain ⟨-, hbalance, hjournal, hverify⟩ := Sdk.proveWithKind_sound hcrates.prover hkind
        have hfile := writing_ok h
        have hprove := prove_eq_ok.mpr ⟨hbalance, hjournal⟩
        refine ⟨pk, proof.journal, rfl, hprove, proof.receipt, ?_, hverify⟩
        rw [readCredential, Files.read]
        dsimp only at hfile ⊢
        rw [hfile]
        obtain ⟨_, hdecode⟩ := hcrates.bincode _ _ hbytes
        exact bind_ok.mpr ⟨bytes, rfl, bind_ok.mpr ⟨_, hdecode, rfl⟩⟩

theorem proveExit_done {cmd : Prove} {groth16 : Bool} {pk : Bytes 33} {proof : Sdk.AttestationProof risc0}
    {bytes : List UInt8} (hpk : presenterPublic crates files cmd.presenter = .ok pk)
    (hproof : checkedProof sha256 crates (proveRequest sha256 pk cmd) groth16 = .ok proof)
    (hbytes : crates.encodeToVec proof.receipt = .ok bytes) (elapsed : String) :
    (proveExit sha256 crates files .done elapsed cmd groth16).result = .ok () := by
  rw [proveExit, hpk]
  dsimp only
  rw [hproof]
  dsimp only
  rw [hbytes]
  rfl

theorem parseNonce_ok (hhex : crates.hex.Documented) {nonce : Bytes 32} {text : String}
    (h : trim text = crates.hex.encode nonce.toList) : parseNonce crates text = .ok nonce := by
  rw [parseNonce, h, hhex.decode_encode]
  change okOr (array32 nonce.toList) _ = _
  rw [array32_toList]
  rfl

theorem decodeJournal_ok {receipt : risc0.Receipt} {j : PublicJournal}
    (h : verifyReceipt risc0 receipt = .ok j) : decodeJournal receipt = .ok j := by
  simp only [verifyReceipt, bind_ok, mapError_ok] at h
  obtain ⟨_, _, hdecode⟩ := h
  rw [decodeJournal, hdecode]
  rfl

theorem run_append (calls calls' : List Invocation) : run sha256 k256 crates files (calls ++ calls') =
    run sha256 k256 crates (run sha256 k256 crates files calls) calls' := List.foldl_append

theorem HoldsKey.run {calls : List Invocation} (hcalls : ∀ call ∈ calls, call.cmd.writes ≠ some path)
    {key : crates.keys.SigningKey} {pk : Bytes 33} (h : HoldsKey crates files path key pk) :
    HoldsKey crates (run sha256 k256 crates files calls) path key pk := h.congr (run_files hcalls)

theorem HoldsCredential.run {calls : List Invocation}
    (hcalls : ∀ call ∈ calls, call.cmd.writes ≠ some path)
    {j : PublicJournal} (h : HoldsCredential crates files path j) :
    HoldsCredential crates (run sha256 k256 crates files calls) path j := h.congr (run_files hcalls)

theorem HoldsKey.presenterPublic {key : crates.keys.SigningKey} {pk : Bytes 33}
    (h : HoldsKey crates files path key pk) : presenterPublic crates files path = .ok pk := by
  have hpublic := h.public
  rw [AttestCli.presenterPublic, h.loads]
  exact mapError_ok.mpr hpublic

/-- What a `keygen` leaves behind. -/
theorem exec_keygen (hcrates : crates.Documented sha256) {call : Invocation} (hcmd : call.cmd = .keygen path)
    (h : (exec sha256 k256 crates files call).result = .ok ()) :
    ∃ key pk, crates.keys.fromBytes call.drawn = .ok key ∧
      HoldsKey crates (exec sha256 k256 crates files call).files path key pk := by
  rw [exec, hcmd] at h ⊢
  exact keygenExit_ok hcrates h

/-- What a `prove` leaves behind, for the key it read. -/
theorem exec_prove (hcrates : crates.Documented sha256) {call : Invocation} {cmd : Prove} {groth16 : Bool}
    (hcmd : call.cmd = .prove cmd groth16) {key : crates.keys.SigningKey} {pk : Bytes 33}
    (hkey : HoldsKey crates files cmd.presenter key pk)
    (h : (exec sha256 k256 crates files call).result = .ok ()) :
    ∃ j, prove sha256 pk cmd = .ok j ∧
      HoldsCredential crates (exec sha256 k256 crates files call).files cmd.out j := by
  rw [exec, hcmd] at h ⊢
  obtain ⟨pk', j, hpk', hj, hholds⟩ := proveExit_ok hcrates h
  obtain rfl := Except.ok.inj (hkey.presenterPublic.symm.trans hpk')
  exact ⟨j, hj, hholds⟩

theorem HoldsCredential.readJournal {j : PublicJournal} (h : HoldsCredential crates files path j) :
    ∃ receipt, readCredential crates files path = .ok receipt ∧ verifyReceipt risc0 receipt = .ok j ∧
      decodeJournal receipt = .ok j := by
  obtain ⟨receipt, hread, hverify⟩ := h
  exact ⟨receipt, hread, hverify, decodeJournal_ok hverify⟩

end

/-- What becomes of a well-signed credential at a gate. -/
def verdict (sha256 : HashFn) {risc0 : Risc0} (crates : Crates risc0) (j : PublicJournal) (context : String)
    (threshold : U128) : Except String String :=
  if j.contextId ≠ contextIdFrom sha256 context then .error VerifyError.contextMismatch.display
  else if j.threshold < threshold then .error VerifyError.thresholdTooLow.display
  else .ok (verifiedLines crates j)

section Commands

variable {sha256 : HashFn} {k256 : K256} {risc0 : Risc0} {crates : Crates risc0} {files : Files}
  {keyPath credential : String} {key : crates.keys.SigningKey} {pk : Bytes 33} {j : PublicJournal}
  {nonce : Bytes 32}

theorem judge_signed (p : Presentation)
    (h : SignatureVerifies sha256 k256 p.nonce p.journal p.signatureDer) :
    p.judge sha256 k256 = if p.journal.contextId ≠ p.expectedContextId then .error .contextMismatch
      else if p.journal.threshold < p.minimumThreshold then .error .thresholdTooLow else .ok () := by
  have hsignature := (judgeSignature_eq_ok p).mpr h
  rw [Presentation.judge, hsignature]
  by_cases hcontext : p.journal.contextId ≠ p.expectedContextId
  · rw [rejectIf, if_pos hcontext, if_pos hcontext]
    rfl
  · rw [rejectIf, if_neg hcontext, if_neg hcontext, rejectIf]
    by_cases hfloor : p.journal.threshold < p.minimumThreshold
    · rw [if_pos hfloor]
      rfl
    · rw [if_neg hfloor]
      rfl

theorem verify_signed (hcredential : HoldsCredential crates files credential j) {signature : List UInt8}
    (hsignature : SignatureVerifies sha256 k256 nonce j signature) {drawn : Bytes 32}
    {nonceText signatureText presenter : Option String}
    (hresponse : ∀ receipt, verifyReceipt risc0 receipt = .ok j →
      challengeResponse sha256 crates files receipt drawn nonceText signatureText presenter =
        .ok (nonce, signature)) (context : String) (threshold : U128) :
    verify sha256 k256 crates files drawn credential context threshold nonceText signatureText presenter =
      verdict sha256 crates j context threshold := by
  obtain ⟨receipt, hread, hverify⟩ := hcredential
  let p : Presentation := ⟨j, nonce, signature, contextIdFrom sha256 context, threshold⟩
  have hverdict : verifyCredential sha256 k256 risc0 receipt nonce signature (contextIdFrom sha256 context)
      threshold = ((p.judge sha256 k256).mapError Fault.verifyError).map fun _ => j :=
    verifyCredential_eq p hverify
  rw [judge_signed p hsignature] at hverdict
  rw [verify, hread]
  change (challengeResponse sha256 crates files receipt drawn nonceText signatureText presenter >>= _) = _
  rw [hresponse receipt hverify]
  change ((verifyCredential sha256 k256 risc0 receipt nonce signature (contextIdFrom sha256 context)
    threshold).mapError VerifyError.display >>= _) = _
  rw [hverdict, verdict]
  dsimp only [p]
  split
  · rfl
  · split <;> rfl

section Signed

variable (hcrates : crates.Documented sha256) (hkey : HoldsKey crates files keyPath key pk)
  (hcredential : HoldsCredential crates files credential j) {nonceText : String}
  (hnonce : trim nonceText = crates.hex.encode nonce.toList)

include hcrates hkey hcredential

include hnonce in
theorem signChallenge_ok : signChallenge sha256 crates files credential keyPath nonceText =
    .ok (println (crates.hex.encode (PresenterKey.sign crates.keys.toSigner key sha256 nonce j))) := by
  obtain ⟨receipt, hread, -, hdecode⟩ := hcredential.readJournal
  have hparse := parseNonce_ok hcrates.hex hnonce
  simp only [signChallenge, bind_ok]
  exact ⟨key, hkey.loads, receipt, hread, j, hdecode, nonce, hparse, rfl⟩

include hnonce in
theorem gatedCheckArgs_ok (context : String) (threshold : U128) :
    gatedCheckArgs sha256 crates files credential keyPath context threshold nonceText =
      .ok (Presentation.args ⟨j, nonce, PresenterKey.sign crates.keys.toSigner key sha256 nonce j,
        contextIdFrom sha256 context, threshold⟩).flags := by
  obtain ⟨receipt, hread, -, hdecode⟩ := hcredential.readJournal
  have hparse := parseNonce_ok hcrates.hex hnonce
  have hlines : gatedCheckLines crates j nonce (PresenterKey.sign crates.keys.toSigner key sha256 nonce j)
      (contextIdFrom sha256 context) threshold = (Presentation.args ⟨j, nonce,
        PresenterKey.sign crates.keys.toSigner key sha256 nonce j, contextIdFrom sha256 context,
        threshold⟩).flags := by
    simp only [gatedCheckLines, GatedCheckArgs.flags, Presentation.args, hcrates.hex.encode_eq]
  rw [← hlines]
  simp only [gatedCheckArgs, bind_ok]
  exact ⟨key, hkey.loads, receipt, hread, j, hdecode, nonce, hparse, rfl⟩

variable (hpk : j.presenterPubkey = pk)
  (hsigns : Signs k256 crates.keys.toSigner key (presenterChallengeDigest sha256 nonce j).toList)

include hpk hsigns

omit hcrates hcredential in
theorem sign_verifies :
    SignatureVerifies sha256 k256 nonce j (PresenterKey.sign crates.keys.toSigner key sha256 nonce j) := by
  subst hpk
  exact hsigns.signatureVerifies hkey.public

include hnonce in
theorem verify_external (drawn : Bytes 32) (context : String) (threshold : U128)
    (presenter : Option String) :
    verify sha256 k256 crates files drawn credential context threshold (some nonceText)
        (some (println (crates.hex.encode (PresenterKey.sign crates.keys.toSigner key sha256 nonce j))))
        presenter = verdict sha256 crates j context threshold := by
  have hsignature := sign_verifies hkey hpk hsigns
  refine verify_signed hcredential hsignature ?_ context threshold
  intro receipt _
  have hparse := parseNonce_ok hcrates.hex hnonce
  generalize PresenterKey.sign crates.keys.toSigner key sha256 nonce j = signature
  have hdecode : crates.hex.decode (trim (println (crates.hex.encode signature))) = .ok signature := by
    rw [hcrates.hex.encode_eq, RustStr.trim_println_hex, ← hcrates.hex.encode_eq, hcrates.hex.decode_encode]
  rw [challengeResponse, hparse, hdecode]
  rfl

omit hcrates in
theorem verify_selfContained (context : String) (threshold : U128) :
    verify sha256 k256 crates files nonce credential context threshold none none (some keyPath) =
      verdict sha256 crates j context threshold := by
  have hsignature := sign_verifies hkey hpk hsigns
  refine verify_signed hcredential hsignature ?_ context threshold
  intro receipt hverify
  rw [challengeResponse, hkey.loads, hverify]
  rfl

end Signed

/-- The shallow gate accepts in the same cases. -/
theorem gatedCheck_verdict {signature : List UInt8}
    (hsignature : SignatureVerifies sha256 k256 nonce j signature) (context : String) (threshold : U128)
    (presenter : AccountWithMetadata) :
    (Shallow.gatedCheck sha256 k256 presenter (Presentation.args
      ⟨j, nonce, signature, contextIdFrom sha256 context, threshold⟩)).isOk =
        (verdict sha256 crates j context threshold).isOk := by
  let p : Presentation := ⟨j, nonce, signature, contextIdFrom sha256 context, threshold⟩
  have hgate : Shallow.gatedCheck sha256 k256 presenter p.args = _ := Shallow.gatedCheck_eq p presenter
  rw [judge_signed p hsignature] at hgate
  rw [hgate, verdict]
  dsimp only [p]
  split
  · rfl
  · split <;> rfl

end Commands

end AttestCli

open AttestCli in
/-- After a `keygen` and a `prove` that read its key, and while neither file is written
again, the credential carries what was asked for, its key signs for it, and `verify`
gives one verdict in both of its modes. The printed flags spell out one call, which the
shallow gate accepts in the same cases. -/
theorem credential_lifecycle {sha256 : HashFn} {k256 : K256} {risc0 : Risc0} {crates : Crates risc0}
    (hcrates : crates.Documented sha256) (files : Files) {pre mid post : List Invocation}
    {keygenCall proveCall : Invocation} {keyPath : String} {cmd : Prove} {groth16 : Bool}
    (hkeygen : keygenCall.cmd = .keygen keyPath) (hprove : proveCall.cmd = .prove cmd groth16)
    (hpresenter : cmd.presenter = keyPath)
    (hmade : (exec sha256 k256 crates (run sha256 k256 crates files pre) keygenCall).result = .ok ())
    (hproved : (exec sha256 k256 crates (run sha256 k256 crates files (pre ++ keygenCall :: mid))
      proveCall).result = .ok ())
    (hkey : ∀ call ∈ mid ++ proveCall :: post, call.cmd.writes ≠ some keyPath)
    (hcredential : ∀ call ∈ post, call.cmd.writes ≠ some cmd.out) :
    let disk := run sha256 k256 crates files (pre ++ keygenCall :: mid ++ proveCall :: post)
    ∃ key pk j, crates.keys.fromBytes keygenCall.drawn = .ok key ∧
      PresenterKey.publicKey crates.keys.toSigner key = .ok pk ∧ prove sha256 pk cmd = .ok j ∧
      HoldsCredential crates disk cmd.out j ∧
      ∀ nonce nonceText, trim nonceText = crates.hex.encode nonce.toList →
        Signs k256 crates.keys.toSigner key (presenterChallengeDigest sha256 nonce j).toList →
        let line := println (crates.hex.encode (PresenterKey.sign crates.keys.toSigner key sha256 nonce j))
        signChallenge sha256 crates disk cmd.out keyPath nonceText = .ok line ∧
          ∀ context threshold, let verdict := verdict sha256 crates j context threshold
            (∀ drawn presenter, verify sha256 k256 crates disk drawn cmd.out context threshold
              (some nonceText) (some line) presenter = verdict) ∧
            verify sha256 k256 crates disk nonce cmd.out context threshold none none (some keyPath) =
              verdict ∧
            ∃ args : GatedCheckArgs, (∀ args', gatedCheckArgs sha256 crates disk cmd.out keyPath context
                threshold nonceText = .ok (GatedCheckArgs.flags args') ↔ args' = args) ∧
              ∀ presenter, (Shallow.gatedCheck sha256 k256 presenter args).isOk = verdict.isOk := by
  intro disk
  obtain ⟨hmid, hpost⟩ := List.forall_mem_append.mp hkey
  obtain ⟨key, pk, hdrawn, hholds⟩ := exec_keygen hcrates hkeygen hmade
  have hthen : HoldsKey crates (run sha256 k256 crates files (pre ++ keygenCall :: mid)) keyPath key pk := by
    rw [run_append]
    exact hholds.run hmid
  subst hpresenter
  obtain ⟨j, hj, hcarries⟩ := exec_prove hcrates hprove hthen hproved
  have hdisk : disk = run sha256 k256 crates (run sha256 k256 crates files (pre ++ keygenCall :: mid))
      (proveCall :: post) := run_append _ _
  have hkeyNow : HoldsKey crates disk cmd.presenter key pk := by
    rw [hdisk]
    exact hthen.run hpost
  have hcredentialNow : HoldsCredential crates disk cmd.out j := by
    rw [hdisk]
    exact hcarries.run hcredential
  have hpk : j.presenterPubkey = pk := by
    obtain ⟨-, rfl⟩ := prove_eq_ok.mp hj
    rfl
  refine ⟨key, pk, j, hdrawn, hholds.public, hj, hcredentialNow, ?_⟩
  intro nonce nonceText hnonce hsigns line
  have hsignature := sign_verifies hkeyNow hpk hsigns
  refine ⟨signChallenge_ok hcrates hkeyNow hcredentialNow hnonce, ?_⟩
  intro context threshold
  have hflags := gatedCheckArgs_ok hcrates hkeyNow hcredentialNow hnonce context threshold
  refine ⟨fun drawn presenter => ?_, ?_, _, fun args' => ⟨fun h => ?_, fun h => ?_⟩,
    gatedCheck_verdict hsignature context threshold⟩
  · exact verify_external hcrates hkeyNow hcredentialNow hnonce hpk hsigns drawn context threshold presenter
  · exact verify_selfContained hkeyNow hcredentialNow hpk hsigns context threshold
  · exact GatedCheckArgs.flags_injective (Except.ok.inj (h.symm.trans hflags))
  · rw [h]
    exact hflags

namespace Scenario

open AttestCli

def govCommand : Prove where
  presenter := "presenter.key"
  balance := 1000000
  threshold := 100000
  context := "gov-v1"
  out := "credential.bin"

def govJournal : PublicJournal :=
  (Sdk.guestInputs Sha256.digest (proveRequest Sha256.digest pubkey govCommand)).2

def govDigest : Bytes 32 := beBytes 32 0x9445f44b7c4aff4804e1ae5fa3565d7e5da78b2b03d06bab7eda2a4aaaaf9c67

def govSignature : List UInt8 :=
  (beBytes 36 0x3045022100e63caba2655abdf3e2183fb4f1ee9c7e4dcf9d10e1a51cd39f6709c0).toList ++
    (beBytes 35 0x072ff110022038322d25ff18096c0b1ff56b555cf379b98aeb528c5df32968c4a7659ece7dfe).toList

def presenterKeys : K256.KeyPairs where
  SigningKey := Unit
  toEncodedPoint _ := pubkey.toList
  signDer _ message := if message = govDigest.toList then govSignature else []
  fromBytes bytes := if bytes = .replicate 32 7 then .ok () else .error "signature error"

/-- What stands between the quotes of a key file. -/
def quoted (pres : PresenterFile) : List String :=
  ["\x7b\n  ", "public_hex", ": ", pres.publicHex, ",\n  ", "secret_hex", ": ", pres.secretHex, "\n\x7d"]

def keyFileText (v : Value) : String :=
  "\"".intercalate (quoted ⟨(textAt v "secret_hex").getD "", (textAt v "public_hex").getD ""⟩)

def ofQuoted : List (List Char) → Except String Value
  | [_, _, _, publicHex, _, _, _, secretHex, _] =>
    .ok (PresenterFile.toValue ⟨String.ofList secretHex, String.ofList publicHex⟩)
  | _ => .error "expected value at line 1 column 1"

def keyFileOf (text : String) : Except String Value := ofQuoted (text.toList.splitOn '"')

def credentialBytes (j : PublicJournal) : Except String (List UInt8) :=
  if j = govJournal then .ok j.canonicalBytes else .error "unsupported"

def credentialOf (bytes : List UInt8) : Except String (PublicJournal × Nat) :=
  if bytes = govJournal.canonicalBytes then .ok (govJournal, bytes.length) else .error "unexpected end"

def attestCrates : Crates Risc0.ofJournals where
  hex := hexCrate
  keys := presenterKeys
  toStringPretty := keyFileText
  fromStr := keyFileOf
  ofU128 x :=
    if x.toNat < 2 ^ 64 then .ok (.number (.posInt x.toNat.toUInt64)) else .error "number out of range"
  encodeToVec := credentialBytes
  decodeFromSlice := credentialOf
  prover := ⟨fun _ w stub => (Attestation.main Sha256.digest w stub).mapError Panic.message⟩
  toLowercase := String.toLower

theorem quote_notMem_hex (bs : List UInt8) : '"' ∉ (Python.hex bs).toList := by
  intro h
  have hquote : ∀ d < 16, '"' ≠ Nat.digitChar d := by decide
  rw [Python.hex, String.toList_ofList] at h
  obtain ⟨b, _, hb⟩ := List.mem_flatMap.mp h
  have hlt := b.toNat_lt
  simp only [Python.hexPair, List.mem_cons, List.not_mem_nil, or_false] at hb
  rcases hb with hb | hb
  · exact hquote _ (by omega) hb
  · exact hquote _ (by omega) hb

theorem splitOn_keyFileText {pres : PresenterFile} (hsecret : '"' ∉ pres.secretHex.toList)
    (hpublic : '"' ∉ pres.publicHex.toList) :
    (keyFileText pres.toValue).toList.splitOn '"' = (quoted pres).map String.toList := by
  have htext : keyFileText pres.toValue = "\"".intercalate (quoted pres) := by
    simp [keyFileText, textAt, PresenterFile.toValue, Value.ofMembers, Value.asObject, Value.asStr]
  rw [htext, String.toList_intercalate]
  refine List.splitOn_intercalate _ ?_ (by simp [quoted])
  intro part hpart
  rw [quoted] at hpart
  simp only [List.map_cons, List.map_nil, List.mem_cons, List.not_mem_nil, or_false] at hpart
  rcases hpart with rfl | rfl | rfl | rfl | rfl | rfl | rfl | rfl | rfl
  · decide
  · decide
  · decide
  · exact hpublic
  · decide
  · decide
  · decide
  · exact hsecret
  · decide

theorem keyFileOf_text {pres : PresenterFile} (hsecret : '"' ∉ pres.secretHex.toList)
    (hpublic : '"' ∉ pres.publicHex.toList) :
    keyFileOf (keyFileText pres.toValue) = .ok pres.toValue := by
  rw [keyFileOf, splitOn_keyFileText hsecret hpublic, quoted]
  simp only [List.map_cons, List.map_nil, ofQuoted, String.ofList_toList]

theorem credentialOf_bytes {j : PublicJournal} {bytes : List UInt8} (h : credentialBytes j = .ok bytes) :
    credentialOf bytes = .ok (j, bytes.length) := by
  rw [credentialBytes] at h
  split at h
  · next hj =>
    obtain rfl := Except.ok.inj h
    rw [credentialOf, hj, if_pos rfl]
  · cases h

theorem attestCrates_documented : attestCrates.Documented Sha256.digest where
  hex := hexCrate_documented
  json secret publicKey := by
    have hread : attestCrates.fromStr = keyFileOf := rfl
    have hprint : attestCrates.toStringPretty = keyFileText := rfl
    intro pres
    rw [hread, hprint]
    exact keyFileOf_text (quote_notMem_hex secret) (quote_notMem_hex publicKey)
  bincode _ _ h := ⟨_, credentialOf_bytes h⟩
  prover _ _ _ receipt h := ⟨receipt, mapError_ok.mp h, rfl, rfl⟩

theorem prove_gov : prove Sha256.digest pubkey govCommand = .ok govJournal :=
  prove_eq_ok.mpr ⟨by decide, rfl⟩

theorem govDigest_eq :
    VerifierOffchain.presenterChallengeDigest Sha256.digest nonce govJournal = govDigest := by
  decide +kernel

def govK256 : K256 := K256.ofTable [(pubkey.toList, govDigest.toList, govSignature)]

theorem govSigns : Signs govK256 presenterKeys.toSigner () govDigest.toList := by
  obtain ⟨hkey, hder, hverify⟩ := K256.ofTable_singleton pubkey.toList govDigest.toList govSignature
  have hsign : presenterKeys.signDer () govDigest.toList = govSignature := by simp [presenterKeys]
  refine ⟨pubkey.toList, govSignature, hkey, ?_, (hverify _).mpr rfl⟩
  rw [hsign]
  exact hder

def keygenCall : Invocation := ⟨.keygen "presenter.key", .replicate 32 7, .done, "0ns"⟩

def challengeCall : Invocation := ⟨.challenge, .replicate 32 9, .done, "0ns"⟩

def govCall : Invocation := ⟨.prove govCommand false, .replicate 32 0, .done, "2.1s"⟩

def journalCall : Invocation := ⟨.journal "credential.bin", .replicate 32 0, .done, "0ns"⟩

theorem fromBytes_seven : presenterKeys.fromBytes (.replicate 32 7) = .ok () := by simp [presenterKeys]

theorem publicKey_gov : PresenterKey.publicKey presenterKeys.toSigner () = .ok pubkey :=
  PresenterKey.publicKey_eq_ok.mpr rfl

theorem checkedProof_done {pk : Bytes 33} {cmd : Prove} {j : PublicJournal}
    (hj : prove Sha256.digest pk cmd = .ok j) :
    checkedProof Sha256.digest attestCrates (proveRequest Sha256.digest pk cmd) false = .ok ⟨j, j⟩ := by
  have hopts : attestCrates.prover.proveWithOpts .composite
      (Sdk.guestInputs Sha256.digest (proveRequest Sha256.digest pk cmd)).1
      (Sdk.guestInputs Sha256.digest (proveRequest Sha256.digest pk cmd)).2 =
        (prove Sha256.digest pk cmd).mapError Panic.message := rfl
  rw [hj] at hopts
  have hkind : Sdk.proveWithKind Sha256.digest attestCrates.prover (proveRequest Sha256.digest pk cmd)
      .composite = .ok ⟨j, j⟩ := Sdk.proveWithKind_eq_ok.mpr ⟨hopts, rfl⟩
  rw [checkedProof, if_neg Bool.false_ne_true, Sdk.proveChecked, hkind]
  rfl

theorem credentialBytes_gov : credentialBytes govJournal = .ok govJournal.canonicalBytes := by
  rw [credentialBytes, if_pos rfl]

theorem keygenCall_ok (files : Files) :
    (exec Sha256.digest govK256 attestCrates files keygenCall).result = .ok () := by
  have hkeygen : keygen attestCrates.hex attestCrates.keys (.replicate 32 7) = .ok _ :=
    keygen_eq_ok fromBytes_seven publicKey_gov
  change (keygenExit attestCrates files (.replicate 32 7) .done "presenter.key").result = _
  rw [keygenExit, hkeygen]
  rfl

theorem encodeToVec_gov : attestCrates.encodeToVec govJournal = .ok govJournal.canonicalBytes := by
  have hencode : attestCrates.encodeToVec = credentialBytes := rfl
  rw [hencode, credentialBytes_gov]

theorem govCall_ok {files : Files} (h : HoldsKey attestCrates files govCommand.presenter () pubkey) :
    (exec Sha256.digest govK256 attestCrates files govCall).result = .ok () := by
  have hexec : exec Sha256.digest govK256 attestCrates files govCall =
      proveExit Sha256.digest attestCrates files .done "2.1s" govCommand false := rfl
  rw [hexec]
  exact proveExit_done h.presenterPublic (checkedProof_done prove_gov) encodeToVec_gov "2.1s"

end Scenario

open AttestCli Scenario in
theorem credential_lifecycle_gov :
    let disk := run Sha256.digest govK256 attestCrates (fun _ => none)
      [keygenCall, challengeCall, govCall, journalCall]
    let line := println (Python.hex govSignature)
    HoldsCredential attestCrates disk "credential.bin" govJournal ∧
      signChallenge Sha256.digest attestCrates disk "credential.bin" "presenter.key"
        (println (Python.hex nonce.toList)) = .ok line ∧
      verify Sha256.digest govK256 attestCrates disk (.replicate 32 0) "credential.bin" "gov-v1" 50000
        (some (println (Python.hex nonce.toList))) (some line) none =
          .ok (verifiedLines attestCrates govJournal) := by
  intro disk line
  have hmade := keygenCall_ok (fun _ => none)
  have hkeygen : keygenCall.cmd = .keygen "presenter.key" := rfl
  have hprove : govCall.cmd = .prove govCommand false := rfl
  obtain ⟨_, pk, -, hholds⟩ := exec_keygen attestCrates_documented hkeygen hmade
  obtain rfl := Except.ok.inj (hholds.public.symm.trans publicKey_gov)
  have hthen : HoldsKey attestCrates (run Sha256.digest govK256 attestCrates (fun _ => none)
      ([] ++ keygenCall :: [challengeCall])) govCommand.presenter () pubkey := hholds
  obtain ⟨⟨⟩, pk, j, -, hpk, hj, hcredential, hlife⟩ :=
    @credential_lifecycle Sha256.digest govK256 _ attestCrates attestCrates_documented (fun _ => none) []
      [challengeCall] [journalCall] keygenCall govCall _ _ _ hkeygen hprove rfl hmade (govCall_ok hthen)
      (by decide) (by decide)
  obtain rfl := Except.ok.inj (publicKey_gov.symm.trans hpk)
  obtain rfl := Except.ok.inj (prove_gov.symm.trans hj)
  have hnonce : RustStr.trim (println (Python.hex nonce.toList)) = hexCrate.encode nonce.toList :=
    RustStr.trim_println_hex _
  have hsigns := govSigns
  rw [← govDigest_eq] at hsigns
  have hsigned : PresenterKey.sign attestCrates.keys.toSigner () Sha256.digest nonce govJournal =
      govSignature := by
    change (if (presenterChallengeDigest Sha256.digest nonce govJournal).toList = govDigest.toList then
      govSignature else []) = govSignature
    rw [govDigest_eq, if_pos rfl]
  obtain ⟨hline, hverdicts⟩ := hlife nonce _ hnonce hsigns
  rw [hsigned] at hline hverdicts
  obtain ⟨hverify, -⟩ := hverdicts "gov-v1" 50000
  have hverdict : verdict Sha256.digest attestCrates govJournal "gov-v1" 50000 =
      .ok (verifiedLines attestCrates govJournal) := by
    obtain ⟨hstatement, hthreshold⟩ := prove_statement prove_gov
    have hcontext : govJournal.contextId = contextIdFrom Sha256.digest "gov-v1" := hstatement
    have hfloor : ¬ govJournal.threshold < 50000 := by
      rw [hthreshold]
      decide
    rw [verdict, if_neg (not_not.mpr hcontext), if_neg hfloor]
  exact ⟨hcredential, hline, (hverify (.replicate 32 0) none).trans hverdict⟩

end BalanceAttestation
