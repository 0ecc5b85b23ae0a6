import BalanceAttestation.DeployedGuest
import BalanceAttestation.PythonBytes

/-! The parts of the `attest` tool other tools meet: the context a label names,
the key file it writes, and the digest it signs. -/

namespace BalanceAttestation

open ByteLayout Checks

/-- What the tool calls of `hex`, errors as texts. -/
structure HexCrate where
  encode : List UInt8 → String
  decode : String → Except String (List UInt8)

/-- Lowercase digits out, and what was encoded back in. -/
structure HexCrate.Documented (hex : HexCrate) : Prop where
  encode_eq : ∀ bs, hex.encode bs = Python.hex bs
  decode_encode : ∀ bs, hex.decode (hex.encode bs) = .ok bs

structure K256.KeyPairs extends K256.Signer where
  fromBytes : Bytes 32 → Except String SigningKey

namespace AttestCli

def contextBytes (s : String) : List UInt8 := ascii "/lp-0005/v0.1/context/" ++ s.toUTF8.toList

def contextIdFrom (sha256 : HashFn) (s : String) : Bytes 32 := sha256 (contextBytes s)

structure PresenterFile where
  secretHex : String
  publicHex : String

variable (hex : HexCrate) (keys : K256.KeyPairs)

/-- `attest keygen`, for the seed it drew. -/
def keygen (bytes : Bytes 32) : Except String PresenterFile := do
  let key ← keys.fromBytes bytes
  let publicKey ← (PresenterKey.publicKey keys.toSigner key).mapError Panic.message
  return ⟨hex.encode bytes.toList, hex.encode publicKey.toList⟩

def trimStart0x : List Char → List Char
  | '0' :: 'x' :: rest => trimStart0x rest
  | cs => cs

def array32 (bytes : List UInt8) : Option (Bytes 32) :=
  if h : bytes.length = 32 then some ⟨bytes, h⟩ else none

/-- `attest sign-digest`: the line it prints. -/
def signDigest (secret digest : String) : Except String String := do
  let sk ← hex.decode (String.ofList (trimStart0x secret.toList))
  let sk ← okOr (array32 sk) "secret must be 32 bytes"
  let d ← hex.decode (String.ofList (trimStart0x digest.toList))
  let d ← okOr (array32 d) "digest must be 32 bytes"
  let pk ← keys.fromBytes sk
  return hex.encode (PresenterKey.signDigest keys.toSigner pk d) ++ "\n"

theorem array32_toList (bytes : Bytes 32) : array32 bytes.toList = some bytes :=
  ofSlice_eq_some.mpr rfl

theorem trimStart0x_hexPairs (bs : List UInt8) :
    trimStart0x (bs.flatMap Python.hexPair) = bs.flatMap Python.hexPair := by
  cases bs with
  | nil => rfl
  | cons b bs =>
    have hb := b.toNat_lt
    have hlow : b.toNat % 16 < 16 := Nat.mod_lt _ (by omega)
    have hx : ∀ d < 16, Nat.digitChar d ≠ 'x' := by decide
    rw [List.flatMap_cons, Python.hexPair, List.cons_append, List.cons_append]
    generalize Nat.digitChar (b.toNat / 16) = high
    unfold trimStart0x
    split
    · next h => exact absurd (List.cons.inj (List.cons.inj h).2).1 (hx _ hlow)
    · rfl

variable {hex keys} {secret : Bytes 32} {key : keys.SigningKey} {pk : Bytes 33}

theorem decode_trimmed (hhex : hex.Documented) (bs : List UInt8) :
    hex.decode (String.ofList (trimStart0x (Python.hex bs).toList)) = .ok bs := by
  have hdecode := hhex.decode_encode bs
  rw [hhex.encode_eq] at hdecode
  rw [Python.hex, String.toList_ofList, trimStart0x_hexPairs]
  exact hdecode

theorem keygen_eq_ok (hkey : keys.fromBytes secret = .ok key)
    (hpub : PresenterKey.publicKey keys.toSigner key = .ok pk) :
    keygen hex keys secret = .ok ⟨hex.encode secret.toList, hex.encode pk.toList⟩ := by
  simp only [keygen, bind_ok, mapError_ok]
  exact ⟨key, hkey, pk, hpub, rfl⟩

theorem signDigest_eq_ok (hhex : hex.Documented) (hkey : keys.fromBytes secret = .ok key)
    (digest : Bytes 32) :
    signDigest hex keys (hex.encode secret.toList) (Python.hex digest.toList) =
      .ok (Python.hex (PresenterKey.signDigest keys.toSigner key digest) ++ "\n") := by
  have hsecret := decode_trimmed hhex secret.toList
  rw [← hhex.encode_eq] at hsecret
  rw [← hhex.encode_eq (PresenterKey.signDigest _ _ _)]
  simp only [signDigest, bind_ok, okOr_ok]
  exact ⟨_, hsecret, _, array32_toList _, _, decode_trimmed hhex _, _, array32_toList _, _, hkey, rfl⟩

end AttestCli

end BalanceAttestation
