import BalanceAttestation.HostVerifiers

/-! The byte strings hashed by the seven derivations. The widths differ from
one derivation to the next, and within one every field has a fixed width, so
equal strings come from the same derivation with the same arguments. -/

namespace BalanceAttestation

open ByteLayout VerifierOffchain

theorem prefixFree_u128 : PrefixFree U128.toLeBytes := prefixFree_leBytes 16 (by decide)

theorem prefixFree_words : PrefixFree wordsToLeBytes := prefixFree_word.flatMap 8

@[simp] theorem U128.toLeBytes_length (x : U128) : x.toLeBytes.length = 16 := leBytes_length _ _

@[simp] theorem wordsToLeBytes_length (words : ProgramId) : (wordsToLeBytes words).length = 32 := by
  simp [wordsToLeBytes, List.length_flatMap]

theorem accountIdBytes_length (npk : Bytes 32) (identifier : U128) :
    (accountIdBytes npk identifier).length = 80 := by simp [accountIdBytes]

theorem commitmentBytes_length (accountId : Bytes 32) (owner : ProgramId) (balance nonce : U128)
    (dataHash : Bytes 32) :
    (commitmentBytes accountId owner balance nonce dataHash).length = 160 := by
  simp [commitmentBytes]

theorem nullifierBytes_length (pk : Bytes 33) (ctx accountId : Bytes 32) :
    (nullifierBytes pk ctx accountId).length = 129 := by simp [nullifierBytes]

theorem gateTagBytes_length (n : Bytes 32) (floor : U128) (ctx : Bytes 32) :
    (gateTagBytes n floor ctx).length = 112 := by simp [gateTagBytes]

theorem presenterChallengeBytes_length (nonce : Bytes 32) (j : PublicJournal) :
    (presenterChallengeBytes nonce j).length = 210 := by
  have htag : (ascii "/lp-0005/v0.1/PresenterChallenge/").length = 33 := by decide +kernel
  simp [presenterChallengeBytes, htag]

theorem accountIdBytes_inj {npk npk' : Bytes 32} {identifier identifier' : U128}
    (h : accountIdBytes npk identifier = accountIdBytes npk' identifier') :
    npk = npk' ∧ identifier = identifier' := by
  simp only [accountIdBytes, List.append_assoc, List.append_cancel_left_eq] at h
  obtain ⟨hn, h⟩ := prefixFree_bytes 32 h
  exact ⟨hn, prefixFree_u128.injective h⟩

theorem commitmentBytes_inj {a a' : Bytes 32} {o o' : ProgramId} {b b' n n' : U128}
    {d d' : Bytes 32} (h : commitmentBytes a o b n d = commitmentBytes a' o' b' n' d') :
    a = a' ∧ o = o' ∧ b = b' ∧ n = n' ∧ d = d' := by
  simp only [commitmentBytes, List.append_assoc, List.append_cancel_left_eq] at h
  obtain ⟨ha, h⟩ := prefixFree_bytes 32 h
  obtain ⟨ho, h⟩ := prefixFree_words h
  obtain ⟨hb, h⟩ := prefixFree_u128 h
  obtain ⟨hn, h⟩ := prefixFree_u128 h
  exact ⟨ha, ho, hb, hn, (prefixFree_bytes 32).injective h⟩

theorem nullifierBytes_inj {pk pk' : Bytes 33} {ctx ctx' a a' : Bytes 32}
    (h : nullifierBytes pk ctx a = nullifierBytes pk' ctx' a') :
    pk = pk' ∧ ctx = ctx' ∧ a = a' := by
  simp only [nullifierBytes, List.append_assoc, List.append_cancel_left_eq] at h
  obtain ⟨hp, h⟩ := prefixFree_bytes 33 h
  obtain ⟨hc, h⟩ := prefixFree_bytes 32 h
  exact ⟨hp, hc, (prefixFree_bytes 32).injective h⟩

theorem gateTagBytes_inj {n n' : Bytes 32} {floor floor' : U128} {ctx ctx' : Bytes 32}
    (h : gateTagBytes n floor ctx = gateTagBytes n' floor' ctx') :
    n = n' ∧ floor = floor' ∧ ctx = ctx' := by
  simp only [gateTagBytes, List.append_assoc, List.append_cancel_left_eq] at h
  obtain ⟨hn, h⟩ := prefixFree_bytes 32 h
  obtain ⟨hf, h⟩ := prefixFree_u128 h
  exact ⟨hn, hf, (prefixFree_bytes 32).injective h⟩

theorem presenterChallengeBytes_inj {nonce nonce' : Bytes 32} {j j' : PublicJournal}
    (h : presenterChallengeBytes nonce j = presenterChallengeBytes nonce' j') :
    nonce = nonce' ∧ j = j' := by
  obtain ⟨root, threshold, ctx, pk, n⟩ := j
  obtain ⟨root', threshold', ctx', pk', n'⟩ := j'
  simp only [presenterChallengeBytes, List.append_assoc, List.append_cancel_left_eq] at h
  obtain ⟨hnonce, h⟩ := prefixFree_bytes 32 h
  obtain ⟨hroot, h⟩ := prefixFree_bytes 32 h
  obtain ⟨ht, h⟩ := prefixFree_u128 h
  obtain ⟨hctx, h⟩ := prefixFree_bytes 32 h
  obtain ⟨hpk, h⟩ := prefixFree_bytes 33 h
  have hn := (prefixFree_bytes 32).injective h
  exact ⟨hnonce, by simp only [hroot, ht, hctx, hpk, hn]⟩

theorem pairBytes_inj {l l' r r' : Bytes 32} (h : l.toList ++ r.toList = l'.toList ++ r'.toList) :
    l = l' ∧ r = r' := by
  obtain ⟨hl, h⟩ := prefixFree_bytes 32 h
  exact ⟨hl, (prefixFree_bytes 32).injective h⟩

inductive Derivation
  | accountId (npk : Bytes 32) (identifier : U128)
  | commitment (accountId : Bytes 32) (programOwner : ProgramId) (balance nonce : U128)
      (dataHash : Bytes 32)
  | leafHash (commitment : Bytes 32)
  | foldStep (left right : Bytes 32)
  | nullifier (presenterPubkey : Bytes 33) (contextId accountId : Bytes 32)
  | gateTag (nullifier : Bytes 32) (minimumThreshold : U128) (expectedContextId : Bytes 32)
  | challenge (nonce : Bytes 32) (journal : PublicJournal)

def Derivation.bytes : Derivation → List UInt8
  | accountId npk identifier => accountIdBytes npk identifier
  | commitment a o b n d => commitmentBytes a o b n d
  | leafHash c => c.toList
  | foldStep left right => left.toList ++ right.toList
  | nullifier pk ctx a => nullifierBytes pk ctx a
  | gateTag n floor ctx => gateTagBytes n floor ctx
  | challenge nonce j => presenterChallengeBytes nonce j

def Derivation.width : Derivation → Nat
  | accountId .. => 80
  | commitment .. => 160
  | leafHash .. => 32
  | foldStep .. => 64
  | nullifier .. => 129
  | gateTag .. => 112
  | challenge .. => 210

theorem Derivation.bytes_length (d : Derivation) : d.bytes.length = d.width := by
  cases d with
  | accountId npk i => exact accountIdBytes_length npk i
  | commitment a o b n d => exact commitmentBytes_length a o b n d
  | leafHash c => exact c.toList_length
  | foldStep l r => simp [bytes, width]
  | nullifier pk c a => exact nullifierBytes_length pk c a
  | gateTag n f c => exact gateTagBytes_length n f c
  | challenge n j => exact presenterChallengeBytes_length n j

theorem Derivation.bytes_injective : Function.Injective Derivation.bytes := by
  intro d d' h
  have hw : d.width = d'.width := by rw [← bytes_length, ← bytes_length, h]
  -- The forty-two mixed pairs fall to the widths.
  cases d <;> cases d' <;> try (simp [width] at hw; done)
  case accountId.accountId npk i npk' i' =>
    obtain ⟨rfl, rfl⟩ := accountIdBytes_inj h
    rfl
  case commitment.commitment a o b n d a' o' b' n' d' =>
    obtain ⟨rfl, rfl, rfl, rfl, rfl⟩ := commitmentBytes_inj h
    rfl
  case leafHash.leafHash c c' => rw [(prefixFree_bytes 32).injective h]
  case foldStep.foldStep l r l' r' =>
    obtain ⟨rfl, rfl⟩ := pairBytes_inj h
    rfl
  case nullifier.nullifier pk c a pk' c' a' =>
    obtain ⟨rfl, rfl, rfl⟩ := nullifierBytes_inj h
    rfl
  case gateTag.gateTag n f c n' f' c' =>
    obtain ⟨rfl, rfl, rfl⟩ := gateTagBytes_inj h
    rfl
  case challenge.challenge n j n' j' =>
    obtain ⟨rfl, rfl⟩ := presenterChallengeBytes_inj h
    rfl

/-- What the source computes for a derivation; a fold step is one sibling at an
even index. -/
def Derivation.digest (sha256 : HashFn) : Derivation → Bytes 32
  | accountId npk identifier => deriveAccountId sha256 npk identifier
  | commitment a o b n d => computeCommitment sha256 a o b n d
  | leafHash c => sha256 c.toList
  | foldStep left right => foldMerklePath sha256 left 0 [right]
  | nullifier pk ctx a => computeNullifier sha256 pk ctx a
  | gateTag n floor ctx => computeGateTag sha256 n floor ctx
  | challenge nonce j => presenterChallengeDigest sha256 nonce j

theorem Derivation.digest_eq (sha256 : HashFn) (d : Derivation) :
    d.digest sha256 = sha256 d.bytes := by
  cases d <;> rfl

theorem Derivation.eq_or_collide {sha256 : HashFn} {d d' : Derivation}
    (h : d.digest sha256 = d'.digest sha256) : d = d' ∨ Collision sha256 d.bytes d'.bytes := by
  rw [digest_eq, digest_eq] at h
  exact (eq_or_collision h).imp_left fun hh => bytes_injective hh

theorem foldMerklePath_cons (sha256 : HashFn) (node : Bytes 32) (idx : UInt64) (sib : Bytes 32)
    (siblings : List (Bytes 32)) :
    foldMerklePath sha256 node idx (sib :: siblings) = foldMerklePath sha256
      ((if idx &&& 1 = 0 then Derivation.foldStep node sib else .foldStep sib node).digest sha256)
      (idx >>> 1) siblings := by
  rw [foldMerklePath]
  split <;> rfl

/-- Equal preimages come from one derivation with one list of arguments; so,
short of a collision between the two strings shown, digests separate the
derivations and each of their fields. -/
theorem derivations_separated (sha256 : HashFn) :
    (∀ d d' : Derivation, d.bytes = d'.bytes → d = d') ∧
    (∀ d : Derivation, d.digest sha256 = sha256 d.bytes) ∧
    (∀ node idx sib, foldMerklePath sha256 node idx [sib] =
      (if idx &&& 1 = 0 then Derivation.foldStep node sib else .foldStep sib node).digest sha256) ∧
    (∀ n floor ctx pk ctx' a,
      computeGateTag sha256 n floor ctx ≠ computeNullifier sha256 pk ctx' a ∨
        Collision sha256 (gateTagBytes n floor ctx) (nullifierBytes pk ctx' a)) ∧
    (∀ nonce j nonce' j', (nonce, j) ≠ (nonce', j') →
      presenterChallengeDigest sha256 nonce j ≠ presenterChallengeDigest sha256 nonce' j' ∨
        Collision sha256 (presenterChallengeBytes nonce j) (presenterChallengeBytes nonce' j')) ∧
    (∀ n floor ctx, computeGateTag sha256 n floor ctx ≠ computeGateTag sha256 n (floor + 1) ctx ∨
      Collision sha256 (gateTagBytes n floor ctx) (gateTagBytes n (floor + 1) ctx)) ∧
    (∀ a o b n d a' o' b' n' d',
      computeCommitment sha256 a o b n d = computeCommitment sha256 a' o' b' n' d' →
        (a = a' ∧ o = o' ∧ b = b' ∧ n = n' ∧ d = d') ∨
        Collision sha256 (commitmentBytes a o b n d) (commitmentBytes a' o' b' n' d')) := by
  -- Different derivations: either the digests differ or the strings collide.
  have hsep (d d' : Derivation) (hne : d ≠ d') :
      d.digest sha256 ≠ d'.digest sha256 ∨ Collision sha256 d.bytes d'.bytes := by
    by_cases h : d.digest sha256 = d'.digest sha256
    · exact .inr ((Derivation.eq_or_collide h).resolve_left hne)
    · exact .inl h
  refine ⟨fun _ _ h => Derivation.bytes_injective h, Derivation.digest_eq sha256,
    fun node idx sib => foldMerklePath_cons sha256 node idx sib [], ?_, ?_, ?_, ?_⟩
  · intro n floor ctx pk ctx' a
    exact hsep (.gateTag n floor ctx) (.nullifier pk ctx' a) (by simp)
  · intro nonce j nonce' j' hne
    exact hsep (.challenge nonce j) (.challenge nonce' j') (by simpa using hne)
  · intro n floor ctx
    have hfloor : floor ≠ floor + 1 := by bv_omega
    exact hsep (.gateTag n floor ctx) (.gateTag n (floor + 1) ctx)
      (fun h => hfloor (Derivation.gateTag.inj h).2.1)
  · intro a o b n d a' o' b' n' d' h
    have hh : Derivation.commitment a o b n d = .commitment a' o' b' n' d' ∨ Collision sha256 _ _ :=
      Derivation.eq_or_collide h
    exact hh.imp_left Derivation.commitment.inj

end BalanceAttestation
