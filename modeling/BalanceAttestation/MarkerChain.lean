import Mathlib.Logic.Equiv.Basic
import BalanceAttestation.ClaimOnce
import BalanceAttestation.DeepGate
import BalanceAttestation.Preimages

/-! The chain as the set of claimed marker accounts. A transaction runs the deep
gate and the attestation it chains to; the framework requires its marker to be
the account `pda` derives from `gate_tag`, and unclaimed. -/

namespace BalanceAttestation

open ClaimOnce Checks

structure GateCall where
  gateMarker : AccountWithMetadata
  presenter : AccountWithMetadata
  args : DeepGatedCheckArgs

section

variable (sha256 : HashFn) (k256 : K256) (fromSlice : List UInt32 → Option PrivateInputs)

/-- The attestation program runs on the declared call. The caller's id and the
instruction words are only passed on to its output. -/
def ChainedCall.returns (call : ChainedCall AttestInstruction) : Bool :=
  (AttestationLez.main sha256 ⟨call.programId, none, call.preStates, call.instruction⟩ []).isOk

def GateCall.accepted (pda : Bytes 32 → Bytes 32) (c : GateCall) : Bool :=
  match Deep.gatedCheck sha256 k256 fromSlice c.gateMarker c.presenter c.args with
  | .error _ => false
  | .ok out => c.gateMarker.accountId = pda c.args.gateTag ∧
      out.chained.all (ChainedCall.returns sha256)

def GateCall.marker (pda : Bytes 32 → Bytes 32) (c : GateCall) : Option (Bytes 32) :=
  if c.accepted sha256 k256 fromSlice pda then some c.gateMarker.accountId else none

/-- The call enforced the floor and the context on an account it names and whose
key it heard from, and its attestation returned the nullifier. -/
structure GateCall.Backs (c : GateCall) (n : Bytes 32) (floor : U128) (ctx : Bytes 32)
    (pk : Bytes 33) (w : PrivateInputs) : Prop where
  enforcedFloor : c.args.minimumThreshold = floor
  enforcedContext : c.args.expectedContextId = ctx
  witness : fromSlice c.args.witnessWords = some w
  owner : c.presenter.account.programOwner = AUTHENTICATED_TRANSFER_PROGRAM_ID
  account : c.presenter.accountId = deriveAccountId sha256 w.npk w.identifier
  balance : floor ≤ c.presenter.account.balance
  signature : SignatureVerifies sha256 k256 c.args.presenterNonce
    ⟨c.args.merkleRoot, c.args.threshold, ctx, pk, n⟩ c.args.presenterSignatureDer
  nullifier : n = computeNullifier sha256 pk ctx c.presenter.accountId
  attested : attest sha256 w ⟨c.args.merkleRoot, c.args.threshold, ctx, pk⟩ = .ok n

end

section Runs

variable {sha256 : HashFn} {k256 : K256} {fromSlice : List UInt32 → Option PrivateInputs}
  {pda : Bytes 32 → Bytes 32} {c : GateCall}

theorem ChainedCall.returns_iff {call : ChainedCall AttestInstruction} :
    call.returns sha256 = true ↔ ∃ n,
      attest sha256 call.instruction.witness call.instruction.statement = .ok n ∧ n ≠ zeroBytes := by
  rw [ChainedCall.returns, isOk_iff]
  exact AttestationLez.exists_main_eq_ok

theorem GateCall.accepted_iff {out : SpelOutput AccountWithMetadata AttestInstruction}
    (hout : Deep.gatedCheck sha256 k256 fromSlice c.gateMarker c.presenter c.args = .ok out) :
    c.accepted sha256 k256 fromSlice pda = true ↔
      c.gateMarker.accountId = pda c.args.gateTag ∧
        ∀ call ∈ out.chained, call.returns sha256 = true := by
  rw [GateCall.accepted, hout, ← List.all_eq_true]
  exact decide_eq_true_iff

theorem GateCall.backs_of_accepted (h : c.accepted sha256 k256 fromSlice pda = true) :
    c.gateMarker.accountId = pda (computeGateTag sha256 c.args.nullifier c.args.minimumThreshold
      c.args.expectedContextId) ∧
    ∃ pk w, c.Backs sha256 k256 fromSlice c.args.nullifier c.args.minimumThreshold
      c.args.expectedContextId pk w := by
  cases hout : Deep.gatedCheck sha256 k256 fromSlice c.gateMarker c.presenter c.args with
  | error e =>
    rw [GateCall.accepted, hout] at h
    exact (Bool.false_ne_true h).elim
  | ok out =>
    obtain ⟨haddr, hret⟩ := (GateCall.accepted_iff hout).mp h
    obtain ⟨pk, w, hp, rfl⟩ := Deep.gatedCheck_eq_ok.mp hout
    obtain ⟨n, hn, _⟩ := ChainedCall.returns_iff.mp (hret _ List.mem_cons_self)
    -- The nullifier the attestation returns is the one the gate re-derived.
    have hnull : n = c.args.nullifier := (attest_eq_ok.mp hn).2.2.symm.trans hp.nullifier
    have hctx := hp.context
    refine ⟨by rw [haddr, hp.tag], pk, w, ?_⟩
    exact
      { enforcedFloor := rfl
        enforcedContext := rfl
        witness := hp.witness
        owner := hp.owner
        account := hp.account
        balance := hp.balance
        signature := hctx ▸ hp.signature
        nullifier := by rw [← hctx, hp.account, hp.nullifier]
        attested := by rw [← hctx, ← hnull]; exact hn }

theorem GateCall.marker_eq_some {m : Bytes 32} :
    c.marker sha256 k256 fromSlice pda = some m ↔
      c.accepted sha256 k256 fromSlice pda = true ∧ c.gateMarker.accountId = m := by
  rw [GateCall.marker]
  split <;> simp [*]

theorem GateCall.backs_of_marker (hpda : Function.Injective pda) {n : Bytes 32} {floor : U128}
    {ctx : Bytes 32}
    (h : c.marker sha256 k256 fromSlice pda = some (pda (computeGateTag sha256 n floor ctx))) :
    (∃ pk w, c.Backs sha256 k256 fromSlice n floor ctx pk w) ∨
    Collision sha256 (gateTagBytes c.args.nullifier c.args.minimumThreshold
      c.args.expectedContextId) (gateTagBytes n floor ctx) := by
  obtain ⟨hacc, hm⟩ := GateCall.marker_eq_some.mp h
  obtain ⟨haddr, hbacks⟩ := GateCall.backs_of_accepted hacc
  have htag := hpda (haddr.symm.trans hm)
  rcases eq_or_collision (h := sha256) htag with heq | hcol
  · obtain ⟨rfl, rfl, rfl⟩ := gateTagBytes_inj heq
    exact .inl hbacks
  · exact .inr hcol

/-- Over any run of calls, a marker is claimed only by an accepted call about
its nullifier, floor and context, at most once, and by no call that enforces
another floor or context, short of a collision between the two gate tags. -/
theorem marker_unforgeable (hpda : Function.Injective pda) (calls : List GateCall) (n : Bytes 32)
    (floor : U128) (ctx : Bytes 32) :
    let claims := GateCall.marker sha256 k256 fromSlice pda
    let marker := pda (computeGateTag sha256 n floor ctx)
    let collides (c : GateCall) := Collision sha256 (gateTagBytes c.args.nullifier
      c.args.minimumThreshold c.args.expectedContextId) (gateTagBytes n floor ctx)
    (marker ∈ run claims ∅ calls → ∃ i c, calls[i]? = some c ∧ ClaimsAt claims ∅ calls i marker ∧
      c.accepted sha256 k256 fromSlice pda = true ∧
      ((∃ pk w, c.Backs sha256 k256 fromSlice n floor ctx pk w) ∨ collides c)) ∧
    (∀ i j, ClaimsAt claims ∅ calls i marker → ClaimsAt claims ∅ calls j marker → i = j) ∧
    (∀ c ∈ calls, c.args.minimumThreshold ≠ floor ∨ c.args.expectedContextId ≠ ctx →
      claims c ≠ some marker ∨ collides c) := by
  intro claims marker collides
  refine ⟨?_, fun i j hi hj => hi.unique hj, ?_⟩
  · intro hmem
    obtain ⟨i, hi⟩ := exists_claimsAt hmem (Finset.notMem_empty _)
    have hclaim := hi
    obtain ⟨c, hc, hg, _⟩ := hi
    exact ⟨i, c, hc, hclaim, (GateCall.marker_eq_some.mp hg).1, GateCall.backs_of_marker hpda hg⟩
  · intro c _ hother
    by_cases hg : claims c = some marker
    · rcases GateCall.backs_of_marker hpda hg with hbacks | hcol
      · obtain ⟨pk, w, hb⟩ := hbacks
        exact absurd hother (by simp [hb.enforcedFloor, hb.enforcedContext])
      · exact .inr hcol
    · exact .inl hg

end Runs

/-! A run of one call, the consistent one, at its real marker address. -/

namespace Scenario

def programId : ProgramId :=
  ⟨[2049525520, 1835588895, 3629925250, 2899886680, 2803919800, 2591514445, 2681052045, 2092065154],
    rfl⟩

def markerPda (program : ProgramId) (seed : Bytes 32) : Bytes 32 :=
  Sha256.digest (ascii "/LEE/v0.2/AccountId/PDA/" ++ List.replicate 8 0 ++ wordsToLeBytes program ++
    seed.toList)

def pda : Bytes 32 → Bytes 32 := Equiv.swap honest.gateTag (markerPda programId honest.gateTag)

theorem pda_injective : Function.Injective pda := Equiv.injective _

def call : GateCall :=
  ⟨{ gateMarker with accountId := pda honest.gateTag }, presenter 4000, honest⟩

theorem call_accepted : call.accepted Sha256.digest honestK256 (fromSlice 4000) pda = true := by
  have hret : ∀ c ∈ (output call.gateMarker (presenter 4000) 4000 honest).chained,
      c.returns Sha256.digest = true := by
    intro c hc
    rw [List.mem_singleton.mp hc]
    exact ChainedCall.returns_iff.mpr ⟨nullifier, attest_honest, by decide⟩
  exact (GateCall.accepted_iff (gatedCheck_honest call.gateMarker)).mpr ⟨rfl, hret⟩

end Scenario

open Scenario in
theorem marker_unforgeable_honest :
    let claims := GateCall.marker Sha256.digest honestK256 (fromSlice 4000) pda
    let marker := pda (computeGateTag Sha256.digest nullifier 4000 contextId)
    marker ∈ run claims ∅ [call] ∧
    ∃ i c, [call][i]? = some c ∧ ClaimsAt claims ∅ [call] i marker ∧
      c.accepted Sha256.digest honestK256 (fromSlice 4000) pda = true ∧
      ((∃ pk w, c.Backs Sha256.digest honestK256 (fromSlice 4000) nullifier 4000 contextId pk w) ∨
      Collision Sha256.digest (gateTagBytes c.args.nullifier c.args.minimumThreshold
        c.args.expectedContextId) (gateTagBytes nullifier 4000 contextId)) := by
  intro claims marker
  have hmem : marker ∈ run claims ∅ [call] := by
    refine mem_run.mpr (.inr ⟨call, List.mem_singleton_self _, ?_⟩)
    exact GateCall.marker_eq_some.mpr ⟨call_accepted, congrArg pda gateTag_eq.symm⟩
  exact ⟨hmem, (marker_unforgeable pda_injective [call] nullifier 4000 contextId).1 hmem⟩

end BalanceAttestation
