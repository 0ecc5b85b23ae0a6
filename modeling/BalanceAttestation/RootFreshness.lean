import BalanceAttestation.AccountSnapshots
import BalanceAttestation.ChatGate

/-! Root freshness. The prover names the root, so the operator of a gate compares it
with the root the sequencer holds, after the roster has admitted the credential.
The chain moves on between the calls. -/

namespace BalanceAttestation

open Checks ClaimOnce HashTree SerdeJson SequencerClient VerifierOffchain

/-- A position in the tree fits the 64 bits it is sent in. -/
structure Chain where
  depth : Nat
  tree : CommitmentTree depth
  depth_le : depth ≤ 64

namespace Chain

def Member (chain : Chain) (c : Bytes 32) : Prop := Leaf.commitment c ∈ chain.tree.leaves

instance (chain : Chain) (c : Bytes 32) : Decidable (chain.Member c) :=
  inferInstanceAs (Decidable (Leaf.commitment c ∈ chain.tree.leaves))

def root (sha256 : HashFn) (chain : Chain) : Bytes 32 := chain.tree.root sha256

/-- The sequencer answers for this chain: with a path to a leaf that holds the
commitment, in a form the client reads, or with null. -/
structure ServedBy (sha256 : HashFn) (chain : Chain) (server : Value → Response) : Prop where
  path : ∀ c, chain.Member c → ∃ i : UInt64, chain.tree.leaves[i.toNat]? = some (.commitment c) ∧
    ∃ v, ProofForm v ⟨i, chain.tree.siblings sha256 i.toNat⟩ ∧ (server (proofRequest c)).Returns v
  absent : ∀ c, ¬ chain.Member c → (server (proofRequest c)).SaysNull

/-- The check passes: the known commitment is there to fold from, and the root is the one it folds to. -/
def Current (sha256 : HashFn) (known : Bytes 32) (chain : Chain) (j : PublicJournal) : Prop :=
  chain.Member known ∧ chain.root sha256 = j.merkleRoot

instance (sha256 : HashFn) (known : Bytes 32) (chain : Chain) (j : PublicJournal) :
    Decidable (chain.Current sha256 known j) :=
  inferInstanceAs (Decidable (chain.Member known ∧ chain.root sha256 = j.merkleRoot))

variable {sha256 : HashFn} {hex : HexCrate} {chain : Chain} {server : Value → Response}

theorem ServedBy.commitmentSetRoot (hhex : hex.DecodesDigits) (hserved : chain.ServedBy sha256 server)
    (known : Bytes 32) : commitmentSetRoot sha256 (getProofForCommitment hex server) known =
      .ok (if chain.Member known then some (chain.root sha256) else none) := by
  rw [commitmentSetRoot_eq]
  by_cases hknown : chain.Member known
  · obtain ⟨i, hleaf, v, hform, hreturns⟩ := hserved.path known hknown
    rw [getProofForCommitment_returns hreturns, (decodeProofTuple_ok hhex).mpr hform, if_pos hknown]
    have hfold : foldMembershipProof sha256 known ⟨i, chain.tree.siblings sha256 i.toNat⟩ =
        chain.root sha256 := (foldMembershipProof_eq _ _).trans (foldMerklePath_siblings hleaf)
    rw [← hfold]
    rfl
  · have hnone := (getProofForCommitment_answers hhex known).null (.inl (hserved.absent known hknown))
    rw [hnone, if_neg hknown]
    rfl

theorem ServedBy.isRootCurrent (hhex : hex.DecodesDigits) (hserved : chain.ServedBy sha256 server)
    (known : Bytes 32) (j : PublicJournal) :
    isRootCurrent sha256 (getProofForCommitment hex server) j.merkleRoot known =
      .ok (decide (chain.Current sha256 known j)) := by
  rw [BalanceAttestation.isRootCurrent, hserved.commitmentSetRoot hhex]
  by_cases hknown : chain.Member known
  · simp [Current, hknown, bind, Except.bind, pure, Except.pure]
  · simp [Current, hknown, bind, Except.bind, pure, Except.pure]

end Chain

/-- A membership request with the witness its receipt was proved from. -/
structure AttestedRequest (sha256 : HashFn) (risc0 : Risc0) where
  request : MembershipRequest risc0
  witness : PrivateInputs
  attested : ∀ j, verifyReceipt risc0 request.receipt = .ok j →
    attest sha256 witness j.statement = .ok j.nullifier

/-- A journal the gate honours, with the chain it was found current on. -/
structure Honoured (sha256 : HashFn) (risc0 : Risc0) where
  req : AttestedRequest sha256 risc0
  journal : PublicJournal
  chain : Chain

inductive GateEvent (sha256 : HashFn) (risc0 : Risc0)
  | advance (chain : Chain)
  | request (req : AttestedRequest sha256 risc0)

structure FreshGate (sha256 : HashFn) (risc0 : Risc0) where
  chain : Chain
  roster : GroupRoster
  honoured : List (Honoured sha256 risc0)

section

variable {sha256 : HashFn} {risc0 : Risc0}

namespace Honoured

variable (e : Honoured sha256 risc0)

def nullifier : Bytes 32 := e.journal.nullifier

/-- The witness's account stands in the tree with a balance that reaches what is
attested, and the nullifier is its own. -/
def Backed : Prop :=
  e.chain.tree.leaves[e.req.witness.leafIndex.toNat % 2 ^ e.chain.depth]? =
      some (.commitment (e.req.witness.commitment sha256)) ∧
    e.journal.threshold ≤ e.req.witness.balance ∧
    e.nullifier = computeNullifier sha256 e.journal.presenterPubkey e.journal.contextId
      (e.req.witness.accountId sha256)

/-- The strings of the tree and of the witness's path break the hash. -/
def Broken : Prop :=
  CollisionIn sha256 (e.chain.tree.strings sha256 ++ e.req.witness.pathStrings sha256) ∨
    ∃ m ∈ e.req.witness.pathStrings sha256, sha256 m = paddingLeaf

variable {e}

theorem backed_or_broken (hreceipt : verifyReceipt risc0 e.req.request.receipt = .ok e.journal)
    (hroot : e.chain.root sha256 = e.journal.merkleRoot) : e.Backed ∨ e.Broken := by
  obtain ⟨hfold, hbalance, hnullifier⟩ := attest_eq_ok.mp (e.req.attested e.journal hreceipt)
  rcases leaf_of_recoveredRoot (hfold.trans hroot.symm) with ⟨-, hleaf⟩ | hbroken
  · exact .inl ⟨hleaf, hbalance, hnullifier.symm⟩
  · exact .inr hbroken

end Honoured

namespace FreshGate

variable (k256 : K256) (hex : HexCrate) (server : Chain → Value → Response) (known : Bytes 32)

def fresh (groupId : String) (minimumStake : U128) (chain : Chain) : FreshGate sha256 risc0 :=
  ⟨chain, .new groupId minimumStake, []⟩

/-- The roster decides first; what it admits counts only if its root is current. -/
def next (gate : FreshGate sha256 risc0) : GateEvent sha256 risc0 → FreshGate sha256 risc0
  | .advance chain => { gate with chain }
  | .request req =>
    match gate.roster.admitRequest sha256 k256 req.request with
    | (.error _, roster) => { gate with roster }
    | (.ok journal, roster) =>
      match isRootCurrent sha256 (getProofForCommitment hex (server gate.chain)) journal.merkleRoot known with
      | .ok true => { gate with roster, honoured := gate.honoured ++ [⟨req, journal, gate.chain⟩] }
      | _ => { gate with roster }

def run (gate : FreshGate sha256 risc0) (events : List (GateEvent sha256 risc0)) : FreshGate sha256 risc0 :=
  events.foldl (next k256 hex server known) gate

/-- What a gate of this group keeps. -/
structure Sound (groupId : String) (minimumStake : U128) (gate : FreshGate sha256 risc0) : Prop where
  group : gate.roster.groupId = groupId
  stake : gate.roster.minimumStake = minimumStake
  verified : ∀ e ∈ gate.honoured, e.req.request.Verified sha256 k256 groupId minimumStake e.journal
  backed : ∀ e ∈ gate.honoured, e.Backed ∨ e.Broken
  used : ∀ e ∈ gate.honoured, e.nullifier ∈ gate.roster.usedNullifiers
  nodup : (gate.honoured.map Honoured.nullifier).Nodup

variable {k256 hex server known} {gate : FreshGate sha256 risc0}

variable (k256 known gate) in
/-- A request leaves the gate as it was, or its free nullifier is used up and the
journal is honoured if it is current. -/
theorem next_request (hhex : hex.DecodesDigits)
    (hserved : ∀ chain : Chain, chain.ServedBy sha256 (server chain)) (req : AttestedRequest sha256 risc0) :
    let claim := req.request.claim sha256 k256 gate.roster.groupId gate.roster.minimumStake
    ((∀ j, claim = some (j.nullifier, j) → j.nullifier ∈ gate.roster.usedNullifiers) ∧
      gate.next k256 hex server known (.request req) = gate) ∨
    ∃ j, claim = some (j.nullifier, j) ∧ j.nullifier ∉ gate.roster.usedNullifiers ∧
      ((¬ gate.chain.Current sha256 known j ∧ gate.next k256 hex server known (.request req) =
          { gate with roster := GroupRoster.registry.record gate.roster (j.nullifier, j) }) ∨
        (gate.chain.Current sha256 known j ∧ gate.next k256 hex server known (.request req) =
          { gate with
            roster := GroupRoster.registry.record gate.roster (j.nullifier, j)
            honoured := gate.honoured ++ [⟨req, j, gate.chain⟩] })) := by
  intro claim
  rcases admitRequest_cases sha256 k256 gate.roster req.request with ⟨e, hclaim, hres⟩ |
    ⟨j, hclaim, hused, hres⟩ | ⟨j, hclaim, hnew, hres⟩
  · refine .inl ⟨fun j hj => ?_, by rw [next, hres]⟩
    cases hclaim.symm.trans hj
  · refine .inl ⟨fun j' hj' => ?_, by rw [next, hres]⟩
    obtain rfl : j = j' := congrArg Prod.snd (Option.some.inj (hclaim.symm.trans hj'))
    exact hused
  · refine .inr ⟨j, hclaim, hnew, ?_⟩
    rw [next, hres]
    dsimp only
    rw [(hserved gate.chain).isRootCurrent hhex]
    by_cases hcurrent : gate.chain.Current sha256 known j
    · exact .inr ⟨hcurrent, by rw [decide_eq_true hcurrent]⟩
    · exact .inl ⟨hcurrent, by rw [decide_eq_false hcurrent]⟩

section

variable (hhex : hex.DecodesDigits) (hserved : ∀ chain : Chain, chain.ServedBy sha256 (server chain))
  {groupId : String} {minimumStake : U128}

theorem Sound.record (h : gate.Sound k256 groupId minimumStake) (j : PublicJournal) :
    { gate with roster := GroupRoster.registry.record gate.roster (j.nullifier, j) }.Sound k256
      groupId minimumStake where
  group := h.group
  stake := h.stake
  verified := h.verified
  backed := h.backed
  used e he := Finset.mem_insert_of_mem (h.used e he)
  nodup := h.nodup

theorem Sound.honour (h : gate.Sound k256 groupId minimumStake) {e : Honoured sha256 risc0}
    (hverified : e.req.request.Verified sha256 k256 groupId minimumStake e.journal)
    (hroot : e.chain.root sha256 = e.journal.merkleRoot) (hnew : e.nullifier ∉ gate.roster.usedNullifiers) :
    { gate with
      roster := GroupRoster.registry.record gate.roster (e.nullifier, e.journal)
      honoured := gate.honoured ++ [e] }.Sound k256 groupId minimumStake := by
  have hrecord := h.record e.journal
  refine ⟨h.group, h.stake, ?_, ?_, ?_, ?_⟩
  · exact List.forall_mem_append.mpr ⟨h.verified, List.forall_mem_singleton.mpr hverified⟩
  · refine List.forall_mem_append.mpr ⟨h.backed, List.forall_mem_singleton.mpr ?_⟩
    exact Honoured.backed_or_broken hverified.receipt hroot
  · refine List.forall_mem_append.mpr ⟨hrecord.used, List.forall_mem_singleton.mpr ?_⟩
    exact Finset.mem_insert_self _ _
  · have hfree : e.nullifier ∉ gate.honoured.map Honoured.nullifier := by
      intro hmem
      obtain ⟨e', he', heq⟩ := List.mem_map.mp hmem
      exact hnew (heq ▸ h.used e' he')
    rw [List.map_append, List.map_singleton, ← List.concat_eq_append]
    exact h.nodup.concat hfree

include hhex hserved

theorem Sound.next (h : gate.Sound k256 groupId minimumStake) (event : GateEvent sha256 risc0) :
    (gate.next k256 hex server known event).Sound k256 groupId minimumStake := by
  cases event with
  | advance chain => exact ⟨h.group, h.stake, h.verified, h.backed, h.used, h.nodup⟩
  | request req =>
    rcases next_request k256 known gate hhex hserved req with ⟨-, hres⟩ |
      ⟨j, hclaim, hnew, ⟨-, hres⟩ | ⟨hcurrent, hres⟩⟩
    · rw [hres]
      exact h
    · rw [hres]
      exact h.record j
    · rw [h.group, h.stake] at hclaim
      rw [hres]
      have hverified := (MembershipRequest.claim_eq_some.mp hclaim).1
      exact h.honour (e := ⟨req, j, gate.chain⟩) hverified hcurrent.2 hnew

theorem Sound.run (h : gate.Sound k256 groupId minimumStake) (events : List (GateEvent sha256 risc0)) :
    (gate.run k256 hex server known events).Sound k256 groupId minimumStake := by
  induction events generalizing gate with
  | nil => exact h
  | cons event events ih => exact ih (h.next hhex hserved event)

/-- Nothing is honoured twice: what a run adds had a nullifier that was free before it. -/
theorem mem_honoured_run {events : List (GateEvent sha256 risc0)} {e : Honoured sha256 risc0}
    (he : e ∈ (gate.run k256 hex server known events).honoured) :
    e ∈ gate.honoured ∨ e.nullifier ∉ gate.roster.usedNullifiers := by
  induction events generalizing gate with
  | nil => exact .inl he
  | cons event events ih =>
    have hrest := ih he
    cases event with
    | advance chain => exact hrest
    | request req =>
      rcases next_request k256 known gate hhex hserved req with ⟨-, hres⟩ |
        ⟨j, -, hnew, ⟨-, hres⟩ | ⟨-, hres⟩⟩
      · rw [hres] at hrest
        exact hrest
      · rw [hres] at hrest
        exact hrest.imp_right fun hfree hused => hfree (Finset.mem_insert_of_mem hused)
      · rw [hres] at hrest
        rcases hrest with hmem | hfree
        · rcases List.mem_append.mp hmem with hmem | hmem
          · exact .inl hmem
          · rw [List.mem_singleton] at hmem
            exact .inr (hmem ▸ hnew)
        · exact .inr fun hused => hfree (Finset.mem_insert_of_mem hused)

theorem honoured_subset_run (events : List (GateEvent sha256 risc0)) :
    gate.honoured ⊆ (gate.run k256 hex server known events).honoured := by
  induction events generalizing gate with
  | nil => exact List.Subset.refl _
  | cons event events ih =>
    refine List.Subset.trans ?_ ih
    cases event with
    | advance chain => exact List.Subset.refl _
    | request req =>
      rcases next_request k256 known gate hhex hserved req with ⟨-, hres⟩ |
        ⟨j, -, -, ⟨-, hres⟩ | ⟨-, hres⟩⟩
      · rw [hres]
        exact List.Subset.refl _
      · rw [hres]
        exact List.Subset.refl _
      · rw [hres]
        exact List.subset_append_left _ _

/-- A verified request under a free nullifier is honoured on the spot, or its
nullifier is spent and is never honoured. -/
theorem run_request (h : gate.Sound k256 groupId minimumStake) {req : AttestedRequest sha256 risc0}
    {j : PublicJournal} (hverified : req.request.Verified sha256 k256 groupId minimumStake j)
    (hfree : j.nullifier ∉ gate.roster.usedNullifiers) (events : List (GateEvent sha256 risc0)) :
    (gate.chain.Current sha256 known j →
      ⟨req, j, gate.chain⟩ ∈ (gate.run k256 hex server known (.request req :: events)).honoured) ∧
    (¬ gate.chain.Current sha256 known j →
      ∀ e ∈ (gate.run k256 hex server known (.request req :: events)).honoured,
        e.nullifier ≠ j.nullifier) := by
  have hclaim := MembershipRequest.claim_eq_some.mpr ⟨hverified, rfl⟩
  change (_ → _ ∈ ((gate.next k256 hex server known (.request req)).run k256 hex server known
    events).honoured) ∧ (_ → ∀ e ∈ ((gate.next k256 hex server known (.request req)).run k256 hex
      server known events).honoured, _)
  rcases next_request k256 known gate hhex hserved req with ⟨hused, -⟩ |
    ⟨j', hclaim', -, hcases⟩
  · rw [h.group, h.stake] at hused
    exact absurd (hused j hclaim) hfree
  · rw [h.group, h.stake] at hclaim'
    obtain rfl : j = j' := congrArg Prod.snd (Option.some.inj (hclaim.symm.trans hclaim'))
    rcases hcases with ⟨hstale, hres⟩ | ⟨hcurrent, hres⟩
    · refine ⟨fun hcurrent => absurd hcurrent hstale, fun _ e he => ?_⟩
      rw [hres] at he
      rcases mem_honoured_run hhex hserved he with hmem | hunused
      · exact fun heq => hfree (heq ▸ h.used e hmem)
      · exact fun heq => hunused (heq ▸ Finset.mem_insert_self _ _)
    · refine ⟨fun _ => ?_, fun hstale => absurd hcurrent hstale⟩
      rw [hres]
      exact honoured_subset_run hhex hserved events (List.mem_append_right _ (List.mem_singleton_self _))

end

theorem sound_fresh (k256 : K256) (groupId : String) (minimumStake : U128) (chain : Chain) :
    (fresh groupId minimumStake chain : FreshGate sha256 risc0).Sound k256 groupId minimumStake :=
  ⟨rfl, rfl, by simp [fresh], by simp [fresh], by simp [fresh], by simp [fresh]⟩

end FreshGate

end

open FreshGate in
/-- Whatever the chain does between the calls, an honoured journal verifies for the
group and its account stood in the tree of that moment with the attested balance, no
nullifier is honoured twice, and a credential that was stale when it was admitted
has spent its nullifier for nothing. -/
theorem fresh_gate_runs {sha256 : HashFn} {risc0 : Risc0} (k256 : K256) {hex : HexCrate}
    (hhex : hex.DecodesDigits) {server : Chain → Value → Response}
    (hserved : ∀ chain : Chain, chain.ServedBy sha256 (server chain)) (known : Bytes 32) (groupId : String)
    (minimumStake : U128) (start : Chain) (events : List (GateEvent sha256 risc0)) :
    let run := fun events => (fresh groupId minimumStake start).run k256 hex server known events
    (run events).Sound k256 groupId minimumStake ∧
    ∀ pre req post, events = pre ++ .request req :: post →
      ∀ j, req.request.Verified sha256 k256 groupId minimumStake j →
        j.nullifier ∉ (run pre).roster.usedNullifiers →
          ((run pre).chain.Current sha256 known j →
            ⟨req, j, (run pre).chain⟩ ∈ (run events).honoured) ∧
          (¬ (run pre).chain.Current sha256 known j →
            ∀ e ∈ (run events).honoured, e.nullifier ≠ j.nullifier) := by
  intro run
  have hsound (events : List (GateEvent sha256 risc0)) : (run events).Sound k256 groupId minimumStake :=
    (sound_fresh k256 groupId minimumStake start).run hhex hserved events
  refine ⟨hsound events, ?_⟩
  rintro pre req post rfl j hverified hfree
  have hsplit : run (pre ++ .request req :: post) =
      (run pre).run k256 hex server known (.request req :: post) := List.foldl_append
  rw [hsplit]
  exact run_request hhex hserved (hsound pre) hverified hfree post

/-! A sequencer for every chain, and the credential of the group "lounge" before its gate. -/

namespace Scenario

def askedFor : Value → Option (Bytes 32)
  | .object get => do
    let [v] ← (get "params").bind Value.asArray | none
    AttestCli.array32 (← AccountSnapshot.bytesValue v)
  | _ => none

def byteArray (h : Bytes 32) : Json := .array (h.toList.map fun b => .number (.posInt b.toUInt64))

def pathReply (i : Nat) (siblings : List (Bytes 32)) : Json :=
  .array [.number (.posInt (UInt64.ofNat i)), .array (siblings.map byteArray)]

def sequencer (sha256 : HashFn) (chain : Chain) (v : Value) : Response :=
  match askedFor v with
  | none => .failed "Invalid params"
  | some c =>
    let i := chain.tree.leaves.idxOf (.commitment c)
    replying [("result", if chain.Member c then pathReply i (chain.tree.siblings sha256 i) else .null)] v

theorem byteArray_toValue (h : Bytes 32) : (byteArray h).toValue = .ofBytes h.toList := by
  rw [byteArray, Json.toValue, toValues_map]
  rfl

theorem askedFor_proofRequest (c : Bytes 32) : askedFor (proofRequest c) = some c := by
  change (AccountSnapshot.bytesValue (.ofBytes c.toList)).bind AttestCli.array32 = some c
  rw [AccountSnapshot.bytesValue_eq_some.mpr rfl]
  exact AttestCli.array32_toList c

theorem proofForm_pathReply (i : Nat) (siblings : List (Bytes 32)) :
    ProofForm (pathReply i siblings).toValue ⟨UInt64.ofNat i, siblings⟩ := by
  have hvalue : (pathReply i siblings).toValue = .array [.number (.posInt (UInt64.ofNat i)),
      .array (siblings.map fun h => (byteArray h).toValue)] := by
    rw [← toValues_map]
    rfl
  rw [hvalue]
  refine .tuple (List.forall₂_map_left_iff.mpr (List.forall₂_same.mpr fun h _ => ?_))
  rw [byteArray_toValue]
  exact .byteArray h

theorem sequencer_serves (sha256 : HashFn) (chain : Chain) :
    chain.ServedBy sha256 (sequencer sha256 chain) where
  path c hc := by
    have hi : chain.tree.leaves.idxOf (.commitment c) < chain.tree.leaves.length :=
      List.idxOf_lt_length_iff.mpr hc
    have hfits : chain.tree.leaves.idxOf (.commitment c) < 2 ^ 64 := by
      rw [HashTree.PerfectTree.leaves_length] at hi
      exact hi.trans_le (Nat.pow_le_pow_right (by omega) chain.depth_le)
    have hword : (UInt64.ofNat (chain.tree.leaves.idxOf (.commitment c))).toNat =
        chain.tree.leaves.idxOf (.commitment c) := UInt64.toNat_ofNat_of_lt' hfits
    refine ⟨UInt64.ofNat (chain.tree.leaves.idxOf (.commitment c)), ?_, ?_⟩
    · rw [hword]
      exact List.getElem?_idxOf hc
    · rw [hword, sequencer, askedFor_proofRequest]
      dsimp only
      rw [if_pos hc]
      exact ⟨_, proofForm_pathReply _ _, _, _, ⟨rfl, rfl⟩, rfl, rfl⟩
  absent c hc := by
    rw [sequencer, askedFor_proofRequest]
    dsimp only
    rw [if_neg hc]
    exact ⟨_, _, ⟨rfl, rfl⟩, rfl, rfl⟩

def sampleChain : Chain := ⟨2, Sample.tree, by decide⟩

def loungeRequest : AttestedRequest Sha256.digest Risc0.ofJournals where
  request := loungeMembership
  witness := Sample.witness
  attested j hj := by
    obtain rfl : loungeJournal = j := Except.ok.inj hj
    exact attest_loungeJournal

end Scenario

open Scenario FreshGate in
theorem fresh_gate_lounge :
    ⟨loungeRequest, loungeJournal, sampleChain⟩ ∈
      ((fresh "lounge" 100000 sampleChain).run loungeKeys digitsCrate (sequencer Sha256.digest)
        Sample.commitment [.request loungeRequest]).honoured := by
  have hhex : digitsCrate.DecodesDigits := fun _ _ => okOr_ok
  have hruns := fresh_gate_runs loungeKeys hhex (sequencer_serves Sha256.digest) Sample.commitment "lounge"
    100000 sampleChain [.request loungeRequest]
  have hcurrent : sampleChain.Current Sha256.digest Sample.commitment loungeJournal := ⟨by decide, rfl⟩
  have hrequest := hruns.2 [] loungeRequest [] rfl loungeJournal loungeMembership_verified
    (Finset.notMem_empty _)
  exact hrequest.1 hcurrent

end BalanceAttestation
