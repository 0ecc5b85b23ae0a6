import BalanceAttestation.CommitmentTree
import BalanceAttestation.GateAgreement
import BalanceAttestation.Registry

/-! The chat gate: a roster admits the presenter of a verified credential for
its group, once per nullifier. -/

namespace BalanceAttestation

open Checks ClaimOnce VerifierOffchain

def groupContextBytes (groupId : String) : List UInt8 :=
  ascii "/lp-0005/integ/chat-gate-v1/" ++ groupId.toUTF8.toList

def groupContextId (sha256 : HashFn) (groupId : String) : Bytes 32 :=
  sha256 (groupContextBytes groupId)

inductive AdmissionError
  | verify (e : VerifyError)
  | nullifierReused
  | wrongGroup
  deriving DecidableEq

structure GroupRoster where
  groupId : String
  members : Finset (Bytes 33)
  usedNullifiers : Finset (Bytes 32)
  minimumStake : U128
  deriving DecidableEq

def GroupRoster.new (groupId : String) (minimumStake : U128) : GroupRoster :=
  ⟨groupId, ∅, ∅, minimumStake⟩

structure MembershipRequest (risc0 : Risc0) where
  receipt : risc0.Receipt
  presenterNonce : Bytes 32
  presenterSignatureDer : List UInt8

section

variable (sha256 : HashFn) (k256 : K256) {risc0 : Risc0}

/-- `admit` of the source, a word Lean keeps for itself. -/
def GroupRoster.admitRequest (roster : GroupRoster) (req : MembershipRequest risc0) :
    Except AdmissionError PublicJournal × GroupRoster :=
  let expectedCtx := groupContextId sha256 roster.groupId
  match verifyCredential sha256 k256 risc0 req.receipt req.presenterNonce req.presenterSignatureDer
    expectedCtx roster.minimumStake with
  | .error e => (.error (.verify e), roster)
  | .ok journal =>
    let isNew := journal.nullifier ∉ roster.usedNullifiers
    let roster := { roster with usedNullifiers := insert journal.nullifier roster.usedNullifiers }
    if ¬ isNew then (.error .nullifierReused, roster)
    else (.ok journal, { roster with members := insert journal.presenterPubkey roster.members })

def GroupRoster.admits (roster : GroupRoster) (reqs : List (MembershipRequest risc0)) :
    GroupRoster :=
  reqs.foldl (fun roster req => (roster.admitRequest sha256 k256 req).2) roster

def GroupRoster.admitted (roster : GroupRoster) :
    List (MembershipRequest risc0) → List PublicJournal
  | [] => []
  | req :: reqs =>
    let later := admitted (roster.admitRequest sha256 k256 req).2 reqs
    match (roster.admitRequest sha256 k256 req).1 with
    | .ok journal => journal :: later
    | .error _ => later

/-- The journal of a request that a group at this stake lets through. -/
def MembershipRequest.claim (groupId : String) (minimumStake : U128)
    (req : MembershipRequest risc0) : Option (Bytes 32 × PublicJournal) :=
  (verifyCredential sha256 k256 risc0 req.receipt req.presenterNonce req.presenterSignatureDer
    (groupContextId sha256 groupId) minimumStake).toOption.map fun j => (j.nullifier, j)

def MembershipRequest.nullifier (req : MembershipRequest risc0) : Option (Bytes 32) :=
  (verifyReceipt risc0 req.receipt).toOption.map PublicJournal.nullifier

end

def GroupRoster.registry : Registry GroupRoster (Bytes 32) PublicJournal where
  used := usedNullifiers
  record roster p :=
    { roster with
      usedNullifiers := insert p.1 roster.usedNullifiers
      members := insert p.2.presenterPubkey roster.members }
  used_record _ _ := rfl

section Roster

variable {sha256 : HashFn} {k256 : K256} {risc0 : Risc0} {roster : GroupRoster}
  {req : MembershipRequest risc0}

structure MembershipRequest.Verified (sha256 : HashFn) (k256 : K256) (groupId : String)
    (minimumStake : U128) (req : MembershipRequest risc0) (j : PublicJournal) : Prop where
  receipt : verifyReceipt risc0 req.receipt = .ok j
  context : j.contextId = groupContextId sha256 groupId
  stake : minimumStake ≤ j.threshold
  signature : SignatureVerifies sha256 k256 req.presenterNonce j req.presenterSignatureDer

theorem MembershipRequest.claim_eq_some {groupId : String} {stake : U128} {n : Bytes 32}
    {j : PublicJournal} : req.claim sha256 k256 groupId stake = some (n, j) ↔
      req.Verified sha256 k256 groupId stake j ∧ j.nullifier = n := by
  simp only [MembershipRequest.claim, Option.map_eq_some_iff, toOption_eq_some,
    verifyCredential_eq_ok, Prod.mk.injEq]
  constructor
  · intro h
    obtain ⟨_, ⟨hr, hc, hs, hv⟩, hn, rfl⟩ := h
    exact ⟨⟨hr, hc, hs, hv⟩, hn⟩
  · intro h
    obtain ⟨⟨hr, hc, hs, hv⟩, hn⟩ := h
    exact ⟨j, ⟨hr, hc, hs, hv⟩, hn, rfl⟩

theorem MembershipRequest.nullifier_of_key {groupId : String} {stake : U128} {n : Bytes 32}
    (h : key (MembershipRequest.claim sha256 k256 groupId stake) req = some n) :
    req.nullifier = some n := by
  obtain ⟨j, hj⟩ := key_eq_some.mp h
  obtain ⟨hv, hn⟩ := MembershipRequest.claim_eq_some.mp hj
  rw [MembershipRequest.nullifier, hv.receipt]
  exact congrArg some hn

/-- What one call does: the credential is refused, its nullifier is used, or it is admitted. -/
theorem admitRequest_cases (sha256 : HashFn) (k256 : K256) (roster : GroupRoster)
    (req : MembershipRequest risc0) :
    let claim := req.claim sha256 k256 roster.groupId roster.minimumStake
    (∃ e, claim = none ∧ roster.admitRequest sha256 k256 req = (.error (.verify e), roster)) ∨
    (∃ j, claim = some (j.nullifier, j) ∧ j.nullifier ∈ roster.usedNullifiers ∧
      roster.admitRequest sha256 k256 req = (.error .nullifierReused, roster)) ∨
    (∃ j, claim = some (j.nullifier, j) ∧ j.nullifier ∉ roster.usedNullifiers ∧
      roster.admitRequest sha256 k256 req =
        (.ok j, GroupRoster.registry.record roster (j.nullifier, j))) := by
  intro claim
  rw [GroupRoster.admitRequest]
  simp only [claim, MembershipRequest.claim]
  cases hverify : verifyCredential sha256 k256 risc0 req.receipt req.presenterNonce
      req.presenterSignatureDer (groupContextId sha256 roster.groupId) roster.minimumStake with
  | error e => exact .inl ⟨e, rfl, rfl⟩
  | ok j =>
    by_cases hused : j.nullifier ∈ roster.usedNullifiers
    · exact .inr (.inl ⟨j, rfl, hused, by simp [hused]⟩)
    · exact .inr (.inr ⟨j, rfl, hused, by simp [hused, GroupRoster.registry]⟩)

theorem admitRequest_outcome (sha256 : HashFn) (k256 : K256) (roster : GroupRoster)
    (req : MembershipRequest risc0) :
    GroupRoster.registry.Outcome .nullifierReused roster
      (req.claim sha256 k256 roster.groupId roster.minimumStake)
      (roster.admitRequest sha256 k256 req) := by
  rcases admitRequest_cases sha256 k256 roster req with ⟨e, hclaim, hres⟩ |
    ⟨j, hclaim, hused, hres⟩ | ⟨j, hclaim, hnew, hres⟩
  · rw [hres, hclaim]
    exact .refused (by simp)
  · rw [hres, hclaim]
    exact .taken hused
  · rw [hres, hclaim]
    exact .recorded j hnew

theorem admitRequest_error (h : ¬ ∃ j, (roster.admitRequest sha256 k256 req).1 = .ok j) :
    (roster.admitRequest sha256 k256 req).2 = roster :=
  (admitRequest_outcome sha256 k256 roster req).eq_of_error h

theorem admitRequest_config (sha256 : HashFn) (k256 : K256) (roster : GroupRoster)
    (req : MembershipRequest risc0) :
    (roster.admitRequest sha256 k256 req).2.groupId = roster.groupId ∧
      (roster.admitRequest sha256 k256 req).2.minimumStake = roster.minimumStake := by
  rcases admitRequest_cases sha256 k256 roster req with ⟨e, _, hres⟩ | ⟨j, _, _, hres⟩ |
    ⟨j, _, _, hres⟩
  · simp [hres]
  · simp [hres]
  · simp [hres, GroupRoster.registry]

theorem admits_eq_runs (roster : GroupRoster) (reqs : List (MembershipRequest risc0)) :
    roster.admits sha256 k256 reqs = GroupRoster.registry.runs
      (MembershipRequest.claim sha256 k256 roster.groupId roster.minimumStake) roster reqs := by
  -- What a request asks for depends on the roster's own group and stake, which stay.
  let Same (s : GroupRoster) := s.groupId = roster.groupId ∧ s.minimumStake = roster.minimumStake
  have hsame (s : GroupRoster) (req : MembershipRequest risc0) (hs : Same s) :
      Same (s.admitRequest sha256 k256 req).2 := by
    obtain ⟨hgroup, hstake⟩ := admitRequest_config sha256 k256 s req
    exact ⟨hgroup.trans hs.1, hstake.trans hs.2⟩
  have houtcome (s : GroupRoster) (req : MembershipRequest risc0) (hs : Same s) :
      GroupRoster.registry.Outcome .nullifierReused s
        (req.claim sha256 k256 roster.groupId roster.minimumStake)
        (s.admitRequest sha256 k256 req) := by
    rw [← hs.1, ← hs.2]
    exact admitRequest_outcome sha256 k256 s req
  exact Registry.foldl_eq_runs hsame houtcome ⟨rfl, rfl⟩ reqs

theorem admitted_eq_claims (roster : GroupRoster) (reqs : List (MembershipRequest risc0)) :
    roster.admitted sha256 k256 reqs = (claims (MembershipRequest.claim sha256 k256 roster.groupId
      roster.minimumStake) roster.usedNullifiers reqs).map Prod.snd := by
  induction reqs generalizing roster with
  | nil => rfl
  | cons req reqs ih =>
    have hconfig := admitRequest_config sha256 k256 roster req
    rw [GroupRoster.admitted, ih, hconfig.1, hconfig.2]
    rcases admitRequest_cases sha256 k256 roster req with ⟨e, hclaim, hres⟩ |
      ⟨j, hclaim, hused, hres⟩ | ⟨j, hclaim, hnew, hres⟩
    · rw [hres, claims_failing hclaim]
    · rw [hres, claims_passing hclaim, if_pos hused]
    · rw [hres, claims_passing hclaim, if_neg hnew]
      rfl

theorem admitRequest_of_used {j : PublicJournal} (hreceipt : verifyReceipt risc0 req.receipt = .ok j)
    (hused : j.nullifier ∈ roster.usedNullifiers) :
    ¬ ∃ j', (roster.admitRequest sha256 k256 req).1 = .ok j' := by
  rcases admitRequest_cases sha256 k256 roster req with ⟨e, _, hres⟩ | ⟨j', _, _, hres⟩ |
    ⟨j', hclaim, hnew, _⟩
  · simp [hres]
  · simp [hres]
  · have hv := (MembershipRequest.claim_eq_some.mp hclaim).1
    have heq : j' = j := Except.ok.inj (hv.receipt.symm.trans hreceipt)
    exact absurd (heq ▸ hused) hnew

theorem GroupRoster.registry_comm (s : GroupRoster) (p q : Bytes 32 × PublicJournal) :
    GroupRoster.registry.record (GroupRoster.registry.record s p) q =
      GroupRoster.registry.record (GroupRoster.registry.record s q) p := by
  simp [registry, Finset.insert_comm]

theorem admits_append (roster : GroupRoster) (pre post : List (MembershipRequest risc0)) :
    roster.admits sha256 k256 (pre ++ post) =
      (roster.admits sha256 k256 pre).admits sha256 k256 post := List.foldl_append

theorem admits_perm (roster : GroupRoster) {reqs reqs' : List (MembershipRequest risc0)}
    (hp : reqs.Perm reqs') (hnd : (reqs.filterMap MembershipRequest.nullifier).Nodup) :
    roster.admits sha256 k256 reqs = roster.admits sha256 k256 reqs' := by
  have hkeys : (reqs.filterMap (key (MembershipRequest.claim sha256 k256 roster.groupId
      roster.minimumStake))).Sublist (reqs.filterMap MembershipRequest.nullifier) :=
    filterMap_key_sublist (fun _ _ => MembershipRequest.nullifier_of_key) reqs
  rw [admits_eq_runs, admits_eq_runs]
  exact Registry.runs_perm GroupRoster.registry_comm hp (hnd.sublist hkeys) roster

theorem members_foldl (s : GroupRoster) (log : List (Bytes 32 × PublicJournal)) :
    (log.foldl GroupRoster.registry.record s).members =
      s.members ∪ (log.map fun p => p.2.presenterPubkey).toFinset := by
  induction log generalizing s with
  | nil => simp
  | cons p log ih =>
    rw [List.foldl_cons, ih]
    ext pk
    simp [GroupRoster.registry]

theorem admitted_verified {groupId : String} {stake : U128} {reqs : List (MembershipRequest risc0)}
    {j : PublicJournal} (h : j ∈ (GroupRoster.new groupId stake).admitted sha256 k256 reqs) :
    ∃ req ∈ reqs, req.Verified sha256 k256 groupId stake j := by
  rw [admitted_eq_claims] at h
  obtain ⟨p, hp, rfl⟩ := List.mem_map.mp h
  obtain ⟨req, hreq, hclaim⟩ := exists_of_mem_claims hp
  exact ⟨req, hreq, (MembershipRequest.claim_eq_some.mp hclaim).1⟩

theorem admitted_nullifiers (groupId : String) (stake : U128)
    (reqs : List (MembershipRequest risc0)) :
    ((GroupRoster.new groupId stake).admitted sha256 k256 reqs).map PublicJournal.nullifier =
      (claims (MembershipRequest.claim sha256 k256 groupId stake) ∅ reqs).map Prod.fst := by
  rw [admitted_eq_claims, List.map_map]
  refine List.map_congr_left ?_
  intro p hp
  obtain ⟨req, _, hclaim⟩ := exists_of_mem_claims hp
  exact (MembershipRequest.claim_eq_some.mp hclaim).2

theorem used_admits (groupId : String) (stake : U128) (reqs : List (MembershipRequest risc0)) :
    ((GroupRoster.new groupId stake).admits sha256 k256 reqs).usedNullifiers =
      (((GroupRoster.new groupId stake).admitted sha256 k256 reqs).map
        PublicJournal.nullifier).toFinset := by
  rw [admits_eq_runs, admitted_nullifiers, ← run_eq_toFinset]
  exact Registry.used_runs (r := GroupRoster.registry) _ _

theorem members_admits (groupId : String) (stake : U128) (reqs : List (MembershipRequest risc0)) :
    ((GroupRoster.new groupId stake).admits sha256 k256 reqs).members =
      (((GroupRoster.new groupId stake).admitted sha256 k256 reqs).map
        PublicJournal.presenterPubkey).toFinset := by
  rw [admits_eq_runs, Registry.runs_eq_foldl, members_foldl, admitted_eq_claims, List.map_map]
  exact Finset.empty_union _

theorem members_card_le (groupId : String) (stake : U128) (reqs : List (MembershipRequest risc0)) :
    let roster := (GroupRoster.new groupId stake).admits sha256 k256 reqs
    roster.members.card ≤ roster.usedNullifiers.card := by
  intro roster
  have hnd : ((claims (MembershipRequest.claim sha256 k256 groupId stake) ∅ reqs).map
      Prod.fst).Nodup := claims_keys_nodup ∅ reqs
  rw [← admitted_nullifiers] at hnd
  have hmembers := List.toFinset_card_le
    (((GroupRoster.new groupId stake).admitted sha256 k256 reqs).map PublicJournal.presenterPubkey)
  simp only [roster, used_admits, members_admits]
  rw [List.toFinset_card_of_nodup hnd, List.length_map]
  simpa using hmembers

/-- A roster after any run: the nullifiers and the keys of the admitted
journals, each key from a verified one. A failing call changes nothing, an
admitted nullifier is never admitted again, and requests under different
nullifiers commute. -/
theorem roster_runs (sha256 : HashFn) (k256 : K256) (groupId : String) (minimumStake : U128)
    (reqs : List (MembershipRequest risc0)) :
    let fresh := GroupRoster.new groupId minimumStake
    let roster := fresh.admits sha256 k256 reqs
    let admitted := fresh.admitted sha256 k256 reqs
    roster.usedNullifiers = (admitted.map PublicJournal.nullifier).toFinset ∧
    roster.members = (admitted.map PublicJournal.presenterPubkey).toFinset ∧
    roster.members.card ≤ roster.usedNullifiers.card ∧
    (∀ pk ∈ roster.members, ∃ req ∈ reqs, ∃ j, j.presenterPubkey = pk ∧
      req.Verified sha256 k256 groupId minimumStake j) ∧
    (∀ pre req post, reqs = pre ++ req :: post →
      let before := fresh.admits sha256 k256 pre
      (¬ ∃ j, (before.admitRequest sha256 k256 req).1 = .ok j) →
        (before.admitRequest sha256 k256 req).2 = before) ∧
    (∀ pre req post, reqs = pre ++ req :: post →
      ∀ j ∈ fresh.admitted sha256 k256 pre, ∀ j', verifyReceipt risc0 req.receipt = .ok j' →
        j'.nullifier = j.nullifier →
        ¬ ∃ j'', ((fresh.admits sha256 k256 pre).admitRequest sha256 k256 req).1 = .ok j'') ∧
    ∀ pre seg seg' post, reqs = pre ++ seg ++ post → seg.Perm seg' →
      (seg.filterMap MembershipRequest.nullifier).Nodup →
      fresh.admits sha256 k256 (pre ++ seg' ++ post) = roster := by
  intro fresh roster admitted
  refine ⟨used_admits _ _ _, members_admits _ _ _, members_card_le _ _ _, ?_, ?_, ?_, ?_⟩
  · intro pk hpk
    rw [members_admits, List.mem_toFinset] at hpk
    obtain ⟨j, hj, rfl⟩ := List.mem_map.mp hpk
    obtain ⟨req, hreq, hv⟩ := admitted_verified hj
    exact ⟨req, hreq, j, rfl, hv⟩
  · intro pre req post _ before
    exact admitRequest_error
  · intro pre req post _ j hj j' hreceipt hsame
    refine admitRequest_of_used hreceipt ?_
    rw [used_admits, List.mem_toFinset, hsame]
    exact List.mem_map_of_mem hj
  · intro pre seg seg' post hreqs hp hnd
    change _ = fresh.admits sha256 k256 reqs
    rw [hreqs, admits_append, admits_append, admits_append, admits_append, admits_perm _ hp hnd]

end Roster

/-! The sample account asks to join the group "lounge". -/

namespace Scenario

def loungeJournal : PublicJournal where
  merkleRoot := Sample.tree.root Sha256.digest
  threshold := 100000
  contextId := groupContextId Sha256.digest "lounge"
  presenterPubkey := .replicate 33 2
  nullifier := computeNullifier Sha256.digest (.replicate 33 2) (groupContextId Sha256.digest "lounge")
    (Sample.witness.accountId Sha256.digest)

theorem attest_loungeJournal :
    attest Sha256.digest Sample.witness loungeJournal.statement = .ok loungeJournal.nullifier :=
  attest_eq_ok.mpr ⟨(attest_eq_ok.mp Sample.attest_witness).1, by decide, rfl⟩

def loungeMembership : MembershipRequest Risc0.ofJournals := ⟨loungeJournal, .replicate 32 9, [0x30]⟩

def loungeKeys : K256 := .ofTable [(loungeJournal.presenterPubkey.toList,
  (presenterChallengeDigest Sha256.digest (.replicate 32 9) loungeJournal).toList, [0x30])]

theorem loungeMembership_verified :
    loungeMembership.Verified Sha256.digest loungeKeys "lounge" 100000 loungeJournal where
  receipt := rfl
  context := rfl
  stake := by decide
  signature := by
    obtain ⟨hkey, hsignature, hverify⟩ := K256.ofTable_singleton loungeJournal.presenterPubkey.toList
      (presenterChallengeDigest Sha256.digest (.replicate 32 9) loungeJournal).toList [0x30]
    exact ⟨_, _, hkey, hsignature, (hverify _).mpr rfl⟩

end Scenario

end BalanceAttestation
