import Mathlib.Data.Finset.Prod
import BalanceAttestation.ChatGate
import BalanceAttestation.GateContexts
import BalanceAttestation.GovernanceTally
import BalanceAttestation.PremiumFeatures

/-! What a nullifier stands for across the integrations. Proposals, rosters and
services run side by side, and every journal comes out of `attest`; a store then
refuses exactly the presenter keys and accounts it has already accepted. -/

namespace BalanceAttestation

open Checks ClaimOnce VerifierOffchain VerifierProgram

inductive Store (P G S : Type)
  | proposal (p : P)
  | roster (g : G)
  | service (s : S)
  deriving DecidableEq

structure GroupConfig where
  groupId : String
  minimumStake : U128

abbrev GroupConfig.Roster (config : GroupConfig) :=
  {roster : GroupRoster // roster.groupId = config.groupId ∧
    roster.minimumStake = config.minimumStake}

inductive Call (risc0 : Risc0) (P G S : Type)
  | vote (p : P) (c : VoteCall)
  | admission (g : G) (req : MembershipRequest risc0)
  | activation (s : S) (req : ActivationRequest risc0)

inductive Verdict
  | accepted
  | nullifierReused
  | rejected
  deriving DecidableEq

def Verdict.of {ε α : Type} [DecidableEq ε] (reused : ε) : Except ε α → Verdict
  | .ok _ => accepted
  | .error e => if e = reused then nullifierReused else rejected

section

variable {P G S : Type} [DecidableEq P] [DecidableEq G] [DecidableEq S]

structure Deployment (P : Type) {G : Type} (S : Type) (groups : G → GroupConfig) where
  proposals : P → ProposalState
  rosters : ∀ g, (groups g).Roster
  services : S → FeatureService

variable {groups : G → GroupConfig}

namespace Deployment

def fresh (groups : G → GroupConfig) : Deployment P S groups where
  proposals _ := .default
  rosters g := ⟨.new (groups g).groupId (groups g).minimumStake, rfl, rfl⟩
  services _ := .default

def used (d : Deployment P S groups) : Store P G S → Finset (Bytes 32)
  | .proposal p => (d.proposals p).usedNullifiers
  | .roster g => (d.rosters g).1.usedNullifiers
  | .service s => (d.services s).activeSessions.keys

def setProposal (d : Deployment P S groups) (p : P) (proposal : ProposalState) :
    Deployment P S groups :=
  { d with proposals := Function.update d.proposals p proposal }

def setRoster (d : Deployment P S groups) (g : G) (roster : (groups g).Roster) :
    Deployment P S groups :=
  { d with rosters := Function.update d.rosters g roster }

def setService (d : Deployment P S groups) (s : S) (service : FeatureService) :
    Deployment P S groups :=
  { d with services := Function.update d.services s service }

variable (sha256 : HashFn) (k256 : K256) {risc0 : Risc0}

def call (d : Deployment P S groups) : Call risc0 P G S → Verdict × Deployment P S groups
  | .vote p c =>
    let result := castVote sha256 k256 (d.proposals p) c
    (.of .nullifierReused result.1, d.setProposal p result.2)
  | .admission g req =>
    let roster := d.rosters g
    let result := roster.1.admitRequest sha256 k256 req
    have hconfig := admitRequest_config sha256 k256 roster.1 req
    (.of .nullifierReused result.1,
      d.setRoster g ⟨result.2, hconfig.1.trans roster.2.1, hconfig.2.trans roster.2.2⟩)
  | .activation s req =>
    let result := (d.services s).activate sha256 k256 req
    (.of .nullifierReused result.1, d.setService s result.2)

def calls (d : Deployment P S groups) (cs : List (Call risc0 P G S)) : Deployment P S groups :=
  cs.foldl (fun d c => (d.call sha256 k256 c).2) d

end Deployment

end

namespace Call

variable {P G S : Type} {risc0 : Risc0}

def store : Call risc0 P G S → Store P G S
  | vote p _ => .proposal p
  | admission g _ => .roster g
  | activation s _ => .service s

/-- The journal the request carries, whether or not it passes the gate. -/
def journal : Call risc0 P G S → Option PublicJournal
  | vote _ c => some c.attestation
  | admission _ req => (verifyReceipt risc0 req.receipt).toOption
  | activation _ req => (verifyReceipt risc0 req.receipt).toOption

def passes (sha256 : HashFn) (k256 : K256) (groups : G → GroupConfig) :
    Call risc0 P G S → Option PublicJournal
  | vote _ c => if c.passes sha256 k256 then some c.attestation else none
  | admission g req => (req.claim sha256 k256 (groups g).groupId (groups g).minimumStake).map Prod.snd
  | activation _ req => req.journal sha256 k256

def key (sha256 : HashFn) (k256 : K256) (groups : G → GroupConfig) (c : Call risc0 P G S) :
    Option (Store P G S × Bytes 32) :=
  (c.passes sha256 k256 groups).map fun j => (c.store, j.nullifier)

def tier : Call risc0 P G S → Option Tier
  | activation _ req => some req.tier
  | _ => none

end Call

/-- A call whose journal a successful `attest` on the witness produced. -/
structure AttestedCall (sha256 : HashFn) (risc0 : Risc0) (P G S : Type) where
  call : Call risc0 P G S
  witness : PrivateInputs
  attested : ∀ j, call.journal = some j → attest sha256 witness j.statement = .ok j.nullifier

structure Identity (P G S : Type) where
  store : Store P G S
  presenterPubkey : Bytes 33
  contextId : Bytes 32
  accountId : Bytes 32
  deriving DecidableEq

namespace AttestedCall

variable {sha256 : HashFn} {risc0 : Risc0} {P G S : Type}

def identity (c : AttestedCall sha256 risc0 P G S) : Option (Identity P G S) :=
  c.call.journal.map fun j =>
    ⟨c.call.store, j.presenterPubkey, j.contextId, c.witness.accountId sha256⟩

def nullifierString (c : AttestedCall sha256 risc0 P G S) : Option (List UInt8) :=
  c.call.journal.map fun j =>
    nullifierBytes j.presenterPubkey j.contextId (c.witness.accountId sha256)

/-- The strings hashed for the nullifiers of a run and the contexts of the tiers. -/
def strings (cs : List (AttestedCall sha256 risc0 P G S)) : List (List UInt8) :=
  cs.filterMap nullifierString ++ [Tier.free, .pro, .enterprise].map Tier.contextBytes

def verdictAt [DecidableEq P] [DecidableEq G] [DecidableEq S] (k256 : K256)
    (groups : G → GroupConfig) (cs : List (AttestedCall sha256 risc0 P G S)) (i : Nat)
    (c : AttestedCall sha256 risc0 P G S) : Verdict :=
  (((Deployment.fresh groups).calls sha256 k256 ((cs.take i).map call)).call sha256 k256 c.call).1

end AttestedCall

section Calls

variable {sha256 : HashFn} {k256 : K256} {risc0 : Risc0} {P G S : Type} {groups : G → GroupConfig}
  {c : Call risc0 P G S}

theorem Call.journal_of_passes {j : PublicJournal} (h : c.passes sha256 k256 groups = some j) :
    c.journal = some j := by
  cases c with
  | vote p c =>
    simp only [Call.passes, Option.ite_none_right_eq_some] at h
    exact h.2
  | admission g req =>
    obtain ⟨⟨n, j'⟩, hclaim, rfl⟩ := Option.map_eq_some_iff.mp h
    exact toOption_eq_some.mpr (MembershipRequest.claim_eq_some.mp hclaim).1.receipt
  | activation s req =>
    exact toOption_eq_some.mpr (ActivationRequest.journal_eq_some.mp h).receipt

variable [DecidableEq P] [DecidableEq G] [DecidableEq S] (d : Deployment P S groups)

namespace Deployment

theorem used_setProposal (p : P) (proposal : ProposalState) :
    (d.setProposal p proposal).used =
      Function.update d.used (.proposal p) proposal.usedNullifiers := by
  funext store
  cases store with
  | proposal q =>
    by_cases hq : q = p
    · subst hq
      simp [setProposal, used]
    · simp [setProposal, used, hq]
  | roster g => simp [setProposal, used]
  | service s => simp [setProposal, used]

theorem used_setRoster (g : G) (roster : (groups g).Roster) :
    (d.setRoster g roster).used =
      Function.update d.used (.roster g) roster.1.usedNullifiers := by
  funext store
  cases store with
  | proposal p => simp [setRoster, used]
  | roster h =>
    by_cases hh : h = g
    · subst hh
      simp [setRoster, used]
    · simp [setRoster, used, hh]
  | service s => simp [setRoster, used]

theorem used_setService (s : S) (service : FeatureService) :
    (d.setService s service).used =
      Function.update d.used (.service s) service.activeSessions.keys := by
  funext store
  cases store with
  | proposal p => simp [setService, used]
  | roster g => simp [setService, used]
  | service t =>
    by_cases ht : t = s
    · subst ht
      simp [setService, used]
    · simp [setService, used, ht]

/-- What a call does to the store it is for, whichever registry that keeps. -/
theorem outcome_cases {L σ ν ε α : Type} [DecidableEq L] [DecidableEq ε] {r : Registry σ (Bytes 32) ν}
    {reused : ε} {s : σ} {claim : Option (Bytes 32 × ν)} {res : Except ε α × σ}
    (h : r.Outcome reused s claim res) {passes : Option PublicJournal}
    (hclaim : passes.map PublicJournal.nullifier = claim.map Prod.fst)
    {used : L → Finset (Bytes 32)} {store : L} (hstore : used store = r.used s) :
    let verdict := Verdict.of reused res.1
    let used' := Function.update used store (r.used res.2)
    (passes = none ∧ verdict = .rejected ∧ used' = used) ∨
    (∃ j, passes = some j ∧ j.nullifier ∈ used store ∧ verdict = .nullifierReused ∧ used' = used) ∨
    (∃ j, passes = some j ∧ j.nullifier ∉ used store ∧ verdict = .accepted ∧
      used' = Function.update used store (insert j.nullifier (used store))) := by
  cases h with
  | refused he =>
    refine .inl ⟨Option.map_eq_none_iff.mp hclaim, if_neg he, ?_⟩
    rw [← hstore]
    exact Function.update_eq_self _ _
  | taken hused =>
    obtain ⟨j, hj, hn⟩ := Option.map_eq_some_iff.mp hclaim
    refine .inr (.inl ⟨j, hj, by rw [hstore, hn]; exact hused, if_pos rfl, ?_⟩)
    rw [← hstore]
    exact Function.update_eq_self _ _
  | recorded a hnew =>
    obtain ⟨j, hj, hn⟩ := Option.map_eq_some_iff.mp hclaim
    refine .inr (.inr ⟨j, hj, by rw [hstore, hn]; exact hnew, rfl, ?_⟩)
    rw [hstore, hn, r.used_record]

theorem call_cases (sha256 : HashFn) (k256 : K256) (c : Call risc0 P G S) :
    let verdict := (d.call sha256 k256 c).1
    let used := (d.call sha256 k256 c).2.used
    (c.passes sha256 k256 groups = none ∧ verdict = .rejected ∧ used = d.used) ∨
    (∃ j, c.passes sha256 k256 groups = some j ∧ j.nullifier ∈ d.used c.store ∧
      verdict = .nullifierReused ∧ used = d.used) ∨
    (∃ j, c.passes sha256 k256 groups = some j ∧ j.nullifier ∉ d.used c.store ∧
      verdict = .accepted ∧
      used = Function.update d.used c.store (insert j.nullifier (d.used c.store))) := by
  cases c with
  | vote p c =>
    have hclaim : ((Call.vote p c : Call risc0 P G S).passes sha256 k256 groups).map
        PublicJournal.nullifier = (c.claim sha256 k256).map Prod.fst := by
      rw [Call.passes, VoteCall.claim]
      split <;> rfl
    simp only [call, used_setProposal]
    exact outcome_cases (castVote_outcome sha256 k256 (d.proposals p) c) hclaim rfl
  | admission g req =>
    have hclaim : ((Call.admission g req : Call risc0 P G S).passes sha256 k256 groups).map
        PublicJournal.nullifier =
          (req.claim sha256 k256 (groups g).groupId (groups g).minimumStake).map Prod.fst := by
      simp only [Call.passes, MembershipRequest.claim, Option.map_map]
      rfl
    have houtcome := admitRequest_outcome sha256 k256 (d.rosters g).1 req
    rw [(d.rosters g).2.1, (d.rosters g).2.2] at houtcome
    simp only [call, used_setRoster]
    exact outcome_cases houtcome hclaim rfl
  | activation s req =>
    simp only [call, used_setService]
    exact outcome_cases (activate_outcome sha256 k256 (d.services s) req)
      ActivationRequest.key_claim.symm rfl

theorem mem_used_call (c : Call risc0 P G S) {store : Store P G S} {n : Bytes 32} :
    n ∈ (d.call sha256 k256 c).2.used store ↔
      n ∈ d.used store ∨ c.key sha256 k256 groups = some (store, n) := by
  rcases d.call_cases sha256 k256 c with ⟨hpass, _, hused⟩ | ⟨j, hpass, hmem, _, hused⟩ |
    ⟨j, hpass, _, _, hused⟩
  · simp [hused, Call.key, hpass]
  · rw [hused]
    refine (or_iff_left_of_imp ?_).symm
    intro hkey
    simp only [Call.key, hpass, Option.map_some, Option.some_inj, Prod.mk.injEq] at hkey
    obtain ⟨rfl, rfl⟩ := hkey
    exact hmem
  · rw [hused]
    by_cases hstore : store = c.store
    · subst hstore
      simp [Call.key, hpass, eq_comm, or_comm]
    · simp [Call.key, hpass, hstore, Ne.symm hstore]

theorem mem_used_calls (cs : List (Call risc0 P G S)) {store : Store P G S} {n : Bytes 32} :
    n ∈ (d.calls sha256 k256 cs).used store ↔
      n ∈ d.used store ∨ ∃ c ∈ cs, c.key sha256 k256 groups = some (store, n) := by
  induction cs generalizing d with
  | nil => simp [calls]
  | cons c cs ih =>
    change n ∈ (Deployment.calls sha256 k256 (d.call sha256 k256 c).2 cs).used store ↔ _
    rw [ih, mem_used_call]
    simp [or_assoc]

omit [DecidableEq P] [DecidableEq G] [DecidableEq S] in
theorem used_fresh (store : Store P G S) :
    (Deployment.fresh groups : Deployment P S groups).used store = ∅ := by
  cases store with
  | proposal p => rfl
  | roster g => rfl
  | service s => rfl

end Deployment

namespace AttestedCall

variable (k256) in
def guard (groups : G → GroupConfig) (c : AttestedCall sha256 risc0 P G S) :
    Option (Store P G S × Bytes 32) := c.call.key sha256 k256 groups

variable {cs : List (AttestedCall sha256 risc0 P G S)} {c c' : AttestedCall sha256 risc0 P G S}

theorem mem_used_run {store : Store P G S} {n : Bytes 32} :
    n ∈ ((Deployment.fresh groups).calls sha256 k256 (cs.map call)).used store ↔
      (store, n) ∈ run (guard k256 groups) ∅ cs := by
  rw [Deployment.mem_used_calls, Deployment.used_fresh, mem_run]
  simp [guard]

omit [DecidableEq P] [DecidableEq G] [DecidableEq S] in
theorem guard_eq_some {store : Store P G S} {n : Bytes 32} :
    guard k256 groups c = some (store, n) ↔
      ∃ j, c.call.passes sha256 k256 groups = some j ∧ c.call.store = store ∧ j.nullifier = n := by
  simp [guard, Call.key, Option.map_eq_some_iff]

theorem verdictAt_of_key (i : Nat) {k : Store P G S × Bytes 32} (hk : guard k256 groups c = some k) :
    verdictAt k256 groups cs i c =
      if k ∈ run (guard k256 groups) ∅ (cs.take i) then .nullifierReused else .accepted := by
  obtain ⟨store, n⟩ := k
  obtain ⟨j, hj, rfl, rfl⟩ := guard_eq_some.mp hk
  simp only [← mem_used_run]
  rw [verdictAt]
  rcases Deployment.call_cases _ sha256 k256 c.call with ⟨hpass, _⟩ | ⟨j', hpass, hmem, hverdict, _⟩ |
    ⟨j', hpass, hnew, hverdict, _⟩
  · rw [hj] at hpass
    cases hpass
  · obtain rfl := Option.some.inj (hj.symm.trans hpass)
    rw [hverdict, if_pos hmem]
  · obtain rfl := Option.some.inj (hj.symm.trans hpass)
    rw [hverdict, if_neg hnew]

theorem verdictAt_of_failing (i : Nat) (hk : guard k256 groups c = none) :
    verdictAt k256 groups cs i c = .rejected := by
  have hfails : c.call.passes sha256 k256 groups = none := Option.map_eq_none_iff.mp hk
  rw [verdictAt]
  rcases Deployment.call_cases _ sha256 k256 c.call with ⟨_, hverdict, _⟩ | ⟨j, hpass, _⟩ |
    ⟨j, hpass, _⟩
  · exact hverdict
  · rw [hfails] at hpass
    cases hpass
  · rw [hfails] at hpass
    cases hpass

theorem claimsAt_iff {i : Nat} {k : Store P G S × Bytes 32} :
    ClaimsAt (guard k256 groups) ∅ cs i k ↔ ∃ c, cs[i]? = some c ∧
      verdictAt k256 groups cs i c = .accepted ∧ guard k256 groups c = some k := by
  apply exists_congr
  intro c
  apply and_congr_right
  intro _
  constructor
  · intro h
    obtain ⟨hk, hnew⟩ := h
    exact ⟨(verdictAt_of_key i hk).trans (if_neg hnew), hk⟩
  · intro h
    obtain ⟨hverdict, hk⟩ := h
    refine ⟨hk, fun hmem => ?_⟩
    rw [verdictAt_of_key i hk, if_pos hmem] at hverdict
    cases hverdict

variable {j j' : PublicJournal}

omit [DecidableEq P] [DecidableEq G] [DecidableEq S]

theorem identity_of_passes (h : c.call.passes sha256 k256 groups = some j) :
    c.identity = some ⟨c.call.store, j.presenterPubkey, j.contextId, c.witness.accountId sha256⟩ := by
  rw [identity, Call.journal_of_passes h]
  rfl

theorem nullifierString_mem (hc : c ∈ cs) (h : c.call.passes sha256 k256 groups = some j) :
    nullifierBytes j.presenterPubkey j.contextId (c.witness.accountId sha256) ∈ strings cs := by
  refine List.mem_append_left _ (List.mem_filterMap.mpr ⟨c, hc, ?_⟩)
  rw [nullifierString, Call.journal_of_passes h]
  rfl

theorem nullifier_eq (h : c.call.passes sha256 k256 groups = some j) : j.nullifier =
    computeNullifier sha256 j.presenterPubkey j.contextId (c.witness.accountId sha256) :=
  (attest_eq_ok.mp (c.attested j (Call.journal_of_passes h))).2.2.symm

/-- Short of a collision a key is asked for by one identity. -/
theorem key_eq_iff_identity_eq (hfree : ¬ CollisionIn sha256 (strings cs)) (hc : c ∈ cs)
    (hc' : c' ∈ cs) {k k' : Store P G S × Bytes 32} (hk : guard k256 groups c = some k)
    (hk' : guard k256 groups c' = some k') : k = k' ↔ c.identity = c'.identity := by
  obtain ⟨store, n⟩ := k
  obtain ⟨store', n'⟩ := k'
  obtain ⟨j, hj, rfl, rfl⟩ := guard_eq_some.mp hk
  obtain ⟨j', hj', rfl, rfl⟩ := guard_eq_some.mp hk'
  rw [identity_of_passes hj, identity_of_passes hj', Option.some_inj, Identity.mk.injEq,
    Prod.mk.injEq]
  apply and_congr_right
  intro _
  rw [nullifier_eq hj, nullifier_eq hj']
  constructor
  · intro h
    rcases eq_or_collision (h := sha256) h with h | h
    · exact nullifierBytes_inj h
    · exact absurd (h.mem (nullifierString_mem hc hj) (nullifierString_mem hc' hj')) hfree
  · intro h
    obtain ⟨hpk, hctx, haccount⟩ := h
    rw [hpk, hctx, haccount]

theorem tier_eq (hfree : ¬ CollisionIn sha256 (strings cs))
    (hj : c.call.passes sha256 k256 groups = some j)
    (hj' : c'.call.passes sha256 k256 groups = some j') (h : c.identity = c'.identity) :
    c.call.tier = c'.call.tier := by
  rw [identity_of_passes hj, identity_of_passes hj', Option.some_inj, Identity.mk.injEq] at h
  obtain ⟨hstore, _, hctx, _⟩ := h
  have htier (t : Tier) : t.contextBytes ∈ strings cs := by
    refine List.mem_append_right _ (List.mem_map_of_mem ?_)
    cases t <;> decide
  cases hcall : c.call with
  | vote p v => cases hcall' : c'.call <;> simp_all [Call.store, Call.tier]
  | admission g req => cases hcall' : c'.call <;> simp_all [Call.store, Call.tier]
  | activation s req =>
    cases hcall' : c'.call with
    | vote p v => simp [hcall, hcall', Call.store] at hstore
    | admission g req' => simp [hcall, hcall', Call.store] at hstore
    | activation s' req' =>
      rw [hcall] at hj
      rw [hcall'] at hj'
      have hv := ActivationRequest.journal_eq_some.mp hj
      have hv' := ActivationRequest.journal_eq_some.mp hj'
      rw [hv.context, hv'.context] at hctx
      rcases eq_or_collision (h := sha256) hctx with h | h
      · exact congrArg some (Tier.contextBytes_injective h)
      · exact absurd (h.mem (htier _) (htier _)) hfree

end AttestedCall

end Calls

section Runs

open AttestedCall

variable {sha256 : HashFn} {k256 : K256} {risc0 : Risc0} {P G S : Type} [DecidableEq P]
  [DecidableEq G] [DecidableEq S] {groups : G → GroupConfig}
  {cs : List (AttestedCall sha256 risc0 P G S)} {c : AttestedCall sha256 risc0 P G S}

theorem claimsAt_iff_identity (hfree : ¬ CollisionIn sha256 (strings cs)) (hc : c ∈ cs)
    {k : Store P G S × Bytes 32} (hk : guard k256 groups c = some k) {i : Nat} :
    ClaimsAt (guard k256 groups) ∅ cs i k ↔ ∃ c', cs[i]? = some c' ∧
      verdictAt k256 groups cs i c' = .accepted ∧ c'.identity = c.identity := by
  rw [claimsAt_iff]
  apply exists_congr
  intro c'
  apply and_congr_right
  intro hi
  apply and_congr_right
  intro haccepted
  cases hk' : guard k256 groups c' with
  | none =>
    rw [verdictAt_of_failing i hk'] at haccepted
    cases haccepted
  | some k' =>
    rw [Option.some_inj]
    exact key_eq_iff_identity_eq hfree (List.mem_of_getElem? hi) hc hk' hk

/-- A gate-passing request is refused as a reuse exactly when its store accepted
its presenter key, context and account before, each of which is accepted once
in a run and for one store and tier; otherwise the run's strings collide. -/
theorem nullifier_identifies (sha256 : HashFn) (k256 : K256) (groups : G → GroupConfig)
    (cs : List (AttestedCall sha256 risc0 P G S)) :
    CollisionIn sha256 (strings cs) ∨
    (∀ i c, cs[i]? = some c → ∀ j, c.call.passes sha256 k256 groups = some j →
      let before := ∃ i' < i, ∃ c', cs[i']? = some c' ∧
        verdictAt k256 groups cs i' c' = .accepted ∧ c'.identity = c.identity
      (verdictAt k256 groups cs i c = .nullifierReused ↔ before) ∧
      (verdictAt k256 groups cs i c = .accepted ↔ ¬ before)) ∧
    (∀ c ∈ cs, ∀ j, c.call.passes sha256 k256 groups = some j →
      ∃! i, ∃ c', cs[i]? = some c' ∧
        verdictAt k256 groups cs i c' = .accepted ∧ c'.identity = c.identity) ∧
    ∀ c ∈ cs, ∀ j, c.call.passes sha256 k256 groups = some j →
      ∀ c' ∈ cs, ∀ j', c'.call.passes sha256 k256 groups = some j' →
        c.identity = c'.identity → c.call.store = c'.call.store ∧ c.call.tier = c'.call.tier := by
  by_cases hfree : CollisionIn sha256 (strings cs)
  · exact .inl hfree
  refine .inr ⟨?_, ?_, ?_⟩
  · intro i c hc j hj before
    have hk : guard k256 groups c = some (c.call.store, j.nullifier) :=
      guard_eq_some.mpr ⟨j, hj, rfl, rfl⟩
    have hbefore : (c.call.store, j.nullifier) ∈ run (guard k256 groups) ∅ (cs.take i) ↔ before := by
      rw [mem_run_take]
      apply exists_congr
      intro i'
      apply and_congr_right
      intro _
      exact claimsAt_iff_identity hfree (List.mem_of_getElem? hc) hk
    rw [verdictAt_of_key i hk]
    by_cases hmem : (c.call.store, j.nullifier) ∈ run (guard k256 groups) ∅ (cs.take i)
    · simp [hmem, hbefore.mp hmem]
    · simp [hmem, mt hbefore.mpr hmem]
  · intro c hc j hj
    have hk : guard k256 groups c = some (c.call.store, j.nullifier) :=
      guard_eq_some.mpr ⟨j, hj, rfl, rfl⟩
    obtain ⟨i, hi⟩ := exists_claimsAt (mem_run.mpr (.inr ⟨c, hc, hk⟩)) (Finset.notMem_empty _)
    refine ⟨i, (claimsAt_iff_identity hfree hc hk).mp hi, ?_⟩
    intro i' hi'
    exact ((claimsAt_iff_identity hfree hc hk).mpr hi').unique hi
  · intro c hc j hj c' hc' j' hj' h
    refine ⟨?_, tier_eq hfree hj hj' h⟩
    rw [identity_of_passes hj, identity_of_passes hj', Option.some_inj] at h
    exact congrArg Identity.store h

end Runs

/-! One request to join the group "lounge", sent twice. -/

namespace Scenario

def lounge : Unit → GroupConfig := fun _ => ⟨"lounge", 100000⟩

def loungeCall : AttestedCall Sha256.digest Risc0.ofJournals Unit Unit Unit where
  call := .admission () loungeMembership
  witness := Sample.witness
  attested j hj := by
    obtain rfl : loungeJournal = j := Option.some.inj hj
    exact attest_loungeJournal

theorem loungeCall_passes : loungeCall.call.passes Sha256.digest loungeKeys lounge = some loungeJournal :=
  Option.map_eq_some_iff.mpr
    ⟨_, MembershipRequest.claim_eq_some.mpr ⟨loungeMembership_verified, rfl⟩, rfl⟩

theorem loungeStrings_free : ¬ CollisionIn Sha256.digest (AttestedCall.strings [loungeCall, loungeCall]) := by
  decide +kernel

end Scenario

open Scenario AttestedCall in
theorem nullifier_identifies_lounge :
    let calls := [loungeCall, loungeCall]
    verdictAt loungeKeys lounge calls 0 loungeCall = .accepted ∧
      verdictAt loungeKeys lounge calls 1 loungeCall = .nullifierReused := by
  intro calls
  obtain ⟨hverdict, -⟩ :=
    (nullifier_identifies Sha256.digest loungeKeys lounge calls).resolve_left loungeStrings_free
  have hfirst := (hverdict 0 loungeCall rfl loungeJournal loungeCall_passes).2.mpr
    fun ⟨_, hlt, _⟩ => Nat.not_lt_zero _ hlt
  have hsecond := (hverdict 1 loungeCall rfl loungeJournal loungeCall_passes).1.mpr
    ⟨0, Nat.zero_lt_one, loungeCall, rfl, hfirst, rfl⟩
  exact ⟨hfirst, hsecond⟩

end BalanceAttestation
