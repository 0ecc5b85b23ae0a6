import BalanceAttestation.GovernanceGate
import BalanceAttestation.Registry

/-! The tally over whole runs of votes: what each nullifier counts for is what
its first gate-passing call asked for, and failing calls count for nothing. -/

namespace BalanceAttestation

open Checks ClaimOnce VerifierProgram

section

variable (sha256 : HashFn) (k256 : K256)

def VoteCall.passes (c : VoteCall) : Bool := (checkGate sha256 k256 c.gateInputs).isOk

def VoteCall.claim (c : VoteCall) : Option (Bytes 32 × Bool) :=
  if c.passes sha256 k256 then some (c.attestation.nullifier, c.voteYes) else none

/-- The direction of the first gate-passing call that carries the nullifier. -/
def firstVote (calls : List VoteCall) (nullifier : Bytes 32) : Option Bool :=
  (calls.find? fun c => c.passes sha256 k256 ∧ c.attestation.nullifier = nullifier).map
    VoteCall.voteYes

def successfulVotes (state : ProposalState) : List VoteCall → List VoteCall
  | [] => []
  | c :: calls =>
    let later := successfulVotes (castVote sha256 k256 state c).2 calls
    if (castVote sha256 k256 state c).1.isOk then c :: later else later

end

def ProposalState.registry : Registry ProposalState (Bytes 32) Bool where
  used := usedNullifiers
  record state p :=
    { yesVotes := if p.2 then state.yesVotes + 1 else state.yesVotes
      noVotes := if p.2 then state.noVotes else state.noVotes + 1
      usedNullifiers := insert p.1 state.usedNullifiers }
  used_record _ _ := rfl

section Tally

variable {sha256 : HashFn} {k256 : K256} {state : ProposalState} {c : VoteCall}

theorem VoteCall.passes_iff :
    c.passes sha256 k256 = true ↔ checkGate sha256 k256 c.gateInputs = .ok () := by
  rw [VoteCall.passes, isOk_iff]
  constructor
  · intro h
    obtain ⟨_, h⟩ := h
    exact h
  · intro h
    exact ⟨(), h⟩

theorem VoteCall.key_claim {n : Bytes 32} : key (VoteCall.claim sha256 k256) c = some n ↔
    c.passes sha256 k256 = true ∧ c.attestation.nullifier = n := by
  rw [key, VoteCall.claim]
  split <;> simp [*]

theorem firstVote_eq (calls : List VoteCall) (n : Bytes 32) :
    firstVote sha256 k256 calls n = firstClaim (VoteCall.claim sha256 k256) calls n := by
  apply Option.ext
  intro yes
  rw [firstClaim_eq_some, firstVote, Option.map_eq_some_iff]
  simp only [VoteCall.key_claim]
  apply exists_congr
  intro c
  apply and_congr_right
  intro hfind
  have hc := List.find?_some hfind
  simp only [decide_eq_true_eq] at hc
  simp [VoteCall.claim, hc.1, hc.2]

theorem castVote_outcome (sha256 : HashFn) (k256 : K256) (state : ProposalState) (c : VoteCall) :
    ProposalState.registry.Outcome .nullifierReused state (c.claim sha256 k256)
      (castVote sha256 k256 state c) := by
  rw [VoteCall.claim]
  rcases castVote_cases sha256 k256 state c with ⟨e, hgate, hcast⟩ | ⟨hgate, hused, hcast⟩ |
    ⟨hgate, hnew, hcast⟩
  · have hfails : ¬ c.passes sha256 k256 = true := by rw [VoteCall.passes_iff, hgate]; simp
    rw [hcast, if_neg hfails]
    exact .refused (by simp)
  · rw [hcast, if_pos (VoteCall.passes_iff.mpr hgate)]
    exact .taken hused
  · rw [hcast, if_pos (VoteCall.passes_iff.mpr hgate)]
    exact .recorded () hnew

theorem castVotes_eq_runs (state : ProposalState) (calls : List VoteCall) :
    castVotes sha256 k256 state calls =
      ProposalState.registry.runs (VoteCall.claim sha256 k256) state calls :=
  Registry.foldl_eq_runs (P := fun _ => True) (fun _ _ _ => trivial)
    (fun state c _ => castVote_outcome sha256 k256 state c) trivial calls

theorem castVotes_append (state : ProposalState) (pre post : List VoteCall) :
    castVotes sha256 k256 state (pre ++ post) =
      castVotes sha256 k256 (castVotes sha256 k256 state pre) post := List.foldl_append

theorem castVote_error (h : (castVote sha256 k256 state c).1 ≠ .ok ()) :
    (castVote sha256 k256 state c).2 = state := by
  refine (castVote_outcome sha256 k256 state c).eq_of_error ?_
  intro hok
  obtain ⟨_, hok⟩ := hok
  exact h hok

theorem castVotes_successful (state : ProposalState) (calls : List VoteCall) :
    castVotes sha256 k256 state (successfulVotes sha256 k256 state calls) =
      castVotes sha256 k256 state calls := by
  induction calls generalizing state with
  | nil => rfl
  | cons c calls ih =>
    change _ = castVotes sha256 k256 (castVote sha256 k256 state c).2 calls
    rw [successfulVotes]
    by_cases hok : (castVote sha256 k256 state c).1.isOk = true
    · rw [if_pos hok]
      exact ih _
    · have herr : (castVote sha256 k256 state c).1 ≠ .ok () := fun h => hok (by rw [h]; rfl)
      rw [if_neg hok, castVote_error herr, ih]

theorem ProposalState.registry_comm (s : ProposalState) (p q : Bytes 32 × Bool) :
    registry.record (registry.record s p) q = registry.record (registry.record s q) p := by
  obtain ⟨n, yes⟩ := p
  obtain ⟨n', yes'⟩ := q
  cases yes <;> cases yes' <;> simp [registry, Finset.insert_comm]

theorem castVotes_perm (state : ProposalState) {calls calls' : List VoteCall}
    (hp : calls.Perm calls') (hnd : (calls.map fun c => c.attestation.nullifier).Nodup) :
    castVotes sha256 k256 state calls = castVotes sha256 k256 state calls' := by
  have hkeys : (calls.filterMap (key (VoteCall.claim sha256 k256))).Sublist
      (calls.map fun c => c.attestation.nullifier) := by
    rw [← List.filterMap_eq_map]
    exact filterMap_key_sublist (fun c n h => congrArg some (VoteCall.key_claim.mp h).2) calls
  rw [castVotes_eq_runs, castVotes_eq_runs]
  exact Registry.runs_perm ProposalState.registry_comm hp (hnd.sublist hkeys) state

def ProposalState.votes (s : ProposalState) (yes : Bool) : UInt64 :=
  if yes then s.yesVotes else s.noVotes

theorem votes_record (s : ProposalState) (p : Bytes 32 × Bool) (yes : Bool) :
    (ProposalState.registry.record s p).votes yes =
      if p.2 = yes then s.votes yes + 1 else s.votes yes := by
  cases hp : p.2 <;> cases yes <;> simp [ProposalState.registry, ProposalState.votes, hp]

theorem votes_foldl (s : ProposalState) (log : List (Bytes 32 × Bool)) (yes : Bool) :
    (log.foldl ProposalState.registry.record s).votes yes =
      s.votes yes + UInt64.ofNat (log.countP fun p => p.2 = yes) := by
  induction log generalizing s with
  | nil => simp
  | cons p log ih =>
    rw [List.foldl_cons, ih, votes_record, List.countP_cons]
    by_cases hp : p.2 = yes
    · simp only [hp, decide_true, if_true, UInt64.ofNat_add, UInt64.add_assoc]
      rw [UInt64.add_comm 1]
      rfl
    · simp [hp]

theorem castVotes_used (calls : List VoteCall) :
    (castVotes sha256 k256 .default calls).usedNullifiers =
      run (key (VoteCall.claim sha256 k256)) ∅ calls := by
  rw [castVotes_eq_runs]
  exact Registry.used_runs (r := ProposalState.registry) .default calls

/-- Short of 2^64 calls a counter is the number of nullifiers first used for it. -/
theorem votes_toNat (sha256 : HashFn) (k256 : K256) {calls : List VoteCall}
    (hlen : calls.length < 2 ^ 64) (yes : Bool) :
    ((castVotes sha256 k256 .default calls).votes yes).toNat =
      ((castVotes sha256 k256 .default calls).usedNullifiers.filter
        fun n => firstVote sha256 k256 calls n = some yes).card := by
  have hstate : castVotes sha256 k256 .default calls =
      (claims (VoteCall.claim sha256 k256) ∅ calls).foldl ProposalState.registry.record .default :=
    (castVotes_eq_runs _ _).trans (Registry.runs_eq_foldl _ _)
  have hzero : ProposalState.default.votes yes = 0 := by cases yes <;> rfl
  have hcount : (claims (VoteCall.claim sha256 k256) ∅ calls).countP (fun p => p.2 = yes) < 2 ^ 64 :=
    (List.countP_le_length.trans (claims_length_le _ _)).trans_lt hlen
  simp only [firstVote_eq, castVotes_used, card_firstClaim]
  rw [hstate, votes_foldl, hzero, UInt64.zero_add, UInt64.toNat_ofNat_of_lt' hcount]

theorem yesVotes_add_noVotes (sha256 : HashFn) (k256 : K256) {calls : List VoteCall}
    (hlen : calls.length < 2 ^ 64) :
    (castVotes sha256 k256 .default calls).yesVotes.toNat +
      (castVotes sha256 k256 .default calls).noVotes.toNat =
        (castVotes sha256 k256 .default calls).usedNullifiers.card := by
  have hyes := votes_toNat sha256 k256 hlen true
  have hno := votes_toNat sha256 k256 hlen false
  have hsplit := List.length_eq_countP_add_countP (l := claims (VoteCall.claim sha256 k256) ∅ calls)
    (p := fun p => decide (p.2 = true))
  simp only [firstVote_eq, castVotes_used, card_firstClaim] at hyes hno
  change (castVotes sha256 k256 .default calls).yesVotes.toNat = _ at hyes
  change (castVotes sha256 k256 .default calls).noVotes.toNat = _ at hno
  rw [castVotes_used, card_run, hyes, hno, hsplit]
  simp

theorem usedNullifiers_card_le (sha256 : HashFn) (k256 : K256) (calls : List VoteCall) :
    (castVotes sha256 k256 .default calls).usedNullifiers.card ≤ calls.length := by
  rw [castVotes_used, card_run]
  exact claims_length_le _ _

/-- The tally of a run: the nullifiers of the gate-passing calls, each counted
once and for the side its first such call took. No increment overflows, a
failing call changes nothing, and votes under different nullifiers commute. -/
theorem governance_tally (sha256 : HashFn) (k256 : K256) {calls : List VoteCall}
    (hlen : calls.length < 2 ^ 64) :
    let state := castVotes sha256 k256 .default calls
    let first (yes : Bool) :=
      state.usedNullifiers.filter fun n => firstVote sha256 k256 calls n = some yes
    (∀ n, n ∈ state.usedNullifiers ↔
      ∃ c ∈ calls, checkGate sha256 k256 c.gateInputs = .ok () ∧ c.attestation.nullifier = n) ∧
    (state.yesVotes.toNat = (first true).card ∧ state.noVotes.toNat = (first false).card ∧
      state.yesVotes.toNat + state.noVotes.toNat = state.usedNullifiers.card) ∧
    (∀ pre c post, calls = pre ++ c :: post →
      let before := castVotes sha256 k256 .default pre
      before.yesVotes.toNat + 1 < 2 ^ 64 ∧ before.noVotes.toNat + 1 < 2 ^ 64 ∧
      ((castVote sha256 k256 before c).1 ≠ .ok () → (castVote sha256 k256 before c).2 = before)) ∧
    castVotes sha256 k256 .default (successfulVotes sha256 k256 .default calls) = state ∧
    ∀ pre votes votes' post, calls = pre ++ votes ++ post → votes.Perm votes' →
      (votes.map fun c => c.attestation.nullifier).Nodup →
      castVotes sha256 k256 .default (pre ++ votes' ++ post) = state := by
  intro state first
  refine ⟨?_, ⟨votes_toNat _ _ hlen true, votes_toNat _ _ hlen false,
    yesVotes_add_noVotes _ _ hlen⟩, ?_,
    castVotes_successful _ _, ?_⟩
  · intro n
    simp only [state, castVotes_used, mem_run, Finset.notMem_empty, false_or, VoteCall.key_claim,
      VoteCall.passes_iff]
  · intro pre c post hcalls before
    have hpre : pre.length + 1 ≤ calls.length := by
      rw [hcalls, List.length_append, List.length_cons]
      omega
    have hsum := yesVotes_add_noVotes sha256 k256 (show pre.length < 2 ^ 64 by omega)
    have hcard := usedNullifiers_card_le sha256 k256 pre
    change before.yesVotes.toNat + before.noVotes.toNat = before.usedNullifiers.card at hsum
    change before.usedNullifiers.card ≤ pre.length at hcard
    exact ⟨by omega, by omega, castVote_error⟩
  · intro pre votes votes' post hcalls hp hnd
    change _ = castVotes sha256 k256 .default calls
    rw [hcalls, castVotes_append, castVotes_append, castVotes_append, castVotes_append,
      castVotes_perm _ hp hnd]

end Tally

open Scenario in
theorem governance_tally_relayed :
    let state := castVotes Sha256.digest voteK256 .default [vote true, vote false]
    state.yesVotes.toNat + state.noVotes.toNat = state.usedNullifiers.card ∧
    castVotes Sha256.digest voteK256 .default
      (successfulVotes Sha256.digest voteK256 .default [vote true, vote false]) = state := by
  have hlen : [vote true, vote false].length < 2 ^ 64 := by decide
  obtain ⟨_, ⟨_, _, hsum⟩, _, hok, _⟩ := governance_tally Sha256.digest voteK256 hlen
  exact ⟨hsum, hok⟩

end BalanceAttestation
