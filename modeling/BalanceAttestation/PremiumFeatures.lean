import Mathlib.Data.Finmap
import BalanceAttestation.GateAgreement
import BalanceAttestation.Registry

/-! Feature tiers: a verified credential for a tier's context and floor opens a
session of that tier, once per nullifier. -/

namespace BalanceAttestation

open Checks ClaimOnce VerifierOffchain

inductive ActivateError
  | verify (e : VerifyError)
  | nullifierReused
  deriving DecidableEq

inductive Tier
  | free
  | pro
  | enterprise
  deriving DecidableEq

namespace Tier

def minimumBalance : Tier → U128
  | free => 0
  | pro => 10000
  | enterprise => 1000000

def contextBytes (tier : Tier) : List UInt8 :=
  ascii "/lp-0005/integ/premium-features-v1/tier/" ++
    match tier with
    | free => ascii "free"
    | pro => ascii "pro"
    | enterprise => ascii "enterprise"

def contextId (sha256 : HashFn) (tier : Tier) : Bytes 32 := sha256 tier.contextBytes

end Tier

structure FeatureService where
  activeSessions : Finmap fun _ : Bytes 32 => Tier
  deriving DecidableEq

def FeatureService.default : FeatureService := ⟨∅⟩

structure ActivationRequest (risc0 : Risc0) where
  tier : Tier
  receipt : risc0.Receipt
  presenterNonce : Bytes 32
  presenterSignatureDer : List UInt8

section

variable (sha256 : HashFn) (k256 : K256) {risc0 : Risc0}

def FeatureService.activate (service : FeatureService) (req : ActivationRequest risc0) :
    Except ActivateError PublicJournal × FeatureService :=
  let ctx := req.tier.contextId sha256
  match verifyCredential sha256 k256 risc0 req.receipt req.presenterNonce req.presenterSignatureDer
    ctx req.tier.minimumBalance with
  | .error e => (.error (.verify e), service)
  | .ok journal =>
    if journal.nullifier ∈ service.activeSessions then (.error .nullifierReused, service)
    else (.ok journal, ⟨service.activeSessions.insert journal.nullifier req.tier⟩)

def FeatureService.tierFor (service : FeatureService) (nullifier : Bytes 32) : Option Tier :=
  service.activeSessions.lookup nullifier

def FeatureService.activates (service : FeatureService) (reqs : List (ActivationRequest risc0)) :
    FeatureService :=
  reqs.foldl (fun service req => (service.activate sha256 k256 req).2) service

def ActivationRequest.journal (req : ActivationRequest risc0) : Option PublicJournal :=
  (verifyCredential sha256 k256 risc0 req.receipt req.presenterNonce req.presenterSignatureDer
    (req.tier.contextId sha256) req.tier.minimumBalance).toOption

def ActivationRequest.claim (req : ActivationRequest risc0) : Option (Bytes 32 × Tier) :=
  (req.journal sha256 k256).map fun j => (j.nullifier, req.tier)

/-- The tier that the first gate-passing request with the nullifier asks for. -/
def firstTier (reqs : List (ActivationRequest risc0)) (nullifier : Bytes 32) : Option Tier :=
  (reqs.find? fun req =>
    (req.journal sha256 k256).map PublicJournal.nullifier = some nullifier).map
      ActivationRequest.tier

end

def FeatureService.registry : Registry FeatureService (Bytes 32) Tier where
  used service := service.activeSessions.keys
  record service p := ⟨service.activeSessions.insert p.1 p.2⟩
  used_record service p := by
    ext n
    simp [Finmap.mem_keys, Finmap.mem_insert]

section Sessions

variable {sha256 : HashFn} {k256 : K256} {risc0 : Risc0} {service : FeatureService}
  {req : ActivationRequest risc0}

structure ActivationRequest.Verified (sha256 : HashFn) (k256 : K256)
    (req : ActivationRequest risc0) (j : PublicJournal) : Prop where
  receipt : verifyReceipt risc0 req.receipt = .ok j
  context : j.contextId = req.tier.contextId sha256
  balance : req.tier.minimumBalance ≤ j.threshold
  signature : SignatureVerifies sha256 k256 req.presenterNonce j req.presenterSignatureDer

theorem ActivationRequest.journal_eq_some {j : PublicJournal} :
    req.journal sha256 k256 = some j ↔ req.Verified sha256 k256 j := by
  rw [ActivationRequest.journal, toOption_eq_some, verifyCredential_eq_ok]
  constructor
  · intro h
    obtain ⟨hr, hc, hb, hs⟩ := h
    exact ⟨hr, hc, hb, hs⟩
  · intro h
    exact ⟨h.receipt, h.context, h.balance, h.signature⟩

theorem ActivationRequest.claim_eq_some {n : Bytes 32} {t : Tier} :
    req.claim sha256 k256 = some (n, t) ↔
      ∃ j, req.Verified sha256 k256 j ∧ j.nullifier = n ∧ req.tier = t := by
  simp only [ActivationRequest.claim, Option.map_eq_some_iff, journal_eq_some, Prod.mk.injEq]

theorem ActivationRequest.key_claim : key (ActivationRequest.claim sha256 k256) req =
    (req.journal sha256 k256).map PublicJournal.nullifier := by
  rw [key, ActivationRequest.claim, Option.map_map]
  rfl

theorem firstTier_eq (reqs : List (ActivationRequest risc0)) (n : Bytes 32) :
    firstTier sha256 k256 reqs n = firstClaim (ActivationRequest.claim sha256 k256) reqs n := by
  apply Option.ext
  intro t
  rw [firstClaim_eq_some, firstTier, Option.map_eq_some_iff]
  simp only [ActivationRequest.key_claim]
  apply exists_congr
  intro req
  apply and_congr_right
  intro hfind
  have hkey := List.find?_some hfind
  simp only [decide_eq_true_eq, Option.map_eq_some_iff] at hkey
  obtain ⟨j, hj, hn⟩ := hkey
  simp [ActivationRequest.claim, hj, hn]

theorem activate_cases (sha256 : HashFn) (k256 : K256) (service : FeatureService)
    (req : ActivationRequest risc0) :
    (∃ e, req.journal sha256 k256 = none ∧
      service.activate sha256 k256 req = (.error (.verify e), service)) ∨
    (∃ j, req.journal sha256 k256 = some j ∧ j.nullifier ∈ service.activeSessions ∧
      service.activate sha256 k256 req = (.error .nullifierReused, service)) ∨
    (∃ j, req.journal sha256 k256 = some j ∧ j.nullifier ∉ service.activeSessions ∧
      service.activate sha256 k256 req =
        (.ok j, FeatureService.registry.record service (j.nullifier, req.tier))) := by
  rw [FeatureService.activate, ActivationRequest.journal]
  cases hverify : verifyCredential sha256 k256 risc0 req.receipt req.presenterNonce
      req.presenterSignatureDer (req.tier.contextId sha256) req.tier.minimumBalance with
  | error e => exact .inl ⟨e, rfl, rfl⟩
  | ok j =>
    by_cases hused : j.nullifier ∈ service.activeSessions
    · exact .inr (.inl ⟨j, rfl, hused, if_pos hused⟩)
    · exact .inr (.inr ⟨j, rfl, hused, if_neg hused⟩)

theorem activate_outcome (sha256 : HashFn) (k256 : K256) (service : FeatureService)
    (req : ActivationRequest risc0) :
    FeatureService.registry.Outcome .nullifierReused service (req.claim sha256 k256)
      (service.activate sha256 k256 req) := by
  rw [ActivationRequest.claim]
  rcases activate_cases sha256 k256 service req with ⟨e, hj, hres⟩ | ⟨j, hj, hused, hres⟩ |
    ⟨j, hj, hnew, hres⟩
  · rw [hres, hj]
    exact .refused (by simp)
  · rw [hres, hj]
    exact .taken (Finmap.mem_keys.mpr hused)
  · rw [hres, hj]
    exact .recorded j fun hh => hnew (Finmap.mem_keys.mp hh)

theorem activate_error (h : ¬ ∃ j, (service.activate sha256 k256 req).1 = .ok j) :
    (service.activate sha256 k256 req).2 = service :=
  (activate_outcome sha256 k256 service req).eq_of_error h

theorem activates_eq_runs (service : FeatureService) (reqs : List (ActivationRequest risc0)) :
    service.activates sha256 k256 reqs =
      FeatureService.registry.runs (ActivationRequest.claim sha256 k256) service reqs :=
  Registry.foldl_eq_runs (P := fun _ => True) (fun _ _ _ => trivial)
    (fun service req _ => activate_outcome sha256 k256 service req) trivial reqs

theorem mem_keys_iff_tierFor (service : FeatureService) (n : Bytes 32) :
    n ∈ FeatureService.registry.used service ↔ (service.tierFor n).isSome := by
  rw [FeatureService.tierFor, Finmap.lookup_isSome, ← Finmap.mem_keys]
  rfl

theorem tierFor_record (service : FeatureService) (p : Bytes 32 × Tier) (n : Bytes 32) :
    (FeatureService.registry.record service p).tierFor n =
      if n = p.1 then some p.2 else service.tierFor n := by
  by_cases hn : n = p.1
  · rw [if_pos hn, hn]
    exact Finmap.lookup_insert _
  · rw [if_neg hn]
    exact Finmap.lookup_insert_of_ne _ hn

/-- A session stays as it is, and a nullifier without one gets the tier of its
first gate-passing request. -/
theorem tierFor_runs (service : FeatureService) (reqs : List (ActivationRequest risc0))
    (n : Bytes 32) : (service.activates sha256 k256 reqs).tierFor n =
      (service.tierFor n).or (firstTier sha256 k256 reqs n) := by
  rw [activates_eq_runs, firstTier_eq]
  exact Registry.value_runs mem_keys_iff_tierFor tierFor_record service reqs n

theorem activates_append (service : FeatureService) (pre post : List (ActivationRequest risc0)) :
    service.activates sha256 k256 (pre ++ post) =
      (service.activates sha256 k256 pre).activates sha256 k256 post := List.foldl_append

theorem tierFor_default (reqs : List (ActivationRequest risc0)) (n : Bytes 32) :
    (FeatureService.default.activates sha256 k256 reqs).tierFor n = firstTier sha256 k256 reqs n := by
  rw [tierFor_runs]
  exact Option.none_or

theorem firstTier_verified {reqs : List (ActivationRequest risc0)} {n : Bytes 32} {t : Tier}
    (h : firstTier sha256 k256 reqs n = some t) :
    ∃ req ∈ reqs, req.tier = t ∧ ∃ j, j.nullifier = n ∧ req.Verified sha256 k256 j := by
  rw [firstTier_eq] at h
  obtain ⟨req, hfind, hclaim⟩ := firstClaim_eq_some.mp h
  obtain ⟨j, hv, hn, ht⟩ := ActivationRequest.claim_eq_some.mp hclaim
  exact ⟨req, List.mem_of_find?_eq_some hfind, ht, j, hn, hv⟩

/-- The sessions after any run: each is of the tier its first gate-passing
request asked for, with a journal verified for that tier, and no later call
changes or removes it. A failing call changes nothing. -/
theorem sessions_runs (sha256 : HashFn) (k256 : K256) (reqs : List (ActivationRequest risc0)) :
    let service := FeatureService.default.activates sha256 k256 reqs
    (∀ n t, service.activeSessions.lookup n = some t → ∃ req ∈ reqs, req.tier = t ∧
      ∃ j, j.nullifier = n ∧ req.Verified sha256 k256 j) ∧
    (∀ pre post, reqs = pre ++ post → ∀ n t,
      (FeatureService.default.activates sha256 k256 pre).tierFor n = some t →
        service.tierFor n = some t) ∧
    (∀ pre req post, reqs = pre ++ req :: post →
      let before := FeatureService.default.activates sha256 k256 pre
      (¬ ∃ j, (before.activate sha256 k256 req).1 = .ok j) →
        (before.activate sha256 k256 req).2 = before) ∧
    ∀ n t, service.tierFor n = some t ↔ firstTier sha256 k256 reqs n = some t := by
  intro service
  refine ⟨?_, ?_, ?_, ?_⟩
  · intro n t h
    have htier : service.tierFor n = some t := h
    rw [tierFor_default] at htier
    exact firstTier_verified htier
  · intro pre post hreqs n t h
    change (FeatureService.default.activates sha256 k256 reqs).tierFor n = some t
    rw [hreqs, activates_append, tierFor_runs, h, Option.some_or]
  · intro pre req post _ before
    exact activate_error
  · intro n t
    rw [tierFor_default]

end Sessions

end BalanceAttestation
