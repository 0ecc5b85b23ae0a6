import Mathlib.Data.Finset.Card
import Mathlib.Data.List.Perm.Basic
import BalanceAttestation.ClaimOnce

/-! Stores in which the first passing call for a key is recorded and every
later one refused. The calls a run records do not depend on what the store
keeps of them, so a run is the fold of its claims. -/

namespace ClaimOnce

/-- A store that knows which keys are taken and records a claim at a time. -/
structure Registry (σ κ ν : Type*) [DecidableEq κ] where
  used : σ → Finset κ
  record : σ → κ × ν → σ
  used_record : ∀ s p, used (record s p) = insert p.1 (used s)

variable {σ ι κ ν : Type*}

def key (guard : ι → Option (κ × ν)) (c : ι) : Option κ := (guard c).map Prod.fst

theorem key_eq_some {guard : ι → Option (κ × ν)} {c : ι} {k : κ} :
    key guard c = some k ↔ ∃ v, guard c = some (k, v) := by
  simp [key]

theorem filterMap_key_sublist {guard : ι → Option (κ × ν)} {f : ι → Option κ}
    (hf : ∀ c k, key guard c = some k → f c = some k) (cs : List ι) :
    (cs.filterMap (key guard)).Sublist (cs.filterMap f) := by
  induction cs with
  | nil => exact .slnil
  | cons c cs ih =>
    cases hk : key guard c with
    | none =>
      rw [List.filterMap_cons_none hk]
      exact ih.trans ((List.sublist_cons_self c cs).filterMap f)
    | some k =>
      rw [List.filterMap_cons_some hk, List.filterMap_cons_some (hf c k hk)]
      exact ih.cons_cons k

variable [DecidableEq κ]

section Claims

variable (guard : ι → Option (κ × ν))

def claims (used : Finset κ) : List ι → List (κ × ν)
  | [] => []
  | c :: cs =>
    match guard c with
    | none => claims used cs
    | some p => if p.1 ∈ used then claims used cs else p :: claims (insert p.1 used) cs

def firstClaim (cs : List ι) (k : κ) : Option ν := (cs.filterMap guard).lookup k

variable {guard}

theorem claims_passing {used : Finset κ} {c : ι} {cs : List ι} {p : κ × ν}
    (hg : guard c = some p) : claims guard used (c :: cs) =
      if p.1 ∈ used then claims guard used cs else p :: claims guard (insert p.1 used) cs := by
  simp only [claims, hg]

theorem claims_failing {used : Finset κ} {c : ι} {cs : List ι} (hg : guard c = none) :
    claims guard used (c :: cs) = claims guard used cs := by
  simp only [claims, hg]

theorem firstClaim_cons {c : ι} {cs : List ι} {k : κ} : firstClaim guard (c :: cs) k =
    match guard c with
    | none => firstClaim guard cs k
    | some p => if k = p.1 then some p.2 else firstClaim guard cs k := by
  cases hg : guard c with
  | none => simp [firstClaim, hg]
  | some p =>
    obtain ⟨k', v⟩ := p
    rw [firstClaim, List.filterMap_cons_some hg, List.lookup_cons]
    by_cases hk : k = k'
    · simp [hk]
    · have hb : (k == k') = false := by simpa using hk
      simp only [hb, hk, if_false]
      rfl

theorem firstClaim_eq_some {cs : List ι} {k : κ} {v : ν} : firstClaim guard cs k = some v ↔
    ∃ c, cs.find? (fun c => key guard c = some k) = some c ∧ guard c = some (k, v) := by
  induction cs with
  | nil => simp [firstClaim]
  | cons c cs ih =>
    rw [firstClaim_cons]
    cases hg : guard c with
    | none =>
      have hkey : key guard c = none := by rw [key, hg]; rfl
      simp [hkey, ih]
    | some p =>
      have hkey : key guard c = some p.1 := by rw [key, hg]; rfl
      by_cases hk : k = p.1
      · simp [hkey, hk, hg, Prod.ext_iff]
      · simp [hkey, hk, Ne.symm hk, ih]

/-- A run claims the keys that were free, each as its first passing call does. -/
theorem mem_claims {used : Finset κ} {cs : List ι} {k : κ} {v : ν} :
    (k, v) ∈ claims guard used cs ↔ k ∉ used ∧ firstClaim guard cs k = some v := by
  induction cs generalizing used with
  | nil => simp [claims, firstClaim]
  | cons c cs ih =>
    rw [firstClaim_cons]
    cases hg : guard c with
    | none => rw [claims_failing hg, ih]
    | some p =>
      obtain ⟨k', v'⟩ := p
      rw [claims_passing hg]
      by_cases hu : k' ∈ used
      · rw [if_pos hu, ih]
        by_cases hk : k = k'
        · subst hk
          simp [hu]
        · simp [hk]
      · rw [if_neg hu, List.mem_cons, ih]
        by_cases hk : k = k'
        · subst hk
          simp [hu, eq_comm]
        · simp [hk]

theorem claims_keys_nodup (used : Finset κ) (cs : List ι) :
    ((claims guard used cs).map Prod.fst).Nodup := by
  induction cs generalizing used with
  | nil => exact List.nodup_nil
  | cons c cs ih =>
    cases hg : guard c with
    | none =>
      rw [claims_failing hg]
      exact ih used
    | some p =>
      rw [claims_passing hg]
      split
      · exact ih used
      · refine List.nodup_cons.mpr ⟨?_, ih _⟩
        intro hmem
        obtain ⟨q, hq, hqk⟩ := List.mem_map.mp hmem
        have hfree := (mem_claims.mp (show (q.1, q.2) ∈ _ from hq)).1
        exact hfree (hqk ▸ Finset.mem_insert_self _ _)

theorem exists_firstClaim {cs : List ι} {k : κ} :
    (∃ v, firstClaim guard cs k = some v) ↔ ∃ c ∈ cs, key guard c = some k := by
  induction cs with
  | nil => simp [firstClaim]
  | cons c cs ih =>
    rw [firstClaim_cons]
    cases hg : guard c with
    | none => simp [ih, key, hg]
    | some p =>
      have hkey : key guard c = some p.1 := by rw [key, hg]; rfl
      by_cases hk : k = p.1
      · simp [hk, hkey]
      · simp only [hk, if_false, ih, List.mem_cons, exists_eq_or_imp, hkey, Option.some_inj,
          Ne.symm hk, false_or]

theorem mem_run_iff_firstClaim {cs : List ι} {k : κ} :
    k ∈ run (key guard) ∅ cs ↔ ∃ v, firstClaim guard cs k = some v := by
  rw [mem_run, exists_firstClaim]
  simp

theorem card_firstClaim [DecidableEq ν] (cs : List ι) (v : ν) :
    ((run (key guard) ∅ cs).filter fun k => firstClaim guard cs k = some v).card =
      (claims guard ∅ cs).countP (fun p => p.2 = v) := by
  have hnd : (((claims guard ∅ cs).filter fun p => p.2 = v).map Prod.fst).Nodup :=
    (claims_keys_nodup ∅ cs).sublist (List.filter_sublist.map _)
  have hset : (run (key guard) ∅ cs).filter (fun k => firstClaim guard cs k = some v) =
      (((claims guard ∅ cs).filter fun p => p.2 = v).map Prod.fst).toFinset := by
    ext k
    simp only [Finset.mem_filter, List.mem_toFinset, List.mem_map, List.mem_filter,
      decide_eq_true_eq, Prod.exists, exists_and_right, exists_eq_right, mem_claims,
      Finset.notMem_empty, not_false_eq_true, true_and, mem_run_iff_firstClaim]
    exact and_iff_right_of_imp fun h => ⟨v, h⟩
  rw [hset, List.toFinset_card_of_nodup hnd, List.length_map, List.countP_eq_length_filter]

theorem run_eq_toFinset (cs : List ι) :
    run (key guard) ∅ cs = ((claims guard ∅ cs).map Prod.fst).toFinset := by
  ext k
  simp [mem_run_iff_firstClaim, mem_claims]

theorem card_run (cs : List ι) : (run (key guard) ∅ cs).card = (claims guard ∅ cs).length := by
  rw [run_eq_toFinset, List.toFinset_card_of_nodup (claims_keys_nodup ∅ cs), List.length_map]

theorem exists_of_mem_claims {used : Finset κ} {cs : List ι} {p : κ × ν}
    (h : p ∈ claims guard used cs) : ∃ c ∈ cs, guard c = some p := by
  obtain ⟨c, hc, hg⟩ := firstClaim_eq_some.mp (mem_claims.mp h).2
  exact ⟨c, List.mem_of_find?_eq_some hc, hg⟩

theorem claims_length_le (used : Finset κ) (cs : List ι) :
    (claims guard used cs).length ≤ cs.length := by
  induction cs generalizing used with
  | nil => exact Nat.le_refl _
  | cons c cs ih =>
    cases hg : guard c with
    | none =>
      rw [claims_failing hg]
      exact Nat.le_succ_of_le (ih used)
    | some p =>
      rw [claims_passing hg]
      split
      · exact Nat.le_succ_of_le (ih used)
      · exact Nat.succ_le_succ (ih _)

/-- Where no key is asked for twice, every free key that is asked for is claimed. -/
theorem claims_of_nodup {used : Finset κ} {cs : List ι} (hnd : (cs.filterMap (key guard)).Nodup) :
    claims guard used cs = (cs.filterMap guard).filter (fun p => p.1 ∉ used) := by
  induction cs generalizing used with
  | nil => rfl
  | cons c cs ih =>
    cases hg : guard c with
    | none =>
      rw [List.filterMap_cons_none (by simp [key, hg])] at hnd
      rw [claims_failing hg, ih hnd, List.filterMap_cons_none hg]
    | some p =>
      have hkey : key guard c = some p.1 := by rw [key, hg]; rfl
      rw [List.filterMap_cons_some hkey, List.nodup_cons] at hnd
      obtain ⟨hp, hnd⟩ := hnd
      rw [claims_passing hg, List.filterMap_cons_some hg]
      by_cases hu : p.1 ∈ used
      · rw [if_pos hu, ih hnd, List.filter_cons_of_neg (by simpa using hu)]
      · rw [if_neg hu, ih hnd, List.filter_cons_of_pos (by simpa using hu)]
        refine congrArg (p :: ·) (List.filter_congr ?_)
        intro q hq
        obtain ⟨c', hc', hg'⟩ := List.mem_filterMap.mp hq
        have hkey' : key guard c' = some q.1 := by rw [key, hg']; rfl
        have hne : q.1 ≠ p.1 := fun he => hp (List.mem_filterMap.mpr ⟨c', hc', he ▸ hkey'⟩)
        simp [hne]

theorem claims_perm {used : Finset κ} {cs cs' : List ι} (hp : cs.Perm cs')
    (hnd : (cs.filterMap (key guard)).Nodup) :
    (claims guard used cs).Perm (claims guard used cs') := by
  rw [claims_of_nodup hnd, claims_of_nodup ((hp.filterMap _).nodup_iff.mp hnd)]
  exact (hp.filterMap _).filter _

end Claims

namespace Registry

variable (r : Registry σ κ ν) (guard : ι → Option (κ × ν))

def next (s : σ) (c : ι) : σ :=
  match guard c with
  | none => s
  | some p => if p.1 ∈ r.used s then s else r.record s p

def runs (s : σ) (cs : List ι) : σ := cs.foldl (r.next guard) s

variable {r guard}

theorem used_next (s : σ) (c : ι) : r.used (r.next guard s c) = step (key guard) (r.used s) c := by
  cases hg : guard c with
  | none => simp [next, step, key, hg]
  | some p =>
    by_cases hu : p.1 ∈ r.used s
    · simp [next, step, key, hg, hu]
    · simp [next, step, key, hg, hu, r.used_record]

theorem used_runs (s : σ) (cs : List ι) :
    r.used (r.runs guard s cs) = run (key guard) (r.used s) cs := by
  induction cs generalizing s with
  | nil => rfl
  | cons c cs ih =>
    change r.used (r.runs guard (r.next guard s c) cs) = run (key guard) (step _ _ c) cs
    rw [ih, used_next]

/-- A run records its claims, in their order, and does nothing else. -/
theorem runs_eq_foldl (s : σ) (cs : List ι) :
    r.runs guard s cs = (claims guard (r.used s) cs).foldl r.record s := by
  induction cs generalizing s with
  | nil => rfl
  | cons c cs ih =>
    change r.runs guard (r.next guard s c) cs = _
    rw [ih]
    cases hg : guard c with
    | none => simp only [next, hg, claims]
    | some p =>
      by_cases hu : p.1 ∈ r.used s
      · simp only [next, hg, hu, if_true, claims]
      · simp only [next, hg, hu, if_false, claims, List.foldl_cons, r.used_record]

/-- A value that is set for the taken keys alone stays what it is, and a free key
gets the one its first passing call asks for. -/
theorem value_runs {value : σ → κ → Option ν} (hused : ∀ s k, k ∈ r.used s ↔ (value s k).isSome)
    (hrecord : ∀ s p k, value (r.record s p) k = if k = p.1 then some p.2 else value s k)
    (s : σ) (cs : List ι) (k : κ) :
    value (r.runs guard s cs) k = (value s k).or (firstClaim guard cs k) := by
  induction cs generalizing s with
  | nil => simp [runs, firstClaim]
  | cons c cs ih =>
    change value (r.runs guard (r.next guard s c) cs) k = _
    rw [ih, firstClaim_cons, next]
    cases hg : guard c with
    | none => rfl
    | some p =>
      by_cases hu : p.1 ∈ r.used s
      · simp only [hu, if_true]
        by_cases hk : k = p.1
        · subst hk
          obtain ⟨v, hv⟩ := Option.isSome_iff_exists.mp ((hused s _).mp hu)
          simp [hv]
        · simp [hk]
      · simp only [hu, if_false, hrecord]
        by_cases hk : k = p.1
        · subst hk
          have hfree : value s p.1 = none := by
            simpa using mt (hused s p.1).mpr hu
          simp [hfree]
        · simp [hk]

theorem runs_perm (hcomm : ∀ s p q, r.record (r.record s p) q = r.record (r.record s q) p)
    {cs cs' : List ι} (hp : cs.Perm cs') (hnd : (cs.filterMap (key guard)).Nodup) (s : σ) :
    r.runs guard s cs = r.runs guard s cs' := by
  rw [runs_eq_foldl, runs_eq_foldl]
  exact (claims_perm hp hnd).foldl_eq' (fun p _ q _ t => hcomm t p q) s

/-- Calls that were made before change nothing when they are made again. -/
theorem runs_again (s : σ) {cs again : List ι} (hseen : again ⊆ cs) :
    r.runs guard (r.runs guard s cs) again = r.runs guard s cs := by
  induction again with
  | nil => rfl
  | cons c again ih =>
    obtain ⟨hc, hagain⟩ := List.cons_subset.mp hseen
    have hnext : r.next guard (r.runs guard s cs) c = r.runs guard s cs := by
      rw [next]
      cases hg : guard c with
      | none => rfl
      | some p =>
        have hkey : key guard c = some p.1 := by rw [key, hg]; rfl
        have hused : p.1 ∈ r.used (r.runs guard s cs) := by
          rw [used_runs]
          exact mem_run.mpr (.inr ⟨c, hc, hkey⟩)
        exact if_pos hused
    change r.runs guard (r.next guard (r.runs guard s cs) c) again = _
    rw [hnext]
    exact ih hagain

section Outcome

variable {ε α : Type*}

/-- What a call that keeps the registry does with its claim: it refuses for a
reason of its own, finds the key taken, or records the claim. -/
inductive Outcome (r : Registry σ κ ν) (reused : ε) (s : σ) :
    Option (κ × ν) → Except ε α × σ → Prop
  | refused {e : ε} (he : e ≠ reused) : Outcome r reused s none (.error e, s)
  | taken {p : κ × ν} (hused : p.1 ∈ r.used s) : Outcome r reused s (some p) (.error reused, s)
  | recorded {p : κ × ν} (a : α) (hnew : p.1 ∉ r.used s) :
    Outcome r reused s (some p) (.ok a, r.record s p)

variable {reused : ε} {s : σ} {c : ι} {res : Except ε α × σ}

theorem Outcome.next (h : r.Outcome reused s (guard c) res) : res.2 = r.next guard s c := by
  rw [Registry.next]
  generalize guard c = p at h
  cases h with
  | refused he => rfl
  | taken hused => exact (if_pos hused).symm
  | recorded a hnew => exact (if_neg hnew).symm

theorem Outcome.eq_of_error {p : Option (κ × ν)} (h : r.Outcome reused s p res)
    (herr : ¬ ∃ a, res.1 = .ok a) : res.2 = s := by
  cases h with
  | refused he => rfl
  | taken hused => rfl
  | recorded a hnew => exact absurd ⟨a, rfl⟩ herr

theorem foldl_eq_runs {P : σ → Prop} {call : σ → ι → Except ε α × σ}
    (hP : ∀ s c, P s → P (call s c).2) (h : ∀ s c, P s → r.Outcome reused s (guard c) (call s c))
    {s : σ} (hs : P s) (cs : List ι) :
    cs.foldl (fun s c => (call s c).2) s = r.runs guard s cs := by
  induction cs generalizing s with
  | nil => rfl
  | cons c cs ih =>
    rw [List.foldl_cons, ih (hP s c hs), (h s c hs).next]
    rfl

end Outcome

end Registry

end ClaimOnce
