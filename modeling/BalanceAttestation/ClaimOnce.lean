import Mathlib.Data.Finset.Basic
import Mathlib.Data.List.Basic

/-! Registries whose keys are claimed at most once. A call that passes its own
checks asks for a key; it claims the key when nobody has claimed it before. -/

namespace ClaimOnce

variable {ι κ : Type*} [DecidableEq κ] (guard : ι → Option κ)

/-- `guard c` is the key a passing call asks for, `none` if the call fails. -/
def step (claimed : Finset κ) (c : ι) : Finset κ :=
  match guard c with
  | none => claimed
  | some k => insert k claimed

def run (claimed : Finset κ) (cs : List ι) : Finset κ := cs.foldl (step guard) claimed

def ClaimsAt (claimed : Finset κ) (cs : List ι) (i : Nat) (k : κ) : Prop :=
  ∃ c, cs[i]? = some c ∧ guard c = some k ∧ k ∉ run guard claimed (cs.take i)

variable {guard}

theorem mem_step {claimed : Finset κ} {c : ι} {k : κ} :
    k ∈ step guard claimed c ↔ k ∈ claimed ∨ guard c = some k := by
  unfold step
  cases hg : guard c with
  | none => simp
  | some k' => simp [eq_comm, or_comm]

/-- After a run the claimed keys are those claimed before and those of the
passing calls, whatever their order. -/
theorem mem_run {claimed : Finset κ} {cs : List ι} {k : κ} :
    k ∈ run guard claimed cs ↔ k ∈ claimed ∨ ∃ c ∈ cs, guard c = some k := by
  induction cs generalizing claimed with
  | nil => simp [run]
  | cons c cs ih =>
    change k ∈ run guard (step guard claimed c) cs ↔ _
    rw [ih, mem_step]
    simp [or_assoc]

theorem exists_claimsAt {claimed : Finset κ} {cs : List ι} {k : κ}
    (h : k ∈ run guard claimed cs) (hn : k ∉ claimed) : ∃ i, ClaimsAt guard claimed cs i k := by
  induction cs generalizing claimed with
  | nil => exact absurd h hn
  | cons c cs ih =>
    by_cases hg : guard c = some k
    · exact ⟨0, c, rfl, hg, hn⟩
    · have hn' : k ∉ step guard claimed c := fun hh => (mem_step.mp hh).elim hn hg
      obtain ⟨i, c', hc', hg', hi⟩ := ih h hn'
      exact ⟨i + 1, c', by simpa using hc', hg', hi⟩

theorem mem_run_take {cs : List ι} {i : Nat} {k : κ} :
    k ∈ run guard ∅ (cs.take i) ↔ ∃ i' < i, ClaimsAt guard ∅ cs i' k := by
  constructor
  · intro h
    obtain ⟨i', c, hc, hk, hnew⟩ := exists_claimsAt h (Finset.notMem_empty k)
    rw [List.getElem?_take, Option.ite_none_right_eq_some] at hc
    rw [List.take_take, Nat.min_eq_left (Nat.le_of_lt hc.1)] at hnew
    exact ⟨i', hc.1, c, hc.2, hk, hnew⟩
  · intro h
    obtain ⟨i', hlt, c, hc, hk, _⟩ := h
    have hmem : c ∈ cs.take i := List.mem_of_getElem? (by rw [List.getElem?_take, if_pos hlt, hc])
    exact mem_run.mpr (.inr ⟨c, hmem, hk⟩)

theorem ClaimsAt.not_lt {claimed : Finset κ} {cs : List ι} {i j : Nat} {k : κ}
    (hi : ClaimsAt guard claimed cs i k) (hj : ClaimsAt guard claimed cs j k) : ¬ i < j := by
  intro hij
  obtain ⟨c, hc, hg, _⟩ := hi
  obtain ⟨_, _, _, hn⟩ := hj
  have hmem : c ∈ cs.take j := List.mem_of_getElem? (by rw [List.getElem?_take, if_pos hij, hc])
  exact hn (mem_run.mpr (.inr ⟨c, hmem, hg⟩))

theorem ClaimsAt.unique {claimed : Finset κ} {cs : List ι} {i j : Nat} {k : κ}
    (hi : ClaimsAt guard claimed cs i k) (hj : ClaimsAt guard claimed cs j k) : i = j := by
  have hij := hi.not_lt hj
  have hji := hj.not_lt hi
  omega

end ClaimOnce
