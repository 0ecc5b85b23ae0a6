import Mathlib.Data.List.Basic
import Mathlib.Data.List.Induction

/-! A flag that some attempts raise and nothing lowers, read as if it spoke of the
last attempt. It does so exactly when the last attempt neither raised it without
reason nor failed after another had raised it. -/

namespace Latch

variable {A : Type*} (claims good : A → Prop)

def Raised (attempts : List A) : Prop := ∃ a ∈ attempts, claims a

def Sound (attempts : List A) : Prop :=
  Raised claims attempts → ∃ a, attempts.getLast? = some a ∧ good a

inductive Misleads (attempts : List A) : Prop
  | unearned (a : A) (ha : attempts.getLast? = some a) (hclaims : claims a) (hbad : ¬ good a)
  | stale (a : A) (ha : attempts.getLast? = some a) (hfailed : ¬ claims a) (hraised : Raised claims attempts)

variable {claims good} {attempts : List A}

theorem not_raised_nil : ¬ Raised claims [] := by
  rintro ⟨a, ha, -⟩
  cases ha

theorem raised_append_singleton {a : A} :
    Raised claims (attempts ++ [a]) ↔ Raised claims attempts ∨ claims a := by
  constructor
  · rintro ⟨x, hx, hclaims⟩
    rcases List.mem_append.mp hx with hx | hx
    · exact .inl ⟨x, hx, hclaims⟩
    · exact .inr (List.mem_singleton.mp hx ▸ hclaims)
  · rintro (⟨x, hx, hclaims⟩ | hclaims)
    · exact ⟨x, List.mem_append_left _ hx, hclaims⟩
    · exact ⟨a, List.mem_append_right _ (List.mem_singleton.mpr rfl), hclaims⟩

theorem sound_iff (hgood : ∀ a, good a → claims a) :
    Sound claims good attempts ↔ ¬ Misleads claims good attempts := by
  constructor
  · rintro h (⟨a, ha, hclaims, hbad⟩ | ⟨a, ha, hfailed, hraised⟩)
    · obtain ⟨b, hb, hgoodb⟩ := h ⟨a, List.mem_of_mem_getLast? ha, hclaims⟩
      exact hbad (Option.some.inj (ha.symm.trans hb) ▸ hgoodb)
    · obtain ⟨b, hb, hgoodb⟩ := h hraised
      exact hfailed (Option.some.inj (ha.symm.trans hb) ▸ hgood b hgoodb)
  · intro h hraised
    cases hlast : attempts.getLast? with
    | none =>
      rw [List.getLast?_eq_none_iff.mp hlast] at hraised
      exact absurd hraised not_raised_nil
    | some a =>
      refine ⟨a, rfl, ?_⟩
      by_contra hbad
      by_cases hclaims : claims a
      · exact h (.unearned a hlast hclaims hbad)
      · exact h (.stale a hlast hclaims hraised)

theorem not_misleads_iff : ¬ Misleads claims good attempts ↔ ∀ a, attempts.getLast? = some a →
    ¬ (claims a ∧ ¬ good a) ∧ (¬ claims a → ¬ Raised claims attempts) := by
  constructor
  · intro h a ha
    exact ⟨fun hbad => h (.unearned a ha hbad.1 hbad.2), fun hfailed hraised => h (.stale a ha hfailed hraised)⟩
  · rintro h (⟨a, ha, hclaims, hbad⟩ | ⟨a, ha, hfailed, hraised⟩)
    · exact (h a ha).1 ⟨hclaims, hbad⟩
    · exact (h a ha).2 hfailed hraised

/-! A system with such a flag, which also keeps what a good attempt made until the
next one. -/

section Serves

variable {σ ι : Type*}

structure Serves (claims good : A → Prop) (attempt : ι → Option A) (next : σ → ι → σ)
    (inv flag : σ → Prop) (holds : σ → A → Prop) : Prop where
  inv_next : ∀ s i, inv s → inv (next s i)
  flag_attempt : ∀ s i a, inv s → attempt i = some a → (flag (next s i) ↔ flag s ∨ claims a)
  flag_other : ∀ s i, inv s → attempt i = none → (flag (next s i) ↔ flag s)
  holds_attempt : ∀ s i a, inv s → attempt i = some a → good a → holds (next s i) a
  holds_other : ∀ s i a, inv s → attempt i = none → holds s a → holds (next s i) a

namespace Serves

variable {attempt : ι → Option A} {next : σ → ι → σ} {inv flag : σ → Prop} {holds : σ → A → Prop}
  (h : Serves claims good attempt next inv flag holds) {s : σ} (hs : inv s)

include h hs

theorem inv_run (is : List ι) : inv (is.foldl next s) := by
  induction is generalizing s with
  | nil => exact hs
  | cons i is ih => exact ih (h.inv_next s i hs)

theorem flag_run (hflag : ¬ flag s) (is : List ι) :
    flag (is.foldl next s) ↔ Raised claims (is.filterMap attempt) := by
  induction is using List.reverseRecOn with
  | nil => exact iff_of_false hflag not_raised_nil
  | append_singleton is i ih =>
    have hinv := h.inv_run hs is
    rw [List.foldl_concat, List.filterMap_append]
    cases hi : attempt i with
    | none =>
      rw [h.flag_other _ i hinv hi, ih, List.filterMap_cons_none hi, List.filterMap_nil, List.append_nil]
    | some a =>
      rw [h.flag_attempt _ i a hinv hi, ih, List.filterMap_cons_some hi, List.filterMap_nil,
        raised_append_singleton]

theorem holds_run {a : A} (hgood : good a) {is : List ι} (ha : (is.filterMap attempt).getLast? = some a) :
    holds (is.foldl next s) a := by
  induction is using List.reverseRecOn with
  | nil => cases ha
  | append_singleton is i ih =>
    have hinv := h.inv_run hs is
    rw [List.foldl_concat]
    rw [List.filterMap_append] at ha
    cases hi : attempt i with
    | none =>
      rw [List.filterMap_cons_none hi, List.filterMap_nil, List.append_nil] at ha
      exact h.holds_other _ i a hinv hi (ih ha)
    | some b =>
      rw [List.filterMap_cons_some hi, List.filterMap_nil, List.getLast?_concat] at ha
      obtain rfl := Option.some.inj ha
      exact h.holds_attempt _ i b hinv hi hgood

/-- Whoever looks at the flag gets what the last attempt made, in every run without
a misleading attempt before a look and in no other. -/
theorem looks_iff (hflag : ¬ flag s) (hgood : ∀ a, good a → claims a) (is : List ι) :
    (∀ pre i post, is = pre ++ i :: post → attempt i = none → flag (pre.foldl next s) →
      ∃ a, (pre.filterMap attempt).getLast? = some a ∧ good a ∧ holds (pre.foldl next s) a) ↔
    ∀ pre i post, is = pre ++ i :: post → attempt i = none →
      ¬ Misleads claims good (pre.filterMap attempt) := by
  refine forall_congr' fun pre => forall_congr' fun i => forall_congr' fun post => ?_
  refine forall_congr' fun _ => forall_congr' fun _ => ?_
  rw [h.flag_run hs hflag, ← sound_iff hgood]
  refine forall_congr' fun _ => exists_congr fun a => and_congr_right fun ha => ?_
  exact and_iff_left_of_imp fun hgooda => h.holds_run hs hgooda ha

end Serves

end Serves

end Latch
