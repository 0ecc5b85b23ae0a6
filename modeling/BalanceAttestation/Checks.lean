import Mathlib.Tactic.Common

/-! Early returns. A check either fails with its error or lets the rest of the
body run, so a body made of checks returns a value exactly when every check
passes, and otherwise the error of the first that fails. -/

namespace Checks

variable {α β ε : Type}

def rejectIf (cond : Prop) [Decidable cond] (e : ε) : Except ε Unit :=
  if cond then .error e else .ok ()

def okOr (value : Option α) (e : ε) : Except ε α :=
  match value with
  | some a => .ok a
  | none => .error e

variable {cond : Prop} [Decidable cond] {e e' : ε} {value : Option α} {b : β}

theorem rejectIf_ok : rejectIf cond e = .ok () ↔ ¬ cond := by
  unfold rejectIf
  split <;> simp [*]

theorem rejectIf_error : rejectIf cond e = .error e' ↔ cond ∧ e = e' := by
  unfold rejectIf
  split <;> simp [*]

theorem rejectIf_bind_ok {next : Unit → Except ε β} :
    (rejectIf cond e >>= next) = .ok b ↔ ¬ cond ∧ next () = .ok b := by
  unfold rejectIf
  split <;> simp [bind, Except.bind, *]

theorem rejectIf_bind_error {next : Unit → Except ε β} :
    (rejectIf cond e >>= next) = .error e' ↔ (cond ∧ e = e') ∨ (¬ cond ∧ next () = .error e') := by
  unfold rejectIf
  split <;> simp [bind, Except.bind, *]

theorem okOr_ok {a : α} : okOr value e = .ok a ↔ value = some a := by
  cases value <;> simp [okOr]

theorem okOr_bind_ok {next : α → Except ε β} :
    (okOr value e >>= next) = .ok b ↔ ∃ a, value = some a ∧ next a = .ok b := by
  cases value <;> simp [okOr, bind, Except.bind]

theorem okOr_bind_error {next : α → Except ε β} :
    (okOr value e >>= next) = .error e' ↔
      (value = none ∧ e = e') ∨ ∃ a, value = some a ∧ next a = .error e' := by
  cases value <;> simp [okOr, bind, Except.bind]

theorem bind_ok {x : Except ε α} {next : α → Except ε β} :
    (x >>= next) = .ok b ↔ ∃ a, x = .ok a ∧ next a = .ok b := by
  cases x <;> simp [bind, Except.bind]

theorem bind_error {x : Except ε α} {next : α → Except ε β} :
    (x >>= next) = .error e ↔ x = .error e ∨ ∃ a, x = .ok a ∧ next a = .error e := by
  cases x <;> simp [bind, Except.bind]

theorem isOk_iff {x : Except ε α} : x.isOk = true ↔ ∃ a, x = .ok a := by
  cases x <;> simp [Except.isOk, Except.toBool]

theorem toOption_eq_some {x : Except ε α} {a : α} : x.toOption = some a ↔ x = .ok a := by
  cases x <;> simp [Except.toOption]

section MapError

variable {ε' : Type} (f : ε → ε')

theorem mapError_rejectIf (cond : Prop) [Decidable cond] (e : ε) :
    (rejectIf cond e).mapError f = rejectIf cond (f e) := by
  rw [rejectIf, rejectIf]
  split <;> rfl

theorem mapError_okOr (value : Option α) (e : ε) :
    (okOr value e).mapError f = okOr value (f e) := by
  cases value <;> rfl

theorem mapError_bind (x : Except ε α) (next : α → Except ε β) :
    (x >>= next).mapError f = x.mapError f >>= fun a => (next a).mapError f := by
  cases x <;> rfl

end MapError

theorem map_mapError_ok {ε' γ : Type} {f : ε → ε'} {g : α → γ} {x : Except ε α} {c : γ} :
    (x.mapError f).map g = .ok c ↔ ∃ a, x = .ok a ∧ g a = c := by
  cases x <;> simp [Except.mapError, Except.map]

theorem mapError_ok {ε' : Type} {f : ε → ε'} {x : Except ε α} {a : α} :
    x.mapError f = .ok a ↔ x = .ok a := by
  cases x <;> simp [Except.mapError]

theorem map_eq_bind (f : α → β) (x : Except ε α) : x.map f = x >>= fun a => pure (f a) := by
  cases x <;> rfl

/-- Whatever the body fails with is of this kind. -/
def OnlyFails (kind : ε → Prop) (x : Except ε α) : Prop := ∀ e, x = .error e → kind e

namespace OnlyFails

variable {kind : ε → Prop} {x : Except ε α}

theorem ok (a : α) : OnlyFails kind (.ok a : Except ε α) := fun _ h => nomatch h

theorem error (h : kind e) : OnlyFails kind (.error e : Except ε α) := by
  intro e' he
  rw [← Except.error.inj he]
  exact h

theorem okOr (h : kind e) : OnlyFails kind (okOr value e) := by
  cases value with
  | none => exact error h
  | some a => exact ok a

theorem mapError {ε' : Type} {f : ε' → ε} (h : ∀ e', kind (f e')) (y : Except ε' α) :
    OnlyFails kind (y.mapError f) := by
  cases y with
  | error e' => exact error (h e')
  | ok a => exact ok a

theorem bind {next : α → Except ε β} (hx : OnlyFails kind x) (hnext : ∀ a, OnlyFails kind (next a)) :
    OnlyFails kind (x >>= next) := by
  intro e h
  rcases bind_error.mp h with h | ⟨a, -, h⟩
  · exact hx e h
  · exact hnext a e h

theorem mapM {f : β → Except ε α} (h : ∀ b, OnlyFails kind (f b)) (bs : List β) :
    OnlyFails kind (bs.mapM f) := by
  induction bs with
  | nil => exact ok []
  | cons b bs ih =>
    rw [List.mapM_cons]
    exact (h b).bind fun a => ih.bind fun _ => ok _

end OnlyFails

section FirstFails

variable {γ : Type} {holds : γ → Prop} {cs : List γ} {c : γ}

/-- `c` is the first of the checks that does not hold. -/
inductive FirstFails (holds : γ → Prop) : List γ → γ → Prop
  | here {c : γ} {cs : List γ} (hc : ¬ holds c) : FirstFails holds (c :: cs) c
  | later {c d : γ} {cs : List γ} (hd : holds d) (h : FirstFails holds cs c) :
    FirstFails holds (d :: cs) c

theorem FirstFails.not_holds (h : FirstFails holds cs c) : ¬ holds c := by
  induction h with
  | here hc => exact hc
  | later _ _ ih => exact ih

theorem FirstFails.append (h : FirstFails holds cs c) (ds : List γ) :
    FirstFails holds (cs ++ ds) c := by
  induction h with
  | here hc => exact .here hc
  | later hd _ ih => exact .later hd ih

end FirstFails

end Checks
