import BalanceAttestation.Mailbox

/-! A consumer behind a mailbox. What a poll hands out it takes at once, so after a
run it is where the handed-out elements lead, whatever happened between the polls. -/

namespace Mailbox

variable {M E σ ι γ : Type*}

theorem delivered_sublist (read : M → Option E) {keep : List M → List M}
    (hkeep : ∀ b, (keep b).Sublist b.tail) (b : List M) (ops : List (Op M)) :
    (delivered read keep b ops ++ (remains keep b ops).filterMap read).Sublist
      (b.filterMap read ++ (posted ops).filterMap read) := by
  induction ops generalizing b with
  | nil => simp [delivered, remains, posted]
  | cons o ops ih =>
    cases o with
    | post m =>
      have hm : (posted (.post m :: ops)).filterMap read =
          [m].filterMap read ++ (posted ops).filterMap read := by
        rw [← List.filterMap_append]
        rfl
      rw [hm, ← List.append_assoc, ← List.filterMap_append]
      exact ih (b ++ [m])
    | poll =>
      have hkept := ((hkeep b).filterMap read).append_right ((posted ops).filterMap read)
      rw [filterMap_head_tail read b]
      simp only [delivered, remains, posted, List.append_assoc]
      exact ((ih (keep b)).trans hkept).append_left _

section

variable (next : σ → ι → σ) (out : σ → ι → List E) (take : γ → E → γ)

def feed (p : σ × γ) (i : ι) : σ × γ := (next p.1 i, (out p.1 i).foldl take p.2)

theorem feed_run (s : σ) (c : γ) (is : List ι) :
    is.foldl (feed next out take) (s, c) = (is.foldl next s, (along next out s is).foldl take c) := by
  induction is generalizing s c with
  | nil => rfl
  | cons i is ih =>
    rw [List.foldl_cons, feed, ih, List.foldl_cons, along, List.foldl_append]

end

namespace Serves

variable {read : M → Option E} {keep : List M → List M} {next : σ → ι → σ} {buffer : σ → List M}
  {op : ι → Option (Op M)} {put out : σ → ι → List E}

theorem out_sublist (h : Serves read keep next buffer op put out)
    (hkeep : ∀ b, (keep b).Sublist b.tail) {s : σ} (hs : buffer s = []) (is : List ι) :
    (along next out s is ++ (buffer (is.foldl next s)).filterMap read).Sublist (along next put s is) := by
  have hsub := delivered_sublist read hkeep (buffer s) (is.filterMap op)
  rw [hs, List.filterMap_nil, List.nil_append] at hsub
  rw [h.out_run, h.put_run, h.buffer_run, hs]
  exact hsub

end Serves

end Mailbox
