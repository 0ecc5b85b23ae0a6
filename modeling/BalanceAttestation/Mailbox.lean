import Mathlib.Data.List.Basic
import Mathlib.Data.List.Infix

/-! A mailbox that is polled: a poll hands out the first message of the buffer
and keeps some of the others. Nothing is lost in a run exactly when every poll
keeps all of them that can be read. -/

namespace Mailbox

variable {M E : Type*}

inductive Op (M : Type*)
  | post (m : M)
  | poll

section

variable (read : M → Option E) (keep : List M → List M)

def remains : List M → List (Op M) → List M
  | b, [] => b
  | b, .post m :: ops => remains (b ++ [m]) ops
  | b, .poll :: ops => remains (keep b) ops

def delivered : List M → List (Op M) → List E
  | _, [] => []
  | b, .post m :: ops => delivered (b ++ [m]) ops
  | b, .poll :: ops => (b.head?.bind read).toList ++ delivered (keep b) ops

def posted : List (Op M) → List M
  | [] => []
  | .post m :: ops => m :: posted ops
  | .poll :: ops => posted ops

/-- Every poll of the run keeps what can be read behind the first message. -/
def KeepsAll (b : List M) (ops : List (Op M)) : Prop :=
  ∀ pre post, ops = pre ++ .poll :: post →
    (keep (remains keep b pre)).filterMap read = (remains keep b pre).tail.filterMap read

end

variable {read : M → Option E} {keep : List M → List M}

theorem keepsAll_post {b : List M} {m : M} {ops : List (Op M)} :
    KeepsAll read keep b (.post m :: ops) ↔ KeepsAll read keep (b ++ [m]) ops := by
  constructor
  · intro h pre post hops
    exact h (.post m :: pre) post (by rw [hops]; rfl)
  · intro h pre post hops
    cases pre with
    | nil => simp at hops
    | cons o pre =>
      simp only [List.cons_append, List.cons.injEq] at hops
      obtain ⟨rfl, hops⟩ := hops
      exact h pre post hops

theorem keepsAll_poll {b : List M} {ops : List (Op M)} :
    KeepsAll read keep b (.poll :: ops) ↔
      (keep b).filterMap read = b.tail.filterMap read ∧ KeepsAll read keep (keep b) ops := by
  constructor
  · intro h
    refine ⟨h [] ops rfl, ?_⟩
    intro pre post hops
    exact h (.poll :: pre) post (by rw [hops]; rfl)
  · intro h pre post hops
    cases pre with
    | nil => exact h.1
    | cons o pre =>
      simp only [List.cons_append, List.cons.injEq] at hops
      obtain ⟨rfl, hops⟩ := hops
      exact h.2 pre post hops

theorem filterMap_head_tail (read : M → Option E) (b : List M) :
    b.filterMap read = (b.head?.bind read).toList ++ b.tail.filterMap read := by
  cases b with
  | nil => rfl
  | cons m b => cases hm : read m <;> simp [hm]

variable (hkeep : ∀ b, (keep b).Sublist b.tail)

include hkeep in
theorem length_le (read : M → Option E) (b : List M) (ops : List (Op M)) :
    (delivered read keep b ops).length + ((remains keep b ops).filterMap read).length ≤
      (b.filterMap read).length + ((posted ops).filterMap read).length := by
  induction ops generalizing b with
  | nil => simp [delivered, remains, posted]
  | cons o ops ih =>
    cases o with
    | post m =>
      have hb := ih (b ++ [m])
      have hm : ((posted (.post m :: ops)).filterMap read).length =
          ([m].filterMap read).length + ((posted ops).filterMap read).length := by
        rw [← List.length_append, ← List.filterMap_append]
        rfl
      simp only [List.filterMap_append, List.length_append] at hb
      simp only [delivered, remains]
      omega
    | poll =>
      have hb := ih (keep b)
      have hlen := ((hkeep b).filterMap read).length_le
      have hsplit := congrArg List.length (filterMap_head_tail read b)
      simp only [List.length_append] at hsplit
      simp only [delivered, remains, posted, List.length_append]
      omega

include hkeep in
/-- What is handed out and what is still there make up what was posted, in
order, exactly when no poll drops anything that can be read. -/
theorem conserved_iff (b : List M) (ops : List (Op M)) :
    delivered read keep b ops ++ (remains keep b ops).filterMap read =
        b.filterMap read ++ (posted ops).filterMap read ↔ KeepsAll read keep b ops := by
  induction ops generalizing b with
  | nil => simp [delivered, remains, posted, KeepsAll]
  | cons o ops ih =>
    cases o with
    | post m =>
      have hm : (posted (.post m :: ops)).filterMap read =
          [m].filterMap read ++ (posted ops).filterMap read := by
        rw [← List.filterMap_append]
        rfl
      rw [keepsAll_post, ← ih, hm, List.filterMap_append, List.append_assoc]
      rfl
    | poll =>
      rw [keepsAll_poll, filterMap_head_tail read b]
      simp only [delivered, remains, posted, List.append_assoc, List.append_cancel_left_eq]
      by_cases hdrop : (keep b).filterMap read = b.tail.filterMap read
      · rw [← hdrop, ih]
        simp
      · -- A dropped message leaves the run short by at least one for good.
        have hlt : ((keep b).filterMap read).length < (b.tail.filterMap read).length := by
          have hsub := (hkeep b).filterMap read
          by_contra hge
          exact hdrop (hsub.eq_of_length_le (by omega))
        refine iff_of_false ?_ (fun h => hdrop h.1)
        intro heq
        have hlen := congrArg List.length heq
        have hle := length_le hkeep read (keep b) ops
        simp only [List.length_append] at hlen
        omega

section Serves

variable {σ ι : Type*}

def after (keep : List M → List M) (b : List M) : Option (Op M) → List M
  | none => b
  | some (.post m) => b ++ [m]
  | some .poll => keep b

def added (read : M → Option E) : Option (Op M) → List E
  | some (.post m) => (read m).toList
  | _ => []

def handed (read : M → Option E) (b : List M) : Option (Op M) → List E
  | some .poll => (b.head?.bind read).toList
  | _ => []

def along (next : σ → ι → σ) (f : σ → ι → List E) : σ → List ι → List E
  | _, [] => []
  | s, i :: is => f s i ++ along next f (next s i) is

/-- A system that keeps a mailbox in one of its buffers: a step that is an
operation of the mailbox does it, any other leaves the buffer alone. -/
structure Serves (read : M → Option E) (keep : List M → List M) (next : σ → ι → σ)
    (buffer : σ → List M) (op : ι → Option (Op M)) (put out : σ → ι → List E) : Prop where
  buffer_next : ∀ s i, buffer (next s i) = after keep (buffer s) (op i)
  put_eq : ∀ s i, put s i = added read (op i)
  out_eq : ∀ s i, out s i = handed read (buffer s) (op i)

namespace Serves

variable {next : σ → ι → σ} {buffer : σ → List M} {op : ι → Option (Op M)}
  {put out : σ → ι → List E} (h : Serves read keep next buffer op put out)

include h

theorem buffer_run (s : σ) (is : List ι) :
    buffer (is.foldl next s) = remains keep (buffer s) (is.filterMap op) := by
  induction is generalizing s with
  | nil => rfl
  | cons i is ih =>
    rw [List.foldl_cons, ih, h.buffer_next]
    cases hop : op i with
    | none => rw [List.filterMap_cons_none hop]; rfl
    | some o =>
      rw [List.filterMap_cons_some hop]
      cases o <;> rfl

theorem put_run (s : σ) (is : List ι) :
    along next put s is = (posted (is.filterMap op)).filterMap read := by
  induction is generalizing s with
  | nil => rfl
  | cons i is ih =>
    rw [along, ih, h.put_eq]
    cases hop : op i with
    | none => rw [List.filterMap_cons_none hop]; rfl
    | some o =>
      rw [List.filterMap_cons_some hop]
      cases o with
      | post m => cases hm : read m <;> simp [added, posted, hm]
      | poll => rfl

theorem out_run (s : σ) (is : List ι) :
    along next out s is = delivered read keep (buffer s) (is.filterMap op) := by
  induction is generalizing s with
  | nil => rfl
  | cons i is ih =>
    rw [along, ih, h.buffer_next, h.out_eq]
    cases hop : op i with
    | none => rw [List.filterMap_cons_none hop]; rfl
    | some o =>
      rw [List.filterMap_cons_some hop]
      cases o <;> rfl

theorem keepsAll_run (s : σ) (is : List ι) :
    KeepsAll read keep (buffer s) (is.filterMap op) ↔
      ∀ pre i post, is = pre ++ i :: post → op i = some .poll →
        (keep (buffer (pre.foldl next s))).filterMap read =
          (buffer (pre.foldl next s)).tail.filterMap read := by
  constructor
  · intro hkeeps pre i post his hpoll
    rw [h.buffer_run]
    refine hkeeps _ (post.filterMap op) ?_
    rw [his, List.filterMap_append, List.filterMap_cons_some hpoll]
  · intro hpolls pre post hops
    obtain ⟨before, rest, his, hbefore, hrest⟩ := List.filterMap_eq_append_iff.mp hops
    obtain ⟨silent, i, later, hrest, hsilent, hpoll, _⟩ := List.filterMap_eq_cons_iff.mp hrest
    have hpre : (before ++ silent).filterMap op = pre := by
      rw [List.filterMap_append, hbefore, List.filterMap_eq_nil_iff.mpr hsilent, List.append_nil]
    have hkept := hpolls (before ++ silent) i later (by rw [his, hrest, List.append_assoc]) hpoll
    rwa [h.buffer_run, hpre] at hkept

theorem conserved_iff (hkeep : ∀ b, (keep b).Sublist b.tail) (s : σ) (is : List ι) :
    along next out s is ++ (buffer (is.foldl next s)).filterMap read =
        (buffer s).filterMap read ++ along next put s is ↔
      ∀ pre i post, is = pre ++ i :: post → op i = some .poll →
        (keep (buffer (pre.foldl next s))).filterMap read =
          (buffer (pre.foldl next s)).tail.filterMap read := by
  rw [h.out_run, h.put_run, h.buffer_run, Mailbox.conserved_iff hkeep, h.keepsAll_run]

end Serves

end Serves

end Mailbox
