import BalanceAttestation.Collision
import Mathlib.Algebra.Group.Nat.Defs
import Mathlib.Data.List.Induction
import Mathlib.Data.Nat.Bits
import Mathlib.Tactic.Common

/-! Perfect binary hash trees and authentication paths. Bit `k` of a position
says on which side the path lies `k` levels above the leaves, so only the low
`d` bits matter in a tree of depth `d`. -/

namespace HashTree

inductive PerfectTree (β : Type*) : Nat → Type _
  | leaf (b : β) : PerfectTree β 0
  | node {d : Nat} (l r : PerfectTree β d) : PerfectTree β (d + 1)

variable {α β : Type*} (f : α → α → α)

def foldPath (a : α) : Nat → List α → α
  | _, [] => a
  | i, s :: ss => foldPath (if i % 2 = 0 then f a s else f s a) (i / 2) ss

def foldPairs (a : α) : Nat → List α → List (α × α)
  | _, [] => []
  | i, s :: ss =>
    (if i % 2 = 0 then (a, s) else (s, a)) ::
      foldPairs (if i % 2 = 0 then f a s else f s a) (i / 2) ss

theorem foldPath_concat (a : α) (i : Nat) (ss : List α) (s : α) :
    foldPath f a i (ss ++ [s]) =
      if i.testBit ss.length then f s (foldPath f a i ss) else f (foldPath f a i ss) s := by
  induction ss generalizing a i with
  | nil => rcases Nat.mod_two_eq_zero_or_one i with h | h <;> simp [foldPath, h]
  | cons x xs ih => simp only [List.cons_append, foldPath, ih, List.length_cons, Nat.testBit_succ]

theorem foldPairs_concat (a : α) (i : Nat) (ss : List α) (s : α) :
    foldPairs f a i (ss ++ [s]) = foldPairs f a i ss ++
      [if i.testBit ss.length then (s, foldPath f a i ss) else (foldPath f a i ss, s)] := by
  induction ss generalizing a i with
  | nil => rcases Nat.mod_two_eq_zero_or_one i with h | h <;> simp [foldPath, foldPairs, h]
  | cons x xs ih =>
    simp only [List.cons_append, foldPath, foldPairs, ih, List.length_cons, Nat.testBit_succ]

/-- The highest of the low `k` bits in which two positions differ. -/
structure LastDiffers (i j k c : Nat) : Prop where
  lt : c < k
  differ : i.testBit c ≠ j.testBit c
  agree : ∀ d, c < d → d < k → i.testBit d = j.testBit d

section Positions

variable {i j k c c' : Nat}

theorem mod_eq_iff_testBit : i % 2 ^ k = j % 2 ^ k ↔ ∀ d < k, i.testBit d = j.testBit d := by
  constructor
  · intro h d hd
    have hbit := congrArg (fun n => n.testBit d) h
    simpa [Nat.testBit_mod_two_pow, hd] using hbit
  · intro h
    refine Nat.eq_of_testBit_eq fun d => ?_
    rw [Nat.testBit_mod_two_pow, Nat.testBit_mod_two_pow]
    by_cases hd : d < k
    · rw [h d hd]
    · simp [hd]

theorem LastDiffers.unique (h : LastDiffers i j k c) (h' : LastDiffers i j k c') : c = c' := by
  rcases Nat.lt_trichotomy c c' with hlt | heq | hgt
  · exact absurd (h.agree c' hlt h'.lt) h'.differ
  · exact heq
  · exact absurd (h'.agree c hgt h.lt) h.differ

theorem LastDiffers.succ (h : LastDiffers i j k c) (hk : i.testBit k = j.testBit k) :
    LastDiffers i j (k + 1) c where
  lt := Nat.lt_succ_of_lt h.lt
  differ := h.differ
  agree d hc hd := by
    by_cases hdk : d = k
    · rw [hdk, hk]
    · exact h.agree d hc (by omega)

end Positions

/-! Two paths of one length that fold to the same node. -/

def hashedPair (i k : Nat) (node s : α) : α × α := if i.testBit k then (s, node) else (node, s)

theorem foldPath_concat_pair (a : α) (i : Nat) (ss : List α) (s : α) :
    foldPath f a i (ss ++ [s]) =
      (fun p : α × α => f p.1 p.2) (hashedPair i ss.length (foldPath f a i ss) s) := by
  rw [foldPath_concat, hashedPair]
  split <;> rfl

theorem hashedPair_mem (a : α) (i : Nat) (ss : List α) (s : α) :
    hashedPair i ss.length (foldPath f a i ss) s ∈ foldPairs f a i (ss ++ [s]) := by
  rw [foldPairs_concat]
  exact List.mem_append_right _ (List.mem_singleton.mpr rfl)

section

variable {i j k : Nat} {x y s t : α}

theorem hashedPair_inj (hbit : i.testBit k = j.testBit k)
    (h : hashedPair i k x s = hashedPair j k y t) : x = y ∧ s = t := by
  rw [hashedPair, hashedPair, hbit] at h
  split at h
  · exact (Prod.mk.inj h).symm
  · exact Prod.mk.inj h

theorem hashedPair_cross (hbit : i.testBit k ≠ j.testBit k)
    (h : hashedPair i k x s = hashedPair j k y t) : x = t ∧ y = s := by
  have hnot : i.testBit k = !j.testBit k := Bool.eq_not_of_ne hbit
  rw [hashedPair, hashedPair, hnot] at h
  cases hj : j.testBit k with
  | true =>
    rw [hj] at h
    exact ⟨(Prod.mk.inj h).1, (Prod.mk.inj h).2.symm⟩
  | false =>
    rw [hj] at h
    exact ⟨(Prod.mk.inj h).2, (Prod.mk.inj h).1.symm⟩

end

/-- What they can be: one path, two that cross where their positions last differ,
each through the sibling of the other, or a collision of the node hash. -/
inductive TwoPaths (a b : α) (i j : Nat) (ss ts : List α) : Prop
  | same (hsides : ∀ d < ss.length, i.testBit d = j.testBit d) (ha : a = b) (hs : ss = ts)
  | crossed (c : Nat) (hc : LastDiffers i j ss.length c)
      (hs : ts[c]? = some (foldPath f a i (ss.take c)))
      (ht : ss[c]? = some (foldPath f b j (ts.take c)))
  | collision (hc : CollisionIn (fun p : α × α => f p.1 p.2) (foldPairs f a i ss ++ foldPairs f b j ts))

section

variable {f} {a b s : α} {i j : Nat} {ss ts : List α}

/-- Going up one level on one side keeps the case. -/
theorem TwoPaths.up (hlen : ss.length = ts.length) (hbit : i.testBit ss.length = j.testBit ss.length)
    (h : TwoPaths f a b i j ss ts) : TwoPaths f a b i j (ss ++ [s]) (ts ++ [s]) := by
  have hlength : (ss ++ [s]).length = ss.length + 1 := List.length_append
  cases h with
  | same hsides ha hs =>
    refine .same (fun d hd => ?_) ha (congrArg (· ++ [s]) hs)
    rw [hlength] at hd
    rcases Nat.lt_succ_iff_lt_or_eq.mp hd with hlt | rfl
    · exact hsides d hlt
    · exact hbit
  | crossed c hc hs ht =>
    have hlt := hc.lt
    refine .crossed c (hlength ▸ hc.succ hbit) ?_ ?_
    · rw [List.getElem?_append_left (hlen ▸ hlt), List.take_append_of_le_length (Nat.le_of_lt hlt), hs]
    · rw [List.getElem?_append_left hlt, List.take_append_of_le_length (hlen ▸ Nat.le_of_lt hlt), ht]
  | collision hc =>
    refine .collision (hc.mono ?_)
    rw [foldPairs_concat, foldPairs_concat]
    exact List.append_subset.mpr ⟨fun p hp => List.mem_append_left _ (List.mem_append_left _ hp),
      fun p hp => List.mem_append_right _ (List.mem_append_left _ hp)⟩

/-- Unwound from the last hash to the first. -/
theorem twoPaths_of_foldPath_eq (hlen : ss.length = ts.length)
    (he : foldPath f a i ss = foldPath f b j ts) : TwoPaths f a b i j ss ts := by
  induction ss using List.reverseRecOn generalizing ts with
  | nil =>
    obtain rfl : ts = [] := List.length_eq_zero_iff.mp hlen.symm
    exact .same (fun d hd => absurd hd (Nat.not_lt_zero d)) he rfl
  | append_singleton ss s ih =>
    cases ts using List.reverseRecOn with
    | nil => simp at hlen
    | append_singleton ts t =>
      have hlen' : ss.length = ts.length := by simpa using hlen
      have hp := hashedPair_mem f a i ss s
      have hq := hashedPair_mem f b j ts t
      rw [foldPath_concat_pair, foldPath_concat_pair, ← hlen'] at he
      rw [← hlen'] at hq
      rcases eq_or_collision (h := fun p : α × α => f p.1 p.2) he with hpair | hcol
      · by_cases hbit : i.testBit ss.length = j.testBit ss.length
        · obtain ⟨hnode, rfl⟩ := hashedPair_inj hbit hpair
          exact (ih hlen' hnode).up hlen' hbit
        · obtain ⟨hnode, hnode'⟩ := hashedPair_cross hbit hpair
          refine .crossed ss.length ⟨by simp, hbit, fun d hd hd' => ?_⟩ ?_ ?_
          · rw [List.length_append, List.length_singleton] at hd'
            omega
          · rw [List.take_left' rfl, hnode, hlen', List.getElem?_concat_length]
          · rw [List.take_left' hlen'.symm, hnode', List.getElem?_concat_length]
      · exact .collision (hcol.mem (List.mem_append_left _ hp) (List.mem_append_right _ hq))

end

namespace PerfectTree

def leaves : {d : Nat} → PerfectTree β d → List β
  | _, leaf b => [b]
  | _, node l r => l.leaves ++ r.leaves

def leafAt : {d : Nat} → PerfectTree β d → Nat → β
  | _, leaf b, _ => b
  | _, node (d := d) l r, i => if i.testBit d then r.leafAt i else l.leafAt i

theorem leaves_length {d : Nat} (t : PerfectTree β d) : t.leaves.length = 2 ^ d := by
  induction t with
  | leaf b => rfl
  | node l r ihl ihr => simp only [leaves, List.length_append, ihl, ihr]; omega

theorem leaves_getElem? {d : Nat} (t : PerfectTree β d) (i : Nat) :
    t.leaves[i % 2 ^ d]? = some (t.leafAt i) := by
  induction t with
  | leaf b => simp [leaves, leafAt, Nat.mod_one]
  | @node d l r ihl ihr =>
    have hlt : i % 2 ^ d < 2 ^ d := Nat.mod_lt _ (Nat.two_pow_pos d)
    have hm : i % 2 ^ (d + 1) = i % 2 ^ d + 2 ^ d * (i / 2 ^ d % 2) := by
      rw [Nat.pow_succ, Nat.mod_mul]
    by_cases hb : i.testBit d = true
    · have h1 : i / 2 ^ d % 2 = 1 := by simpa [Nat.testBit_eq_decide_div_mod_eq] using hb
      have hp : i % 2 ^ (d + 1) - l.leaves.length = i % 2 ^ d := by
        rw [leaves_length, hm, h1]; omega
      rw [leaves, List.getElem?_append_right (by rw [leaves_length, hm, h1]; omega), hp, ihr]
      simp [leafAt, hb]
    · have h0 : i / 2 ^ d % 2 = 0 := by
        have := Nat.mod_lt (i / 2 ^ d) (show 0 < 2 by decide)
        have hne : ¬ i / 2 ^ d % 2 = 1 := by simpa [Nat.testBit_eq_decide_div_mod_eq] using hb
        omega
      have hp : i % 2 ^ (d + 1) = i % 2 ^ d := by rw [hm, h0]; omega
      rw [leaves, List.getElem?_append_left (by rw [leaves_length, hp]; exact hlt), hp, ihl]
      simp [leafAt, hb]

theorem leafAt_mem {d : Nat} (t : PerfectTree β d) (i : Nat) : t.leafAt i ∈ t.leaves :=
  List.mem_of_getElem? (t.leaves_getElem? i)

variable (h : β → α)

def root : {d : Nat} → PerfectTree β d → α
  | _, leaf b => h b
  | _, node l r => f l.root r.root

def siblings : {d : Nat} → PerfectTree β d → Nat → List α
  | _, leaf _, _ => []
  | _, node (d := d) l r, i =>
    if i.testBit d then r.siblings i ++ [l.root f h] else l.siblings i ++ [r.root f h]

def nodePairs : {d : Nat} → PerfectTree β d → List (α × α)
  | _, leaf _ => []
  | _, node l r => (l.root f h, r.root f h) :: (l.nodePairs ++ r.nodePairs)

theorem siblings_length {d : Nat} (t : PerfectTree β d) (i : Nat) :
    (t.siblings f h i).length = d := by
  induction t with
  | leaf b => rfl
  | node l r ihl ihr =>
    simp only [siblings]
    split <;> simp [ihl, ihr]

theorem foldPath_siblings {d : Nat} (t : PerfectTree β d) (i : Nat) :
    foldPath f (h (t.leafAt i)) i (t.siblings f h i) = t.root f h := by
  induction t with
  | leaf b => rfl
  | @node d l r ihl ihr =>
    by_cases hb : i.testBit d = true
    · simp only [leafAt, siblings, hb, if_true, foldPath_concat, siblings_length, ihr, root]
    · simp only [leafAt, siblings, hb, if_false, foldPath_concat, siblings_length, ihl, root,
        Bool.false_eq_true]

/-- What a path that folds to a tree's root can be: the path of the leaf at
its position, one that stops at an inner node, one that goes on below a leaf,
or one that exhibits a collision of the node hash. -/
inductive PathCase {d : Nat} (t : PerfectTree β d) (a : α) (i : Nat) (ss : List α) : Prop
  | leaf (hlen : ss.length = d) (ha : a = h (t.leafAt i)) (hs : ss = t.siblings f h i)
  | short (hlen : ss.length < d) (p : α × α) (hp : p ∈ t.nodePairs f h) (ha : a = f p.1 p.2)
  | long (hlen : d < ss.length) (p : α × α) (hp : p ∈ foldPairs f a i ss) (b : β)
      (hb : b ∈ t.leaves) (he : f p.1 p.2 = h b)
  | collision (hc : CollisionIn (fun p : α × α => f p.1 p.2) (t.nodePairs f h ++ foldPairs f a i ss))

/-- Going up one level keeps the case; `c` is the child on the path. -/
theorem PathCase.up {d : Nat} {l r : PerfectTree β d} {a s : α} {i : Nat} {ss : List α}
    (hs : s = if i.testBit ss.length then l.root f h else r.root f h)
    (hc : PathCase f h (if i.testBit ss.length then r else l) a i ss) :
    PathCase f h (node l r) a i (ss ++ [s]) := by
  have hnp : (if i.testBit ss.length then r else l).nodePairs f h ⊆ (node l r).nodePairs f h := by
    intro p hp
    split at hp <;> simp [nodePairs, hp]
  have hlv : (if i.testBit ss.length then r else l).leaves ⊆ (node l r).leaves := by
    intro b hb
    split at hb <;> simp [leaves, hb]
  have hfp : foldPairs f a i ss ⊆ foldPairs f a i (ss ++ [s]) := by
    rw [foldPairs_concat]
    exact List.subset_append_left _ _
  cases hc with
  | leaf hlen ha he =>
    subst hlen
    refine .leaf (by simp) ?_ ?_
    · rw [ha, leafAt]
      split <;> rfl
    · rw [siblings]
      split at he <;> simp_all
  | short hlen p hp ha => exact .short (by simpa using hlen) p (hnp hp) ha
  | long hlen p hp b hb he => exact .long (by simpa using hlen) p (hfp hp) b (hlv hb) he
  | collision hcol =>
    refine .collision (hcol.mono ?_)
    exact List.append_subset.mpr ⟨fun p hp => List.mem_append_left _ (hnp hp),
      fun p hp => List.mem_append_right _ (hfp hp)⟩

theorem PathCase.eq_of_hash_eq_root {d : Nat} {l r : PerfectTree β d} {a : α} {i : Nat} {ss : List α}
    {p : α × α} (hp : p ∈ foldPairs f a i ss) (he : f p.1 p.2 = (node l r).root f h) :
    p = (l.root f h, r.root f h) ∨ PathCase f h (node l r) a i ss := by
  have hn : (l.root f h, r.root f h) ∈ (node l r).nodePairs f h := by simp [nodePairs]
  rcases eq_or_collision (h := fun p : α × α => f p.1 p.2) (x := p)
    (y := (l.root f h, r.root f h)) he with hh | hcol
  · exact .inl hh
  · exact .inr (.collision (hcol.mem (List.mem_append_right _ hp) (List.mem_append_left _ hn)))

/-- Soundness: walk from the root down, comparing the two hashed pairs at
each level until the path or the tree ends. -/
theorem pathCase_of_foldPath_eq_root {d : Nat} (t : PerfectTree β d) (a : α) (i : Nat)
    (ss : List α) (he : foldPath f a i ss = t.root f h) : PathCase f h t a i ss := by
  induction t generalizing ss with
  | leaf b =>
    cases ss using List.reverseRecOn with
    | nil => exact .leaf rfl he rfl
    | append_singleton ss s =>
      rw [foldPath_concat] at he
      refine .long (by simp) (if i.testBit ss.length then (s, foldPath f a i ss)
        else (foldPath f a i ss, s)) (by simp [foldPairs_concat]) b (by simp [leaves]) ?_
      rw [root] at he
      rw [← he]
      split <;> rfl
  | node l r ihl ihr =>
    cases ss using List.reverseRecOn with
    | nil => exact .short (by simp) (l.root f h, r.root f h) (by simp [nodePairs]) he
    | append_singleton ss s =>
      rw [foldPath_concat] at he
      by_cases hb : i.testBit ss.length = true
      · have hp : (s, foldPath f a i ss) ∈ foldPairs f a i (ss ++ [s]) := by
          simp [foldPairs_concat, hb]
        rw [if_pos hb] at he
        rcases PathCase.eq_of_hash_eq_root f h hp he with hh | hh
        · obtain ⟨hs, hn⟩ := Prod.mk.inj hh
          exact .up f h (by simp [hb, hs]) (by simpa [hb] using ihr ss hn)
        · exact hh
      · have hp : (foldPath f a i ss, s) ∈ foldPairs f a i (ss ++ [s]) := by
          simp [foldPairs_concat, hb]
        rw [if_neg hb] at he
        rcases PathCase.eq_of_hash_eq_root f h hp he with hh | hh
        · obtain ⟨hn, hs⟩ := Prod.mk.inj hh
          exact .up f h (by simp [hb, hs]) (by simpa [hb] using ihl ss hn)
        · exact hh

end PerfectTree

end HashTree
