import BalanceAttestation.CommitmentTree

/-! What a Merkle root says about a path without a tree behind it. Short of a
collision a path of known length and position is the only one of its root, and two
positions share a root only where the paths cross. -/

namespace BalanceAttestation

open HashTree

/-- The strings the loop hashes. -/
def foldStrings (sha256 : HashFn) (node : Bytes 32) (idx : UInt64) :
    List (Bytes 32) → List (List UInt8)
  | [] => []
  | sib :: siblings =>
    let m := if idx &&& 1 = 0 then node.toList ++ sib.toList else sib.toList ++ node.toList
    m :: foldStrings sha256 (sha256 m) (idx >>> 1) siblings

section

variable {sha256 : HashFn}

theorem foldStrings_eq (node : Bytes 32) (idx : UInt64) (siblings : List (Bytes 32)) :
    foldStrings sha256 node idx siblings =
      (foldPairs (hashTwo sha256) node idx.toNat siblings).map pairBytes := by
  induction siblings generalizing node idx with
  | nil => rfl
  | cons sib siblings ih =>
    simp only [foldStrings, foldPairs, List.map_cons, ih, toNat_shiftRight_one, and_one_eq_zero_iff]
    split <;> rfl

theorem foldStrings_length {node : Bytes 32} {idx : UInt64} {siblings : List (Bytes 32)} {m : List UInt8}
    (hm : m ∈ foldStrings sha256 node idx siblings) : m.length = 64 := by
  rw [foldStrings_eq] at hm
  obtain ⟨p, -, rfl⟩ := List.mem_map.mp hm
  rw [pairBytes, List.length_append, List.Vector.toList_length, List.Vector.toList_length]

theorem collisionIn_foldStrings {l l' : Bytes 32} {i j : UInt64} {s s' : List (Bytes 32)}
    (hc : CollisionIn (fun p : Bytes 32 × Bytes 32 => hashTwo sha256 p.1 p.2)
      (foldPairs (hashTwo sha256) l i.toNat s ++ foldPairs (hashTwo sha256) l' j.toNat s')) :
    CollisionIn sha256 (foldStrings sha256 l i s ++ foldStrings sha256 l' j s') := by
  have hc' : CollisionIn (sha256 ∘ pairBytes) _ := hc
  rw [foldStrings_eq, foldStrings_eq, ← List.map_append]
  exact hc'.of_comp pairBytes_injective

variable {l l' : Bytes 32} {i j : UInt64} {s s' : List (Bytes 32)}

/-- One root fixes the leaf and the siblings of a position. Two positions share it
only if at the highest level where they part each node is the other's sibling. -/
theorem foldMerklePath_binding (hlen : s.length = s'.length)
    (h : foldMerklePath sha256 l i s = foldMerklePath sha256 l' j s') :
    let k := s.length
    ((i.toNat % 2 ^ k = j.toNat % 2 ^ k → l = l' ∧ s = s') ∧
      (∀ b, LastDiffers i.toNat j.toNat k b →
        s'[b]? = some (foldMerklePath sha256 l i (s.take b)) ∧
        s[b]? = some (foldMerklePath sha256 l' j (s'.take b))) ∧
      (i.toNat % 2 ^ k ≠ j.toNat % 2 ^ k → ∃ b, LastDiffers i.toNat j.toNat k b ∧
        (s = s' → s[b]? = some (foldMerklePath sha256 l i (s.take b)) ∧
          s[b]? = some (foldMerklePath sha256 l' j (s.take b))))) ∨
    ∃ m ∈ foldStrings sha256 l i s ++ foldStrings sha256 l' j s',
      ∃ m' ∈ foldStrings sha256 l i s ++ foldStrings sha256 l' j s',
        m.length = 64 ∧ m'.length = 64 ∧ Collision sha256 m m' := by
  intro k
  simp only [foldMerklePath_eq] at h ⊢
  cases twoPaths_of_foldPath_eq hlen h with
  | same hsides hl hs =>
    have hmod : i.toNat % 2 ^ k = j.toNat % 2 ^ k := mod_eq_iff_testBit.mpr hsides
    refine .inl ⟨fun _ => ⟨hl, hs⟩, ?_, fun hne => absurd hmod hne⟩
    intro b hb
    exact absurd (hsides b hb.lt) hb.differ
  | crossed c hc hs ht =>
    refine .inl ⟨?_, ?_, ?_⟩
    · intro hmod
      exact absurd (mod_eq_iff_testBit.mp hmod c hc.lt) hc.differ
    · intro b hb
      rw [hb.unique hc]
      exact ⟨hs, ht⟩
    · intro _
      refine ⟨c, hc, ?_⟩
      rintro rfl
      exact ⟨hs, ht⟩
  | collision hc =>
    obtain ⟨m, hm, m', hm', hcol⟩ := collisionIn_foldStrings hc
    have hlength : ∀ x ∈ foldStrings sha256 l i s ++ foldStrings sha256 l' j s', x.length = 64 := by
      intro x hx
      rcases List.mem_append.mp hx with hx | hx
      · exact foldStrings_length hx
      · exact foldStrings_length hx
    exact .inr ⟨m, hm, m', hm', hlength m hm, hlength m' hm', hcol⟩

end

/-- A leaf that is its own sibling stands on either side. -/
theorem foldMerklePath_self_sibling (sha256 : HashFn) (l : Bytes 32) {i j : UInt64} (h : i >>> 1 = j >>> 1)
    (siblings : List (Bytes 32)) :
    foldMerklePath sha256 l i (l :: siblings) = foldMerklePath sha256 l j (l :: siblings) := by
  rw [foldMerklePath, foldMerklePath, ite_self, ite_self, h]

theorem foldMerklePath_binding_self_sibling :
    let l : Bytes 32 := .replicate 32 1
    let s : List (Bytes 32) := [l, .replicate 32 2]
    ((2 % 2 ^ 2 = 3 % 2 ^ 2 → l = l ∧ s = s) ∧
      (∀ b, LastDiffers 2 3 2 b →
        s[b]? = some (foldMerklePath Sha256.digest l 2 (s.take b)) ∧
        s[b]? = some (foldMerklePath Sha256.digest l 3 (s.take b))) ∧
      (2 % 2 ^ 2 ≠ 3 % 2 ^ 2 → ∃ b, LastDiffers 2 3 2 b ∧
        (s = s → s[b]? = some (foldMerklePath Sha256.digest l 2 (s.take b)) ∧
          s[b]? = some (foldMerklePath Sha256.digest l 3 (s.take b))))) ∨
    ∃ m ∈ foldStrings Sha256.digest l 2 s ++ foldStrings Sha256.digest l 3 s,
      ∃ m' ∈ foldStrings Sha256.digest l 2 s ++ foldStrings Sha256.digest l 3 s,
        m.length = 64 ∧ m'.length = 64 ∧ Collision Sha256.digest m m' :=
  foldMerklePath_binding (i := 2) (j := 3) rfl
    (foldMerklePath_self_sibling Sha256.digest (.replicate 32 1) rfl [.replicate 32 2])

end BalanceAttestation
