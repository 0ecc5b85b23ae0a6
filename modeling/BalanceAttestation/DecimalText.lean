import Mathlib

/-! Numbers in decimal, and lists of them with commas between. -/

namespace DecimalText

def commas (ns : List Nat) : String := ",".intercalate (ns.map toString)

theorem isDigit_of_mem {n : Nat} {c : Char} (h : c ∈ (toString n).toList) : c.isDigit := by
  have htext : (toString n).toList = Nat.toDigits 10 n := by
    change n.repr.toList = _
    rw [Nat.repr_eq_ofList_toDigits, String.toList_ofList]
  rw [htext] at h
  exact Nat.isDigit_of_mem_toDigits (by decide) (by decide) h

theorem comma_notMem (n : Nat) : ',' ∉ (toString n).toList := by
  intro h
  have hdigit := isDigit_of_mem h
  simp at hdigit

theorem commas_toList (ns : List Nat) :
    (commas ns).toList = [','].intercalate (ns.map fun n => (toString n).toList) := by
  rw [commas, String.toList_intercalate, List.map_map]
  rfl

theorem splitOn_commas {ns : List Nat} (h : ns ≠ []) :
    (commas ns).toList.splitOn ',' = ns.map fun n => (toString n).toList := by
  rw [commas_toList, List.splitOn_intercalate]
  · intro l hl
    obtain ⟨n, -, rfl⟩ := List.mem_map.mp hl
    exact comma_notMem n
  · simpa using h

theorem commas_ne_nil (n : Nat) (ns : List Nat) : (commas (n :: ns)).toList ≠ [] := by
  rw [commas_toList, List.map_cons]
  cases ns with
  | nil => simp
  | cons m ns => simp

theorem commas_injective : Function.Injective commas := by
  intro ns ms h
  have htext := congrArg String.toList h
  have hnil : (commas []).toList = [] := commas_toList []
  cases ns with
  | nil =>
    cases ms with
    | nil => rfl
    | cons m ms => exact absurd (htext.symm.trans hnil) (commas_ne_nil m ms)
  | cons n ns =>
    cases ms with
    | nil => exact absurd (htext.trans hnil) (commas_ne_nil n ns)
    | cons m ms =>
      have hsplit := splitOn_commas (List.cons_ne_nil n ns)
      rw [htext, splitOn_commas (List.cons_ne_nil m ms)] at hsplit
      refine (List.map_injective_iff.mpr ?_ hsplit).symm
      intro x y hxy
      exact Nat.repr_injective (String.toList_inj.mp hxy)

theorem mem_commas {ns : List Nat} {c : Char} (h : c ∈ (commas ns).toList) : c.isDigit ∨ c = ',' := by
  rw [commas_toList] at h
  induction ns with
  | nil => cases h
  | cons n ns ih =>
    cases ns with
    | nil => exact .inl (isDigit_of_mem (by simpa using h))
    | cons m ns =>
      rw [List.map_cons, List.map_cons, List.intercalate_cons_cons, List.mem_append, List.mem_append] at h
      rcases h with (h | h) | h
      · exact .inl (isDigit_of_mem h)
      · exact .inr (List.mem_singleton.mp h)
      · exact ih (by simpa using h)

end DecimalText
