import Mathlib.Data.Nat.Digits.Lemmas

/-! Numerals with their leading zeros kept. A string of digits is the number of its
leading zeros and its value, so it can be rewritten in another base and back. -/

namespace Numerals

def zeros (ds : List Nat) : Nat := (ds.takeWhile fun d => d = 0).length

/-- Most significant digit first. -/
def value (b : Nat) (ds : List Nat) : Nat := Nat.ofDigits b ds.reverse

def numeral (b z n : Nat) : List Nat := List.replicate z 0 ++ (Nat.digits b n).reverse

def convert (a b : Nat) (ds : List Nat) : List Nat := numeral b (zeros ds) (value a ds)

variable {a b : Nat}

theorem value_append_singleton (ds : List Nat) (d : Nat) :
    value b (ds ++ [d]) = b * value b ds + d := by
  rw [value, List.reverse_append, List.reverse_singleton, List.singleton_append, Nat.ofDigits_cons, value,
    Nat.add_comm]

theorem head?_digits_reverse (n : Nat) : (Nat.digits b n).reverse.head? ≠ some 0 := by
  rw [List.head?_reverse]
  by_cases hn : n = 0
  · rw [hn, Nat.digits_zero]
    exact nofun
  · rw [List.getLast?_eq_some_getLast (Nat.digits_ne_nil_iff_ne_zero.mpr hn)]
    exact fun h => Nat.getLast_digit_ne_zero b hn (Option.some.inj h)

theorem takeWhile_zero {ds : List Nat} (h : ds.head? ≠ some 0) : ds.takeWhile (fun d => d = 0) = [] := by
  cases ds with
  | nil => rfl
  | cons d ds =>
    rw [List.takeWhile_cons_of_neg]
    simpa using h

theorem zeros_numeral (z n : Nat) : zeros (numeral b z n) = z := by
  rw [zeros, numeral, List.takeWhile_append_of_pos (by simp), takeWhile_zero (head?_digits_reverse n),
    List.append_nil, List.length_replicate]

theorem value_numeral (z n : Nat) : value b (numeral b z n) = n := by
  rw [value, numeral, List.reverse_append, List.reverse_reverse, List.reverse_replicate,
    Nat.ofDigits_append_replicate_zero, Nat.ofDigits_digits]

theorem numeral_zeros_value (hb : 1 < b) {ds : List Nat} (hds : ∀ d ∈ ds, d < b) :
    numeral b (zeros ds) (value b ds) = ds := by
  induction ds with
  | nil => simp [zeros, value, numeral]
  | cons d ds ih =>
    by_cases hd : d = 0
    · subst hd
      have hzeros : zeros (0 :: ds) = zeros ds + 1 := rfl
      have hvalue : value b (0 :: ds) = value b ds := by
        rw [value, List.reverse_cons]
        exact Nat.ofDigits_append_zero _
      rw [hzeros, hvalue]
      exact congrArg (0 :: ·) (ih fun e he => hds e (List.mem_cons_of_mem 0 he))
    · have hzeros : zeros (d :: ds) = 0 := by
        rw [zeros, takeWhile_zero (by simpa using hd), List.length_nil]
      have hdigits : Nat.digits b (value b (d :: ds)) = (d :: ds).reverse := by
        refine Nat.digits_ofDigits b hb _ (fun e he => hds e (List.mem_reverse.mp he)) fun _ => ?_
        rw [List.getLast_reverse]
        exact hd
      rw [hzeros, numeral, hdigits, List.reverse_reverse]
      rfl

theorem convert_convert (ha : 1 < a) {ds : List Nat} (hds : ∀ d ∈ ds, d < a) :
    convert b a (convert a b ds) = ds := by
  rw [convert, convert, zeros_numeral, value_numeral, numeral_zeros_value ha hds]

theorem convert_inj (ha : 1 < a) {ds es : List Nat} (hds : ∀ d ∈ ds, d < a) (hes : ∀ d ∈ es, d < a)
    (h : convert a b ds = convert a b es) : ds = es := by
  rw [← convert_convert (b := b) ha hds, h, convert_convert ha hes]

end Numerals
