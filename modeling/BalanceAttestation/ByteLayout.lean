import Mathlib.Data.Vector.Basic

/-! Fixed-width byte fields and their concatenation. An encoding that can be
split off the front of any longer string composes with another such encoding,
so a layout made of fixed-width fields is read back in only one way. -/

abbrev Bytes (n : Nat) := List.Vector UInt8 n

namespace ByteLayout

/-- The `k` low bytes of `n`, least significant first. -/
def leBytes : Nat → Nat → List UInt8
  | 0, _ => []
  | k + 1, n => UInt8.ofNat n :: leBytes k (n / 256)

def ofLeBytes : List UInt8 → Nat
  | [] => 0
  | b :: bs => b.toNat + 256 * ofLeBytes bs

@[simp] theorem leBytes_length (k n : Nat) : (leBytes k n).length = k := by
  induction k generalizing n with
  | zero => rfl
  | succ k ih => simp [leBytes, ih]

def beBytes (k n : Nat) : Bytes k := ⟨(leBytes k n).reverse, by simp⟩

theorem ofLeBytes_leBytes (k n : Nat) : ofLeBytes (leBytes k n) = n % 256 ^ k := by
  induction k generalizing n with
  | zero => simp [leBytes, ofLeBytes, Nat.mod_one]
  | succ k ih =>
    have hb : (UInt8.ofNat n).toNat = n % 256 := by simp
    rw [leBytes, ofLeBytes, ih, hb, Nat.pow_succ, Nat.mul_comm (256 ^ k), Nat.mod_mul]

theorem ofLeBytes_lt (bs : List UInt8) : ofLeBytes bs < 256 ^ bs.length := by
  induction bs with
  | nil => exact Nat.one_pos
  | cons b bs ih =>
    have hb := b.toNat_lt
    rw [ofLeBytes, List.length_cons, Nat.pow_succ]
    omega

theorem leBytes_ofLeBytes (bs : List UInt8) : leBytes bs.length (ofLeBytes bs) = bs := by
  induction bs with
  | nil => rfl
  | cons b bs ih =>
    have hb := b.toNat_lt
    have hlow : UInt8.ofNat (b.toNat + 256 * ofLeBytes bs) = b := by
      apply UInt8.toNat_inj.mp
      rw [UInt8.toNat_ofNat']
      omega
    have hrest : (b.toNat + 256 * ofLeBytes bs) / 256 = ofLeBytes bs := by omega
    rw [List.length_cons, ofLeBytes, leBytes, hlow, hrest, ih]

theorem leBytes_inj {k n m : Nat} (hn : n < 256 ^ k) (hm : m < 256 ^ k)
    (h : leBytes k n = leBytes k m) : n = m := by
  have hh := congrArg ofLeBytes h
  simpa only [ofLeBytes_leBytes, Nat.mod_eq_of_lt hn, Nat.mod_eq_of_lt hm] using hh

theorem ofSlice_eq_some {n : Nat} {bytes : List UInt8} {v : Bytes n} :
    (if h : bytes.length = n then some (⟨bytes, h⟩ : Bytes n) else none) = some v ↔
      bytes = v.toList := by
  constructor
  · intro h
    split at h
    · rw [← Option.some.inj h]
      rfl
    · cases h
  · intro h
    subst h
    rw [dif_pos v.toList_length]
    rfl

section PrefixFree

variable {α β γ : Type*}

/-- `enc a` can be split off the front of any longer string. -/
def PrefixFree (enc : α → List γ) : Prop :=
  ∀ ⦃a b s t⦄, enc a ++ s = enc b ++ t → a = b ∧ s = t

theorem PrefixFree.injective {enc : α → List γ} (h : PrefixFree enc) : Function.Injective enc :=
  fun a b hab => (@h a b [] [] (congrArg (· ++ []) hab)).1

theorem prefixFree_of_width {enc : α → List γ} (k : Nat) (hk : ∀ a, (enc a).length = k)
    (hinj : Function.Injective enc) : PrefixFree enc := by
  intro a b s t h
  have hh := List.append_inj h ((hk a).trans (hk b).symm)
  exact ⟨hinj hh.1, hh.2⟩

/-- Tags of which none is the start of another are split off in one way. -/
theorem prefixFree_of_tags {tag : α → List γ} (h : ∀ a b, tag a <+: tag b → a = b) :
    PrefixFree tag := by
  intro a b s t he
  have hab : a = b := by
    rcases List.prefix_or_prefix_of_prefix (List.prefix_append (tag a) s)
      (he ▸ List.prefix_append (tag b) t) with hp | hp
    · exact h a b hp
    · exact (h b a hp).symm
  subst hab
  exact ⟨rfl, List.append_cancel_left he⟩

theorem PrefixFree.flatMap {enc : α → List γ} (h : PrefixFree enc) (k : Nat) :
    PrefixFree (fun v : List.Vector α k => v.toList.flatMap enc) := by
  have hl : ∀ {xs ys : List α} {s t : List γ}, xs.length = ys.length →
      xs.flatMap enc ++ s = ys.flatMap enc ++ t → xs = ys ∧ s = t := by
    intro xs
    induction xs with
    | nil =>
      intro ys s t hlen he
      have hy : ys = [] := List.length_eq_zero_iff.mp hlen.symm
      subst hy
      exact ⟨rfl, he⟩
    | cons x xs ih =>
      intro ys s t hlen he
      cases ys with
      | nil => simp at hlen
      | cons y ys =>
        simp only [List.flatMap_cons, List.append_assoc] at he
        obtain ⟨hx, he'⟩ := h he
        obtain ⟨hxs, hst⟩ := ih (by simpa using hlen) he'
        exact ⟨by rw [hx, hxs], hst⟩
  intro v w s t he
  have hh := hl (by simp) he
  exact ⟨List.Vector.eq v w hh.1, hh.2⟩

theorem prefixFree_bytes (n : Nat) : PrefixFree (fun b : Bytes n => b.toList) :=
  prefixFree_of_width n (fun b => b.toList_length) (fun a b h => List.Vector.eq a b h)

theorem prefixFree_leBytes (k : Nat) {w : Nat} (hw : 2 ^ w = 256 ^ k) :
    PrefixFree (fun x : BitVec w => leBytes k x.toNat) :=
  prefixFree_of_width k (fun _ => leBytes_length _ _) fun x y h =>
    BitVec.eq_of_toNat_eq (leBytes_inj (hw ▸ x.isLt) (hw ▸ y.isLt) h)

theorem prefixFree_word : PrefixFree (fun x : UInt32 => leBytes 4 x.toNat) :=
  prefixFree_of_width 4 (fun _ => leBytes_length _ _) fun x y h =>
    UInt32.toNat_inj.mp (leBytes_inj (by have := x.toNat_lt; omega) (by have := y.toNat_lt; omega) h)

end PrefixFree

theorem toList_loop_eq (bs : ByteArray) (i : Nat) (acc : List UInt8) :
    ByteArray.toList.loop bs i acc = acc.reverse ++ bs.data.toList.drop i := by
  fun_induction ByteArray.toList.loop bs i acc with
  | case1 i acc h ih =>
    have hi : i < bs.data.toList.length := by simpa using h
    rw [ih, List.drop_eq_getElem_cons hi]
    simp [ByteArray.get!, h]
  | case2 i acc h =>
    rw [List.drop_eq_nil_of_le (by simpa using Nat.le_of_not_lt h)]
    simp

theorem utf8_injective : Function.Injective fun s : String => s.toUTF8.toList := by
  intro s t h
  have htoList (bs : ByteArray) : bs.toList = bs.data.toList := by
    rw [ByteArray.toList, toList_loop_eq]
    rfl
  simp only [htoList, Array.toList_inj] at h
  exact String.toByteArray_inj.mp (ByteArray.ext h)

end ByteLayout
