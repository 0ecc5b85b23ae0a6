import BalanceAttestation.ByteLayout
import BalanceAttestation.Numerals
import Mathlib.Data.List.Induction

/-! Account ids in base 58. Two loops multiply the digits so far by 256 in place and
add the next byte, the script divides one big integer; each puts a `1` in front for
every leading zero byte. -/

namespace BalanceAttestation

open ByteLayout

namespace Base58

def ALPHABET : List Char := "123456789ABCDEFGHJKLMNPQRSTUVWXYZabcdefghijkmnopqrstuvwxyz".toList

/-- One pass over the digits, least significant first, with the carry it ends on. -/
def multiplyAdd (carry : UInt64) : List UInt8 → List UInt8 × UInt64
  | [] => ([], carry)
  | digit :: digits =>
    let carry := carry + (digit.toUInt64 <<< 8)
    let (digits, last) := multiplyAdd (carry / 58) digits
    ((carry % 58).toUInt8 :: digits, last)

/-- The digits pushed while a carry is left. -/
def pushCarry (carry : UInt64) : List UInt8 :=
  if h : carry > 0 then (carry % 58).toUInt8 :: pushCarry (carry / 58) else []
termination_by carry.toNat
decreasing_by
  have hpos : 0 < carry.toNat := h
  rw [UInt64.toNat_div]
  exact Nat.div_lt_self hpos (by decide)

def absorb (digits : List UInt8) (byte : UInt8) : List UInt8 :=
  let (digits, carry) := multiplyAdd byte.toUInt64 digits
  digits ++ pushCarry carry

def digits (input : List UInt8) : List UInt8 := input.foldl absorb []

def leadingZeros (input : List UInt8) : Nat := (input.takeWhile fun b => b = 0).length

/-- `none` where the alphabet is indexed out of its range. -/
def text (input : List UInt8) : Option String := do
  let symbols ← (digits input).reverse.mapM fun d => ALPHABET[d.toNat]?
  return String.ofList (List.replicate (leadingZeros input) '1' ++ symbols)

/-- The CU benchmark's encoder. -/
def bs58Encode (input : Bytes 32) : Option String := text input.toList

/-- The test helper, on any bytes. -/
def base58 (bytes : List UInt8) : Option String := text bytes

end Base58

namespace OnchainProofScript

open Base58 (ALPHABET)

/-- `while n: n,r = divmod(n,58); o = A[r:r+1]+o`. -/
def b58Loop (n : Nat) (o : List Char) : List Char :=
  if n = 0 then o else b58Loop (n / 58) ((ALPHABET.drop (n % 58)).take 1 ++ o)

def b58 (b : List UInt8) : String :=
  let n := ofLeBytes b.reverse
  let zeros := b.length - (b.dropWhile fun x => x = 0).length
  String.ofList (List.replicate zeros '1' ++ b58Loop n [])

end OnchainProofScript

namespace Base58

open Numerals

def symbol (d : Nat) : Char := ALPHABET.getD d '1'

def byteValue (bytes : List UInt8) : Nat := value 256 (bytes.map UInt8.toNat)

/-- One `1` for each leading zero byte, then the digits of the big-endian integer. -/
def encoding (bytes : List UInt8) : String :=
  String.ofList (List.replicate (leadingZeros bytes) '1' ++
    (Nat.digits 58 (byteValue bytes)).reverse.map symbol)

theorem toNat_digit (x : UInt64) : (x % 58).toUInt8.toNat = x.toNat % 58 := by
  rw [UInt64.toNat_toUInt8, UInt64.toNat_mod]
  exact Nat.mod_eq_of_lt (lt_trans (Nat.mod_lt _ (by decide)) (by decide))

theorem pushCarry_eq (carry : UInt64) : (pushCarry carry).map UInt8.toNat = Nat.digits 58 carry.toNat := by
  fun_induction pushCarry carry with
  | case1 carry h ih =>
    rw [List.map_cons, ih, toNat_digit, UInt64.toNat_div]
    exact (Nat.digits_def' (by decide) h).symm
  | case2 carry h =>
    have hzero : carry.toNat = 0 := Nat.eq_zero_of_not_pos h
    rw [hzero, Nat.digits_zero]
    rfl

theorem digits_uncons {d : UInt8} {ds : List UInt8} {n : Nat}
    (h : (d :: ds).map UInt8.toNat = Nat.digits 58 n) :
    0 < n ∧ d.toNat = n % 58 ∧ ds.map UInt8.toNat = Nat.digits 58 (n / 58) := by
  have hn : 0 < n := by
    refine Nat.pos_of_ne_zero fun hn => ?_
    rw [hn, Nat.digits_zero] at h
    cases h
  rw [List.map_cons, Nat.digits_def' (by decide) hn] at h
  exact ⟨hn, List.cons.inj h⟩

theorem toNat_widened {carry : UInt64} {d : UInt8} (hcarry : carry.toNat ≤ 255) :
    (carry + (d.toUInt64 <<< 8)).toNat = 256 * d.toNat + carry.toNat := by
  have hd := d.toNat_lt
  have hshift : (d.toUInt64 <<< 8).toNat = d.toNat <<< 8 % 2 ^ 64 := rfl
  rw [UInt64.toNat_add, hshift, Nat.shiftLeft_eq]
  omega

/-- The carry stays a byte, so nothing overflows. -/
theorem multiplyAdd_eq {carry : UInt64} {ds : List UInt8} {n : Nat} (hcarry : carry.toNat ≤ 255)
    (hds : ds.map UInt8.toNat = Nat.digits 58 n) :
    ((multiplyAdd carry ds).1 ++ pushCarry (multiplyAdd carry ds).2).map UInt8.toNat =
      Nat.digits 58 (256 * n + carry.toNat) := by
  induction ds generalizing carry n with
  | nil =>
    have hn : n = 0 := Nat.digits_eq_nil_iff_eq_zero.mp hds.symm
    rw [hn, Nat.mul_zero, Nat.zero_add]
    exact pushCarry_eq carry
  | cons d ds ih =>
    obtain ⟨hn, hd, hrest⟩ := digits_uncons hds
    have hwide := toNat_widened (d := d) hcarry
    have hlt : d.toNat < 58 := hd ▸ Nat.mod_lt _ (by decide)
    have hnext : ((carry + (d.toUInt64 <<< 8)) / 58).toNat = (256 * d.toNat + carry.toNat) / 58 := by
      rw [UInt64.toNat_div, hwide]
      rfl
    have hsmall : ((carry + (d.toUInt64 <<< 8)) / 58).toNat ≤ 255 := by omega
    have htail := ih hsmall hrest
    have hcons : multiplyAdd carry (d :: ds) = (((carry + (d.toUInt64 <<< 8)) % 58).toUInt8 ::
        (multiplyAdd ((carry + (d.toUInt64 <<< 8)) / 58) ds).1,
        (multiplyAdd ((carry + (d.toUInt64 <<< 8)) / 58) ds).2) := rfl
    rw [hcons, List.cons_append, List.map_cons, htail, toNat_digit, hwide, hnext,
      Nat.digits_def' (n := 256 * n + carry.toNat) (by decide) (by omega)]
    congr 1
    · omega
    · congr 1
      omega

theorem digits_eq (bytes : List UInt8) : (digits bytes).map UInt8.toNat = Nat.digits 58 (byteValue bytes) := by
  induction bytes using List.reverseRecOn with
  | nil => rfl
  | append_singleton bytes b ih =>
    have hb : b.toUInt64.toNat ≤ 255 := by
      rw [UInt8.toNat_toUInt64]
      exact Nat.le_of_lt_succ b.toNat_lt
    have habsorb : digits (bytes ++ [b]) = absorb (digits bytes) b := List.foldl_concat ..
    rw [habsorb, byteValue, List.map_append, List.map_singleton, value_append_singleton]
    exact (multiplyAdd_eq hb ih).trans (by rw [UInt8.toNat_toUInt64]; rfl)

theorem digits_lt {bytes : List UInt8} : ∀ d ∈ digits bytes, d.toNat < 58 := by
  intro d hd
  have hmem := List.mem_map_of_mem (f := UInt8.toNat) hd
  rw [digits_eq] at hmem
  exact Nat.digits_lt_base (by decide) hmem

theorem alphabet_getElem? {d : Nat} (h : d < 58) : ALPHABET[d]? = some (symbol d) := by
  have hlen : ALPHABET.length = 58 := by decide
  rw [symbol, List.getD_eq_getElem?_getD, List.getElem?_eq_getElem (hlen ▸ h), Option.getD_some]

theorem mapM_symbols {ds : List UInt8} (h : ∀ d ∈ ds, d.toNat < 58) :
    (ds.mapM fun d => ALPHABET[d.toNat]?) = some ((ds.map UInt8.toNat).map symbol) := by
  induction ds with
  | nil => rfl
  | cons d ds ih =>
    rw [List.forall_mem_cons] at h
    rw [List.mapM_cons, alphabet_getElem? h.1, ih h.2]
    rfl

theorem text_eq (bytes : List UInt8) : text bytes = some (encoding bytes) := by
  have hlt : ∀ d ∈ (digits bytes).reverse, d.toNat < 58 := fun d hd => digits_lt d (List.mem_reverse.mp hd)
  rw [text, mapM_symbols hlt, List.map_reverse, digits_eq]
  rfl

theorem byteValue_eq (bytes : List UInt8) : ofLeBytes bytes.reverse = byteValue bytes := by
  have hdigits : ∀ bs : List UInt8, ofLeBytes bs = Nat.ofDigits 256 (bs.map UInt8.toNat) := by
    intro bs
    induction bs with
    | nil => rfl
    | cons b bs ih =>
      rw [ofLeBytes, ih, List.map_cons, Nat.ofDigits_cons]
  rw [hdigits, byteValue, value, List.map_reverse]

theorem slice_symbol {d : Nat} (h : d < 58) : (ALPHABET.drop d).take 1 = [symbol d] := by
  revert d
  decide +kernel

theorem b58Loop_eq (n : Nat) (o : List Char) :
    OnchainProofScript.b58Loop n o = (Nat.digits 58 n).reverse.map symbol ++ o := by
  fun_induction OnchainProofScript.b58Loop n o with
  | case1 o => rw [Nat.digits_zero]; rfl
  | case2 n o hn ih =>
    rw [ih, slice_symbol (Nat.mod_lt n (by decide)), Nat.digits_def' (by decide) (Nat.pos_of_ne_zero hn),
      List.reverse_cons, List.map_append, List.append_assoc]
    rfl

theorem b58_eq (b : List UInt8) : OnchainProofScript.b58 b = encoding b := by
  have hzeros : b.length - (b.dropWhile fun x => x = 0).length = leadingZeros b := by
    have h := congrArg List.length (List.takeWhile_append_dropWhile (p := fun x : UInt8 => x = 0) (l := b))
    rw [List.length_append] at h
    rw [leadingZeros]
    omega
  rw [OnchainProofScript.b58, byteValue_eq, b58Loop_eq, hzeros, List.append_nil, encoding]

theorem zeros_bytes (bytes : List UInt8) : zeros (bytes.map UInt8.toNat) = leadingZeros bytes := by
  rw [zeros, leadingZeros, List.takeWhile_map, List.length_map]
  congr 2
  funext b
  simp [← UInt8.toNat_inj]

theorem encoding_eq_convert (bytes : List UInt8) :
    encoding bytes = String.ofList ((convert 256 58 (bytes.map UInt8.toNat)).map symbol) := by
  rw [encoding, convert, numeral, zeros_bytes, List.map_append, List.map_replicate]
  rfl

theorem idxOf_symbol {d : Nat} (h : d < 58) : ALPHABET.idxOf (symbol d) = d := by
  revert d
  decide +kernel

theorem map_symbol_inj {ds es : List Nat} (hds : ∀ d ∈ ds, d < 58) (hes : ∀ d ∈ es, d < 58)
    (h : ds.map symbol = es.map symbol) : ds = es := by
  have hback : ∀ ls : List Nat, (∀ d ∈ ls, d < 58) → (ls.map symbol).map ALPHABET.idxOf = ls := by
    intro ls hls
    rw [List.map_map]
    exact (List.map_congr_left fun d hd => idxOf_symbol (hls d hd)).trans (List.map_id ls)
  rw [← hback ds hds, h, hback es hes]

theorem encoding_injective : Function.Injective encoding := by
  intro bytes bytes' h
  rw [encoding_eq_convert, encoding_eq_convert] at h
  have hdigits : ∀ bs : List UInt8, ∀ d ∈ convert 256 58 (bs.map UInt8.toNat), d < 58 := by
    intro bs d hd
    rcases List.mem_append.mp hd with hd | hd
    · rw [List.eq_of_mem_replicate hd]
      decide
    · exact Nat.digits_lt_base (by decide) (List.mem_reverse.mp hd)
  have hbytes : ∀ bs : List UInt8, ∀ d ∈ bs.map UInt8.toNat, d < 256 := by
    intro bs d hd
    obtain ⟨b, -, rfl⟩ := List.mem_map.mp hd
    exact b.toNat_lt
  have hnumerals := map_symbol_inj (hdigits bytes) (hdigits bytes') (String.ofList_injective h)
  have hvalues := convert_inj (by decide) (hbytes bytes) (hbytes bytes') hnumerals
  exact List.map_injective_iff.mpr (fun _ _ => UInt8.toNat_inj.mp) hvalues

end Base58

open Base58 OnchainProofScript in
/-- The three encoders write the same text, and no two ids share one. -/
theorem account_ids_exact :
    (∀ bytes, base58 bytes = some (encoding bytes) ∧ b58 bytes = encoding bytes) ∧
    (∀ input : Bytes 32, bs58Encode input = some (encoding input.toList) ∧
      bs58Encode input = base58 input.toList ∧ bs58Encode input = some (b58 input.toList)) ∧
    (∀ bytes, (∀ d ∈ digits bytes, d.toNat < 58) ∧
      (digits bytes).map UInt8.toNat = Nat.digits 58 (byteValue bytes) ∧
      (digits bytes).reverse.head? ≠ some 0) ∧
    Function.Injective base58 ∧ Function.Injective b58 ∧ Function.Injective bs58Encode := by
  have hbase58 : Function.Injective base58 := by
    intro bytes bytes' h
    rw [base58, base58, text_eq, text_eq] at h
    exact encoding_injective (Option.some.inj h)
  refine ⟨fun bytes => ⟨text_eq bytes, b58_eq bytes⟩, ?_, ?_, hbase58, ?_, ?_⟩
  · intro input
    refine ⟨text_eq input.toList, rfl, ?_⟩
    rw [b58_eq]
    exact text_eq input.toList
  · intro bytes
    refine ⟨digits_lt, digits_eq bytes, fun hzero => ?_⟩
    have hhead := Numerals.head?_digits_reverse (b := 58) (byteValue bytes)
    rw [← digits_eq, ← List.map_reverse, List.head?_map, hzero] at hhead
    exact hhead rfl
  · intro bytes bytes' h
    rw [b58_eq, b58_eq] at h
    exact encoding_injective h
  · intro input input' h
    exact List.Vector.eq _ _ (hbase58 h)

end BalanceAttestation
