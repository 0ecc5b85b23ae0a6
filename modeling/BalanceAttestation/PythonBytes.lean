import Mathlib.Data.Int.Bitwise
import BalanceAttestation.ByteLayout
import BalanceAttestation.Checks

/-! Python's integers, bytes and hex texts, as far as a script that builds byte
strings uses them. An integer has no width of its own, so every step that fixes
one can raise. -/

namespace Python

open ByteLayout Checks

inductive PyError
  | overflowError
  | valueError
  | systemExit (status : Nat)
  deriving DecidableEq

def toBytesLittle (k : Nat) (n : Int) : Except PyError (List UInt8) :=
  if 0 ≤ n ∧ n < 256 ^ k then .ok (leBytes k n.toNat) else .error .overflowError

def bytes : List Int → Except PyError (List UInt8)
  | [] => .ok []
  | x :: xs => do
    rejectIf (¬ (0 ≤ x ∧ x < 256)) .valueError
    let rest ← bytes xs
    return UInt8.ofNat x.toNat :: rest

def hexPair (b : UInt8) : List Char := [Nat.digitChar (b.toNat / 16), Nat.digitChar (b.toNat % 16)]

def hex (bs : List UInt8) : String := String.ofList (bs.flatMap hexPair)

def hexValue (c : Char) : Option Nat :=
  if '0' ≤ c ∧ c ≤ '9' then some (c.toNat - 48)
  else if 'a' ≤ c ∧ c ≤ 'f' then some (c.toNat - 87)
  else if 'A' ≤ c ∧ c ≤ 'F' then some (c.toNat - 55)
  else none

def isAsciiSpace (c : Char) : Bool := c = ' ' ∨ (9 ≤ c.toNat ∧ c.toNat ≤ 13)

def fromHexChars : List Char → Except PyError (List UInt8)
  | [] => .ok []
  | [c] => if isAsciiSpace c then .ok [] else .error .valueError
  | c :: d :: rest =>
    -- Spaces are skipped before a pair of digits, never inside one.
    if isAsciiSpace c then fromHexChars (d :: rest)
    else do
      let high ← okOr (hexValue c) .valueError
      let low ← okOr (hexValue d) .valueError
      let rest ← fromHexChars rest
      return UInt8.ofNat (16 * high + low) :: rest

def fromHex (s : String) : Except PyError (List UInt8) := fromHexChars s.toList

def isSpace (c : Char) : Bool :=
  isAsciiSpace c ∨ (0x1c ≤ c.toNat ∧ c.toNat ≤ 0x1f) ∨ c.toNat = 0x85 ∨ c.toNat = 0xa0 ∨
    c.toNat = 0x1680 ∨ (0x2000 ≤ c.toNat ∧ c.toNat ≤ 0x200a) ∨ c.toNat = 0x2028 ∨
    c.toNat = 0x2029 ∨ c.toNat = 0x202f ∨ c.toNat = 0x205f ∨ c.toNat = 0x3000

def strip (s : String) : String :=
  String.ofList (((s.toList.dropWhile isSpace).reverse.dropWhile isSpace).reverse)

def csv (xs : List Int) : String := ",".intercalate (xs.map toString)

theorem toBytesLittle_cast {k n : Nat} (h : n < 256 ^ k) :
    toBytesLittle k n = .ok (leBytes k n) := by
  have hlt : (n : Int) < 256 ^ k := by exact_mod_cast h
  rw [toBytesLittle, if_pos ⟨Int.natCast_nonneg n, hlt⟩, Int.toNat_natCast]

def ints (bs : List UInt8) : List Int := bs.map fun b => (b.toNat : Int)

theorem bytes_ints (bs : List UInt8) : bytes (ints bs) = .ok bs := by
  induction bs with
  | nil => rfl
  | cons b bs ih =>
    have hb : ¬ ¬ (0 ≤ (b.toNat : Int) ∧ (b.toNat : Int) < 256) := by
      have := b.toNat_lt
      omega
    change bytes ((b.toNat : Int) :: ints bs) = _
    rw [bytes, rejectIf_ok.mpr hb, ih]
    simp [bind, Except.bind, pure, Except.pure]

theorem hexValue_digitChar {d : Nat} (h : d < 16) : hexValue (Nat.digitChar d) = some d := by
  revert d
  decide

theorem digitChar_not_space {d : Nat} (h : d < 16) : isSpace (Nat.digitChar d) = false := by
  revert d
  decide

theorem not_isAsciiSpace {c : Char} (h : isSpace c = false) : isAsciiSpace c = false := by
  simp only [isSpace, Bool.decide_or, Bool.or_eq_false_iff] at h
  simpa using h.1

theorem fromHexChars_hexPairs (bs : List UInt8) : fromHexChars (bs.flatMap hexPair) = .ok bs := by
  induction bs with
  | nil => rfl
  | cons b bs ih =>
    have hb := b.toNat_lt
    have hhigh : b.toNat / 16 < 16 := by omega
    have hlow : b.toNat % 16 < 16 := by omega
    have hspace := not_isAsciiSpace (digitChar_not_space hhigh)
    have hbyte : UInt8.ofNat (16 * (b.toNat / 16) + b.toNat % 16) = b := by
      rw [Nat.div_add_mod, UInt8.ofNat_toNat]
    have hstep : fromHexChars (hexPair b ++ bs.flatMap hexPair) =
        .ok (UInt8.ofNat (16 * (b.toNat / 16) + b.toNat % 16) :: bs) := by
      simp only [hexPair, List.cons_append, List.nil_append, fromHexChars, hspace,
        hexValue_digitChar hhigh, hexValue_digitChar hlow, ih]
      rfl
    rw [List.flatMap_cons, hstep, hbyte]

@[simp] theorem fromHex_hex (bs : List UInt8) : fromHex (hex bs) = .ok bs := by
  rw [fromHex, hex, String.toList_ofList, fromHexChars_hexPairs]

theorem hex_injective : Function.Injective hex := by
  intro bs bs' h
  have hbytes := fromHex_hex bs
  rw [h, fromHex_hex] at hbytes
  exact (Except.ok.inj hbytes).symm

theorem hexPairs_not_space (bs : List UInt8) : ∀ c ∈ bs.flatMap hexPair, isSpace c = false := by
  intro c hc
  obtain ⟨b, _, hc⟩ := List.mem_flatMap.mp hc
  have hb := b.toNat_lt
  simp only [hexPair, List.mem_cons, List.not_mem_nil, or_false] at hc
  rcases hc with rfl | rfl
  · exact digitChar_not_space (by omega)
  · exact digitChar_not_space (by omega)

theorem dropWhile_isSpace {cs : List Char} (h : ∀ c ∈ cs, isSpace c = false) :
    cs.dropWhile isSpace = cs := by
  cases cs with
  | nil => rfl
  | cons c cs => simp [h c List.mem_cons_self]

theorem strip_hex_line (bs : List UInt8) : strip (hex bs ++ "\n") = hex bs := by
  have hdigits := hexPairs_not_space bs
  have hnewline : ['\n'].dropWhile isSpace = [] := by decide
  have hfront : (bs.flatMap hexPair ++ ['\n']).dropWhile isSpace =
      if bs.flatMap hexPair = [] then [] else bs.flatMap hexPair ++ ['\n'] := by
    rw [List.dropWhile_append, dropWhile_isSpace hdigits, hnewline]
    simp only [List.isEmpty_iff]
  have hback : ('\n' :: (bs.flatMap hexPair).reverse).dropWhile isSpace =
      (bs.flatMap hexPair).reverse := by
    have hspace : isSpace '\n' = true := by decide
    rw [List.dropWhile_cons_of_pos hspace]
    exact dropWhile_isSpace fun c hc => hdigits c (List.mem_reverse.mp hc)
  have htext : (hex bs ++ "\n").toList = bs.flatMap hexPair ++ ['\n'] := by
    rw [String.toList_append, hex, String.toList_ofList]
    rfl
  rw [strip, htext, hfront]
  by_cases hnil : bs.flatMap hexPair = []
  · simp [hex, hnil]
  · rw [if_neg hnil, List.reverse_append]
    change String.ofList (('\n' :: (bs.flatMap hexPair).reverse).dropWhile isSpace).reverse = _
    rw [hback, List.reverse_reverse, hex]

end Python
