import Mathlib.Algebra.Group.Int.Defs
import Mathlib.Algebra.Group.Nat.Defs
import Mathlib.Data.Int.Basic
import Mathlib.Data.List.TakeWhile

/-!
`strtol`, `strtoul` and `strtoull` with base 10, for a `long` of 64 bits. They skip white
space, read a sign and as many digits as there are, and leave what is behind. A text
without digits is read as zero, for which a library may set an error or not.
-/
namespace Peripheral.Strtol

inductive Errno
  | zero
  | inval
  | range
  deriving DecidableEq

structure Converted (α : Type) where
  value : α
  errno : Errno
  deriving DecidableEq

def LONG_MAX : Int := 2 ^ 63 - 1
def LONG_MIN : Int := -2 ^ 63
def ULONG_MAX : Nat := 2 ^ 64 - 1

def isSpace (c : Char) : Bool := c = ' ' ∨ '\t' ≤ c ∧ c ≤ '\r'

def sign : List Char → Bool × List Char
  | [] => (false, [])
  | c :: rest => if c = '-' then (true, rest) else if c = '+' then (false, rest) else (false, c :: rest)

def scan (text : List Char) : Bool × List Char :=
  let (negative, rest) := sign (text.dropWhile isSpace)
  (negative, rest.takeWhile Char.isDigit)

def signed (negative : Bool) (digits : List Char) : Int :=
  if negative then -(Nat.ofDigitChars 10 digits 0 : Int) else Nat.ofDigitChars 10 digits 0

/-- `inval` is whether the library sets `EINVAL` when there are no digits. -/
def noDigits {α : Type} (inval : Bool) (zero : α) : Converted α := ⟨zero, if inval then .inval else .zero⟩

def strtol (inval : Bool) (text : List Char) : Converted Int :=
  let (negative, digits) := scan text
  if digits = [] then noDigits inval 0
  else
    let number := signed negative digits
    if LONG_MAX < number then ⟨LONG_MAX, .range⟩ else if number < LONG_MIN then ⟨LONG_MIN, .range⟩ else ⟨number, .zero⟩

/-- With a minus the number is taken from 2^64. -/
def strtoul (inval : Bool) (text : List Char) : Converted UInt64 :=
  let (negative, digits) := scan text
  if digits = [] then noDigits inval 0
  else
    let number := Nat.ofDigitChars 10 digits 0
    if ULONG_MAX < number then ⟨.ofNat ULONG_MAX, .range⟩
    else ⟨if negative then -.ofNat number else .ofNat number, .zero⟩

def decimal (text : List Char) : Option Int :=
  let (negative, digits) := sign text
  if digits ≠ [] ∧ digits.all Char.isDigit then some (signed negative digits) else none

variable {text : List Char}

variable {n : Int}

theorem decimal_eq_some : decimal text = some n ↔
      (sign text).2 ≠ [] ∧ (sign text).2.all Char.isDigit = true ∧ signed (sign text).1 (sign text).2 = n := by
  rw [decimal, Option.ite_none_right_eq_some, Option.some.injEq, and_assoc]

theorem mem_decimal (number : decimal text = some n) {c : Char} (member : c ∈ text) : c = '-' ∨ c = '+' ∨ c.isDigit = true := by
  have digits := (decimal_eq_some.mp number).2.1
  cases text with
  | nil => cases member
  | cons d rest =>
    by_cases minus : d = '-'
    · simp only [sign, minus, if_true] at digits
      rcases List.mem_cons.mp member with rfl | behind
      · exact .inl minus
      · exact .inr (.inr (List.all_eq_true.mp digits c behind))
    · by_cases plus : d = '+'
      · rw [sign, if_neg minus, if_pos plus] at digits
        rcases List.mem_cons.mp member with rfl | behind
        · exact .inr (.inl plus)
        · exact .inr (.inr (List.all_eq_true.mp digits c behind))
      · simp only [sign, minus, plus, if_false] at digits
        exact .inr (.inr (List.all_eq_true.mp digits c member))

theorem isSpace_digit {c : Char} (digit : c.isDigit = true) : isSpace c = false := by
  simp only [Char.isDigit, Bool.and_eq_true, decide_eq_true_eq, ge_iff_le, UInt32.le_iff_toNat_le, Char.reduceVal,
    UInt32.reduceToNat] at digit
  have other : c ≠ ' ' := by
    rintro rfl
    exact absurd digit.1 (by decide)
  have behind : ¬ c ≤ '\r' := by
    rw [Char.le_def, UInt32.le_iff_toNat_le]
    simp only [Char.reduceVal, UInt32.reduceToNat]
    omega
  simp [isSpace, other, behind]

theorem dropWhile_decimal (digits : (sign text).2.all Char.isDigit = true) : text.dropWhile isSpace = text := by
  cases text with
  | nil => rfl
  | cons c rest =>
    refine List.dropWhile_cons_of_neg ?_
    by_cases minus : c = '-'
    · rw [minus]
      decide
    · by_cases plus : c = '+'
      · rw [plus]
        decide
      · simp only [sign, minus, plus, if_false, List.all_cons, Bool.and_eq_true] at digits
        simp [isSpace_digit digits.1]

theorem scan_decimal (digits : (sign text).2.all Char.isDigit = true) : scan text = sign text := by
  rw [scan, dropWhile_decimal digits]
  exact Prod.ext rfl (List.takeWhile_eq_self_iff.mpr (List.all_eq_true.mp digits))

theorem strtol_decimal (inval : Bool) (number : decimal text = some n) : strtol inval text =
      if LONG_MAX < n then ⟨LONG_MAX, .range⟩ else if n < LONG_MIN then ⟨LONG_MIN, .range⟩ else ⟨n, .zero⟩ := by
  obtain ⟨full, digits, is⟩ := decimal_eq_some.mp number
  simp only [strtol, scan_decimal digits, full, if_false, is]

theorem ofInt_natCast (n : Nat) : UInt64.ofInt n = .ofNat n := by
  rw [← UInt64.toNat_inj, UInt64.ofInt, UInt64.toNat_ofNat', UInt64.toNat_ofNat']
  omega

theorem strtoul_decimal (inval : Bool) (number : decimal text = some n) :
    strtoul inval text = if 2 ^ 64 ≤ n.natAbs then ⟨.ofNat ULONG_MAX, .range⟩ else ⟨.ofInt n, .zero⟩ := by
  obtain ⟨full, digits, is⟩ := decimal_eq_some.mp number
  have size : n.natAbs = Nat.ofDigitChars 10 (sign text).2 0 := by
    rw [← is, signed]
    split <;> simp
  have value : (if (sign text).1 then -.ofNat (Nat.ofDigitChars 10 (sign text).2 0) else
      .ofNat (Nat.ofDigitChars 10 (sign text).2 0) : UInt64) = .ofInt n := by
    rw [← is, signed]
    split
    · rw [UInt64.ofInt_neg, ofInt_natCast]
    · exact (ofInt_natCast _).symm
  simp only [strtoul, scan_decimal digits, full, if_false, value, size, ULONG_MAX]
  split <;> split <;> first | rfl | omega

theorem decimal_toDigits (n : Nat) : decimal (Nat.toDigits 10 n) = some (n : Int) := by
  have digits : ∀ c ∈ Nat.toDigits 10 n, c.isDigit = true := fun c member => Nat.isDigit_of_mem_toDigits (by decide) (by decide) member
  have own : sign (Nat.toDigits 10 n) = (false, Nat.toDigits 10 n) := by
    cases text : Nat.toDigits 10 n with
    | nil => exact absurd text Nat.toDigits_ne_nil
    | cons c rest =>
      have digit : c.isDigit = true := digits c (by simp [text])
      have minus : c ≠ '-' := by rintro rfl; simp at digit
      have plus : c ≠ '+' := by rintro rfl; simp at digit
      rw [sign, if_neg minus, if_neg plus]
  rw [decimal_eq_some, own]
  exact ⟨Nat.toDigits_ne_nil, List.all_eq_true.mpr digits, by simp [signed]⟩

end Peripheral.Strtol
