/-!
# Decimal numerals

Whole numbers in base ten: the numeral of a number, and the number of a digit run.

* `ofNat` and `ofInt` write the shortest numeral, with a minus sign where one is due.
* `value` reads a run of digits from the left.
* `value_digits` says that reading gives back what was written.
-/

namespace Portcullis.Text.Decimal

/-- The digit that stands for a number below ten. -/
def digit (n : Nat) : Char :=
  Char.ofNat (48 + n % 10)

/-- The digits of a number, the most significant first; zero has one digit. -/
def digits (n : Nat) : List Char :=
  if n < 10 then [digit n] else digits (n / 10) ++ [digit n]
termination_by n
decreasing_by omega

/-- What a decimal digit stands for. -/
def digitValue (c : Char) : Nat :=
  c.toNat - 48

/-- The number that a run of digits denotes. -/
def value (ds : List Char) : Nat :=
  ds.foldl (fun n c => 10 * n + digitValue c) 0

/-- The numeral of a natural number. -/
def ofNat (n : Nat) : String :=
  String.ofList (digits n)

/-- The numeral of an integer. -/
def ofInt (n : Int) : String :=
  if n < 0 then "-" ++ ofNat n.natAbs else ofNat n.natAbs

/-- The number of a text that consists of digits, at least one. -/
def read? (cs : List Char) : Option Nat :=
  if cs.isEmpty || !cs.all Char.isDigit then none else some (value cs)

theorem digitValue_digit (n : Nat) : digitValue (digit n) = n % 10 := by
  have small : n % 10 < 10 := Nat.mod_lt n (by decide)
  have all : ∀ k < 10, digitValue (Char.ofNat (48 + k)) = k := by decide
  exact all (n % 10) small

/-- Reading the digits of a number gives the number. -/
theorem value_digits (n : Nat) : value (digits n) = n := by
  induction n using digits.induct with
  | case1 n h =>
    rw [digits, if_pos h]
    simp [value, digitValue_digit]
    omega
  | case2 n h ih =>
    rw [digits, if_neg h, value, List.foldl_append]
    rw [value] at ih
    simp only [ih, List.foldl_cons, List.foldl_nil, digitValue_digit]
    omega

end Portcullis.Text.Decimal
