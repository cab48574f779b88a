import Mathlib.Algebra.Group.Nat.Defs
import Portcullis.Net.Address

/-!
# Numbers in an address

The octets and groups that an address is written with are read as they were written.

* `Numeral` says which digits spell a number in a base, with no zero in front.
* `Numeral.digitSpan_append`: the digits are read off the front of any text, up to where no digit
  follows.
* `octet_digits` and `group_hexDigits` say so of octets and of groups.
-/

namespace Portcullis.Net

open Portcullis.Text

/-- Characters that spell a number in a base, with the values of their digits. -/
inductive Numeral (base : Nat) : Nat → List Char → List Nat → Prop where
  | one {n : Nat} {c : Char} (hn : n < base) (hc : digitOf? base c = some n) :
      Numeral base n [c] [n]
  | more {n : Nat} {c : Char} {cs : List Char} {ns : List Nat} (hn : base ≤ n)
      (front : Numeral base (n / base) cs ns) (hc : digitOf? base c = some (n % base)) :
      Numeral base n (cs ++ [c]) (ns ++ [n % base])

/-- No digit stands at the front. -/
def NoDigit (base : Nat) (rest : List Char) : Prop :=
  ∀ c ∈ rest.head?, digitOf? base c = none

theorem NoDigit.nil {base : Nat} : NoDigit base [] :=
  fun _ h => nomatch h

theorem NoDigit.cons {base : Nat} {c : Char} (hc : digitOf? base c = none) (rest : List Char) :
    NoDigit base (c :: rest) := by
  intro d hd
  rw [List.head?_cons, Option.mem_some_iff] at hd
  rw [← hd, hc]

theorem NoDigit.colon (base : Nat) (rest : List Char) : NoDigit base (':' :: rest) :=
  NoDigit.cons (by simp [digitOf?]) rest

theorem NoDigit.point (base : Nat) (rest : List Char) : NoDigit base ('.' :: rest) :=
  NoDigit.cons (by simp [digitOf?]) rest

theorem NoDigit.digitSpan {base : Nat} {rest : List Char} (h : NoDigit base rest) :
    digitSpan base rest = ([], rest) := by
  cases rest with
  | nil => rfl
  | cons c rest => rw [Net.digitSpan, h c rfl]

namespace Numeral

variable {base n : Nat} {cs : List Char} {ns : List Nat}

/-- The digits of a numeral are read before those of what follows. -/
theorem digitSpan_append (h : Numeral base n cs ns) (rest : List Char) :
    digitSpan base (cs ++ rest) = (ns ++ (digitSpan base rest).1, (digitSpan base rest).2) := by
  induction h generalizing rest with
  | one _ hc =>
    rw [List.singleton_append, digitSpan, hc]
    rfl
  | more _ _ hc ih =>
    rw [List.append_assoc, ih, List.singleton_append, digitSpan, hc, List.append_assoc]
    rfl

/-- A numeral that no digit follows is read as its own digits. -/
theorem digitSpan_eq (h : Numeral base n cs ns) {rest : List Char} (hrest : NoDigit base rest) :
    digitSpan base (cs ++ rest) = (ns, rest) := by
  rw [h.digitSpan_append, hrest.digitSpan, List.append_nil]

theorem ofDigits_eq (h : Numeral base n cs ns) : ofDigits base ns = n := by
  induction h with
  | one => simp [ofDigits]
  | @more n _ _ _ _ _ _ ih =>
    unfold ofDigits at ih ⊢
    rw [List.foldl_append, ih, List.foldl_cons, List.foldl_nil]
    exact Nat.div_add_mod n base

theorem ne_nil (h : Numeral base n cs ns) : ns ≠ [] := by
  cases h <;> simp

theorem pos_of_base_le (h : Numeral base n cs ns) : 0 < base := by
  induction h with
  | one hn => omega
  | more _ _ _ ih => exact ih

/-- Below the power of the base with some exponent, a numeral has that many digits at most. -/
theorem length_le (h : Numeral base n cs ns) {k : Nat} (hk : n < base ^ (k + 1)) :
    ns.length ≤ k + 1 := by
  induction h generalizing k with
  | one => simp
  | @more n _ _ _ hn front _ ih =>
    have hpos : 0 < base := front.pos_of_base_le
    cases k with
    | zero =>
      rw [Nat.zero_add, Nat.pow_one] at hk
      omega
    | succ k =>
      have hdiv : n / base < base ^ (k + 1) := by
        rw [Nat.div_lt_iff_lt_mul hpos]
        exact hk
      have := ih hdiv
      rw [List.length_append, List.length_singleton]
      omega

/-- No numeral but that of zero starts with a zero. -/
theorem head?_ne_zero (h : Numeral base n cs ns) (hn : 0 < n) : ns.head? ≠ some 0 := by
  induction h with
  | one =>
    rw [List.head?_cons]
    intro heq
    have := Option.some.inj heq
    omega
  | @more n _ _ _ hle front _ ih =>
    have hpos : 0 < n / base := Nat.div_pos hle front.pos_of_base_le
    obtain ⟨d, ds, rfl⟩ := List.exists_cons_of_ne_nil front.ne_nil
    exact ih hpos

/-- A numeral with a zero in front has no other digit. -/
theorem length_of_head? (h : Numeral base n cs ns) (hzero : ns.head? = some 0) :
    ns.length = 1 := by
  cases h with
  | one => rfl
  | @more n _ _ ns hle front _ =>
    have hpos : 0 < n := Nat.lt_of_lt_of_le front.pos_of_base_le hle
    exact absurd hzero ((Numeral.more hle front ‹_›).head?_ne_zero hpos)

theorem digit_of_mem (h : Numeral base n cs ns) {c : Char} (hc : c ∈ cs) :
    ∃ d, digitOf? base c = some d := by
  induction h with
  | one _ hd =>
    rw [List.mem_singleton.1 hc]
    exact ⟨_, hd⟩
  | more _ _ hd ih =>
    rcases List.mem_append.1 hc with hfront | hlast
    · exact ih hfront
    · rw [List.mem_singleton.1 hlast]
      exact ⟨_, hd⟩

end Numeral

/-! ## Octets and groups -/

theorem numeral_digits (n : Nat) : ∃ ns, Numeral 10 n (Decimal.digits n) ns := by
  have hdigit : ∀ n, digitOf? 10 (Decimal.digit n) = some (n % 10) := by
    intro n
    have small : ∀ k < 10, digitOf? 10 (Char.ofNat (48 + k)) = some k := by decide
    exact small (n % 10) (Nat.mod_lt n (by decide))
  induction n using Decimal.digits.induct with
  | case1 n hn =>
    rw [Decimal.digits, if_pos hn]
    have hc := hdigit n
    rw [Nat.mod_eq_of_lt hn] at hc
    exact ⟨[n], .one hn hc⟩
  | case2 n hn ih =>
    obtain ⟨ns, hns⟩ := ih
    rw [Decimal.digits, if_neg hn]
    exact ⟨ns ++ [n % 10], .more (Nat.le_of_not_lt hn) hns (hdigit n)⟩

theorem numeral_hexDigits (n : Nat) : ∃ ns, Numeral 16 n (hexDigits n) ns := by
  have hdigit : ∀ n, digitOf? 16 (Char.ofNat (if n % 16 < 10 then 48 + n % 16 else 87 + n % 16)) =
      some (n % 16) := by
    intro n
    have small : ∀ k < 16, digitOf? 16 (Char.ofNat (if k < 10 then 48 + k else 87 + k)) =
        some k := by decide
    exact small (n % 16) (Nat.mod_lt n (by decide))
  induction n using hexDigits.induct with
  | case1 n hn =>
    rw [hexDigits]
    simp only [if_pos hn]
    have hc := hdigit n
    rw [Nat.mod_eq_of_lt hn] at hc ⊢
    exact ⟨[n], .one hn hc⟩
  | case2 n hn ih =>
    obtain ⟨ns, hns⟩ := ih
    rw [hexDigits]
    simp only [if_neg hn]
    exact ⟨ns ++ [n % 16], .more (Nat.le_of_not_lt hn) hns (hdigit n)⟩

/-- An octet is read as it was written. -/
theorem octet_digits (n : UInt8) {rest : List Char} (hrest : NoDigit 10 rest) :
    octet (Decimal.digits n.toNat ++ rest) = some (n, rest) := by
  obtain ⟨ns, hns⟩ := numeral_digits n.toNat
  have hlt : n.toNat < 256 := n.toNat_lt
  have hlength : ns.length ≤ 3 := hns.length_le (show n.toNat < 10 ^ (2 + 1) by omega)
  have hzero : ns.head? = some 0 → ¬1 < ns.length := by
    intro hhead
    have := hns.length_of_head? hhead
    omega
  unfold octet
  rw [hns.digitSpan_eq hrest]
  simp only [hns.ofDigits_eq]
  rw [if_neg, if_pos (show n.toNat ≤ 255 by omega)]
  · rw [Nat.toUInt8, UInt8.ofNat_toNat]
  · simp only [Bool.or_eq_true, Bool.and_eq_true, decide_eq_true_eq, List.isEmpty_iff, beq_iff_eq]
    rintro ((hnil | hlong) | ⟨hmany, hhead⟩)
    · exact hns.ne_nil hnil
    · omega
    · exact hzero hhead hmany

/-- A group is read as it was written. -/
theorem group_hexDigits (g : UInt16) {rest : List Char} (hrest : NoDigit 16 rest) :
    group (hexDigits g.toNat ++ rest) = some (g, rest) := by
  obtain ⟨ns, hns⟩ := numeral_hexDigits g.toNat
  have hlt : g.toNat < 65536 := g.toNat_lt
  have hlength : ns.length ≤ 4 := hns.length_le (show g.toNat < 16 ^ (3 + 1) by omega)
  unfold group
  rw [hns.digitSpan_eq hrest]
  simp only [hns.ofDigits_eq]
  rw [if_neg]
  · rw [Nat.toUInt16, UInt16.ofNat_toNat]
  · simp only [Bool.or_eq_true, decide_eq_true_eq, List.isEmpty_iff]
    rintro (hnil | hlong)
    · exact hns.ne_nil hnil
    · omega

/-- Where no digit stands, there is no octet. -/
theorem octet_of_noDigit {cs : List Char} (h : NoDigit 10 cs) : octet cs = none := by
  unfold octet
  rw [h.digitSpan]
  rfl

/-- Where no digit stands, there is no group. -/
theorem group_of_noDigit {cs : List Char} (h : NoDigit 16 cs) : group cs = none := by
  unfold group
  rw [h.digitSpan]
  rfl

/-- The digits at the front and the rest are the text. -/
theorem exists_of_digitSpan (base : Nat) (cs : List Char) :
    ∃ front, cs = front ++ (digitSpan base cs).2 := by
  induction cs with
  | nil => exact ⟨[], rfl⟩
  | cons c cs ih =>
    obtain ⟨front, hfront⟩ := ih
    rw [digitSpan]
    cases digitOf? base c with
    | none => exact ⟨[], rfl⟩
    | some d => exact ⟨c :: front, congrArg (c :: ·) hfront⟩

end Portcullis.Net
