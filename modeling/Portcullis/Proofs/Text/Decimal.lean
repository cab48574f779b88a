import Portcullis.Text.Decimal

/-!
# Numerals tell numbers apart

Two numbers with the same numeral are the same: a numeral consists of digits, so its first
character tells a negative number from the others, and the digits give the number back.  Behind
any text and an underscore a numeral can still be told apart.
-/

namespace Portcullis.Text.Decimal

theorem isDigit_digit (n : Nat) : (digit n).isDigit = true := by
  have small : n % 10 < 10 := Nat.mod_lt n (by decide)
  have all : ∀ k < 10, (Char.ofNat (48 + k)).isDigit = true := by decide
  exact all (n % 10) small

/-- A numeral consists of digits. -/
theorem isDigit_of_mem_digits {n : Nat} {c : Char} (h : c ∈ digits n) : c.isDigit = true := by
  induction n using digits.induct with
  | case1 n hn =>
    rw [digits, if_pos hn, List.mem_singleton] at h
    exact h ▸ isDigit_digit n
  | case2 n hn ih =>
    rw [digits, if_neg hn, List.mem_append, List.mem_singleton] at h
    rcases h with h | h
    · exact ih h
    · exact h ▸ isDigit_digit n

theorem digits_ne_nil (n : Nat) : digits n ≠ [] := by
  rw [digits]
  split <;> simp

theorem notMem_digits {c : Char} (hc : c.isDigit = false) (n : Nat) : c ∉ digits n := fun h =>
  Bool.false_ne_true (hc.symm.trans (isDigit_of_mem_digits h))

theorem digits_injective {m n : Nat} (h : digits m = digits n) : m = n := by
  rw [← value_digits m, h, value_digits]

theorem ofNat_injective {m n : Nat} (h : ofNat m = ofNat n) : m = n :=
  digits_injective (String.ofList_injective h)

/-- A numeral behind a character that is no digit can be told from what stands before it, be that
text itself made of digits and such characters. -/
theorem append_digits_inj {sep : Char} (hsep : sep.isDigit = false) {as bs : List Char} {m n : Nat}
    (h : as ++ sep :: digits m = bs ++ sep :: digits n) : as = bs ∧ m = n := by
  -- If one text reached further than the other, a numeral would hold the separator.
  rcases List.append_eq_append_iff.1 h with ⟨cs, rfl, hcs⟩ | ⟨cs, rfl, hcs⟩
  · cases cs with
    | nil => exact ⟨(List.append_nil as).symm, digits_injective (List.cons.inj hcs).2⟩
    | cons c cs =>
      have hdigits : digits m = cs ++ sep :: digits n := (List.cons.inj hcs).2
      exact absurd (by simp [hdigits]) (notMem_digits hsep m)
  · cases cs with
    | nil => exact ⟨List.append_nil bs, (digits_injective (List.cons.inj hcs).2).symm⟩
    | cons c cs =>
      have hdigits : digits n = cs ++ sep :: digits m := (List.cons.inj hcs).2
      exact absurd (by simp [hdigits]) (notMem_digits hsep n)

/-- No numeral of a natural number starts with a minus sign. -/
theorem minus_ofNat_ne (m n : Nat) : "-" ++ ofNat m ≠ ofNat n := by
  intro h
  have hlist : '-' :: digits m = digits n := by
    simpa [ofNat] using congrArg String.toList h
  have hminus : '-' ∈ digits n := hlist ▸ List.mem_cons_self
  exact absurd (isDigit_of_mem_digits hminus) (by decide)

theorem ofInt_injective {m n : Int} (h : ofInt m = ofInt n) : m = n := by
  unfold ofInt at h
  split at h <;> split at h
  · have habs : ofNat m.natAbs = ofNat n.natAbs := by
      simpa [← String.toList_inj] using h
    have := ofNat_injective habs
    omega
  · exact absurd h (minus_ofNat_ne _ _)
  · exact absurd h.symm (minus_ofNat_ne _ _)
  · have := ofNat_injective h
    omega

end Portcullis.Text.Decimal
