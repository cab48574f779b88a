import Portcullis.Admission.Decision

/-!
# The integer at the front of a text

What the listener id of a request is, said without the reader: `IntegerFront` relates a text to
the integer that it starts with, however long, and `readListenerId` finds that integer up to a
limit on its magnitude.

* `IntegerFront.unique`: there is at most one.
* `readListenerId_eq_none_iff`: the reader gives nothing where there is none, or where it is zero.
* `listenerId?_of_integerFront`: the limit does not matter, since no greater number names a
  listener.
-/

namespace Portcullis.Admission

open Portcullis.Text

/-! ## What it is -/

/-- The longest run of digits at the front of a text is this one, and it is not empty. -/
def DigitFront (cs digits : List Char) : Prop :=
  digits ≠ [] ∧ (∀ c ∈ digits, c.isDigit = true) ∧
    ∃ rest, cs = digits ++ rest ∧ ∀ c r, rest = c :: r → c.isDigit = false

/-- A text starts with an integer: digits after an optional sign, whatever follows them. -/
inductive IntegerFront : List Char → Int → Prop where
  | unsigned {cs digits : List Char} (h : DigitFront cs digits) :
      IntegerFront cs (Decimal.value digits)
  | plus {cs digits : List Char} (h : DigitFront cs digits) :
      IntegerFront ('+' :: cs) (Decimal.value digits)
  | minus {cs digits : List Char} (h : DigitFront cs digits) :
      IntegerFront ('-' :: cs) (-(Decimal.value digits : Int))

/-! ## How it is found -/

/-- The digits are what the reader takes. -/
theorem digitFront_iff {cs digits : List Char} :
    DigitFront cs digits ↔ digits ≠ [] ∧ digits = cs.takeWhile Char.isDigit := by
  constructor
  · rintro ⟨hne, hdigits, rest, rfl, hrest⟩
    refine ⟨hne, ?_⟩
    rw [List.takeWhile_append_of_pos hdigits]
    cases rest with
    | nil => rw [List.takeWhile_nil, List.append_nil]
    | cons c r =>
      rw [List.takeWhile_cons_of_neg (by simp [hrest c r rfl]), List.append_nil]
  · rintro ⟨hne, rfl⟩
    refine ⟨hne, fun c hc => ?_, cs.dropWhile Char.isDigit,
      List.takeWhile_append_dropWhile.symm, fun c r hr => ?_⟩
    · exact List.all_eq_true.mp List.all_takeWhile c hc
    · have hhead := List.head?_dropWhile_not Char.isDigit cs
      rw [hr] at hhead
      simpa using hhead

/-- The digits after an optional sign. -/
def idDigits (cs : List Char) : List Char :=
  (splitSign cs).2.takeWhile Char.isDigit

/-- The integer of some digits, with the sign of a text. -/
def signed (cs : List Char) (n : Nat) : Int :=
  if (splitSign cs).1 then -(n : Int) else n

/-- Without a sign at the front the whole text is left. -/
theorem splitSign_of_isDigit {c : Char} (h : c.isDigit = true) (r : List Char) :
    splitSign (c :: r) = (false, c :: r) := by
  unfold splitSign
  split
  · next heq =>
    obtain ⟨rfl, -⟩ := List.cons.inj heq
    cases h
  · next heq =>
    obtain ⟨rfl, -⟩ := List.cons.inj heq
    cases h
  · rfl

theorem integerFront_iff {cs : List Char} {n : Int} :
    IntegerFront cs n ↔ idDigits cs ≠ [] ∧ n = signed cs (Decimal.value (idDigits cs)) := by
  constructor
  · intro h
    cases h with
    | @unsigned cs digits h =>
      have hsplit : splitSign cs = (false, cs) := by
        obtain ⟨hne, hdigits, rest, rfl, -⟩ := h
        obtain ⟨c, r, rfl⟩ := List.exists_cons_of_ne_nil hne
        exact splitSign_of_isDigit (hdigits c List.mem_cons_self) _
      obtain ⟨hne, htake⟩ := digitFront_iff.mp h
      unfold idDigits signed
      rw [hsplit, ← htake]
      exact ⟨hne, rfl⟩
    | @plus cs digits h =>
      obtain ⟨hne, htake⟩ := digitFront_iff.mp h
      show cs.takeWhile Char.isDigit ≠ [] ∧ _ = (Decimal.value (cs.takeWhile Char.isDigit) : Int)
      rw [← htake]
      exact ⟨hne, rfl⟩
    | @minus cs digits h =>
      obtain ⟨hne, htake⟩ := digitFront_iff.mp h
      show cs.takeWhile Char.isDigit ≠ [] ∧ _ = -(Decimal.value (cs.takeWhile Char.isDigit) : Int)
      rw [← htake]
      exact ⟨hne, rfl⟩
  · rintro ⟨hne, rfl⟩
    have hfront : DigitFront (splitSign cs).2 (idDigits cs) := digitFront_iff.mpr ⟨hne, rfl⟩
    unfold signed
    unfold splitSign at hfront ⊢
    split at hfront
    · exact .minus hfront
    · exact .plus hfront
    · exact .unsigned hfront

/-- A text starts with at most one integer. -/
theorem IntegerFront.unique {cs : List Char} {m n : Int} (hm : IntegerFront cs m)
    (hn : IntegerFront cs n) : m = n :=
  (integerFront_iff.mp hm).2.trans (integerFront_iff.mp hn).2.symm

/-! ## What the reader makes of it -/

theorem readListenerId_eq (raw : String) :
    readListenerId raw =
      if min (Decimal.value (idDigits raw.toList)) maxMagnitude = 0 then none
      else some (signed raw.toList (min (Decimal.value (idDigits raw.toList)) maxMagnitude)) :=
  rfl

/-- Without a number, or with zero, there is no listener id. -/
theorem readListenerId_eq_none_iff {raw : String} :
    readListenerId raw = none ↔ ∀ n, IntegerFront raw.toList n → n = 0 := by
  rw [readListenerId_eq]
  constructor
  · intro h n hn
    obtain ⟨-, rfl⟩ := integerFront_iff.mp hn
    have hzero : Decimal.value (idDigits raw.toList) = 0 := by
      split at h
      · next hmin =>
        unfold maxMagnitude at hmin
        omega
      · cases h
    rw [hzero]
    unfold signed
    split <;> rfl
  · intro h
    have hzero : Decimal.value (idDigits raw.toList) = 0 := by
      by_cases hne : idDigits raw.toList = []
      · rw [hne]
        rfl
      · have hsigned := h _ (integerFront_iff.mpr ⟨hne, rfl⟩)
        unfold signed at hsigned
        split at hsigned <;> omega
    rw [hzero]
    rfl

/-- Where there is a listener id the text starts with a number other than zero. -/
theorem exists_integerFront {raw : String} {m : Int} (h : readListenerId raw = some m) :
    ∃ n, IntegerFront raw.toList n ∧ n ≠ 0 := by
  have hsome : ¬∀ n, IntegerFront raw.toList n → n = 0 := by
    rw [← readListenerId_eq_none_iff, h]
    exact Option.some_ne_none m
  obtain ⟨n, hn⟩ := Classical.not_forall.mp hsome
  obtain ⟨hfront, hne⟩ := Classical.not_imp.mp hn
  exact ⟨n, hfront, hne⟩

/-- A number names a listener id if it is one. -/
theorem listenerId?_eq_some_iff {n : Int} {id : UInt32} :
    listenerId? n = some id ↔ n = id.toNat := by
  have hid : id.toNat < 4294967296 := id.toNat_lt
  unfold listenerId?
  constructor
  · intro h
    split at h
    · next hn =>
      rw [← Option.some.inj h, Nat.toUInt32_eq, UInt32.toNat_ofNat']
      omega
    · cases h
  · rintro rfl
    rw [if_pos (by omega), Int.toNat_natCast, Nat.toUInt32_eq, UInt32.ofNat_toNat]

/-- Another number is the listener id, unless it is too long; then the number that is read in its
place names no listener either. -/
theorem listenerId?_of_integerFront {raw : String} {n : Int} (h : IntegerFront raw.toList n)
    (hne : n ≠ 0) :
    ∃ m, readListenerId raw = some m ∧ m ≠ 0 ∧ listenerId? m = listenerId? n := by
  obtain ⟨-, rfl⟩ := integerFront_iff.mp h
  have hpos : Decimal.value (idDigits raw.toList) ≠ 0 := by
    intro hzero
    apply hne
    rw [hzero]
    unfold signed
    split <;> rfl
  have hmin : min (Decimal.value (idDigits raw.toList)) maxMagnitude ≠ 0 := by
    unfold maxMagnitude
    omega
  refine ⟨_, by rw [readListenerId_eq, if_neg hmin], ?_, ?_⟩
  · unfold signed
    split <;> omega
  · by_cases hshort : Decimal.value (idDigits raw.toList) ≤ maxMagnitude
    · rw [Nat.min_eq_left hshort]
    · have hbeyond : maxMagnitude ≤ Decimal.value (idDigits raw.toList) := by omega
      rw [Nat.min_eq_right hbeyond]
      unfold maxMagnitude at hbeyond
      unfold listenerId? signed maxMagnitude
      rw [if_neg (by split <;> omega), if_neg (by split <;> omega)]

end Portcullis.Admission
