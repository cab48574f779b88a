import Portcullis.Time

/-!
# Backoff

How long to wait before another attempt: the base delay, doubled with every attempt up to a cap,
plus a random part of less than a tenth.

* `capped` saturates where 64 bits do not suffice, so that it is the least of the doubled base
  and the cap as natural numbers.
* `delay` adds the random part, which a draw of any size stands for.
-/

namespace Portcullis.Backoff

def maxU64 : Nat := 18446744073709551615

/-- `2 ^ n`, at most what 64 bits hold. -/
def power (n : Nat) : Nat :=
  if 64 ≤ n then maxU64 else Nat.pow 2 n

/-- The delay before an attempt without its random part; none before the first. -/
def capped (attempt : UInt32) (base most : UInt64) : UInt64 :=
  if attempt = 0 then 0
  else
    let doubled := min (base.toNat * power (attempt.toNat - 1)) maxU64
    (min doubled most.toNat).toUInt64

/-- The number of random parts there are. -/
def spread (capped : UInt64) : UInt64 :=
  capped / 10

/-- The delay before an attempt in milliseconds, where `draw` chooses the random part. -/
def delay (attempt : UInt32) (base most : UInt64) (draw : Nat) : UInt64 :=
  let c := capped attempt base most
  if spread c = 0 then c else c + (draw % (spread c).toNat).toUInt64

/-- The draw that gives the greatest random part. -/
def greatestDraw (attempt : UInt32) (base most : UInt64) : Nat :=
  (spread (capped attempt base most)).toNat - 1

end Portcullis.Backoff
