/-
  Feedcast.Lib.Backoff — delays that grow with the failures, between a floor and
  a ceiling.

  `grown n` is the delay after `n` failures.  The ceiling holds back the growth
  and never the floor:

    • `le_backoff`, `backoff_le` — the bounds,
    • `backoff_le_backoff` — a larger floor, a larger growth, a longer delay,
    • `backoff_clamped` — a clamp on the number of failures is not seen if the
      growth has passed the ceiling by then.
-/
import Mathlib.Order.Lattice
import Mathlib.Order.MinMax

namespace Feedcast.Lib

variable {β : Type*} [LinearOrder β]

/-- The delay after `n` failures. -/
def backoff (floor ceiling : β) (grown : Nat → β) (n : Nat) : β :=
  max floor (min (grown n) ceiling)

section Backoff

variable {floor floor' ceiling : β} {grown grown' : Nat → β}

theorem le_backoff (n : Nat) : floor ≤ backoff floor ceiling grown n := le_max_left _ _

theorem backoff_le (n : Nat) : backoff floor ceiling grown n ≤ max floor ceiling :=
  max_le_max_left floor (min_le_right _ _)

/-- What has not grown is the floor. -/
theorem backoff_floor {n : Nat} (h : grown n ≤ floor) :
    backoff floor ceiling grown n = floor := max_eq_left ((min_le_left _ _).trans h)

/-- **A larger floor, a larger growth, a longer delay.** -/
theorem backoff_le_backoff {n n' : Nat} (hfloor : floor ≤ floor') (hgrown : grown n ≤ grown' n') :
    backoff floor ceiling grown n ≤ backoff floor' ceiling grown' n' :=
  max_le_max hfloor (min_le_min_right ceiling hgrown)

/-- **The clamp is not seen.** -/
theorem backoff_clamped (h : Monotone grown) {limit : Nat} (hlimit : ceiling ≤ grown limit)
    (n : Nat) : backoff floor ceiling grown (min n limit) = backoff floor ceiling grown n := by
  by_cases hn : n ≤ limit
  · rw [min_eq_left hn]
  · -- both have passed the ceiling
    have hpast : limit ≤ n := le_of_not_ge hn
    unfold backoff
    rw [min_eq_right hpast, min_eq_right hlimit, min_eq_right (hlimit.trans (h hpast))]

end Backoff

end Feedcast.Lib
