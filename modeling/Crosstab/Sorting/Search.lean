/-!
# Searching by halving and by strides

A test that fails up to some place and holds from there on is searched for that place. Halving asks
in the middle of what is left. Strides start at a place where the answer is expected and double
until they have passed it, which is quick where the expectation is good; halving does the rest.
`place_le` says that the place lies in the range, and `place_spec` that it is the right one. Of a
test that changes its answer more than once each search still gives one place.

Models the searches that `sort` does.
-/

namespace Crosstab.Sorting

/-! ## Halving -/

/-- The place from `low` to `high` from which on a test holds. -/
def place (holds : Nat → Bool) : (fuel low high : Nat) → Nat
  | 0, low, _ => low
  | fuel + 1, low, high =>
    if low < high then
      let middle := (low + high) / 2
      if holds middle then place holds fuel low middle else place holds fuel (middle + 1) high
    else low

theorem le_place (holds : Nat → Bool) (fuel low high : Nat) : low ≤ place holds fuel low high := by
  fun_induction place holds fuel low high <;> omega

theorem place_le (holds : Nat → Bool) (fuel low high : Nat) (h : low ≤ high) :
    place holds fuel low high ≤ high := by
  fun_induction place holds fuel low high <;> omega

/-- Where the test fails up to a place `k` and holds from there on, `k` is found. -/
theorem place_spec (holds : Nat → Bool) (fuel low high k : Nat) (hfuel : high ≤ low + fuel)
    (hlow : low ≤ k) (hhigh : k ≤ high) (hk : ∀ i, low ≤ i → i < high → holds i = decide (k ≤ i)) :
    place holds fuel low high = k := by
  fun_induction place holds fuel low high with
  | case1 => omega
  | case2 fuel low high hlt middle hm ih =>
    have hkm : k ≤ middle := by simpa [hk middle (by omega) (by omega)] using hm
    exact ih (by omega) hlow hkm fun i h₁ h₂ => hk i h₁ (by omega)
  | case3 fuel low high hlt middle hm ih =>
    have hkm : middle < k := by simpa [hk middle (by omega) (by omega)] using hm
    exact ih (by omega) (by omega) hhigh fun i h₁ h₂ => hk i (by omega) h₂
  | case4 => omega

/-! ## Strides -/

/-- Strides of growing length, up to a limit, as long as a test holds: the last one at which it
does, and the one after it. -/
def strides (holds : Nat → Bool) (limit : Nat) : (fuel last next : Nat) → Nat × Nat
  | 0, last, next => (last, min next limit)
  | fuel + 1, last, next =>
    if next < limit && holds next then strides holds limit fuel next (2 * next + 1)
    else (last, min next limit)

/-- The place below `size`, or `size` itself, from which on a test holds, searched by strides from
an expected place. -/
def placeNear (holds : Nat → Bool) (size expected : Nat) : Nat :=
  if holds expected then
    let (last, next) := strides (fun k => holds (expected - k)) (expected + 1) size 0 1
    place holds size (expected + 1 - next) (expected - last)
  else
    let (last, next) := strides (fun k => !holds (expected + k)) (size - expected) size 0 1
    place holds size (expected + last + 1) (expected + next)

end Crosstab.Sorting
