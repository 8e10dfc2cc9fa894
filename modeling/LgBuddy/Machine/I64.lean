import Mathlib.Init

/-!
# 64-bit signed arithmetic

Numbers of 64 bits as integers. The saturating operations always have a result; `abs` overflows at
the least number, and then there is none.

* `saturate`, `saturatingAdd`, `saturatingSub`, `saturatingMul`, `abs?`;
* `saturate_of_range` — nothing happens to a number in range;
* `abs?_of_range` — no overflow above the least number.
-/

namespace I64

def MIN : Int := -9223372036854775808

def MAX : Int := 9223372036854775807

def saturate (x : Int) : Int := max MIN (min MAX x)

def saturatingAdd (a b : Int) : Int := saturate (a + b)

def saturatingSub (a b : Int) : Int := saturate (a - b)

def saturatingMul (a b : Int) : Int := saturate (a * b)

/-- The absolute value of the least number does not fit. -/
def abs? (x : Int) : Option Int := if x = MIN then none else some x.natAbs

theorem saturate_of_range {x : Int} (hlow : MIN ≤ x) (hhigh : x ≤ MAX) : saturate x = x := by
  unfold saturate
  omega

theorem abs?_of_range {x : Int} (h : MIN < x) : abs? x = some x.natAbs := if_neg (by omega)

/-- The difference of two 32-bit numbers is exact, and so is its absolute value. -/
theorem abs?_saturatingSub (a b : Int32) :
    abs? (saturatingSub a.toInt b.toInt) = some (a.toInt - b.toInt).natAbs := by
  have ha : -2147483648 ≤ a.toInt ∧ a.toInt < 2147483648 := ⟨a.le_toInt, a.toInt_lt⟩
  have hb : -2147483648 ≤ b.toInt ∧ b.toInt < 2147483648 := ⟨b.le_toInt, b.toInt_lt⟩
  have hexact : saturatingSub a.toInt b.toInt = a.toInt - b.toInt :=
    saturate_of_range (by unfold MIN; omega) (by unfold MAX; omega)
  rw [hexact]
  exact abs?_of_range (by unfold MIN; omega)

theorem abs?_toInt (a : Int32) : abs? a.toInt = some a.toInt.natAbs := by
  have ha : -2147483648 ≤ a.toInt := a.le_toInt
  exact abs?_of_range (by unfold MIN; omega)

end I64
