import Mathlib.Init

/-!
# LgBuddy — exactly one

* `filterMap_eq_singleton` — a loop that collects what it finds has found one value exactly if
  one place has it and no other place has any.
-/

namespace LgBuddy

/-- One value is found if and only if it is found at one place. -/
theorem filterMap_eq_singleton {α β : Type} {f : α → Option β} {xs : List α} {y : β} :
    xs.filterMap f = [y] ↔
      ∃ (index : Nat) (x : α), xs[index]? = some x ∧ f x = some y ∧
        ∀ (other : Nat) (x' : α) (y' : β), xs[other]? = some x' → f x' = some y' → other = index := by
  induction xs with
  | nil => simp
  | cons x xs ih =>
    cases hx : f x with
    | none =>
      -- an element mapped to nothing moves the one index by one
      rw [List.filterMap_cons_none hx, ih]
      constructor
      · rintro ⟨index, z, hz, hfz, honly⟩
        refine ⟨index + 1, z, by simpa using hz, hfz, ?_⟩
        intro other x' y' hother hfx
        cases other with
        | zero =>
          obtain rfl : x = x' := by simpa using hother
          rw [hx] at hfx
          cases hfx
        | succ other => rw [honly other x' y' (by simpa using hother) hfx]
      · rintro ⟨index, z, hz, hfz, honly⟩
        cases index with
        | zero =>
          obtain rfl : x = z := by simpa using hz
          rw [hx] at hfz
          cases hfz
        | succ index =>
          refine ⟨index, z, by simpa using hz, hfz, ?_⟩
          intro other x' y' hother hfx
          have hsucc := honly (other + 1) x' y' (by simpa using hother) hfx
          omega
    | some z =>
      -- an element mapped to something is the only one
      rw [List.filterMap_cons_some hx]
      constructor
      · intro h
        obtain ⟨rfl, hnil⟩ := List.cons.inj h
        refine ⟨0, x, rfl, hx, ?_⟩
        intro other x' y' hother hfx
        cases other with
        | zero => rfl
        | succ other =>
          have hmem : x' ∈ xs := List.mem_of_getElem? (by simpa using hother)
          rw [List.filterMap_eq_nil_iff.1 hnil x' hmem] at hfx
          cases hfx
      · rintro ⟨index, x', hx', hfx, honly⟩
        obtain rfl : 0 = index := honly 0 x z rfl hx
        obtain rfl : x = x' := by simpa using hx'
        rw [hx] at hfx
        rw [Option.some.inj hfx]
        have hnil : xs.filterMap f = [] := by
          rw [List.filterMap_eq_nil_iff]
          intro w hw
          obtain ⟨other, hother⟩ := List.getElem?_of_mem hw
          cases hfw : f w with
          | none => rfl
          | some v => exact absurd (honly (other + 1) w v (by simpa using hother) hfw) (by omega)
        rw [hnil]

end LgBuddy
