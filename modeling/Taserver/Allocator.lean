import Mathlib.Data.List.Nodup
import Mathlib.Data.List.Range

/-! The identity allocator. `utils.first_unused_number_above` is not under src/; spec 4.2 says
what it returns, the smallest integer at least `minimum` that is not in use, and it is modelled
from that. The search tries `minimum`, `minimum + 1`, ... and one more number than there are
numbers in use always suffices. -/

namespace Taserver

/-- Modelled from the spec: `utils.first_unused_number_above` is not under src/. Spec 4.2: the
smallest integer at least `minimum` that is not in `numbers`. -/
def firstUnusedNumberAbove (numbers : List Int) (minimum : Int) : Int :=
  go numbers.length minimum
where
  /-- The first of `n`, ..., `n + fuel - 1` that is not in `numbers`, else `n + fuel`. -/
  go : Nat → Int → Int
    | 0, n => n
    | fuel + 1, n => if n ∈ numbers then go fuel (n + 1) else n

section Allocator

variable (numbers : List Int)

theorem firstUnusedNumberAbove.go_spec (fuel : Nat) (n : Int) :
    n ≤ go numbers fuel n ∧ (∀ m, n ≤ m → m < go numbers fuel n → m ∈ numbers) ∧
      (go numbers fuel n ∉ numbers ∨ go numbers fuel n = n + fuel) := by
  induction fuel generalizing n with
  | zero =>
    simp only [go]
    exact ⟨le_refl n, fun m hm hlt => absurd hlt (by omega), .inr (by simp)⟩
  | succ fuel ih =>
    by_cases hn : n ∈ numbers
    · obtain ⟨hle, hbelow, hend⟩ := ih (n + 1)
      simp only [go, hn, ↓reduceIte]
      refine ⟨by omega, fun m hm hlt => ?_, hend.imp_right fun h => by rw [h]; push_cast; omega⟩
      rcases (show m = n ∨ n + 1 ≤ m by omega) with rfl | hm'
      · exact hn
      · exact hbelow m hm' hlt
    · simp only [go, hn, ↓reduceIte]
      exact ⟨le_refl n, fun m hm hlt => absurd hlt (by omega), .inl id⟩

/-- `numbers.length + 1` consecutive integers are not all in `numbers`. -/
theorem exists_not_mem_consecutive (minimum : Int) :
    ¬ ∀ i ≤ numbers.length, minimum + i ∈ numbers := by
  intro hall
  have hsub : (List.range (numbers.length + 1)).map (fun i : Nat => minimum + i) ⊆ numbers := by
    intro x hx
    obtain ⟨i, hi, rfl⟩ := List.mem_map.1 hx
    exact hall i (by simpa [Nat.lt_succ_iff] using hi)
  have hnodup : ((List.range (numbers.length + 1)).map (fun i : Nat => minimum + i)).Nodup :=
    (List.nodup_range _).map (fun a b (h : minimum + (a : Int) = minimum + b) => by omega)
  have := (List.subperm_of_subset hnodup hsub).length_le
  simp only [List.length_map, List.length_range] at this
  omega

/-- Spec 4.2: the allocated number is at least the floor, unused, and the least such number. -/
theorem firstUnusedNumberAbove_spec (minimum : Int) :
    minimum ≤ firstUnusedNumberAbove numbers minimum ∧
      firstUnusedNumberAbove numbers minimum ∉ numbers ∧
      ∀ m, minimum ≤ m → m < firstUnusedNumberAbove numbers minimum → m ∈ numbers := by
  obtain ⟨hle, hbelow, hend⟩ := firstUnusedNumberAbove.go_spec numbers numbers.length minimum
  refine ⟨hle, fun hmem => ?_, hbelow⟩
  rcases hend with hnot | heq
  · exact hnot hmem
  · have hr : firstUnusedNumberAbove numbers minimum = minimum + numbers.length := heq
    refine exists_not_mem_consecutive numbers minimum fun i hi => ?_
    rcases Nat.lt_or_eq_of_le hi with hlt | rfl
    · exact hbelow _ (by omega) (by rw [heq]; omega)
    · rwa [← hr]

theorem firstUnusedNumberAbove_not_mem (minimum : Int) :
    firstUnusedNumberAbove numbers minimum ∉ numbers :=
  (firstUnusedNumberAbove_spec numbers minimum).2.1

theorem le_firstUnusedNumberAbove (minimum : Int) :
    minimum ≤ firstUnusedNumberAbove numbers minimum :=
  (firstUnusedNumberAbove_spec numbers minimum).1

example : firstUnusedNumberAbove [1, 2, 4] 1 = 3 := by decide

end Allocator

end Taserver
