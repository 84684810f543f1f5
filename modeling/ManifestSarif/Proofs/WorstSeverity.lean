import ManifestSarif.Severity
import Mathlib.Order.Bounds.Basic
import Mathlib.Order.MinMax

/-!
# The worst of some severities

`Severity.worst` folds `max` over a list from the best level on.  This file ties the fold to the
order of the levels.

* `Severity` is a linear order, with the comparison and the maximum that the fold uses.
* `isGreatest_worst`: the fold gives the greatest of the levels and `none`, and nothing else is.
* `worst_append`, `worst_map_worst` and `worst_mono`: folds can be nested, and more levels make no
  better result; `worst_perm`: the order makes none.
* `Severity.running` lists the values of the fold on its way; `running_pairwise_le` says that they
  never fall.
-/

namespace ManifestSarif.Severity

theorem rank_injective {a b : Severity} (h : a.rank = b.rank) : a = b := by
  cases a <;> cases b <;> simp_all [rank]

theorem le_iff_rank_le {a b : Severity} : a ≤ b ↔ a.rank ≤ b.rank := Iff.rfl

/-- The levels are ordered by their rank; the maximum is the one that `worst` folds. -/
instance linearOrder : LinearOrder Severity where
  le := (· ≤ ·)
  le_refl a := le_iff_rank_le.2 (Nat.le_refl _)
  le_trans a b c hab hbc := by
    rw [le_iff_rank_le] at hab hbc ⊢
    omega
  le_antisymm a b hab hba := by
    apply rank_injective
    rw [le_iff_rank_le] at hab hba
    omega
  le_total a b := by
    rw [le_iff_rank_le, le_iff_rank_le]
    omega
  max := max
  max_def a b := rfl
  toDecidableLE := inferInstance
  toDecidableEq := inferInstance

/-- No level is better than `none`. -/
theorem none_le (a : Severity) : none ≤ a := by
  rw [le_iff_rank_le]
  exact Nat.zero_le _

@[simp]
theorem none_max (a : Severity) : max none a = a := max_eq_right (none_le a)

/-! ## The fold -/

@[simp]
theorem worst_nil : worst [] = none := rfl

-- The fold has to be opened from any start, since its start changes with every step.
private theorem foldl_max_eq (levels : List Severity) (start : Severity) :
    levels.foldl max start = max start (worst levels) := by
  induction levels generalizing start with
  | nil => exact (max_eq_left (none_le start)).symm
  | cons level levels ih =>
      rw [worst, List.foldl_cons, List.foldl_cons, ih (max start level), ih (max none level),
        none_max, max_assoc]

@[simp]
theorem worst_cons (level : Severity) (levels : List Severity) :
    worst (level :: levels) = max level (worst levels) := by
  rw [worst, List.foldl_cons, none_max, foldl_max_eq]

@[simp]
theorem worst_append (left right : List Severity) :
    worst (left ++ right) = max (worst left) (worst right) := by
  rw [worst, List.foldl_append, foldl_max_eq]
  rfl

/-- The worst level is at most `bound` exactly when all levels are. -/
theorem worst_le_iff {levels : List Severity} {bound : Severity} :
    worst levels ≤ bound ↔ ∀ level ∈ levels, level ≤ bound := by
  induction levels with
  | nil => simp [none_le]
  | cons level levels ih => rw [worst_cons, max_le_iff, ih, List.forall_mem_cons]

theorem le_worst {level : Severity} {levels : List Severity} (h : level ∈ levels) :
    level ≤ worst levels :=
  worst_le_iff.1 le_rfl level h

/-- The fold gives one of the levels, or the level that it starts from. -/
theorem worst_eq_none_or_mem (levels : List Severity) :
    worst levels = none ∨ worst levels ∈ levels := by
  induction levels with
  | nil => exact Or.inl worst_nil
  | cons level levels ih =>
      rw [worst_cons]
      rcases max_choice level (worst levels) with hmax | hmax
      · rw [hmax]
        exact Or.inr List.mem_cons_self
      · rw [hmax]
        exact ih.imp_right (List.mem_cons_of_mem level)

/-- The fold gives the greatest of the levels and `none`. -/
theorem isGreatest_worst (levels : List Severity) :
    IsGreatest {level | level = none ∨ level ∈ levels} (worst levels) := by
  refine ⟨worst_eq_none_or_mem levels, ?_⟩
  intro level hlevel
  rcases hlevel with rfl | hlevel
  · exact none_le _
  · exact le_worst hlevel

theorem worst_mono {left right : List Severity} (h : left ⊆ right) :
    worst left ≤ worst right :=
  worst_le_iff.2 fun _ hlevel => le_worst (h hlevel)

/-- The order of the levels does not matter. -/
theorem worst_perm {left right : List Severity} (h : left.Perm right) :
    worst left = worst right :=
  le_antisymm (worst_mono h.subset) (worst_mono h.symm.subset)

/-- Lists can be folded one by one, and then their results. -/
theorem worst_map_worst {α : Type} (items : List α) (levels : α → List Severity) :
    worst (items.map fun item => worst (levels item)) = worst (items.flatMap levels) := by
  induction items with
  | nil => rfl
  | cons item items ih => rw [List.map_cons, worst_cons, ih, List.flatMap_cons, worst_append]

/-! ## The values on the way -/

/-- The values that the fold takes, from the one it starts from to its result. -/
def running (levels : List Severity) : List Severity :=
  levels.scanl max none

@[simp]
theorem running_getLast? (levels : List Severity) :
    (running levels).getLast? = some (worst levels) :=
  List.getLast?_scanl

private theorem scanl_max_pairwise (levels : List Severity) (start : Severity) :
    (∀ value ∈ levels.scanl max start, start ≤ value) ∧
      (levels.scanl max start).Pairwise (· ≤ ·) := by
  induction levels generalizing start with
  | nil => simp
  | cons level levels ih =>
      obtain ⟨hle, hrest⟩ := ih (max start level)
      have hstart : ∀ value ∈ levels.scanl max (max start level), start ≤ value :=
        fun value hvalue => (le_max_left start level).trans (hle value hvalue)
      rw [List.scanl_cons]
      refine ⟨?_, List.pairwise_cons.2 ⟨hstart, hrest⟩⟩
      intro value hvalue
      rcases List.mem_cons.1 hvalue with rfl | hvalue
      · exact le_rfl
      · exact hstart value hvalue

/-- The values of the fold never fall. -/
theorem running_pairwise_le (levels : List Severity) : (running levels).Pairwise (· ≤ ·) :=
  (scanl_max_pairwise levels none).2

end ManifestSarif.Severity
