import Mathlib.Data.List.Induction
import Mathlib.Data.List.Nodup

/-!
# First occurrences

What is collected in the order in which it comes up, each once, are the first occurrences in a list.
-/

namespace Crosstab

variable {α : Type} [DecidableEq α]

/-- One more element comes up first at the end, or has come up before. -/
theorem eraseDups_concat (xs : List α) (x : α) :
    (xs ++ [x]).eraseDups = if x ∈ xs then xs.eraseDups else xs.eraseDups ++ [x] := by
  rw [List.eraseDups_append, List.removeAll, List.filter_singleton]
  by_cases h : x ∈ xs
  · simp [h]
  · simp [h, List.eraseDups_cons]

theorem nodup_eraseDups (xs : List α) : xs.eraseDups.Nodup := by
  induction xs using List.reverseRecOn with
  | nil => exact List.nodup_nil
  | append_singleton xs x ih =>
    rw [eraseDups_concat]
    split
    · exact ih
    · next hnew =>
      have hfirst : x ∉ xs.eraseDups := fun hx => hnew (List.mem_eraseDups.1 hx)
      exact List.nodup_append_comm.1 (List.nodup_cons.2 ⟨hfirst, ih⟩)

theorem eraseDups_of_nodup {xs : List α} (h : xs.Nodup) : xs.eraseDups = xs := by
  induction xs using List.reverseRecOn with
  | nil => rfl
  | append_singleton xs x ih =>
    have hsplit := List.nodup_append.1 h
    have hnew : x ∉ xs := fun hx => hsplit.2.2 x hx x (List.mem_singleton.2 rfl) rfl
    rw [eraseDups_concat, if_neg hnew, ih hsplit.1]

/-- What has come up stays where it is. -/
theorem prefix_eraseDups (xs ys : List α) : xs.eraseDups <+: (xs ++ ys).eraseDups := by
  rw [List.eraseDups_append]
  exact List.prefix_append _ _

/-- Elements that are added if they are not there yet. -/
theorem foldl_eraseDups (xs ys : List α) :
    ys.foldl (fun acc y => if acc.contains y then acc else acc ++ [y]) xs.eraseDups =
      (xs ++ ys).eraseDups := by
  induction ys generalizing xs with
  | nil => rw [List.foldl_nil, List.append_nil]
  | cons y ys ih =>
    have hstep : (if xs.eraseDups.contains y then xs.eraseDups else xs.eraseDups ++ [y]) =
        (xs ++ [y]).eraseDups := by
      rw [eraseDups_concat]
      by_cases hy : y ∈ xs
      · simp [hy]
      · simp [hy]
    rw [List.foldl_cons, hstep, ih, ← List.append_cons]

end Crosstab
