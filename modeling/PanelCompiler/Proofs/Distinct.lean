import Mathlib.Data.List.Induction
import Mathlib.Data.List.Nodup

namespace PanelCompiler

variable {α : Type} [DecidableEq α]

/-- A list with an item behind it, unless the item is there. -/
def addOnce (known : List α) (item : α) : List α :=
  if item ∈ known then known else known ++ [item]

theorem prefix_addOnce (known : List α) (item : α) : known <+: addOnce known item := by
  unfold addOnce
  split
  · exact List.prefix_rfl
  · exact List.prefix_append known [item]

theorem nodup_addOnce {known : List α} (distinct : known.Nodup) (item : α) :
    (addOnce known item).Nodup := by
  unfold addOnce
  split
  · exact distinct
  · rename_i fresh
    refine List.nodup_append.mpr ⟨distinct, by simp, fun other member last here same => ?_⟩
    rw [List.mem_singleton.mp here] at same
    exact fresh (same ▸ member)

theorem foldl_addOnce (items : List α) : items.foldl addOnce [] = items.eraseDups := by
  induction items using List.reverseRecOn with
  | nil => rfl
  | append_singleton items item ih =>
    rw [List.foldl_append, ih, List.eraseDups_append, List.foldl_cons, List.foldl_nil, addOnce]
    by_cases known : item ∈ items
    · simp [known, List.removeAll]
    · simp [known, List.removeAll, List.eraseDups_cons]

end PanelCompiler
