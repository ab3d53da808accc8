import Mathlib.Tactic

/-!
# A running maximum that prefers later items

A loop that keeps the best item seen so far and replaces it by every item that
is at least as good ends in the last of the best items.  Its rank does not
depend on the order of the items; the item itself does, exactly when several
items share the best rank.
-/

namespace RunningMaximum

variable {α : Type} (rank : α → ℕ)

def best (start : α) (items : List α) : α :=
  items.foldl (fun held item => if rank held ≤ rank item then item else held)
    start

variable {rank} {start : α} {items : List α}

theorem rank_start_le_best (start : α) (items : List α) :
    rank start ≤ rank (best rank start items) := by
  induction items generalizing start with
  | nil => exact le_rfl
  | cons item rest ih =>
    unfold best
    rw [List.foldl_cons]
    split_ifs with hle
    · exact hle.trans (ih item)
    · exact ih start

theorem rank_le_best {item : α} (hmem : item ∈ items) (start : α) :
    rank item ≤ rank (best rank start items) := by
  induction items generalizing start with
  | nil => cases hmem
  | cons head rest ih =>
    unfold best
    rw [List.foldl_cons]
    rcases List.mem_cons.mp hmem with rfl | hrest
    · split_ifs with hle
      · exact rank_start_le_best item rest
      · exact (not_le.mp hle).le.trans (rank_start_le_best start rest)
    · exact ih hrest _

theorem best_eq_start_or_mem (start : α) (items : List α) :
    best rank start items = start ∨ best rank start items ∈ items := by
  induction items generalizing start with
  | nil => exact .inl rfl
  | cons item rest ih =>
    unfold best
    rw [List.foldl_cons]
    split_ifs with hle
    · right
      rcases ih item with heq | hmem
      · exact List.mem_cons.mpr (.inl heq)
      · exact List.mem_cons_of_mem _ hmem
    · exact (ih start).imp_right (List.mem_cons_of_mem _)

theorem best_mem (hne : items ≠ []) (hstart : ∀ item ∈ items, rank start ≤ rank item) :
    best rank start items ∈ items := by
  cases items with
  | nil => exact absurd rfl hne
  | cons item rest =>
    unfold best
    rw [List.foldl_cons, if_pos (hstart item List.mem_cons_self)]
    rcases best_eq_start_or_mem item rest with heq | hmem
    · exact List.mem_cons.mpr (.inl heq)
    · exact List.mem_cons_of_mem _ hmem

theorem best_append_singleton {item : α} (hstart : rank start ≤ rank item)
    (hitems : ∀ other ∈ items, rank other ≤ rank item) :
    best rank start (items ++ [item]) = item := by
  have hcases : best rank start items = start ∨
      best rank start items ∈ items := best_eq_start_or_mem start items
  have hheld : rank (best rank start items) ≤ rank item := by
    rcases hcases with heq | hmem
    · rw [heq]
      exact hstart
    · exact hitems _ hmem
  unfold best at hheld ⊢
  rw [List.foldl_append, List.foldl_cons, List.foldl_nil, if_pos hheld]

theorem rank_best_perm {others : List α} (hne : items ≠ [])
    (hstart : ∀ item ∈ items, rank start ≤ rank item) (hperm : items.Perm others) :
    rank (best rank start items) = rank (best rank start others) := by
  have hothers : others ≠ [] := by
    rintro rfl
    exact hne hperm.eq_nil
  have hmem := best_mem hne hstart
  have hmem' : best rank start others ∈ others :=
    best_mem hothers fun item hitem => hstart item (hperm.mem_iff.mpr hitem)
  apply le_antisymm
  · exact rank_le_best (hperm.mem_iff.mp hmem) start
  · exact rank_le_best (hperm.mem_iff.mpr hmem') start

end RunningMaximum
