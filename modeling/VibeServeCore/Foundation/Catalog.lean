/- digest: A list sorted by key that holds the greatest accepted item of each key. -/

import Mathlib.Data.List.Sort
import VibeServeCore.Foundation.Ledger

namespace VibeServeCore.Foundation.Catalog

open List
open Ledger (Distinct)

variable {Item Key : Type} [LinearOrder Key] (key : Item → Key)

def upsert (catalog : List Item) (item : Item) : List Item :=
  (catalog.filter (key · ≠ key item) ++ [item]).insertionSort (key · ≤ key ·)

theorem upsert_sorted {catalog : List Item} (item : Item)
    (sorted : catalog.Pairwise (key · < key ·)) :
    (upsert key catalog item).Pairwise (key · < key ·) := by
  have : Std.Total fun a b => key a ≤ key b := ⟨fun a b => le_total (key a) (key b)⟩
  have : IsTrans Item fun a b => key a ≤ key b := ⟨fun _ _ _ => le_trans⟩
  have distinct : (catalog.filter (key · ≠ key item) ++ [item]).Pairwise (key · ≠ key ·) := by
    refine pairwise_append.2 ⟨(sorted.filter _).imp ne_of_lt, pairwise_singleton _ _, ?_⟩
    intro row kept last same
    rw [mem_singleton.1 same]
    exact of_decide_eq_true (mem_filter.1 kept).2
  have arranged := (perm_insertionSort (key · ≤ key ·) _).symm.pairwise distinct fun h => h.symm
  exact (pairwise_insertionSort _ _).imp₂ (fun _ _ => lt_of_le_of_ne) arranged

variable [PartialOrder Item] (accepted : Item → Prop)

structure Lists (items catalog : List Item) : Prop where
  sorted : catalog.Pairwise (key · < key ·)
  source : ∀ row ∈ catalog, row ∈ items ∧ accepted row
  above : ∀ item ∈ items, accepted item → ∃ row ∈ catalog, item ≤ row ∧ key item = key row

namespace Lists

variable {key accepted} {items catalog : List Item} {item : Item}
  (lists : Lists key accepted items catalog)

include lists

theorem distinct : Distinct key catalog :=
  pairwise_map.2 (lists.sorted.imp ne_of_lt)

theorem grow
    (held : accepted item → ∃ row ∈ catalog, item ≤ row ∧ key item = key row) :
    Lists key accepted (items ++ [item]) catalog where
  sorted := lists.sorted
  source row member := ⟨mem_append_left _ (lists.source row member).1, (lists.source row member).2⟩
  above other among other_accepted := by
    rcases mem_append.1 among with among | last
    · exact lists.above other among other_accepted
    · obtain rfl := mem_singleton.1 last
      exact held other_accepted

theorem replace (taken : accepted item)
    (below : ∀ row ∈ catalog, key row = key item → row ≤ item) :
    Lists key accepted (items ++ [item]) (upsert key catalog item) := by
  have member {row : Item} : row ∈ upsert key catalog item ↔
      row ∈ catalog ∧ key row ≠ key item ∨ row = item := by simp [upsert]
  refine ⟨upsert_sorted key item lists.sorted, fun row listed => ?_, fun other among held => ?_⟩
  · rcases member.1 listed with ⟨kept, -⟩ | rfl
    · exact ⟨mem_append_left _ (lists.source row kept).1, (lists.source row kept).2⟩
    · exact ⟨mem_append_right _ (mem_singleton_self _), taken⟩
  · rcases mem_append.1 among with among | last
    · obtain ⟨row, listed, le, same⟩ := lists.above other among held
      by_cases replaced : key row = key item
      · exact ⟨item, member.2 (.inr rfl), le.trans (below row listed replaced),
          same.trans replaced⟩
      · exact ⟨row, member.2 (.inl ⟨listed, replaced⟩), le, same⟩
    · obtain rfl := mem_singleton.1 last
      exact ⟨other, member.2 (.inr rfl), le_rfl, rfl⟩

theorem mem_of_same_items {others rows : List Item}
    (also : Lists key accepted others rows) (same : ∀ item, item ∈ items ↔ item ∈ others)
    {row : Item} (listed : row ∈ catalog) : row ∈ rows := by
  -- Up to a row of the other catalog and back: the same key, so the same row.
  obtain ⟨among, held⟩ := lists.source row listed
  obtain ⟨up, up_listed, le, up_key⟩ := also.above row ((same row).1 among) held
  obtain ⟨up_among, up_held⟩ := also.source up up_listed
  obtain ⟨back, back_listed, back_le, back_key⟩ := lists.above up ((same up).2 up_among) up_held
  obtain rfl := lists.distinct.eq_of_key listed back_listed (up_key.trans back_key)
  rwa [le_antisymm le back_le]

theorem determined {others rows : List Item}
    (also : Lists key accepted others rows) (same : ∀ item, item ∈ items ↔ item ∈ others) :
    catalog = rows := by
  refine Perm.eq_of_pairwise (fun _ _ _ _ ab ba => absurd ba (lt_asymm ab)) lists.sorted
    also.sorted ((perm_ext_iff_of_nodup lists.distinct.of_map also.distinct.of_map).2 fun row => ?_)
  exact ⟨lists.mem_of_same_items also same,
    also.mem_of_same_items lists fun item => (same item).symm⟩

end Lists

end VibeServeCore.Foundation.Catalog
