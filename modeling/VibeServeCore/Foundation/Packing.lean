/- digest: Greedy packing of weighted items into bounded groups, and bisection for the longest fit. -/

import Mathlib.Tactic.Linarith

namespace VibeServeCore.Foundation.Packing

open List

variable {Item : Type*} (size : Item → Nat) (room : Nat)

def cost (group : List Item) : Nat := (group.map size).sum + (group.length - 1)

def packOnto : List Item → Nat → List Item → List (List Item)
  | current, _, [] => [current]
  | current, used, item :: rest =>
    if !current.isEmpty && room < used + 1 + size item then
      current :: packOnto [item] (size item) rest
    else
      packOnto (current ++ [item]) (used + size item + if current.isEmpty then 0 else 1) rest

def pack (items : List Item) : List (List Item) := packOnto size room [] 0 items

variable {size room}

@[simp] theorem cost_singleton (item : Item) : cost size [item] = size item := by simp [cost]

theorem cost_concat (group : List Item) (item : Item) :
    cost size (group ++ [item]) =
      cost size group + size item + if group.isEmpty then 0 else 1 := by
  cases group with
  | nil => simp [cost]
  | cons first rest =>
    simp only [cost, map_append, sum_append, map_cons, map_nil, sum_cons,
      sum_nil, length_append, length_cons, length_nil, isEmpty_cons]
    split
    · contradiction
    · omega

theorem packOnto_flatten (current rest : List Item) (used : Nat) :
    (packOnto size room current used rest).flatten = current ++ rest := by
  induction rest generalizing current used with
  | nil => simp [packOnto]
  | cons item rest ih =>
    unfold packOnto
    split
    · rw [flatten_cons, ih]
      simp
    · rw [ih]
      simp

theorem pack_flatten (items : List Item) : (pack size room items).flatten = items :=
  packOnto_flatten [] items 0

theorem packOnto_ne_nil (current rest : List Item) (used : Nat) :
    packOnto size room current used rest ≠ [] := by
  induction rest generalizing current used with
  | nil => simp [packOnto]
  | cons item rest ih =>
    unfold packOnto
    split
    · simp
    · exact ih _ _

theorem packOnto_fits {current rest : List Item} {used : Nat} (spent : used = cost size current)
    (fits : cost size current ≤ room) (each : ∀ item ∈ rest, size item ≤ room)
    (held : current = [] → rest ≠ []) :
    ∀ group ∈ packOnto size room current used rest, group ≠ [] ∧ cost size group ≤ room := by
  induction rest generalizing current used with
  | nil =>
    intro group mem
    rw [packOnto, mem_singleton] at mem
    subst mem
    exact ⟨fun empty => held empty rfl, fits⟩
  | cons item rest ih =>
    have alone := each item mem_cons_self
    have later := fun other mem => each other (mem_cons_of_mem _ mem)
    unfold packOnto
    split
    · rename_i closes
      simp only [Bool.and_eq_true, Bool.not_eq_true', isEmpty_eq_false_iff] at closes
      intro group mem
      rcases mem_cons.mp mem with rfl | mem
      · exact ⟨closes.1, fits⟩
      · exact ih (cost_singleton item).symm (by rwa [cost_singleton]) later (by simp) group mem
    · rename_i joins
      refine ih (by rw [cost_concat, spent]) ?_ later (by simp)
      rw [cost_concat, ← spent]
      cases current with
      | nil => simpa [spent, cost] using alone
      | cons first others =>
        simp only [isEmpty_cons, Bool.not_false, Bool.true_and, decide_eq_true_eq] at joins ⊢
        split
        · contradiction
        · omega

theorem pack_fits {items : List Item} (some_ : items ≠ [])
    (each : ∀ item ∈ items, size item ≤ room) :
    ∀ group ∈ pack size room items, group ≠ [] ∧ cost size group ≤ room :=
  packOnto_fits rfl (Nat.zero_le _) each fun _ => some_

/-! ## Bisection -/

def bisect (fits : Nat → Bool) : Nat → Nat → Nat → Nat → Nat
  | 0, _, _, accepted => accepted
  | fuel + 1, low, high, accepted =>
    if low ≤ high then
      let middle := (low + high) / 2
      if fits middle then bisect fits fuel (middle + 1) high middle
      else bisect fits fuel low (middle - 1) accepted
    else accepted

theorem bisect_accepts (fits : Nat → Bool) {fuel low high accepted : Nat}
    (held : accepted ≠ 0 → fits accepted) (found : bisect fits fuel low high accepted ≠ 0) :
    fits (bisect fits fuel low high accepted) := by
  induction fuel generalizing low high accepted with
  | zero => exact held found
  | succ fuel ih =>
    unfold bisect at found ⊢
    split
    · rename_i open_
      dsimp only
      simp only [open_, if_true] at found
      split
      · rename_i fit
        rw [if_pos fit] at found
        exact ih (fun _ => fit) found
      · rename_i large
        rw [if_neg large] at found
        exact ih held found
    · rename_i closed
      rw [if_neg closed] at found
      exact held found

end VibeServeCore.Foundation.Packing
