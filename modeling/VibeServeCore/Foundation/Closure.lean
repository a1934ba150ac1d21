/- digest: Closing a finite set under rules by repeating a pass until it changes no size. -/

import Mathlib.Logic.Relation
import Mathlib.Tactic.SplitIfs

namespace VibeServeCore.Foundation.Closure

section
variable {Found Size : Type*} [DecidableEq Size]

def untilStable (pass : Found → Found) (size : Found → Size) : Nat → Found → Option Found
  | 0, _ => none
  | rounds + 1, found =>
    if size (pass found) = size found then some (pass found)
    else untilStable pass size rounds (pass found)

variable {pass : Found → Found} {size : Found → Size} {holds : Found → Prop}

theorem untilStable_eq_some (step : ∀ {found}, holds found → holds (pass found))
    {rounds : Nat} {found result : Found} (initial : holds found)
    (stopped : untilStable pass size rounds found = some result) :
    ∃ last, holds last ∧ size (pass last) = size last ∧ result = pass last := by
  induction rounds generalizing found with
  | zero => cases stopped
  | succ rounds ih =>
    rw [untilStable] at stopped
    split_ifs at stopped with stable
    · exact ⟨found, initial, stable, (Option.some.inj stopped).symm⟩
    · exact ih (step initial) stopped

theorem untilStable_isSome (step : ∀ {found}, holds found → holds (pass found))
    (measure : Found → Nat) (bound : Nat) (bounded : ∀ {found}, holds found → measure found ≤ bound)
    (grows : ∀ {found}, holds found → size (pass found) ≠ size found → measure found < measure (pass
      found)) {rounds : Nat} {found : Found} (initial : holds found)
    (enough : bound < measure found + rounds) : (untilStable pass size rounds found).isSome := by
  induction rounds generalizing found with
  | zero =>
    have atMost := bounded initial
    omega
  | succ rounds ih =>
    rw [untilStable]
    split_ifs with stable
    · rfl
    · have more := grows initial stable
      exact ih (step initial) (by omega)

end

/-! ## Reachability -/

section
variable {Node : Type*} {starts : Node → Prop} {reaches : Node → Node → Prop}

def Reachable (starts : Node → Prop) (reaches : Node → Node → Prop) (node : Node) : Prop :=
  ∃ start, starts start ∧ Relation.ReflTransGen reaches start node

theorem Reachable.start {node : Node} (starting : starts node) : Reachable starts reaches node :=
  ⟨node, starting, .refl⟩

theorem Reachable.step {node next : Node} (reached : Reachable starts reaches node)
    (edge : reaches node next) : Reachable starts reaches next := by
  obtain ⟨start, starting, path⟩ := reached
  exact ⟨start, starting, path.tail edge⟩

theorem Reachable.mem_closed {closed : Node → Prop} (starting : ∀ {node}, starts node → closed node)
    (edges : ∀ {node next}, closed node → reaches node next → closed next) {node : Node}
    (reached : Reachable starts reaches node) : closed node := by
  obtain ⟨start, first, path⟩ := reached
  induction path with
  | refl => exact starting first
  | tail _ edge ih => exact edges ih edge

end

end VibeServeCore.Foundation.Closure
