/- source: run-state/round-timing.ts (`activeTimingElapsedMs`, `intervalUnionElapsedMs`)
   digest: The elapsed time of a round is the measure of the union of its agent intervals. -/

import Mathlib.Algebra.Order.BigOperators.Group.List
import Mathlib.Data.Int.ConditionallyCompleteOrder
import Mathlib.Data.Int.Interval
import Mathlib.Data.Set.Card
import Mathlib.Order.Interval.Finset.Basic

namespace VibeServeCore.Clients

open Finset (Ico)

structure TimeRange where
  start : Int
  finish : Int
  ordered : start ≤ finish

def TimeRange.between (times : Int × Int) : TimeRange :=
  ⟨min times.1 times.2, max times.1 times.2, min_le_max⟩

instance : Std.Total fun left right : TimeRange => left.start ≤ right.start :=
  ⟨fun left right => le_total left.start right.start⟩

instance : IsTrans TimeRange fun left right => left.start ≤ right.start :=
  ⟨fun _ _ _ => le_trans⟩

/-- The loop of `intervalUnionElapsedMs`, with its two variables and the last addition. -/
def sweep (elapsedMs : Int) : Option TimeRange → List TimeRange → Int
  | none, [] => elapsedMs
  | some current, [] => elapsedMs + (current.finish - current.start)
  | none, range :: rest => sweep elapsedMs (some range) rest
  | some current, range :: rest =>
    if range.start ≤ current.finish then
      sweep elapsedMs (some ⟨current.start, max current.finish range.finish,
        current.ordered.trans (le_max_left _ _)⟩) rest
    else sweep (elapsedMs + (current.finish - current.start)) (some range) rest

noncomputable def covered : List TimeRange → Finset Int
  | [] => ∅
  | range :: rest => Ico range.start range.finish ∪ covered rest

private theorem mem_covered {ranges : List TimeRange} {ms : Int} :
    ms ∈ covered ranges ↔ ∃ range ∈ ranges, range.start ≤ ms ∧ ms < range.finish := by
  induction ranges with
  | nil => simp [covered]
  | cons range rest ih => simp [covered, ih]

theorem TimeRange.card_Ico (range : TimeRange) :
    ((Ico range.start range.finish).card : Int) = range.finish - range.start := by
  rw [Int.card_Ico, Int.toNat_of_nonneg (Int.sub_nonneg.2 range.ordered)]

private theorem card_covered_le (ranges : List TimeRange) :
    ((covered ranges).card : Int) ≤ (ranges.map fun range => range.finish - range.start).sum := by
  induction ranges with
  | nil => simp [covered]
  | cons range rest ih =>
    have union_le := Finset.card_union_le (Ico range.start range.finish) (covered rest)
    have here := range.card_Ico
    simp only [covered, List.map_cons, List.sum_cons]
    omega

private theorem sweep_some {ranges : List TimeRange} {elapsedMs : Int} {current : TimeRange}
    (sorted : (current :: ranges).Pairwise fun left right => left.start ≤ right.start) :
    sweep elapsedMs (some current) ranges =
      elapsedMs + (covered (current :: ranges)).card := by
  induction ranges generalizing elapsedMs current with
  | nil => simpa [sweep, covered] using current.ordered
  | cons range rest ih =>
    have current_le := current.ordered
    have range_le := range.ordered
    obtain ⟨first, later⟩ := List.pairwise_cons.1 sorted
    have before := first range (.head _)
    simp only [sweep]
    split_ifs with touches
    · -- The two ranges are one: together they cover what the extended range does.
      rw [ih]
      swap
      · exact List.pairwise_cons.2 ⟨fun r member => first r (.tail _ member), later.of_cons⟩
      have joined : Ico current.start (max current.finish range.finish) =
          Ico current.start current.finish ∪ Ico range.start range.finish := by
        ext ms
        simp only [Finset.mem_union, Finset.mem_Ico]
        omega
      simp only [covered, joined, Finset.union_assoc]
    · -- Nothing that comes later starts before the current range has ended.
      have apart : Disjoint (Ico current.start current.finish) (covered (range :: rest)) := by
        refine Finset.disjoint_left.2 fun ms inside outside => ?_
        obtain ⟨r, member, reached, -⟩ := mem_covered.1 outside
        have ends := (Finset.mem_Ico.1 inside).2
        rcases List.mem_cons.1 member with rfl | member
        · omega
        · have := (List.pairwise_cons.1 later).1 r member
          omega
      rw [ih later, covered.eq_2 current, Finset.card_union_of_disjoint apart, Nat.cast_add,
        current.card_Ico, Int.add_assoc]

private theorem sweep_none {ranges : List TimeRange}
    (sorted : ranges.Pairwise fun left right => left.start ≤ right.start) :
    sweep 0 none ranges = (covered ranges).card := by
  cases ranges with
  | nil => rfl
  | cons range rest => exact (sweep_some sorted).trans (Int.zero_add _)

/-! ## The intervals of a round -/

structure AgentTimingInterval (Stamp : Type) where
  startedAt : Stamp
  finishedAt : Stamp

structure RoundTimingState (Stamp : Type) where
  agentIntervals : Option (List (AgentTimingInterval Stamp))
  activeAgentStarts : Option (List (String × Stamp))

section

-- A stamp is a date string; `time` is `new Date(stamp).getTime()`, without a value for `NaN`.
variable {Stamp : Type} (time : Stamp → Option Int) (toISOString : Int → Stamp)

def AgentTimingInterval.times (interval : AgentTimingInterval Stamp) : Option (Int × Int) := do
  return (← time interval.startedAt, ← time interval.finishedAt)

def intervalUnionElapsedMs (intervals : List (AgentTimingInterval Stamp)) : Int :=
  sweep 0 none <| ((intervals.filterMap (·.times time)).map .between).insertionSort
    fun left right => left.start ≤ right.start

def activeTimingElapsedMs (state : RoundTimingState Stamp) (now : Int) : Int :=
  intervalUnionElapsedMs time (state.agentIntervals.getD [] ++
    (state.activeAgentStarts.getD []).map fun entry => ⟨entry.2, toISOString now⟩)

def RoundTimingState.times (state : RoundTimingState Stamp) (now : Int) : List (Int × Int) :=
  (state.agentIntervals.getD []).filterMap (·.times time) ++
    (state.activeAgentStarts.getD []).filterMap fun entry => (time entry.2).map (·, now)

def RoundTimingState.union (state : RoundTimingState Stamp) (now : Int) : Set Int :=
  { ms | ∃ times ∈ state.times time now,
    min times.1 times.2 ≤ ms ∧ ms < max times.1 times.2 }

variable {time toISOString} {now : Int}

private theorem elapsed_eq_card (parsed : time (toISOString now) = some now)
    (state : RoundTimingState Stamp) : activeTimingElapsedMs time toISOString state now =
      ((covered ((state.times time now).map .between)).card : Int) := by
  have active : (state.activeAgentStarts.getD []).filterMap (fun entry =>
      AgentTimingInterval.times time ⟨entry.2, toISOString now⟩) =
        (state.activeAgentStarts.getD []).filterMap fun entry => (time entry.2).map (·, now) := by
    congr 1
    funext entry
    simp only [AgentTimingInterval.times, parsed]
    cases time entry.2 <;> rfl
  simp only [activeTimingElapsedMs, intervalUnionElapsedMs, RoundTimingState.times,
    List.filterMap_append, List.filterMap_map, Function.comp_def, active]
  rw [sweep_none (List.pairwise_insertionSort _ _)]
  congr 2
  ext ms
  simp only [mem_covered, List.mem_insertionSort]

private theorem elapsed_eq_ncard (parsed : time (toISOString now) = some now)
    (state : RoundTimingState Stamp) : activeTimingElapsedMs time toISOString state now =
      ((state.union time now).ncard : Int) := by
  rw [elapsed_eq_card parsed, ← Set.ncard_coe_finset]
  congr 2
  ext ms
  simp [mem_covered, RoundTimingState.union, TimeRange.between]

/-- The elapsed time of a round is the number of milliseconds its intervals cover, never more than
their lengths together. -/
theorem activeTimingElapsedMs_measures_union (parsed : time (toISOString now) = some now)
    (state : RoundTimingState Stamp) :
    activeTimingElapsedMs time toISOString state now = ((state.union time now).ncard : Int) ∧
      (∀ other : RoundTimingState Stamp,
        (other.agentIntervals.getD []).Perm (state.agentIntervals.getD []) →
        (other.activeAgentStarts.getD []).Perm (state.activeAgentStarts.getD []) →
        activeTimingElapsedMs time toISOString other now =
          activeTimingElapsedMs time toISOString state now) ∧
      activeTimingElapsedMs time toISOString state now ≤
        ((state.times time now).map fun times => |times.2 - times.1|).sum := by
  refine ⟨elapsed_eq_ncard parsed state, fun other finished active => ?_, ?_⟩
  · have same : (other.times time now).Perm (state.times time now) :=
      (finished.filterMap _).append (active.filterMap _)
    simp only [elapsed_eq_ncard parsed, RoundTimingState.union, same.mem_iff]
  · rw [elapsed_eq_card parsed]
    refine (card_covered_le _).trans_eq ?_
    simp only [List.map_map, Function.comp_def, TimeRange.between, max_sub_min_eq_abs]

/-- Two overlapping agents, one with its times exchanged, and one still running. -/
theorem overlapping_agents_measured :
    activeTimingElapsedMs some id ⟨some [⟨2, 5⟩, ⟨9, 4⟩], some [("main:a", 12)]⟩ 14 = 9 ∧
      activeTimingElapsedMs some id ⟨some [⟨2, 5⟩, ⟨9, 4⟩], some [("main:a", 12)]⟩ 14 ≤
        3 + (5 + (2 + 0)) :=
  ⟨by decide +kernel, (activeTimingElapsedMs_measures_union rfl _).2.2⟩

end

end VibeServeCore.Clients
