/- source: src/vibesys/metrics.py
   digest: Noisy comparisons along directed axes, and where dominance leaves a frontier. -/

import Mathlib.Algebra.Order.BigOperators.Group.List
import Mathlib.Algebra.Order.Ring.Abs
import Mathlib.Data.Finset.Max
import Mathlib.Tactic.Linarith
import VibeServeCore.Foundation.Ledger

namespace VibeServeCore.Metrics

inductive Direction
  | max | min

inductive MetricComparison
  | better | worse | withinNoise | incomparable
  deriving DecidableEq

structure Objective where
  name : String
  direction : Direction

def Objective.signed (objective : Objective) (value : ℚ) : ℚ :=
  match objective.direction with
  | .max => value
  | .min => -value

structure Measurement where
  metric : String
  value : ℚ
  direction : Option Direction := none

abbrev Row := String → Option ℚ

structure MetricSpace where
  objectives : List Objective := []
  relativeNoise : ℚ := 0
  nonneg : 0 ≤ relativeNoise
  below_one : relativeNoise < 1
  unique_axes : (objectives.map (·.name)).Nodup

namespace MetricSpace

variable (space : MetricSpace)

def axis (metric : String) : Option Objective := space.objectives.find? (·.name = metric)

def direction (measurement : Measurement) : Option Direction :=
  match measurement.direction with
  | some own => some own
  | none => (space.axis measurement.metric).map (·.direction)

def improvement (direction : Direction) (candidate baseline : ℚ) : ℚ :=
  match direction with
  | .max => candidate - baseline
  | .min => baseline - candidate

def judge (direction : Direction) (candidate baseline : ℚ) : MetricComparison :=
  let gain := improvement direction candidate baseline
  let tolerance := |baseline| * space.relativeNoise
  if gain > tolerance then .better
  else if gain < -tolerance then .worse
  else .withinNoise

def compare : Option Measurement → Option Measurement → MetricComparison
  | some candidate, some baseline =>
    match space.direction candidate with
    | none => .incomparable
    | some direction =>
      if candidate.metric ≠ baseline.metric then .incomparable
      else space.judge direction candidate.value baseline.value
  | _, _ => .incomparable

section
variable {Point : Type} (reading : Point → Option Measurement)

def lead (best : Option (Point × Measurement)) (point : Point) : Option (Point × Measurement) :=
  match reading point with
  | none => best
  | some item =>
    if space.direction item = none then best
    else
      match best with
      | none => some (point, item)
      | some leader =>
        if space.compare (some item) (some leader.2) = .better then some (point, item)
        else some leader

def best (points : List Point) : Option Point :=
  (points.foldl (space.lead reading) none).map (·.1)

end

def reading (objective : Objective) (row : Row) : Option Measurement :=
  (row objective.name).map fun value => ⟨objective.name, value, some objective.direction⟩

def dominatesOn (a b : Row) : List Objective → Bool → Bool
  | [], materiallyBetter => materiallyBetter
  | objective :: rest, materiallyBetter =>
    match space.compare (reading objective a) (reading objective b) with
    | .incomparable | .worse => false
    | .better => dominatesOn a b rest true
    | .withinNoise => dominatesOn a b rest materiallyBetter

def dominates (a b : Row) : Bool :=
  if space.objectives = [] then false else space.dominatesOn a b space.objectives false

def frontier {Point : Type} [DecidableEq Point] (points : List Point) (row : Point → Row) :
    List Point :=
  points.filter fun point =>
    !points.any fun other => other ≠ point && space.dominates (row other) (row point)

def complete (row : Row) : Bool :=
  !space.objectives.isEmpty && space.objectives.all fun objective => (row objective.name).isSome

end MetricSpace

end VibeServeCore.Metrics

namespace VibeServeCore.Metrics.MetricSpace

open List Foundation.Ledger

variable {space : MetricSpace} {a b : Row}

private theorem tolerance_nonneg (baseline : ℚ) : 0 ≤ |baseline| * space.relativeNoise :=
  mul_nonneg (abs_nonneg baseline) space.nonneg

variable {candidate baseline : ℚ} {objective : Objective}

private theorem judge_eq_better {direction : Direction} :
    space.judge direction candidate baseline = .better ↔
      |baseline| * space.relativeNoise < improvement direction candidate baseline := by
  unfold judge
  dsimp only
  split_ifs <;> simp_all

private theorem judge_ne_worse {direction : Direction} :
    space.judge direction candidate baseline ≠ .worse ↔
      -(|baseline| * space.relativeNoise) ≤ improvement direction candidate baseline := by
  have scale := space.tolerance_nonneg baseline
  unfold judge
  dsimp only
  split_ifs with above below
  · simp only [ne_eq, reduceCtorEq, not_false_eq_true, true_iff]
    linarith
  · simpa using below
  · simpa using below

private theorem improvement_eq_signed (objective : Objective) (candidate baseline : ℚ) :
    improvement objective.direction candidate baseline =
      objective.signed candidate - objective.signed baseline := by
  unfold improvement Objective.signed
  cases objective.direction
  · rfl
  · exact (neg_sub_neg candidate baseline).symm

private theorem compare_reading (first : a objective.name = some candidate)
    (second : b objective.name = some baseline) :
    space.compare (reading objective a) (reading objective b) =
      space.judge objective.direction candidate baseline := by
  simp [reading, first, second, compare, direction]

private theorem values_of_comparable
    (comparable : space.compare (reading objective a) (reading objective b) ≠ .incomparable) :
    ∃ candidate baseline, a objective.name = some candidate ∧
      b objective.name = some baseline := by
  cases first : a objective.name with
  | none => exact absurd (by simp [reading, first, compare]) comparable
  | some candidate =>
    cases second : b objective.name with
    | none => exact absurd (by simp [reading, second, compare]) comparable
    | some baseline => exact ⟨candidate, baseline, rfl, rfl⟩

def HoldsOn (space : MetricSpace) (a b : Row) (objective : Objective) : Prop :=
  space.compare (reading objective a) (reading objective b) ≠ .incomparable ∧
    space.compare (reading objective a) (reading objective b) ≠ .worse

private theorem dominatesOn_iff {objectives : List Objective} {materiallyBetter : Bool} :
    space.dominatesOn a b objectives materiallyBetter ↔
      (∀ objective ∈ objectives, space.HoldsOn a b objective) ∧
        (materiallyBetter ∨ ∃ objective ∈ objectives,
          space.compare (reading objective a) (reading objective b) = .better) := by
  induction objectives generalizing materiallyBetter with
  | nil => simp [dominatesOn]
  | cons objective rest ih =>
    rw [dominatesOn, forall_mem_cons, exists_mem_cons_iff]
    cases compared : space.compare (reading objective a) (reading objective b) <;>
      simp [HoldsOn, compared, ih]

private theorem dominates_iff :
    space.dominates a b ↔
      (∀ objective ∈ space.objectives, space.HoldsOn a b objective) ∧
        ∃ objective ∈ space.objectives,
          space.compare (reading objective a) (reading objective b) = .better := by
  unfold dominates
  split_ifs with bare
  · simp [bare]
  · rw [dominatesOn_iff]
    simp

def score (space : MetricSpace) (row : Row) : ℚ :=
  (space.objectives.map fun objective => objective.signed ((row objective.name).getD 0)).sum

private theorem signed_le_of_gain (first : a objective.name = some candidate)
    (second : b objective.name = some baseline)
    (gain : 0 ≤ improvement objective.direction candidate baseline) :
    objective.signed ((b objective.name).getD 0) ≤
      objective.signed ((a objective.name).getD 0) := by
  rw [improvement_eq_signed] at gain
  rw [first, second]
  exact sub_nonneg.mp gain

private theorem score_lt_of_dominates
    (plain : space.relativeNoise = 0 ∨ space.objectives.length ≤ 1)
    (dominated : space.dominates a b) : space.score b < space.score a := by
  obtain ⟨holds, best, listed, better⟩ := dominates_iff.mp dominated
  obtain ⟨high, low, highest, lowest⟩ := values_of_comparable (holds best listed).1
  rw [compare_reading highest lowest, judge_eq_better] at better
  have gained := lt_of_le_of_lt (space.tolerance_nonneg low) better
  refine sum_lt_sum _ _ (fun objective mem => ?_) ⟨best, listed, ?_⟩
  · rcases plain with noiseless | single
    · obtain ⟨candidate, baseline, first, second⟩ := values_of_comparable (holds objective mem).1
      have kept := (holds objective mem).2
      rw [compare_reading first second, judge_ne_worse, noiseless, mul_zero, neg_zero] at kept
      exact signed_le_of_gain first second kept
    · -- The only axis is the one where the row is better.
      have same : objective = best := by
        match axes : space.objectives, single with
        | [], _ => simp [axes] at mem
        | [_], _ =>
          rw [axes, mem_singleton] at mem listed
          rw [mem, listed]
      subst same
      exact signed_le_of_gain highest lowest gained.le
  · rw [improvement_eq_signed] at gained
    rw [highest, lowest]
    exact sub_pos.mp gained

def strength (space : MetricSpace) (favoured name : String) : ℚ :=
  if name = favoured then 1 + space.relativeNoise + space.relativeNoise ^ 2 else 1

def lopsided (space : MetricSpace) (favoured : String) : Row := fun name =>
  (space.axis name).map fun objective => objective.signed (space.strength favoured name)

private theorem one_le_strength (favoured name : String) : 1 ≤ space.strength favoured name := by
  have noise := space.nonneg
  unfold strength
  split_ifs
  · nlinarith
  · exact le_rfl

private theorem strength_covered (favoured name : String) :
    space.strength favoured name - 1 ≤ space.strength favoured name * space.relativeNoise := by
  have noise := space.nonneg
  unfold strength
  split_ifs
  · have cube : 0 ≤ space.relativeNoise ^ 3 := pow_nonneg noise 3
    linarith
  · linarith

private theorem axis_of_mem (mem : objective ∈ space.objectives) :
    space.axis objective.name = some objective :=
  have distinct : Distinct Objective.name space.objectives := space.unique_axes
  distinct.find? mem

private theorem lopsided_of_mem (mem : objective ∈ space.objectives) (favoured : String) :
    space.lopsided favoured objective.name =
      some (objective.signed (space.strength favoured objective.name)) := by
  simp [lopsided, axis_of_mem mem]

private theorem abs_signed (objective : Objective) (value : ℚ) :
    |objective.signed value| = |value| := by
  unfold Objective.signed
  cases objective.direction
  · rfl
  · exact abs_neg value

private theorem improvement_signed (objective : Objective) (candidate baseline : ℚ) :
    improvement objective.direction (objective.signed candidate) (objective.signed baseline) =
      candidate - baseline := by
  rw [improvement_eq_signed]
  unfold Objective.signed
  cases objective.direction <;> simp

private theorem complete_lopsided (space : MetricSpace) (axes : space.objectives ≠ [])
    (favoured : String) :
    space.complete (space.lopsided favoured) := by
  unfold complete
  rw [Bool.and_eq_true, all_eq_true]
  refine ⟨by simpa using axes, fun objective mem => ?_⟩
  rw [lopsided_of_mem mem]
  rfl

private theorem lopsided_holdsOn (mem : objective ∈ space.objectives) (favoured other : String) :
    space.HoldsOn (space.lopsided favoured) (space.lopsided other) objective := by
  have least := space.one_le_strength favoured objective.name
  have positive := space.one_le_strength other objective.name
  have covered := space.strength_covered other objective.name
  unfold HoldsOn
  rw [compare_reading (lopsided_of_mem mem favoured) (lopsided_of_mem mem other)]
  constructor
  · unfold judge
    dsimp only
    split_ifs <;> simp
  · rw [judge_ne_worse, improvement_signed, abs_signed, abs_of_pos (by linarith)]
    linarith

private theorem lopsided_dominates (noisy : 0 < space.relativeNoise) {first : Objective}
    (mem : first ∈ space.objectives) {other : String} (apart : first.name ≠ other) :
    space.dominates (space.lopsided first.name) (space.lopsided other) := by
  refine dominates_iff.mpr ⟨fun _ listed => lopsided_holdsOn listed _ _, first, mem, ?_⟩
  rw [compare_reading (lopsided_of_mem mem first.name) (lopsided_of_mem mem other),
    judge_eq_better, improvement_signed, abs_signed]
  unfold strength
  rw [if_pos rfl, if_neg apart, abs_one]
  have square : 0 < space.relativeNoise ^ 2 := pow_pos noisy 2
  linarith

/-- Dominance orders the points, and some are undominated. -/
structure Orders (space : MetricSpace) {Point : Type} [DecidableEq Point] (points : List Point)
    (row : Point → Row) : Prop where
  irreflexive : ∀ point ∈ points, space.dominates (row point) (row point) = false
  asymmetric : ∀ point ∈ points, ∀ other ∈ points,
    ¬(space.dominates (row point) (row other) ∧
      space.dominates (row other) (row point))
  nonempty : points ≠ [] → space.frontier points row ≠ []

private theorem orders_of_score (raised : ∀ {a b : Row}, space.dominates a b →
    space.score b < space.score a) {Point : Type} [DecidableEq Point] (points : List Point)
    (row : Point → Row) : space.Orders points row where
  irreflexive point _ := by
    by_contra itself
    rw [Bool.not_eq_false] at itself
    exact lt_irrefl _ (raised itself)
  asymmetric point _ other _ both := lt_asymm (raised both.1) (raised both.2)
  nonempty some_ empty := by
    obtain ⟨first, listed⟩ := exists_mem_of_ne_nil points some_
    obtain ⟨top, mem, highest⟩ := points.toFinset.exists_max_image
      (fun point => space.score (row point)) ⟨first, mem_toFinset.mpr listed⟩
    have kept : top ∈ space.frontier points row := by
      refine mem_filter.mpr ⟨mem_toFinset.mp mem, ?_⟩
      rw [Bool.not_eq_true', any_eq_false]
      intro other found beats
      rw [Bool.and_eq_true] at beats
      exact absurd (raised beats.2) (not_lt.mpr (highest other (mem_toFinset.mpr found)))
    rw [empty] at kept
    cases kept

/-- Dominance orders every list of complete rows exactly in the spaces without noise and those with
at most one axis. -/
theorem dominance_orders_rows_iff (space : MetricSpace) :
    (∀ {Point : Type} [DecidableEq Point] (points : List Point) (row : Point → Row),
      (∀ point ∈ points, space.complete (row point)) → space.Orders points row) ↔
      space.relativeNoise = 0 ∨ space.objectives.length ≤ 1 := by
  constructor
  · intro orders
    by_contra both
    obtain ⟨noisy, several⟩ := not_or.mp both
    match axes : space.objectives with
    | [] => simp [axes] at several
    | [_] => simp [axes] at several
    | first :: second :: rest =>
      have noise := lt_of_le_of_ne space.nonneg (Ne.symm noisy)
      have apart : first.name ≠ second.name := by
        have unique := space.unique_axes
        rw [axes, map_cons, map_cons] at unique
        exact fun same => (nodup_cons.mp unique).1 (same ▸ mem_cons_self)
      have ordered := orders [first.name, second.name] space.lopsided fun name _ =>
        space.complete_lopsided (by simp [axes]) name
      refine ordered.asymmetric first.name (by simp) second.name (by simp) ⟨?_, ?_⟩
      · exact lopsided_dominates noise (by simp [axes]) apart
      · exact lopsided_dominates noise (by simp [axes]) apart.symm
  · intro plain Point _ points row _
    exact orders_of_score (score_lt_of_dominates plain) points row

def twoRates : MetricSpace where
  objectives := [⟨"throughput", .max⟩, ⟨"hit_rate", .max⟩]
  relativeNoise := 1 / 10
  nonneg := by norm_num
  below_one := by norm_num
  unique_axes := by decide

/-- Two complete rows, each 11 percent ahead on one axis, dominate each other, and the frontier of
the two is empty. -/
theorem traded_gains_empty_the_frontier :
    let row : Bool → Row := fun ahead name =>
      if name = "throughput" then some (if ahead then 111 / 100 else 1)
      else if name = "hit_rate" then some (if ahead then 1 else 111 / 100)
      else none
    (∀ ahead, twoRates.complete (row ahead)) ∧
      twoRates.dominates (row true) (row false) ∧
      twoRates.dominates (row false) (row true) ∧
      twoRates.frontier [true, false] row = [] := by
  decide +kernel

/-! ## The best reading -/

section
variable {Point : Type} {reading : Point → Option Measurement} {metric : String}
  {axis : Direction}

/-- All readings are of one metric and direction. -/
def OneAxis (space : MetricSpace) (reading : Point → Option Measurement) (metric : String)
    (axis : Direction) (points : List Point) : Prop :=
  ∀ point ∈ points, ∀ item, reading point = some item →
    item.metric = metric ∧ space.direction item = some axis

/-- Nothing is read yet, or the leader is unbeaten and beat what led before it. -/
inductive Leads (space : MetricSpace) (reading : Point → Option Measurement) (points : List Point) :
    Option (Point × Measurement) → Prop
  | nothing (unread : ∀ point ∈ points, reading point = none) : Leads space reading points none
  | leader (before after : List Point) (point : Point) (item : Measurement)
      (split : points = before ++ point :: after) (read : reading point = some item)
      (unbeaten : ∀ other ∈ points, space.compare (reading other) (some item) ≠ .better)
      (led : (∀ other ∈ before, reading other = none) ∨
        ∃ prior, space.best reading before = some prior ∧
          space.compare (reading point) (reading prior) = .better) :
      Leads space reading points (some (point, item))

private theorem compare_of_oneAxis {points : List Point}
    (one : space.OneAxis reading metric axis points)
    {first second : Point} (left : first ∈ points) (right : second ∈ points)
    {candidate baseline : Measurement} (read : reading first = some candidate)
    (against : reading second = some baseline) :
    space.compare (some candidate) (some baseline) =
      space.judge axis candidate.value baseline.value := by
  obtain ⟨named, directed⟩ := one first left candidate read
  obtain ⟨other, -⟩ := one second right baseline against
  simp [compare, directed, named, other]

private theorem judge_ne_better_trans {direction : Direction} {value low high : ℚ}
    (passed : space.judge direction high low = .better)
    (kept : space.judge direction value low ≠ .better) :
    space.judge direction value high ≠ .better := by
  rw [Ne, judge_eq_better, not_lt] at kept ⊢
  rw [judge_eq_better] at passed
  have scale := space.tolerance_nonneg high
  unfold improvement at *
  cases direction <;> dsimp only at * <;> linarith

private theorem judge_self_ne_better {direction : Direction} {value : ℚ} :
    space.judge direction value value ≠ .better := by
  rw [Ne, judge_eq_better, not_lt]
  cases direction <;> exact (sub_self value).trans_le (space.tolerance_nonneg value)

theorem Leads.skip {points : List Point} {led : Option (Point × Measurement)} {point : Point}
    (leads : space.Leads reading points led) (unread : reading point = none) :
    space.Leads reading (points ++ [point]) led := by
  cases leads with
  | nothing before =>
    exact .nothing fun other mem => (mem_append.mp mem).elim (before other)
      fun last => mem_singleton.mp last ▸ unread
  | leader before after first item split read unbeaten led =>
    refine .leader before (after ++ [point]) first item (by simp [split]) read ?_ led
    intro other mem
    rcases mem_append.mp mem with old | last
    · exact unbeaten other old
    · rw [mem_singleton.mp last, unread]
      simp [compare]

private theorem leads_foldl {points : List Point} (one : space.OneAxis reading metric axis points) :
    space.Leads reading points (points.foldl (space.lead reading) none) := by
  induction points using List.reverseRecOn with
  | nil => exact .nothing (by simp)
  | append_singleton points point ih =>
    have leads := ih fun other mem => one other (mem_append_left _ mem)
    have last : point ∈ points ++ [point] := by simp
    rw [foldl_append, foldl_cons, foldl_nil]
    cases read : reading point with
    | none =>
      rw [lead, read]
      exact leads.skip read
    | some item =>
      have directed := (one point last item read).2
      generalize found : points.foldl (space.lead reading) none = led at leads ⊢
      simp only [lead, read, directed, reduceCtorEq, if_false]
      have first : space.compare (reading point) (some item) ≠ .better := by
        rw [read, compare_of_oneAxis one last last read read]
        exact judge_self_ne_better
      cases leads with
      | nothing unread =>
        refine .leader points [] point item rfl read (fun other mem => ?_) (.inl unread)
        rcases mem_append.mp mem with old | new
        · rw [unread other old]
          simp [compare]
        · rwa [mem_singleton.mp new]
      | leader before after top value split topRead unbeaten won =>
        have held : top ∈ points ++ [point] := by simp [split]
        dsimp only
        split_ifs with passes
        · refine .leader points [] point item rfl read (fun other mem => ?_) (.inr ⟨top, ?_, ?_⟩)
          · rcases mem_append.mp mem with old | new
            · cases seen : reading other with
              | none => simp [compare]
              | some reads =>
                have kept := unbeaten other old
                rw [seen, compare_of_oneAxis one mem held seen topRead] at kept
                rw [compare_of_oneAxis one last held read topRead] at passes
                rw [compare_of_oneAxis one mem last seen read]
                exact judge_ne_better_trans passes kept
            · rwa [mem_singleton.mp new]
          · rw [best, found]
            rfl
          · rwa [read, topRead]
        · refine .leader before (after ++ [point]) top value (by simp [split]) topRead ?_ won
          intro other mem
          rcases mem_append.mp mem with old | new
          · exact unbeaten other old
          · rwa [mem_singleton.mp new, read]

/-- `best` finds a point as soon as there is a reading, no point is better, and it is the first read
or beat the best before it. -/
theorem best_is_not_beaten (space : MetricSpace) (reading : Point → Option Measurement)
    (metric : String) (axis : Direction) (points : List Point)
    (one : space.OneAxis reading metric axis points) :
    ((∃ point ∈ points, (reading point).isSome) →
      ∃ chosen, space.best reading points = some chosen) ∧
      ∀ chosen, space.best reading points = some chosen →
        (∀ point ∈ points, space.compare (reading point) (reading chosen) ≠ .better) ∧
          ∃ before after, points = before ++ chosen :: after ∧
            ((∀ point ∈ before, reading point = none) ∨
              ∃ prior, space.best reading before = some prior ∧
                space.compare (reading chosen) (reading prior) = .better) := by
  have leads := leads_foldl one
  unfold best
  generalize points.foldl (space.lead reading) none = led at leads ⊢
  cases leads with
  | nothing unread =>
    refine ⟨fun ⟨point, member, read⟩ => ?_, fun _ none => by cases none⟩
    rw [unread point member] at read
    cases read
  | leader before after point item split read unbeaten won =>
    refine ⟨fun _ => ⟨point, rfl⟩, fun chosen same => ?_⟩
    cases same
    rw [read]
    exact ⟨unbeaten, before, after, split, read ▸ won⟩

/-- Three rates within a tenth of each other, and one beyond. -/
theorem best_of_four_rates_is_not_beaten :
    let reading : ℚ → Option Measurement := fun value => some ⟨"throughput", value, none⟩
    twoRates.best reading [1, 21 / 20, 23 / 20, 6 / 5] = some (23 / 20) ∧
      ∀ rate ∈ [1, 21 / 20, 23 / 20, 6 / 5],
        twoRates.compare (reading rate) (reading (23 / 20)) ≠ .better := by
  have one : twoRates.OneAxis (fun value : ℚ => some ⟨"throughput", value, none⟩) "throughput" .max
      [1, 21 / 20, 23 / 20, 6 / 5] := by
    rintro point - item read
    cases read
    exact ⟨rfl, rfl⟩
  have found : twoRates.best (fun value : ℚ => some ⟨"throughput", value, none⟩)
      [1, 21 / 20, 23 / 20, 6 / 5] = some (23 / 20) := by decide +kernel
  exact ⟨found, ((best_is_not_beaten _ _ _ _ _ one).2 _ found).1⟩

end

end VibeServeCore.Metrics.MetricSpace
