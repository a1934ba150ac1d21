/- source: evolve/population/vibesys_selector.py, evolve/population/search.py (`propose`, `admit`)
   digest: A proposal keeps its parent apart from its inspirations only where a parent is ranked. -/

import Mathlib.Data.List.Rotate
import Mathlib.Data.List.Sort
import VibeServeCore.Metrics.Frontier
import VibeServeCore.Types.Common

namespace VibeServeCore.Search.Population

open List Metrics Foundation.Ledger

structure CandidateOutcome where
  commit : Option String
  perfMetric : Option ℚ
  metrics : List (String × ℚ)
  passed : Bool
  details : Types.Payload
  deriving DecidableEq

structure Individual extends CandidateOutcome where
  id : Nat
  generation : Nat
  deriving DecidableEq

structure PopulationState where
  individuals : List Individual := []
  nextId : Nat := 1
  generation : Nat := 0

structure PopulationConfig where
  space : MetricSpace
  selectionTemperature : ℚ
  frontierBias : ℚ
  kTopInspirations : Nat
  kRandomInspirations : Nat
  bias_nonneg : 0 ≤ frontierBias

structure Proposal where
  parent : Individual
  inspirations : List Individual

/-- The answers of the generator: `random()` twice, and the positions of `choice` and `sample`. -/
structure Draws where
  coin : ℚ
  spin : ℚ
  choice : Nat → Nat
  sample : Nat → Nat → List Nat
  coin_unit : 0 ≤ coin ∧ coin < 1
  spin_unit : 0 ≤ spin ∧ spin < 1
  choice_lt : ∀ {size}, 0 < size → choice size < size
  sample_lt : ∀ {size count}, ∀ position ∈ sample size count, position < size
  sample_nodup : ∀ {size count}, (sample size count).Nodup
  sample_length : ∀ {size count}, count ≤ size → (sample size count).length = count

def PopulationState.admitOutcome (state : PopulationState) (outcome : CandidateOutcome) :
    PopulationState :=
  { state with
    individuals := state.individuals ++ [{ outcome with
      id := state.nextId, generation := state.generation }]
    nextId := state.nextId + 1 }

def PopulationState.endGeneration (state : PopulationState) : PopulationState :=
  { state with generation := state.generation + 1 }

/-- Populations the search can build. -/
inductive Built : PopulationState → Prop
  | initial : Built {}
  | admission {state : PopulationState} (built : Built state) (outcome : CandidateOutcome) :
    Built (state.admitOutcome outcome)
  | endGeneration {state : PopulationState} (built : Built state) : Built state.endGeneration

/-- Metric rows are dictionaries: of two pairs with one name the later counts. -/
def Individual.metricMap (individual : Individual) : Row := fun name =>
  (individual.metrics.reverse.find? (·.1 = name)).map (·.2)

def Individual.materialized (individual : Individual) : Bool :=
  individual.passed && individual.commit.any (· ≠ "")

def passedIndividuals (individuals : List Individual) : List Individual :=
  individuals.filter (·.materialized)

def signedPrimary (space : MetricSpace) (value : ℚ) : ℚ :=
  match space.objectives with
  | [] => value
  | primary :: _ => primary.signed value

section
variable (exp : ℚ → ℚ) (config : PopulationConfig) (draws : Draws) (individuals : List Individual)

def frontier : List Individual :=
  config.space.frontier
    ((passedIndividuals individuals).filter (config.space.complete ·.metricMap)) (·.metricMap)

def ranked : List Individual := (passedIndividuals individuals).filter (·.perfMetric.isSome)

def spin (r : ℚ) : ℚ → List (Individual × ℚ) → Option Individual
  | _, [] => none
  | acc, (individual, weight) :: rest =>
    if r ≤ acc + weight then some individual else spin r (acc + weight) rest

def scalarSoftmaxParent : Option Individual :=
  let ranked := ranked individuals
  if ranked.length ≤ 1 then ranked.head?
  else
    let scores := ranked.filterMap fun individual =>
      individual.perfMetric.map (signedPrimary config.space)
    let lo := scores.min?.getD 0
    let hi := scores.max?.getD 0
    if hi - lo < 1 / 10 ^ 12 then ranked[draws.choice ranked.length]?
    else
      let logits := scores.map fun score =>
        (score - lo) / (hi - lo) / max config.selectionTemperature (1 / 10 ^ 6)
      let exps := logits.map fun logit => exp (logit - logits.max?.getD 0)
      spin (draws.spin * exps.sum) 0 (ranked.zip exps) <|> ranked.getLast?

def selectParent : Option Individual :=
  let front := frontier config individuals
  if config.space.objectives ≠ [] ∧ front ≠ [] ∧ draws.coin < config.frontierBias then
    front[draws.choice front.length]?
  else scalarSoftmaxParent exp config draws individuals

def leaders (key : Individual → ℚ) (count : Nat) (pool : List Individual) : List Individual :=
  (pool.insertionSort fun first second => key second ≤ key first).take count

/-- A row of the frontier is complete, so the default is never read. -/
def primaryScore (primary : Objective) (individual : Individual) : ℚ :=
  primary.signed ((individual.metricMap primary.name).getD 0)

def topInspirations (pool : List Individual) : List Individual :=
  let scored := fun individual : Individual => individual.perfMetric.getD 0
  match config.space.objectives with
  | primary :: _ =>
    let inFront := fun individual : Individual =>
      (frontier config individuals).any (·.id = individual.id)
    let top := leaders (primaryScore primary) config.kTopInspirations (pool.filter inFront)
    top ++ leaders (signedPrimary config.space ∘ scored) (config.kTopInspirations - top.length)
      (pool.filter fun individual => !inFront individual && individual.perfMetric.isSome)
  | [] => leaders scored config.kTopInspirations (pool.filter (·.perfMetric.isSome))

def sampled (count : Nat) (rest : List Individual) : List Individual :=
  (draws.sample rest.length (min count rest.length)).filterMap (rest[·]?)

def selectInspirations (parentId : Option Nat) : List Individual :=
  let pool := (passedIndividuals individuals).filter (some ·.id ≠ parentId)
  let top := topInspirations config individuals pool
  top ++ sampled draws config.kRandomInspirations
    (pool.filter fun individual => !top.any (·.id = individual.id))

def select : Option Proposal :=
  let parent := selectParent exp config draws individuals
  let inspirations := selectInspirations config draws individuals (parent.map (·.id))
  (parent <|> (passedIndividuals individuals).getLast?).map (⟨·, inspirations⟩)

/-- `propose` without the generator's state, which the draws stand for. -/
def propose (state : PopulationState) : Option Proposal :=
  select exp config draws state.individuals

end

variable {exp : ℚ → ℚ} {config : PopulationConfig} {draws : Draws} {individuals : List Individual}
  {individual : Individual}

private theorem mem_passed_of_mem_frontier (member : individual ∈ frontier config individuals) :
    individual ∈ passedIndividuals individuals :=
  (mem_filter.1 (mem_filter.1 member).1).1

private theorem mem_of_spin {r acc : ℚ} {weights : List (Individual × ℚ)}
    (drawn : spin r acc weights = some individual) : ∃ weight, (individual, weight) ∈ weights := by
  fun_induction spin r acc weights with
  | case1 => cases drawn
  | case2 acc first weight rest falls =>
    cases drawn
    exact ⟨weight, mem_cons_self⟩
  | case3 acc first weight rest falls ih =>
    obtain ⟨weight, listed⟩ := ih drawn
    exact ⟨weight, mem_cons_of_mem _ listed⟩

private theorem choice_mem (draws : Draws) {pool : List Individual} (some_pool : pool ≠ []) :
    ∃ individual ∈ pool, pool[draws.choice pool.length]? = some individual := by
  have within := draws.choice_lt (length_pos_of_ne_nil some_pool)
  exact ⟨_, getElem_mem within, getElem?_eq_getElem within⟩

private theorem softmax_mem (some_ranked : ranked individuals ≠ []) : ∃ parent ∈ ranked individuals,
    scalarSoftmaxParent exp config draws individuals = some parent := by
  unfold scalarSoftmaxParent
  dsimp only
  split_ifs
  · exact ⟨_, head_mem some_ranked, head?_eq_some_head some_ranked⟩
  · exact choice_mem draws some_ranked
  · generalize ranked individuals = all at *
    cases drawn : spin _ 0 (all.zip _) with
    | none => exact ⟨_, getLast_mem some_ranked, getLast?_eq_some_getLast some_ranked⟩
    | some parent =>
      obtain ⟨weight, listed⟩ := mem_of_spin drawn
      exact ⟨parent, (of_mem_zip listed).1, rfl⟩

def DrawsFront (config : PopulationConfig) (draws : Draws) (individuals : List Individual) : Prop :=
  frontier config individuals ≠ [] ∧ draws.coin < config.frontierBias

private theorem selectParent_cases (exp : ℚ → ℚ) (config : PopulationConfig) (draws : Draws)
    (individuals : List Individual) :
    (∃ parent ∈ passedIndividuals individuals,
      selectParent exp config draws individuals = some parent ∧
        (ranked individuals ≠ [] ∨ DrawsFront config draws individuals)) ∨
    (selectParent exp config draws individuals = none ∧ ranked individuals = [] ∧
      ¬ DrawsFront config draws individuals) := by
  have no_axes (none : config.space.objectives = []) : frontier config individuals = [] := by
    simp [frontier, MetricSpace.frontier, MetricSpace.complete, none]
  unfold selectParent
  dsimp only
  split_ifs with biased
  · obtain ⟨parent, listed, drawn⟩ := choice_mem draws biased.2.1
    exact .inl ⟨parent, mem_passed_of_mem_frontier listed, drawn, .inr biased.2⟩
  · by_cases none_ranked : ranked individuals = []
    · refine .inr ⟨by simp [scalarSoftmaxParent, none_ranked], none_ranked, fun drawn => ?_⟩
      exact biased ⟨fun none => drawn.1 (no_axes none), drawn⟩
    · obtain ⟨parent, listed, drawn⟩ := softmax_mem none_ranked
      exact .inl ⟨parent, (mem_filter.1 listed).1, drawn, .inl none_ranked⟩

structure Drawn (pool picked : List Individual) (bound : Nat) : Prop where
  mem : picked ⊆ pool
  nodup : picked.Nodup
  length : picked.length ≤ bound

section
variable {key : Individual → ℚ} {bound count : Nat} {pool picked rest more : List Individual}

theorem Drawn.append (drawn : Drawn pool picked bound) (later : Drawn rest more count)
    (within : rest ⊆ pool) (apart : picked.Disjoint rest) {total : Nat}
    (fits : picked.length + count ≤ total) : Drawn pool (picked ++ more) total where
  mem := append_subset.2 ⟨drawn.mem, fun _ member => within (later.mem member)⟩
  nodup := drawn.nodup.append later.nodup fun _ first second => apart first (later.mem second)
  length := by
    have := later.length
    rw [length_append]
    omega

theorem Drawn.of_filter {keep : Individual → Bool} (drawn : Drawn (pool.filter keep) picked bound) :
    Drawn pool picked bound :=
  ⟨fun _ member => filter_sublist.subset (drawn.mem member), drawn.nodup, drawn.length⟩

private theorem leaders_drawn (nodup : pool.Nodup) : Drawn pool (leaders key count pool) count where
  mem _ member := (mem_insertionSort _).1 (mem_of_mem_take member)
  nodup := ((perm_insertionSort _ _).nodup_iff.2 nodup).sublist (take_sublist _ _)
  length := length_take_le _ _

private theorem sampled_drawn (nodup : pool.Nodup) : Drawn pool
    (sampled draws count pool) count where
  mem individual member := by
    obtain ⟨position, -, drawn⟩ := mem_filterMap.1 member
    exact mem_of_getElem? drawn
  nodup := by
    refine draws.sample_nodup.filterMap fun first second found here there => ?_
    have within := (List.getElem?_eq_some_iff.1 here).1
    exact (getElem?_inj within nodup).1 (here.trans there.symm)
  length := (length_filterMap_le _ _).trans <|
    (draws.sample_length (min_le_right _ _)).trans_le (min_le_left _ _)

private theorem topInspirations_drawn (config : PopulationConfig) (individuals : List Individual)
    (nodup : pool.Nodup) :
    Drawn pool (topInspirations config individuals pool) config.kTopInspirations := by
  have leading {keep : Individual → Bool} {key : Individual → ℚ} {count : Nat} :=
    (leaders_drawn (nodup.filter keep) : Drawn _ (leaders key count _) _).of_filter
  unfold topInspirations
  dsimp only
  split
  · refine leading.append (leaders_drawn (nodup.filter _)) filter_sublist.subset ?_
      (Nat.add_sub_cancel' leading.length).le
    intro individual first second
    have front := (mem_filter.1 ((leaders_drawn (nodup.filter _)).mem first)).2
    have outside := (mem_filter.1 second).2
    simp [front] at outside
  · exact leading

private theorem selectInspirations_drawn (config : PopulationConfig) (draws : Draws)
    (nodup : individuals.Nodup) (parentId : Option Nat) :
    Drawn ((passedIndividuals individuals).filter (some ·.id ≠ parentId))
      (selectInspirations config draws individuals parentId)
      (config.kTopInspirations + config.kRandomInspirations) := by
  have pool_nodup := (nodup.filter (·.materialized)).filter (some ·.id ≠ parentId)
  have top := topInspirations_drawn config individuals pool_nodup
  refine top.append (sampled_drawn (pool_nodup.filter _)) filter_sublist.subset ?_
    (Nat.add_le_add_right top.length _)
  intro individual above waiting
  have absent := (mem_filter.1 waiting).2
  simp only [Bool.not_eq_true', any_eq_false, decide_eq_true_eq] at absent
  exact absent individual above rfl

end

/-- The proposal draws on passed individuals only. -/
structure Materialisable (config : PopulationConfig) (individuals : List Individual)
    (proposal : Proposal) : Prop where
  parent : proposal.parent ∈ passedIndividuals individuals
  inspirations : Drawn (passedIndividuals individuals) proposal.inspirations
    (config.kTopInspirations + config.kRandomInspirations)
  apart : proposal.parent ∉ proposal.inspirations

def frontLeaders (config : PopulationConfig) (individuals : List Individual) : List Individual :=
  config.space.objectives.head?.elim [] fun primary =>
    leaders (primaryScore primary) config.kTopInspirations (frontier config individuals)

/-- Some candidate is ranked, the frontier is drawn from, or the last one that passed is apart. -/
def KeepsApart (config : PopulationConfig) (individuals : List Individual) : Prop :=
  ranked individuals ≠ [] ∨ (frontier config individuals ≠ [] ∧ 1 ≤ config.frontierBias) ∨
    ∀ last ∈ (passedIndividuals individuals).getLast?,
      config.kRandomInspirations = 0 ∧ last ∉ frontLeaders config individuals

private theorem ids_distinct {state : PopulationState} (built : Built state) :
    (∀ individual ∈ state.individuals, individual.id < state.nextId) ∧
      Distinct (·.id) state.individuals := by
  induction built with
  | initial => exact ⟨by simp, .nil⟩
  | admission built outcome ih =>
    refine ⟨fun individual member => ?_, ih.2.concat fun old listed => (ih.1 old listed).ne⟩
    rcases mem_append.1 member with member | member
    · exact (ih.1 individual member).trans (Nat.lt_succ_self _)
    · rw [mem_singleton.1 member]
      exact Nat.lt_succ_self _
  | endGeneration _ ih => exact ih

def drawsAt (coin : ℚ) (coin_unit : 0 ≤ coin ∧ coin < 1) (position : Nat) : Draws where
  coin
  spin := 0
  choice _ := 0
  sample size count := ((range size).rotate position).take count
  coin_unit
  spin_unit := ⟨le_rfl, one_pos⟩
  choice_lt := id
  sample_lt _ member := by simpa using mem_of_mem_take member
  sample_nodup := (nodup_rotate.2 nodup_range).sublist (take_sublist _ _)
  sample_length enough := by simpa using enough

private theorem exists_draws (config : PopulationConfig) (position : Nat) : ∃ draws : Draws,
    (config.frontierBias < 1 → draws.coin = config.frontierBias) ∧
      ∀ size count, position < size → 0 < count → position ∈ draws.sample size count := by
  have drawn {coin : ℚ} (coin_unit) (size count : Nat) (within : position < size)
      (positive : 0 < count) : position ∈ (drawsAt coin coin_unit position).sample size count := by
    have first : ((range size).rotate position).head? = some position := by
      rw [head?_rotate (by simpa using within), getElem?_range within]
    obtain ⟨rest, rotated⟩ := head?_eq_some_iff.1 first
    obtain ⟨fewer, rfl⟩ := Nat.exists_eq_add_of_lt positive
    simp [drawsAt, rotated]
  by_cases below : config.frontierBias < 1
  · exact ⟨_, fun _ => rfl, drawn ⟨config.bias_nonneg, below⟩⟩
  · exact ⟨_, fun less => absurd less below, drawn ⟨le_rfl, one_pos⟩⟩

section
variable (distinct : Distinct (·.id) individuals) (unranked : ranked individuals = [])
include distinct unranked

private theorem topInspirations_unranked :
    topInspirations config individuals (passedIndividuals individuals) =
      frontLeaders config individuals := by
  have bare : ∀ individual ∈ passedIndividuals individuals, individual.perfMetric = none := by
    simpa [ranked] using unranked
  have passed_distinct : Distinct (·.id) (passedIndividuals individuals) :=
    distinct.sublist (filter_sublist.map _)
  obtain ⟨keep, front⟩ : ∃ keep, frontier config individuals =
      (passedIndividuals individuals).filter keep := ⟨_, filter_filter⟩
  have same : (passedIndividuals individuals).filter (fun individual =>
      (frontier config individuals).any (·.id = individual.id)) = frontier config individuals := by
    rw [front]
    refine filter_congr fun individual listed => Bool.eq_iff_iff.2 ?_
    simp only [any_eq_true, mem_filter, decide_eq_true_eq]
    constructor
    · rintro ⟨other, ⟨other_listed, kept⟩, same⟩
      rwa [← passed_distinct.eq_of_key other_listed listed same]
    · exact fun kept => ⟨individual, ⟨listed, kept⟩, rfl⟩
  have none_left (keep : Individual → Bool) : (passedIndividuals individuals).filter
      (fun individual => keep individual && individual.perfMetric.isSome) = [] := by
    simp +contextual [bare]
  unfold topInspirations frontLeaders
  dsimp only
  split
  · rename_i primary rest axes
    simp [none_left, same, axes, leaders]
  · rename_i axes
    have none_scored : (passedIndividuals individuals).filter (·.perfMetric.isSome) = [] :=
      none_left fun _ => true
    simp [none_scored, axes, leaders]

private theorem last_kept_apart_iff {last : Individual}
    (passed : last ∈ passedIndividuals individuals)
    (free : ¬ (frontier config individuals ≠ [] ∧ 1 ≤ config.frontierBias)) :
    (∀ draws : Draws, ¬ DrawsFront config draws individuals →
      last ∉ selectInspirations config draws individuals none) ↔
      config.kRandomInspirations = 0 ∧ last ∉ frontLeaders config individuals := by
  have off {draws : Draws} (coin : config.frontierBias < 1 → draws.coin = config.frontierBias) :
      ¬ DrawsFront config draws individuals := fun drawn =>
    drawn.2.ne (coin (not_le.1 fun sure => free ⟨drawn.1, sure⟩))
  have eq (draws : Draws) : selectInspirations config draws individuals none =
      frontLeaders config individuals ++ sampled draws config.kRandomInspirations
        ((passedIndividuals individuals).filter fun individual =>
          !(frontLeaders config individuals).any (·.id = individual.id)) := by
    simp [selectInspirations, ← topInspirations_unranked distinct unranked]
  simp only [eq, mem_append, not_or]
  constructor
  · intro never
    obtain ⟨draws, coin, -⟩ := exists_draws config 0
    have behind := (never draws (off coin)).1
    refine ⟨by_contra fun some_drawn => ?_, behind⟩
    have waiting : last ∈ (passedIndividuals individuals).filter fun individual =>
        !(frontLeaders config individuals).any (·.id = individual.id) := by
      have leading := (topInspirations_drawn config individuals
        (distinct.of_map.filter (·.materialized))).mem
      simp only [mem_filter, passed, Bool.not_eq_true', any_eq_false, decide_eq_true_eq, true_and]
      intro other above same
      have listed := leading (topInspirations_unranked distinct unranked ▸ above)
      exact behind (distinct.eq_of_key (mem_filter.1 listed).1 (mem_filter.1 passed).1 same ▸ above)
    obtain ⟨position, found⟩ := mem_iff_getElem?.1 waiting
    have within := (List.getElem?_eq_some_iff.1 found).1
    obtain ⟨draws, coin, drawn⟩ := exists_draws config position
    exact (never draws (off coin)).2 (mem_filterMap.2 ⟨position, drawn _ _ within (by omega), found⟩)
  · rintro ⟨none_drawn, behind⟩ draws -
    simp [behind, none_drawn, sampled, length_eq_zero_iff.1 (draws.sample_length (Nat.zero_le _))]

end

private theorem propose_fallback {state : PopulationState}
    (none : selectParent exp config draws state.individuals = none) :
    propose exp config draws state = (passedIndividuals state.individuals).getLast?.map
      (⟨·, selectInspirations config draws state.individuals .none⟩) := by
  simp only [propose, select, none]
  rfl

/-- A candidate is proposed whenever one can be, and all proposals are materialisable, exactly where
`KeepsApart` says so. -/
theorem proposals_materialisable_iff {state : PopulationState} (built : Built state)
    (exp : ℚ → ℚ) (config : PopulationConfig) :
    (∀ draws, ((propose exp config draws state).isSome ↔
        ∃ individual ∈ state.individuals, individual.materialized) ∧
      ∀ proposal ∈ propose exp config draws state,
        Materialisable config state.individuals proposal) ↔
      KeepsApart config state.individuals := by
  have distinct := (ids_distinct built).2
  constructor
  · intro all
    by_contra loose
    simp only [KeepsApart, not_or, not_not, not_forall] at loose
    obtain ⟨unranked, free, last, ends, loose⟩ := loose
    refine loose ((last_kept_apart_iff distinct unranked (mem_of_getLast? ends) free).1 ?_)
    intro draws off
    rcases selectParent_cases exp config draws state.individuals with
      ⟨_, _, _, ranks | drawn⟩ | ⟨none, -, -⟩
    · exact absurd unranked ranks
    · exact absurd drawn off
    · refine ((all draws).2 ⟨last, _⟩ ?_).apart
      rw [propose_fallback none, Option.mem_def.1 ends]
      rfl
  · intro apart draws
    have inspired := selectInspirations_drawn config draws distinct.of_map
    rcases selectParent_cases exp config draws state.individuals with
      ⟨parent, passed, chosen, -⟩ | ⟨none, unranked, off⟩
    · simp only [propose, select, chosen]
      refine ⟨by simpa using ⟨parent, mem_filter.1 passed⟩, ?_⟩
      rintro _ ⟨⟩
      refine ⟨passed, (inspired _).of_filter, fun member => ?_⟩
      simpa using (inspired (some parent.id)).mem member
    · rw [propose_fallback none]
      refine ⟨by simp [passedIndividuals], fun proposal proposed => ?_⟩
      obtain ⟨last, ends, rfl⟩ := Option.mem_map.1 proposed
      have passed := mem_of_getLast? ends
      have free : ¬ (frontier config state.individuals ≠ [] ∧ 1 ≤ config.frontierBias) :=
        fun sure => off ⟨sure.1, draws.coin_unit.2.trans_le sure.2⟩
      refine ⟨passed, (inspired _).of_filter, ?_⟩
      rcases apart with ranks | sure | apart
      · exact absurd unranked ranks
      · exact absurd sure free
      · exact (last_kept_apart_iff distinct unranked passed free).2 (apart last ends) draws off

/-! ## One candidate -/

def oneRandom : PopulationConfig where
  space := ⟨[], 0, le_rfl, one_pos, .nil⟩
  selectionTemperature := 1
  frontierBias := 0
  kTopInspirations := 0
  kRandomInspirations := 1
  bias_nonneg := le_rfl

def seeded (perfMetric : Option ℚ) : PopulationState :=
  ({} : PopulationState).admitOutcome ⟨some "commit", perfMetric, [], true, ⟨""⟩⟩

def firstDraws : Draws := drawsAt 0 ⟨le_rfl, one_pos⟩ 0

theorem ranked_seed_proposed :
    (propose id oneRandom firstDraws (seeded (some 1))).isSome ∧
      ∀ proposal ∈ propose id oneRandom firstDraws (seeded (some 1)),
        proposal.parent ∉ proposal.inspirations := by
  have ranks : ranked (seeded (some 1)).individuals ≠ [] := by decide
  have apart := (proposals_materialisable_iff (.admission .initial _) id oneRandom).2 (.inl ranks)
    firstDraws
  exact ⟨apart.1.2 ⟨_, .head _, rfl⟩, fun proposal proposed => (apart.2 proposal proposed).apart⟩

/-- A lone seed without a metric is proposed as its own inspiration. -/
theorem unranked_seed_inspires_itself : ∃ seed,
    (propose id oneRandom firstDraws (seeded none)).map
      (fun proposal => (proposal.parent, proposal.inspirations)) = some (seed, [seed]) :=
  ⟨_, rfl⟩

end VibeServeCore.Search.Population
