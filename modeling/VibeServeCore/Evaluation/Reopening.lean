/- source: _continuations.py
   digest: The search for descendants is exact, so a parked wait reopens over released work. -/

import VibeServeCore.Evaluation.WaitMoves
import VibeServeCore.Records.Finality

namespace VibeServeCore.Evaluation

open Types List
open Foundation.Closure (Reachable untilStable untilStable_eq_some
  untilStable_isSome)
open Foundation.Process
open Records (sampleRun)

/-- What the search for descendants reaches. -/
inductive Owned
  | job (job : OwnedJob)
  | lease (lease : ChildLease)
  | resource (resource : ResourceId)
  | request (request : RequestId)

/-- One step of the search for descendants. -/
inductive Discovers (state : EvaluationState) (records : RecordsState) (scope : Scope) :
    Owned → Owned → Prop
  | child {job : OwnedJob} {resource : ResourceId} (named : resource ∈ job.children) :
    Discovers state records scope (.job job) (.resource resource)
  | observed {job : OwnedJob} {observation : Observation} {resource : ResourceId}
    (fact : job.observation = some observation) (named : resource ∈ observation.descendants) :
    Discovers state records scope (.job job) (.resource resource)
  | submitted {job : OwnedJob} :
    Discovers state records scope (.job job) (.request job.origin.submission)
  | held {job : OwnedJob} {resource : ResourceId} (owned : job ∈ state.allJobs)
    (inside : job.scope = scope) (holds : job.resourceId = some resource) :
    Discovers state records scope (.resource resource) (.job job)
  | sourced {lease : ChildLease} {request : RequestId} (kept : lease ∈ records.children)
    (inside : lease.scope = scope) (named : request ∈ lease.sourceRequests) :
    Discovers state records scope (.request request) (.lease lease)
  | parented {lease : ChildLease} {resource : ResourceId} (kept : lease ∈ records.children)
    (inside : lease.scope = scope) (named : resource ∈ lease.parentResources) :
    Discovers state records scope (.resource resource) (.lease lease)
  | leased {lease : ChildLease} :
    Discovers state records scope (.lease lease) (.resource lease.resourceId)
  | leaseObserved {lease : ChildLease} {observation : Observation} {resource : ResourceId}
    (fact : lease.observation = some observation) (named : resource ∈ observation.descendants) :
    Discovers state records scope (.lease lease) (.resource resource)

inductive Starts (jobs : List OwnedJob) : Owned → Prop
  | job {job : OwnedJob} (named : job ∈ jobs) : Starts jobs (.job job)
  | resource {job : OwnedJob} {resource : ResourceId} (named : job ∈ jobs)
    (holds : job.resourceId = some resource) : Starts jobs (.resource resource)

/-- The resource is reachable from the wait's jobs. -/
def Below (state : EvaluationState) (records : RecordsState) (jobs : List OwnedJob) (scope : Scope)
    (resource : ResourceId) : Prop :=
  Reachable (Starts jobs) (Discovers state records scope) (.resource resource)

section
variable {state : EvaluationState} {records : RecordsState} {jobs : List OwnedJob} {scope : Scope}
  {own : List ResourceId} {found : Discovered}

variable {resource : ResourceId}

private theorem mem_observedResources {observation : Option Observation} :
    resource ∈ observedResources observation ↔
      ∃ fact, observation = some fact ∧ resource ∈ fact.descendants := by
  cases observation <;> simp [observedResources]

private theorem mem_jobDiscovers {job : OwnedJob} :
    resource ∈ jobDiscovers job ↔
      Discovers state records scope (.job job) (.resource resource) := by
  simp only [jobDiscovers, mem_append, mem_observedResources]
  constructor
  · rintro (named | ⟨fact, observed, named⟩)
    · exact .child named
    · exact .observed observed named
  · rintro (named | ⟨fact, named⟩)
    · exact .inl named
    · exact .inr ⟨_, fact, named⟩

private theorem mem_leaseDiscovers {lease : ChildLease} :
    resource ∈ leaseDiscovers lease ↔
      Discovers state records scope (.lease lease) (.resource resource) := by
  simp only [leaseDiscovers, mem_cons, mem_observedResources]
  constructor
  · rintro (rfl | ⟨fact, observed, named⟩)
    · exact .leased
    · exact .leaseObserved observed named
  · intro step
    cases step with
    | leased => exact .inl rfl
    | leaseObserved fact named => exact .inr ⟨_, fact, named⟩

def Discovered.known (found : Discovered) : Finset ResourceId := found.resources ∪ found.descendants

def HeldJob (state : EvaluationState) (scope : Scope) (known : Finset ResourceId)
    (job : OwnedJob) : Prop :=
  job ∈ state.allJobs ∧ job.scope = scope ∧ ∃ resource ∈ known, job.resourceId = some resource

def ReachedLease (records : RecordsState) (scope : Scope) (sources : Finset RequestId)
    (known : Finset ResourceId) (lease : ChildLease) : Prop :=
  lease ∈ records.children ∧ lease.scope = scope ∧
    ((∃ request ∈ sources, request ∈ lease.sourceRequests) ∨
      ∃ resource ∈ known, resource ∈ lease.parentResources)

private theorem mem_discover_sources {request : RequestId} :
    request ∈ (discover state records scope found).sources ↔
      request ∈ found.sources ∨
        ∃ job, HeldJob state scope found.known job ∧ job.origin.submission = request := by
  simp only [discover, Finset.mem_union, mem_toFinset, mem_map, mem_filter,
    Bool.and_eq_true, decide_eq_true_eq, HeldJob, Discovered.known, Option.any_eq_true]
  grind

private theorem mem_discover_descendants :
    resource ∈ (discover state records scope found).descendants ↔
      resource ∈ found.descendants ∨
        (∃ job, HeldJob state scope found.known job ∧ resource ∈ jobDiscovers job) ∨
        ∃ lease, ReachedLease records scope (discover state records scope found).sources
          found.known lease ∧ resource ∈ leaseDiscovers lease := by
  simp only [discover, Finset.mem_union, mem_toFinset, mem_flatMap, mem_filter,
    Bool.and_eq_true, Bool.or_eq_true, decide_eq_true_eq, HeldJob, ReachedLease,
    Discovered.known, Option.any_eq_true, any_eq_true]
  grind

private theorem discover_resources :
    (discover state records scope found).resources =
      found.known ∪ (discover state records scope found).descendants := rfl

structure Sound (state : EvaluationState) (records : RecordsState) (jobs : List OwnedJob)
    (scope : Scope) (own : List ResourceId) (found : Discovered) : Prop where
  requests : ∀ request ∈ found.sources,
    Reachable (Starts jobs) (Discovers state records scope) (.request request)
  resources : ∀ resource ∈ found.descendants, Below state records jobs scope resource
  known : found.resources ⊆ own.toFinset ∪ found.descendants
  ownKnown : own.toFinset ⊆ found.resources
  seedSources : ∀ job ∈ jobs, job.origin.submission ∈ found.sources
  seedDescendants : ∀ job ∈ jobs, ∀ resource ∈ jobDiscovers job, resource ∈ found.descendants

def Owns (jobs : List OwnedJob) (own : List ResourceId) : Prop :=
  ∀ resource, resource ∈ own ↔ ∃ job ∈ jobs, job.resourceId = some resource

private theorem seeds_sound : Sound state records jobs scope own (seeds jobs own) where
  requests := by
    intro request mem
    obtain ⟨job, named, rfl⟩ := mem_map.mp (mem_toFinset.mp mem)
    exact (Reachable.start (.job named)).step .submitted
  resources := by
    intro resource mem
    obtain ⟨job, named, discovered⟩ := mem_flatMap.mp (mem_toFinset.mp mem)
    exact (Reachable.start (.job named)).step (mem_jobDiscovers.mp discovered)
  known := Finset.subset_union_left
  ownKnown := Finset.Subset.refl _
  seedSources := fun job named => mem_toFinset.mpr (mem_map_of_mem named)
  seedDescendants := fun job named resource discovered =>
    mem_toFinset.mpr (mem_flatMap.mpr ⟨job, named, discovered⟩)

namespace Sound

variable (sound : Sound state records jobs scope own found) (owns : Owns jobs own)
include sound owns

private theorem known_below {resource : ResourceId} (known : resource ∈ found.known) :
    Below state records jobs scope resource := by
  rcases Finset.mem_union.mp known with held | named
  · rcases Finset.mem_union.mp (sound.known held) with mine | named
    · obtain ⟨job, mem, holds⟩ := (owns resource).mp (mem_toFinset.mp mine)
      exact Reachable.start (.resource mem holds)
    · exact sound.resources resource named
  · exact sound.resources resource named

private theorem held_reachable {job : OwnedJob} (held : HeldJob state scope found.known job) :
    Reachable (Starts jobs) (Discovers state records scope) (.job job) := by
  obtain ⟨owned, inside, resource, known, holds⟩ := held
  exact Reachable.step (sound.known_below owns known) (.held owned inside holds)

private theorem sources_reachable {request : RequestId}
    (named : request ∈ (discover state records scope found).sources) :
    Reachable (Starts jobs) (Discovers state records scope) (.request request) := by
  rcases mem_discover_sources.mp named with kept | ⟨job, held, rfl⟩
  · exact sound.requests request kept
  · exact (sound.held_reachable owns held).step .submitted

private theorem leases_reachable {lease : ChildLease}
    (reached : ReachedLease records scope (discover state
      records scope found).sources found.known lease) :
    Reachable (Starts jobs) (Discovers state records scope) (.lease lease) := by
  obtain ⟨kept, inside, ⟨request, source, named⟩ | ⟨resource, known, named⟩⟩ := reached
  · exact (sound.sources_reachable owns source).step (.sourced kept inside named)
  · exact Reachable.step (sound.known_below owns known) (.parented kept inside named)

private theorem discover : Sound state records jobs scope own
    (discover state records scope found) where
  requests := fun _ named => sound.sources_reachable owns named
  resources := by
    intro resource named
    rcases mem_discover_descendants.mp named with
      kept | ⟨job, held, discovered⟩ | ⟨lease, reached, discovered⟩
    · exact sound.resources resource kept
    · exact (sound.held_reachable owns held).step (mem_jobDiscovers.mp discovered)
    · exact (sound.leases_reachable owns reached).step (mem_leaseDiscovers.mp discovered)
  known := by
    intro resource mem
    rcases Finset.mem_union.mp mem with known | named
    · rcases Finset.mem_union.mp known with held | named
      · rcases Finset.mem_union.mp (sound.known held) with mine | named
        · exact Finset.mem_union_left _ mine
        · exact Finset.mem_union_right _ (mem_discover_descendants.mpr (.inl named))
      · exact Finset.mem_union_right _ (mem_discover_descendants.mpr (.inl named))
    · exact Finset.mem_union_right _ named
  ownKnown := by
    intro resource mine
    exact Finset.mem_union_left _ (Finset.mem_union_left _ (sound.ownKnown mine))
  seedSources := fun job named => mem_discover_sources.mpr (.inl (sound.seedSources job named))
  seedDescendants := fun job named resource discovered =>
    mem_discover_descendants.mpr (.inl (sound.seedDescendants job named resource discovered))

end Sound

private theorem resources_grow : found.resources ⊆
    (discover state records scope found).resources := by
  exact Finset.subset_union_left.trans Finset.subset_union_left

private theorem sources_grow : found.sources ⊆ (discover state records scope found).sources :=
  fun _ named => mem_discover_sources.mpr (.inl named)

private theorem stable_sets (stable : (discover state records scope found).sizes = found.sizes) :
    (discover state records scope found).resources = found.resources ∧
      (discover state records scope found).sources = found.sources := by
  obtain ⟨resources, sources⟩ := Prod.mk.inj stable
  exact ⟨(Finset.eq_of_subset_of_card_le resources_grow resources.le).symm,
    (Finset.eq_of_subset_of_card_le sources_grow sources.le).symm⟩

def Covered (state : EvaluationState) (records : RecordsState) (jobs : List OwnedJob)
    (scope : Scope) (found : Discovered) : Owned → Prop
  | .job job => job ∈ jobs ∨ HeldJob state scope found.resources job
  | .lease lease => ReachedLease records scope found.sources found.resources lease
  | .resource resource => resource ∈ found.resources
  | .request request => request ∈ found.sources

private theorem covered_closed (sound : Sound state records jobs scope own found)
    (owns : Owns jobs own)
    (stable : (discover state records scope found).sizes = found.sizes) {node next : Owned}
    (covered : Covered state records jobs scope (discover state records scope found) node)
    (step : Discovers state records scope node next) :
    Covered state records jobs scope (discover state records scope found) next := by
  obtain ⟨sameResources, sameSources⟩ := stable_sets stable
  have after := sound.discover owns
  have knownSame : found.known = (discover state records scope found).resources := by
    apply Finset.Subset.antisymm
    · rw [discover_resources]
      exact Finset.subset_union_left
    · rw [sameResources]
      exact Finset.subset_union_left
  have named {resource : ResourceId}
      (descends : resource ∈ (discover state records scope found).descendants) :
      resource ∈ (discover state records scope found).resources := by
    exact Finset.mem_union_right _ descends
  have jobNames {job : OwnedJob} {resource : ResourceId}
      (visited : job ∈ jobs ∨ HeldJob state scope (discover state records scope found).resources job)
      (discovered : resource ∈ jobDiscovers job) :
      resource ∈ (discover state records scope found).resources := by
    rcases visited with mine | held
    · exact named (after.seedDescendants job mine resource discovered)
    · rw [← knownSame] at held
      exact named (mem_discover_descendants.mpr (.inr (.inl ⟨job, held, discovered⟩)))
  have leaseNames {lease : ChildLease} {resource : ResourceId}
      (reached : ReachedLease records scope (discover state records scope found).sources
        (discover state records scope found).resources lease)
      (discovered : resource ∈ leaseDiscovers lease) :
      resource ∈ (discover state records scope found).resources := by
    rw [← knownSame] at reached
    exact named (mem_discover_descendants.mpr (.inr (.inr ⟨lease, reached, discovered⟩)))
  cases step with
  | child names =>
    have step : Discovers state records scope _ _ := .child names
    exact jobNames covered (mem_jobDiscovers.mpr step)
  | observed fact names =>
    have step : Discovers state records scope _ _ := .observed fact names
    exact jobNames covered (mem_jobDiscovers.mpr step)
  | submitted =>
    rcases covered with mine | held
    · exact after.seedSources _ mine
    · rw [← knownSame] at held
      exact mem_discover_sources.mpr (.inr ⟨_, held, rfl⟩)
  | held owned inside holds => exact .inr ⟨owned, inside, _, covered, holds⟩
  | sourced kept inside names => exact ⟨kept, inside, .inl ⟨_, covered, names⟩⟩
  | parented kept inside names => exact ⟨kept, inside, .inr ⟨_, covered, names⟩⟩
  | leased => exact leaseNames covered mem_cons_self
  | leaseObserved fact names =>
    have step : Discovers state records scope _ _ := .leaseObserved fact names
    exact leaseNames covered (mem_leaseDiscovers.mpr step)

structure Confined (state : EvaluationState) (records : RecordsState) (jobs : List OwnedJob)
    (own : List ResourceId) (found : Discovered) : Prop where
  sources : found.sources ⊆ ((jobs ++ state.allJobs).map (·.origin.submission)).toFinset
  descendants : found.descendants ⊆
    ((jobs ++ state.allJobs).flatMap jobDiscovers ++ records.children.flatMap leaseDiscovers).toFinset
  resources : found.resources ⊆ own.toFinset ∪
    ((jobs ++ state.allJobs).flatMap jobDiscovers ++ records.children.flatMap leaseDiscovers).toFinset

private theorem seeds_confined : Confined state records jobs own (seeds jobs own) where
  sources := by
    intro request mem
    simp only [seeds, mem_toFinset, map_append, mem_append] at mem ⊢
    exact .inl mem
  descendants := by
    intro resource mem
    simp only [seeds, mem_toFinset, flatMap_append, mem_append] at mem ⊢
    exact .inl (.inl mem)
  resources := Finset.subset_union_left

theorem Confined.discover (confined : Confined state records jobs own found) :
    Confined state records jobs own (discover state records scope found) := by
  have below : (Evaluation.discover state records scope found).descendants ⊆
      ((jobs ++ state.allJobs).flatMap jobDiscovers ++
        records.children.flatMap leaseDiscovers).toFinset := by
    intro resource named
    rcases mem_discover_descendants.mp named with
      kept | ⟨job, held, discovered⟩ | ⟨lease, reached, discovered⟩
    · exact confined.descendants kept
    · exact mem_toFinset.mpr (mem_append_left _
        (mem_flatMap.mpr ⟨job, mem_append_right _ held.1, discovered⟩))
    · exact mem_toFinset.mpr (mem_append_right _
        (mem_flatMap.mpr ⟨lease, reached.1, discovered⟩))
  refine ⟨?_, below, ?_⟩
  · intro request named
    rcases mem_discover_sources.mp named with kept | ⟨job, held, rfl⟩
    · exact confined.sources kept
    · exact mem_toFinset.mpr (mem_map_of_mem (mem_append_right _ held.1))
  · rw [discover_resources]
    refine Finset.union_subset (Finset.union_subset confined.resources ?_) ?_
    · exact confined.descendants.trans Finset.subset_union_right
    · exact below.trans Finset.subset_union_right

def Discovered.count (found : Discovered) : Nat := found.resources.card + found.sources.card

theorem Confined.count_le (confined : Confined state records jobs own found) :
    found.count ≤ discoverable state records jobs own := by
  have sources := (Finset.card_le_card confined.sources).trans (toFinset_card_le _)
  have resources := (Finset.card_le_card confined.resources).trans (Finset.card_union_le _ _)
  have owned := toFinset_card_le own
  have named := toFinset_card_le ((jobs ++ state.allJobs).flatMap jobDiscovers ++
    records.children.flatMap leaseDiscovers)
  simp only [length_map, length_append, flatMap_append] at sources named resources
  simp only [Discovered.count, discoverable]
  omega

private theorem count_grows (changed : (discover state records scope found).sizes ≠ found.sizes) :
    found.count < (discover state records scope found).count := by
  have resources : found.resources.card ≤ (discover state records scope found).resources.card :=
    Finset.card_le_card resources_grow
  have sources : found.sources.card ≤ (discover state records scope found).sources.card :=
    Finset.card_le_card sources_grow
  simp only [Discovered.sizes, ne_eq, Prod.mk.injEq, not_and] at changed
  simp only [Discovered.count]
  omega

private theorem owns_of_resources {jobs : List OwnedJob} {own : List ResourceId}
    (named : jobs.mapM resourceOf = .ok own) : Owns jobs own := by
  induction jobs generalizing own with
  | nil =>
    cases named
    intro resource
    simp
  | cons job rest ih =>
    rw [mapM_cons] at named
    obtain ⟨resource, holds, named⟩ := bind_ok named
    obtain ⟨others, restNamed, same⟩ := bind_ok named
    cases same
    have owned : job.resourceId = some resource := by
      unfold resourceOf at holds
      split at holds
      · rename_i mine present
        cases holds
        exact present
      · cases holds
    intro other
    have restOwns := ih restNamed other
    simp only [mem_cons, exists_eq_or_imp, owned, Option.some.injEq, restOwns]
    exact or_congr_left eq_comm

private theorem descendants_exact (own : List ResourceId) (named : jobs.mapM resourceOf = .ok own) :
    ∃ below, descendants state records jobs scope = .ok below ∧
      ∀ resource, resource ∈ below ↔
        Below state records jobs scope resource ∧ resource ∉ own := by
  have owns := owns_of_resources named
  have stops : (untilStable (discover state records scope) Discovered.sizes
      (discoverable state records jobs own + 1) (seeds jobs own)).isSome := by
    have confined : Confined state records jobs own (seeds jobs own) := seeds_confined
    exact untilStable_isSome (fun confined => Confined.discover confined) Discovered.count
      (discoverable state records jobs own) (fun confined => Confined.count_le confined)
      (fun _ changed => count_grows changed) confined (by omega)
  obtain ⟨result, stopped⟩ := Option.isSome_iff_exists.mp stops
  have started : Sound state records jobs scope own (seeds jobs own) := seeds_sound
  obtain ⟨last, sound, stable, rfl⟩ :=
    untilStable_eq_some (fun sound => Sound.discover sound owns) started stopped
  refine ⟨(discover state records scope last).descendants \ own.toFinset, ?_, fun resource => ?_⟩
  · simp [descendants, named, stopped, bind, Except.bind, pure, Except.pure]
  rw [Finset.mem_sdiff, mem_toFinset]
  refine and_congr_left fun notOwn => ⟨?_, fun below => ?_⟩
  · exact (sound.discover owns).resources resource
  have covered : Covered state records jobs scope (discover state records scope last)
      (.resource resource) := by
    refine below.mem_closed (fun starting => ?_)
      (fun covered step => covered_closed sound owns stable covered step)
    cases starting with
    | job mine => exact .inl mine
    | resource mine holds =>
      exact (sound.discover owns).ownKnown
        (mem_toFinset.mpr ((owns _).mpr ⟨_, mine, holds⟩))
  rcases Finset.mem_union.mp ((sound.discover owns).known covered) with mine | descends
  · exact absurd (mem_toFinset.mp mine) notOwn
  · exact descends

end

structure ReleaseProof (observation : Observation) : Prop where
  terminal : observation.terminal
  conclusive : observation.status ≠ .pending ∧ observation.status ≠ .unknown
  released : observation.released
  childrenComplete : observation.childrenComplete

def JobReleasedIn (scope : Scope) (job : OwnedJob) : Prop :=
  job.scope = scope ∧ ∃ observation, job.observation = some observation ∧ ReleaseProof observation

def LeaseReleasedIn (scope : Scope) (lease : ChildLease) : Prop :=
  lease.scope = scope ∧
    ∃ observation, lease.observation = some observation ∧ ReleaseProof observation

structure ReleasedIn (state : EvaluationState) (records : RecordsState) (scope : Scope)
    (resource : ResourceId) : Prop where
  oneJob : (holdingJobs state resource).length ≤ 1
  oneLease : (leasesOn records resource).length ≤ 1
  jobs : ∀ job ∈ holdingJobs state resource, JobReleasedIn scope job
  leases : ∀ lease ∈ leasesOn records resource, LeaseReleasedIn scope lease

/-- All work of the wait and below it is released. -/
def OverReleased (state : EvaluationState) (context : EvaluationContext)
    (continuation : Continuation) : Prop :=
  ∃ turn jobs, waitingTurn context continuation = .ok turn ∧
    jobsOf state continuation = .ok jobs ∧
    (∀ job ∈ jobs, ∃ resource, job.resourceId = some resource ∧
      holdingJobs state resource = [job] ∧ JobReleasedIn turn.scope job) ∧
    ∀ resource, Below state context.records jobs turn.scope resource →
      (∀ job ∈ jobs, job.resourceId ≠ some resource) →
      ReleasedIn state context.records turn.scope resource

private theorem releaseComplete_proof {observation : Observation}
    (complete : releaseComplete observation) : ReleaseProof observation := by
  simp only [releaseComplete, Bool.and_eq_true] at complete
  obtain ⟨⟨⟨terminal, released⟩, children⟩, status⟩ := complete
  refine ⟨terminal, ?_, released, children⟩
  constructor <;> intro same <;> rw [same] at status <;> cases status

private theorem jobReleased_in {scope : Scope} {job : OwnedJob} (inside : job.scope = scope)
    (released : jobReleased job) : JobReleasedIn scope job := by
  simp only [jobReleased, Bool.and_eq_true, Option.any_eq_true] at released
  obtain ⟨-, observation, fact, ⟨⟨⟨⟨complete, -⟩, -⟩, -⟩, -⟩⟩ := released
  exact ⟨inside, observation, fact, releaseComplete_proof complete⟩

private theorem childReleased_in {scope : Scope} {lease : ChildLease} (inside : lease.scope = scope)
    (released : childReleased lease) : LeaseReleasedIn scope lease := by
  simp only [childReleased, Option.any_eq_true, Bool.and_eq_true] at released
  obtain ⟨observation, fact, ⟨⟨⟨complete, -⟩, -⟩, -⟩⟩ := released
  exact ⟨inside, observation, fact, releaseComplete_proof complete⟩

private theorem descendantReleased_in {state : EvaluationState} {records : RecordsState}
    {scope : Scope}
    {resource : ResourceId} (released : descendantReleased state records scope resource) :
    ReleasedIn state records scope resource := by
  simp only [descendantReleased, Bool.and_eq_true, decide_eq_true_eq, all_eq_true] at released
  obtain ⟨⟨⟨⟨-, oneJob⟩, oneLease⟩, jobs⟩, leases⟩ := released
  exact ⟨oneJob, oneLease, fun job held => jobReleased_in (jobs job held).1 (jobs job held).2,
    fun lease kept => childReleased_in (leases lease kept).1 (leases lease kept).2⟩

private theorem resources_of_jobs {jobs : List OwnedJob}
    (held : ∀ job ∈ jobs, ∃ resource, job.resourceId = some resource) :
    ∃ own, jobs.mapM resourceOf = .ok own := by
  induction jobs with
  | nil => exact ⟨[], rfl⟩
  | cons job rest ih =>
    obtain ⟨resource, holds⟩ := held job mem_cons_self
    obtain ⟨own, named⟩ := ih fun other mem => held other (mem_cons_of_mem _ mem)
    refine ⟨resource :: own, ?_⟩
    have mine : resourceOf job = .ok resource := by
      unfold resourceOf
      rw [holds]
    rw [mapM_cons, mine, named]
    rfl

private theorem releasedDependencies_eq_ok {state : EvaluationState} {context : EvaluationContext}
    {continuation : Continuation} (owned : jobOwnership state context continuation = .ok ())
    (released : releasedDependencies state context continuation = .ok ()) :
    OverReleased state context continuation := by
  obtain ⟨turn, jobs, waits, named, inside⟩ := jobOwnership_eq_ok owned
  have holders := jobsOf_eq_ok named
  unfold releasedDependencies at released
  rw [named, waits] at released
  obtain ⟨⟨⟩, jobsReleased, released⟩ := bind_ok (show (require _ _ _ >>= _) = _ from released)
  obtain ⟨found, searched, released⟩ := bind_ok (show (descendants _ _ _ _ >>= _) = _ from released)
  have each := all_eq_true.mp (require_eq_ok.mp jobsReleased)
  obtain ⟨own, owning⟩ := resources_of_jobs fun job mem => by
    obtain ⟨resource, -, holds, -⟩ := holders job mem
    exact ⟨resource, holds⟩
  obtain ⟨below, searchedBelow, exact_⟩ : ∃ below,
      descendants state context.records jobs turn.scope = .ok below ∧
        ∀ resource, resource ∈ below ↔
          Below state context.records jobs turn.scope resource ∧ resource ∉ own :=
    descendants_exact own owning
  have same : below = found := by
    rw [searchedBelow] at searched
    exact Except.ok.inj searched
  subst same
  refine ⟨turn, jobs, waits, named, fun job mem => ?_, fun resource reached notOwn => ?_⟩
  · obtain ⟨resource, -, holds, alone⟩ := holders job mem
    exact ⟨resource, holds, alone, jobReleased_in (inside job mem) (each job mem)⟩
  have descends : resource ∈ below := by
    refine (exact_ resource).mpr ⟨reached, fun mine => ?_⟩
    obtain ⟨job, mem, holds⟩ := (owns_of_resources owning resource).mp mine
    exact notOwn job mem holds
  exact descendantReleased_in (of_decide_eq_true (require_eq_ok.mp released) resource descends)

section
variable {state : EvaluationState} {context : EvaluationContext} {continuation : Continuation}
  {change : Change}

private theorem reopen_released {request : Request} {normalization : ScopeReopenNormalization}
    (ran : reopen state context continuation request normalization = .ok change)
    (handed : change.signals ≠ []) : OverReleased state context continuation := by
  unfold reopen at ran
  split at ran
  · cases ran
  obtain ⟨⟨⟩, owned, ran⟩ := bind_ok ran
  obtain ⟨⟨⟩, -, ran⟩ := bind_ok ran
  split at ran
  · -- A replay of the request that reopens the wait changes and publishes nothing.
    obtain ⟨⟨⟩, -, ran⟩ := bind_ok ran
    cases ran
    exact absurd rfl handed
  · obtain ⟨⟨⟩, -, ran⟩ := bind_ok ran
    obtain ⟨⟨⟩, released, -⟩ := bind_ok ran
    exact releasedDependencies_eq_ok owned released

private theorem reopened_released {parkAuthority : RequestId} {observation : Observation}
    {identity : ContinuationId} {authorized : Continuation}
    (ran : reopened state context continuation parkAuthority observation = .ok change)
    (found : continuationOf state identity = some continuation)
    (before : continuation.phase ≠ .authorized)
    (after : continuationOf change.state identity = some authorized)
    (resumes : authorized.phase = .authorized) : OverReleased state context continuation := by
  have named : continuation.continuationId = identity := by simpa using find?_some found
  have unchanged (same : change.state = state) : OverReleased state context continuation := by
    rw [same, found] at after
    cases after
    exact absurd resumes before
  unfold reopened at ran
  split at ran
  · cases ran
    exact unchanged rfl
  obtain ⟨turn, -, ran⟩ := bind_ok ran
  split at ran
  · split at ran
    · cases ran
      exact unchanged rfl
    split at ran
    · cases ran
      exact unchanged rfl
    split at ran
    · cases ran
      exact unchanged rfl
    split at ran
    · cases ran
      exact unchanged rfl
    rcases authorize_cases ran with rfl | ⟨checked, -⟩
    · -- The scope is not settled yet: the wait is stored as waiting.
      have stored : continuationOf (store state { continuation with phase := .waiting })
          identity = some { continuation with phase := .waiting } :=
        continuationOf_store found named
      rw [stored] at after
      cases after
      cases resumes
    · exact releasedDependencies_eq_ok checked.owned (checked.released rfl)
  · cases ran
    exact unchanged rfl

end

/-- The search for descendants ends and is exact, and an accepted reopen, or an authorized reopened
wait, rests on released work. -/
theorem reopening_rests_on_released_work (state : EvaluationState) (context : EvaluationContext) :
    (∀ (jobs : List OwnedJob) (scope : Scope) (own : List ResourceId),
        jobs.mapM resourceOf = .ok own →
        ∃ below, descendants state context.records jobs scope = .ok below ∧
          ∀ resource, resource ∈ below ↔
            Below state context.records jobs scope resource ∧ resource ∉ own) ∧
      (∀ (request : Request) (normalization : ScopeReopenNormalization) (change : Change),
        advanceContinuations state context (.continuationReopenRequested request normalization) =
          .ok change →
        .attempts (.scopeReopenRequested request normalization) ∈ change.signals →
        ∃ continuation, continuationOf state normalization.continuationId = some continuation ∧
          OverReleased state context continuation) ∧
      ∀ (identity : ContinuationId) (parkAuthority : RequestId) (observation : Observation)
        (change : Change) (continuation authorized : Continuation),
        advanceContinuations state context
          (.continuationScopeReopened identity parkAuthority observation) = .ok change →
        continuationOf state identity = some continuation → continuation.phase ≠ .authorized →
        continuationOf change.state identity = some authorized → authorized.phase = .authorized →
        OverReleased state context continuation := by
  refine ⟨fun jobs scope own named => descendants_exact own named, ?_, ?_⟩
  · intro request normalization change ran handed
    unfold advanceContinuations at ran
    simp only at ran
    split at ran
    · cases ran
    · rename_i continuation found
      exact ⟨continuation, found, reopen_released ran (ne_nil_of_mem handed)⟩
  · intro identity parkAuthority observation change continuation authorized ran found before after
      resumes
    unfold advanceContinuations at ran
    simp only [found] at ran
    exact reopened_released ran found before after resumes

/-! ## A parked wait -/

def parkedRef : AttemptRef := ⟨⟨"attempt"⟩, 0⟩
def parkedScope : Scope := parkedRef.scope
def parkedTurnRef : InvocationRef := ⟨⟨"session"⟩, ⟨"turn"⟩, 0⟩

def releasedFact (request : RequestId) (resource : Option ResourceId) : Observation where
  eventId := ⟨"event"⟩
  requestId := request
  scope := parkedScope
  sequence := 1
  observedAt := 0
  status := .succeeded
  resourceId := resource
  accepted := true
  terminal := true
  released := true
  childrenComplete := true
  admissionId := some ⟨"admission"⟩

def parkedJob : OwnedJob where
  origin := .registered ⟨"submission"⟩ ⟨"measure"⟩ ⟨"pool"⟩ none
  resourceId := some ⟨"job"⟩
  scope := parkedScope
  observation := some (releasedFact ⟨"submission"⟩ (some ⟨"job"⟩))
  status := .succeeded
  terminal := true
  released := true

def parkedWait : Continuation where
  continuationId := ⟨"wait"⟩
  invocation := parkedTurnRef
  nextInvocation := { parkedTurnRef with invocationId := ⟨"next"⟩ }
  jobs := [⟨"job"⟩]
  deadlineAt := 100
  phase := .parked
  parkAuthority := some ⟨"close"⟩

def parkedTurn : Invocation where
  invocation := parkedTurnRef
  scope := parkedScope
  turn :=
    { session := ⟨⟨"session"⟩, ⟨"role"⟩, .readOnly, ⟨""⟩⟩, invocationId := ⟨"turn"⟩
      continuationId := none, workspace := .scope parkedScope, outputSchema := ⟨"output", 1⟩
      chargeClass := .free, predecessor := none, content := ⟨""⟩ }
  phase := .suspended
  until_ := ⟨100, []⟩

def parkedAttempt : AttemptView where
  attemptId := ⟨"attempt"⟩
  itemId := ⟨"item"⟩
  generation := 0
  phase := .parked
  workspace := ⟨.isolatedChild, ⟨⟨"base"⟩, "sha"⟩, none⟩
  budget := ⟨1, 1, 0⟩
  admissionId := some ⟨"admission"⟩
  closure := some
    { disposition := .park, requestedAt := 0, authority := ⟨"close"⟩, admissionId := ⟨"admission"⟩ }

def parkClose : RequestRecord where
  requestId := ⟨"close"⟩
  request :=
    { requestId := some ⟨"close"⟩, scope := parkedScope, admissionId := some ⟨"admission"⟩
      body := .closeAttemptScope parkedRef }
  payloadDigest := ""
  lifecycle := .idempotentWrite
  phase := .completed
  observation := some (releasedFact ⟨"close"⟩ none)
  until_ := ⟨100, []⟩

def reopenNormalization : ScopeReopenNormalization := ⟨parkedRef, ⟨"wait"⟩, ⟨"close"⟩, []⟩

def reopenWire : OperationWire :=
  ⟨⟨"reopen", ⟨"request", 1⟩, ⟨"outcome", 1⟩, .idempotentWrite⟩, "payload"⟩

def reopenReceipt : DecisionReceipt where
  decisionId := ⟨"decision"⟩
  decision := some (.work
    { decisionId := ⟨"decision"⟩
      scope := ⟨.run ⟨"run"⟩, 0⟩
      body := .operation
        { request := ⟨"reopen", .idempotentWrite, "payload", true⟩
          normalizedScopeReopen := some reopenNormalization, registeredWire := some reopenWire
          registeredScopeReopen := some reopenNormalization } })
  payloadDigest := ""
  feedback := .accepted { decisionId := ⟨"decision"⟩ }

def reopenRequest : Request where
  requestId := some ⟨"operation:decision"⟩
  scope := ⟨.run ⟨"run"⟩, 0⟩
  body := .executeRegisteredOperation ⟨"operation:decision"⟩ reopenWire 2 []

def parkedRun : RunState :=
  { sampleRun with
    capabilities :=
      { operations := [
          { toOperationSchemaRef := reopenWire.schemaRef, normalization := .scopeReopen
            inspect := true, cancel := false, watch := false, resourcePool := none
            revisionAuthority := .none }] }
    receipts := [reopenReceipt] }

def parkedContext (leases : List ChildLease) : EvaluationContext where
  run := parkedRun
  attempts := { attempts := [parkedAttempt] }
  sessions := { invocations := [parkedTurn] }
  records := { records := [parkClose], children := leases }

def parkedState : EvaluationState where
  registeredJobs := [parkedJob]
  continuations := [parkedWait]

def reopenedChange : Change where
  state := { parkedState with continuations := [{ parkedWait with
    phase := .reopening, reopenAuthority := some ⟨"operation:decision"⟩ }] }
  signals := [.attempts (.scopeReopenRequested reopenRequest reopenNormalization)]

/-- A lease that the job's submission took. -/
def childLease (observation : Option Observation) : ChildLease where
  resourceId := ⟨"child"⟩
  scope := parkedScope
  sourceRequests := [⟨"submission"⟩]
  observation := observation

def releasedLease : ChildLease :=
  childLease (some (releasedFact ⟨"submission"⟩ (some ⟨"child"⟩)))

/-- The parked wait reopens over its one released job and the released lease below it. -/
theorem parked_wait_reopens :
    advanceContinuations parkedState (parkedContext [releasedLease])
        (.continuationReopenRequested reopenRequest reopenNormalization) = .ok reopenedChange ∧
      descendants parkedState (parkedContext [releasedLease]).records [parkedJob] parkedScope =
        .ok {⟨"child"⟩} ∧
      OverReleased parkedState (parkedContext [releasedLease]) parkedWait := by
  have ran : advanceContinuations parkedState (parkedContext [releasedLease])
      (.continuationReopenRequested reopenRequest reopenNormalization) = .ok reopenedChange := by
    decide +kernel
  refine ⟨ran, by decide +kernel, ?_⟩
  obtain ⟨-, accepted, -⟩ :=
    reopening_rests_on_released_work parkedState (parkedContext [releasedLease])
  obtain ⟨continuation, found, released⟩ := accepted _ _ _ ran (mem_singleton_self _)
  have same : continuation = parkedWait := by
    have first : continuationOf parkedState reopenNormalization.continuationId = some parkedWait := by
      decide +kernel
    exact (Option.some.inj found).symm
  rwa [same] at released

def openLease : ChildLease where
  resourceId := ⟨"job"⟩
  scope := parkedScope
  sourceRequests := [⟨"other"⟩]

def yieldFact : Observation := releasedFact ⟨"dispatch"⟩ none

def yieldedTurn : Invocation := { parkedTurn with observation := some yieldFact }

def yieldRecord : RequestRecord where
  requestId := ⟨"dispatch"⟩
  request :=
    { requestId := some ⟨"dispatch"⟩, scope := parkedScope, admissionId := some ⟨"admission"⟩
      body := .dispatchTurn yieldedTurn.turn [] }
  payloadDigest := ""
  lifecycle := .sessionTurn
  phase := .completed
  observation := some yieldFact
  until_ := ⟨100, []⟩

def reopenFact : Observation :=
  { releasedFact ⟨"operation:decision"⟩ none with scope := reopenRequest.scope }

def reopenRecord : RequestRecord where
  requestId := ⟨"operation:decision"⟩
  request := reopenRequest
  payloadDigest := ""
  lifecycle := .idempotentWrite
  phase := .completed
  observation := some reopenFact
  outcome := some ⟨"outcome", "", some ⟨.reopened, parkedScope⟩⟩
  until_ := ⟨100, []⟩

def secondPlan : MeasurementPlan where
  purpose := .official
  candidate := .revision ⟨⟨"base"⟩, "sha"⟩
  fingerprints := ⟨"", "", ""⟩
  recipeDigest := ""
  stages := []
  queueAllowance := 0
  content := ⟨""⟩

/-- Another measurement of the scope, which keeps it from being settled until it is observed. -/
def secondRecord (observation : Option Observation) : RequestRecord where
  requestId := ⟨"second"⟩
  request :=
    { requestId := some ⟨"second"⟩, scope := parkedScope, admissionId := some ⟨"admission"⟩
      body := .submitMeasurement secondPlan }
  payloadDigest := ""
  lifecycle := .ownedJob
  phase := if observation.isSome then .completed else .dispatched
  observation := observation
  until_ := ⟨100, []⟩

def activeContext (second : Option Observation) (leases : List ChildLease) :
    EvaluationContext where
  run := parkedRun
  attempts := { attempts := [{ parkedAttempt with
    phase := .active, closure := none
    checkpoints := [⟨some parkedTurnRef, ⟨"checkpoint"⟩, ⟨⟨"work"⟩, "sha"⟩, .wip⟩] }] }
  sessions :=
    { sessions := [
        { spec := parkedTurn.turn.session, scope := parkedScope, generation := 0
          phase := .suspended, invocation := some ⟨"turn"⟩, accepted := true
          resourceId := some ⟨"seat"⟩ }]
      invocations := [yieldedTurn] }
  records := { records := [yieldRecord, reopenRecord, secondRecord second], children := leases }

def deferredState : EvaluationState :=
  { parkedState with continuations := [{ parkedWait with
    phase := .waiting, reopenAuthority := some ⟨"operation:decision"⟩ }] }

def settledContext : EvaluationContext :=
  activeContext (some (releasedFact ⟨"second"⟩ none)) [childLease none]

/-- The reopening is accepted although a lease on the wait's own job is not released; and a wait
reopened while its scope is not settled is authorized later, by the wake of its job, although a
lease below the job is not released. -/
theorem unreleased_work_is_overlooked :
    (advanceContinuations parkedState (parkedContext [openLease])
        (.continuationReopenRequested reopenRequest reopenNormalization) = .ok reopenedChange ∧
      leasesOn (parkedContext [openLease]).records ⟨"job"⟩ = [openLease] ∧
      ¬LeaseReleasedIn parkedScope openLease) ∧
    ((advanceContinuations reopenedChange.state (activeContext none [])
        (.continuationScopeReopened ⟨"wait"⟩ ⟨"close"⟩ reopenFact)).map (·.state) =
          .ok deferredState ∧
      (advanceContinuations deferredState settledContext (.continuationJobsChanged ⟨"job"⟩
        (releasedFact ⟨"submission"⟩ (some ⟨"job"⟩)))).map
          (fun change => change.state.continuations.map Continuation.phase) = .ok [.authorized] ∧
      Below deferredState settledContext.records [parkedJob] parkedScope ⟨"child"⟩ ∧
      leasesOn settledContext.records ⟨"child"⟩ = [childLease none] ∧
      ¬LeaseReleasedIn parkedScope (childLease none)) := by
  refine ⟨⟨by decide +kernel, by decide +kernel, ?_⟩, by decide +kernel, by decide +kernel, ?_,
    by decide +kernel, ?_⟩
  · rintro ⟨-, observation, fact, -⟩
    cases fact
  · have job : Reachable (Starts [parkedJob])
        (Discovers deferredState settledContext.records parkedScope) (.job parkedJob) :=
      .start (.job (mem_singleton_self _))
    exact ((job.step .submitted).step
      (.sourced (mem_singleton_self _) rfl (mem_singleton_self _))).step .leased
  · rintro ⟨-, observation, fact, -⟩
    cases fact

end VibeServeCore.Evaluation
