/- source: evaluation.py, _measurements.py
   digest: Jobs keep one row per submission; evidence is sound, fixed and published once. -/

import VibeServeCore.Evaluation.WorkSteps
import VibeServeCore.Kernel.Step

namespace VibeServeCore.Evaluation

open Types Proofs Foundation.Process List Foundation.Ledger Foundation.WriteOnce
open Kernel (creditContinuation creditDowntime)
open RequestLedger (conclusive)

inductive EvaluationInput
  | event (context : EvaluationContext) (event : EvaluationEvent)
  | downtime (run : RunState) (credit : Seconds)

def advanceInput (digests : Digests) (key : MeasurementIdentity → String)
    (state : EvaluationState) : EvaluationInput → Except CoreError Change
  | .event context event => advanceEvaluation digests key state context event
  | .downtime run credit => .ok { state := creditDowntime state run credit }

/-- Runs of the evaluation area. -/
abbrev EvaluationRun (digests : Digests) (key : MeasurementIdentity → String) :=
  Run (Produces (advanceInput digests key) AreaChange.state)

abbrev EvaluationLabel := EvaluationInput × Change

def results (events : List StrategyEvent) : List MeasurementResult :=
  events.filterMap fun event =>
    match event with
    | .measurementResult result => some result
    | _ => none

theorem results_append (first second : List StrategyEvent) :
    results (first ++ second) = results first ++ results second := filterMap_append

theorem mem_results {events : List StrategyEvent} {result : MeasurementResult} :
    result ∈ results events ↔ .measurementResult result ∈ events := by
  unfold results
  rw [mem_filterMap]
  constructor
  · rintro ⟨event, mem, same⟩
    split at same
    · cases same
      exact mem
    · cases same
  · exact fun mem => ⟨_, mem, rfl⟩

theorem results_eq_nil {events : List StrategyEvent}
    (none_ : ∀ result, .measurementResult result ∉ events) : results events = [] := by
  rw [eq_nil_iff_forall_not_mem]
  exact fun result mem => none_ result (mem_results.mp mem)

variable {digests : Digests} {key : MeasurementIdentity → String} {state : EvaluationState}
  {context : EvaluationContext} {input : EvaluationInput} {change : Change}

theorem WaitChange.results (made : WaitChange context state change) :
    Evaluation.results change.events = [] := by
  refine results_eq_nil fun result mem => ?_
  rcases made.notices _ mem with ⟨_, different⟩ | ⟨_, different⟩ <;> cases different

structure WaitsOnly (state : EvaluationState) (change : Change) : Prop where
  work : SameWork state change.state
  results : results change.events = []

structure Measures (digests : Digests) (key : MeasurementIdentity → String)
    (state : EvaluationState) (context : EvaluationContext) (event : EvaluationEvent)
    (change : Change) (before : EvaluationState) (middle : Change) : Prop where
  due : SameWork state before
  ran : advanceMeasurements digests key before context event = .ok middle
  after : SameWork middle.state change.state
  results : results change.events = results middle.events
  requests : ∃ first last, change.requests = first ++ middle.requests ++ last ∧
    ∀ outbound ∈ first ++ last, asksOnly outbound.request.body

theorem advanceInput_cases (distinct : Distinct (·.continuationId) state.continuations)
    (ran : advanceInput digests key state input = .ok change) :
    WaitsOnly state change ∨ ∃ context event before middle, input = .event context event ∧
      Measures digests key state context event change before middle := by
  cases input with
  | downtime run credit =>
    cases ran
    left
    unfold creditDowntime
    split <;> exact ⟨⟨rfl, rfl, rfl, rfl, rfl⟩, rfl⟩
  | event context event =>
    obtain ⟨due, middle, after, dueWaits, own, afterWaits, reached, asked, published⟩ :=
      advanceEvaluation_eq_ok ran
    have spoken : results change.events = results middle.events := by
      rw [published, results_append, results_append, dueWaits.results, afterWaits.results]
      simp
    rcases advanceSubarea_cases (dueWaits.distinct distinct) own with waits | measured
    · left
      constructor
      · rw [reached]
        exact (dueWaits.sameWork.trans waits.sameWork).trans afterWaits.sameWork
      · rw [spoken, waits.results]
    · right
      refine ⟨context, event, due.state, middle, rfl, dueWaits.sameWork, measured, ?_, spoken,
        due.requests, after.requests, asked, ?_⟩
      · rw [reached]
        exact afterWaits.sameWork
      · intro outbound mem
        rcases mem_append.mp mem with first | last
        · exact dueWaits.asks outbound first
        · exact afterWaits.asks outbound last

theorem advanceInput_distinct (distinct : Distinct (·.continuationId) state.continuations)
    (ran : advanceInput digests key state input = .ok change) :
    Distinct (·.continuationId) change.state.continuations := by
  cases input with
  | downtime run credit =>
    cases ran
    unfold creditDowntime
    split
    · exact distinct
    have same : (state.continuations.map (creditContinuation credit)).map (·.continuationId) =
        state.continuations.map (·.continuationId) := by
      rw [map_map]
      refine map_congr_left fun row _ => ?_
      simp only [Function.comp, creditContinuation]
      split <;> rfl
    unfold Distinct
    rw [same]
    exact distinct
  | event context event =>
    obtain ⟨due, middle, after, dueWaits, own, afterWaits, reached, -, -⟩ :=
      advanceEvaluation_eq_ok ran
    rw [reached]
    refine afterWaits.distinct ?_
    rcases advanceSubarea_cases (dueWaits.distinct distinct) own with waits | measured
    · exact waits.distinct (dueWaits.distinct distinct)
    · rw [(advanceMeasurements_work measured).waits]
      exact dueWaits.distinct distinct

variable {reported : Option JobReport} {job : OwnedJob}

def jobKey (job : OwnedJob) : Bool × RequestId :=
  match job.origin with
  | .measurement submission _ => (true, submission)
  | .registered submission _ _ _ => (false, submission)

private theorem jobKey_snd (job : OwnedJob) : (jobKey job).2 = job.origin.submission := by
  unfold jobKey
  cases job.origin <;> rfl

variable {old new : OwnedJob} {report : JobReport} {source : RequestRecord}

private theorem jobKey_eq (same : new.origin = old.origin) : jobKey new = jobKey old := by
  unfold jobKey
  rw [same]

structure Filed (state : EvaluationState) : Prop where
  builtin : ∀ job ∈ state.jobs, (jobKey job).1
  registered : ∀ job ∈ state.registeredJobs, (jobKey job).1 = false
  distinct : Distinct jobKey state.allJobs

private theorem mem_allJobs : job ∈ state.allJobs ↔ job ∈ state.jobs ∨ job ∈ state.registeredJobs :=
  mem_append

theorem Filed.empty : Filed {} := ⟨by simp, by simp, nodup_nil⟩

theorem Filed.same {after : EvaluationState} (filed : Filed state) (jobs : after.jobs = state.jobs)
    (registered : after.registeredJobs = state.registeredJobs) : Filed after := by
  refine ⟨by rw [jobs]; exact filed.builtin, by rw [registered]; exact filed.registered, ?_⟩
  unfold EvaluationState.allJobs
  rw [jobs, registered]
  exact filed.distinct

theorem Filed.fresh_builtin (filed : Filed state) (kind : (jobKey job).1)
    (unowned : ∀ other ∈ state.jobs, other.origin.submission ≠ job.origin.submission) :
    ∀ old ∈ state.allJobs, jobKey old ≠ jobKey job := by
  intro old listed same
  rcases mem_allJobs.mp listed with builtin | registered
  · exact unowned old builtin (by rw [← jobKey_snd, ← jobKey_snd, same])
  · have other := filed.registered old registered
    rw [same, kind] at other
    cases other

theorem Filed.fresh_registered (filed : Filed state) (kind : (jobKey job).1 = false)
    (unowned : ∀ other ∈ state.registeredJobs, other.origin.submission ≠ job.origin.submission) :
    ∀ old ∈ state.allJobs, jobKey old ≠ jobKey job := by
  intro old listed same
  rcases mem_allJobs.mp listed with builtin | registered
  · have other := filed.builtin old builtin
    rw [same, kind] at other
    cases other
  · exact unowned old registered (by rw [← jobKey_snd, ← jobKey_snd, same])

private theorem withJob_allJobs (filed : Filed state) (old new : OwnedJob) :
    (withJob state old new).allJobs =
      state.allJobs.map fun row => if row = old then new else row := by
  have untouched : ∀ {rows : List OwnedJob}, (∀ row ∈ rows, (jobKey row).1 ≠ (jobKey old).1) →
      rows.map (fun row => if row = old then new else row) = rows := by
    intro rows apart
    refine (map_congr_left fun row mem => ?_).trans (map_id rows)
    refine if_neg ?_
    rintro rfl
    exact apart row mem rfl
  unfold withJob EvaluationState.allJobs
  cases origin : old.origin with
  | measurement submission plan =>
    have mine : (jobKey old).1 := by simp [jobKey, origin]
    have apart : ∀ row ∈ state.registeredJobs, (jobKey row).1 ≠ (jobKey old).1 := by
      intro row mem
      rw [filed.registered row mem, mine]
      decide
    rw [map_append, untouched apart]
  | registered submission operation pool expected =>
    have mine : (jobKey old).1 = false := by simp [jobKey, origin]
    have apart : ∀ row ∈ state.jobs, (jobKey row).1 ≠ (jobKey old).1 := by
      intro row mem
      rw [filed.builtin row mem, mine]
      decide
    rw [map_append, untouched apart]

theorem ReportOwner.member (owns : ReportOwner digests state context report job source) :
    job ∈ state.allJobs := by
  have listed : job ∈ reportedJobs state report.job := by
    rw [owns.reported]
    exact mem_singleton_self job
  unfold reportedJobs at listed
  split at listed
  · exact mem_allJobs.mpr (.inl (mem_filter.mp listed).1)
  · exact mem_allJobs.mpr (.inr (mem_filter.mp listed).1)

theorem ReportOwner.named (owns : ReportOwner digests state context report job source) :
    source.requestId = report.observation.requestId ∧
      job.origin.submission = report.observation.requestId := by
  have mem : source ∈ context.records.find report.observation.requestId := by
    rw [owns.recorded]
    exact mem_singleton_self source
  have same : source.requestId = report.observation.requestId := by
    simpa using (mem_filter.mp mem).2
  exact ⟨same, (jobSource_eq_proven owns.bound).2.1.trans same⟩

theorem takenJob_origin (report : JobReport) (accepted : List EvidenceRef) :
    (takenJob context job report accepted).origin = job.origin := by
  unfold takenJob nextPoll backedOff
  simp only
  split_ifs <;> rfl

private theorem takenJob_scope (report : JobReport) (accepted : List EvidenceRef) :
    (takenJob context job report accepted).scope = job.scope := by
  unfold takenJob nextPoll backedOff
  simp only
  split_ifs <;> rfl

private theorem filed_of_forall₂ {jobs registered : List OwnedJob} (filed : Filed state)
    (keptJobs : List.Forall₂ Idle state.jobs jobs)
    (keptRegistered : List.Forall₂ Idle state.registeredJobs registered) :
    Filed { state with jobs, registeredJobs := registered } := by
  have keys : ∀ {rows next : List OwnedJob}, List.Forall₂ Idle rows next →
      next.map jobKey = rows.map jobKey := by
    intro rows next idle
    induction idle with
    | nil => rfl
    | cons head _ ih => rw [map_cons, map_cons, jobKey_eq head.origin, ih]
  have kinds : ∀ {rows next : List OwnedJob} {kind : Bool}, List.Forall₂ Idle rows next →
      (∀ row ∈ rows, (jobKey row).1 = kind) → ∀ row ∈ next, (jobKey row).1 = kind := by
    intro rows next kind idle each row mem
    have named : jobKey row ∈ rows.map jobKey := by
      rw [← keys idle]
      exact mem_map_of_mem mem
    obtain ⟨old, listed, same⟩ := mem_map.mp named
    rw [← same]
    exact each old listed
  refine ⟨kinds keptJobs filed.builtin, kinds keptRegistered filed.registered, ?_⟩
  unfold Distinct EvaluationState.allJobs
  rw [map_append, keys keptJobs, keys keptRegistered, ← map_append]
  exact filed.distinct

theorem Filed.withJob (filed : Filed state) (same : new.origin = old.origin) :
    Filed (Evaluation.withJob state old new) := by
  have keys : jobKey new = jobKey old := jobKey_eq same
  have swapped : ∀ row, jobKey (if row = old then new else row) = jobKey row := by
    intro row
    split
    · rename_i equal
      rw [equal, keys]
    · rfl
  have kinds : ∀ {rows : List OwnedJob} {kind : Bool}, (∀ row ∈ rows, (jobKey row).1 = kind) →
      ∀ row ∈ rows.map (fun row => if row = old then new else row), (jobKey row).1 = kind := by
    intro rows kind each row mem
    obtain ⟨before, listed, rfl⟩ := mem_map.mp mem
    rw [swapped]
    exact each before listed
  refine ⟨?_, ?_, ?_⟩
  · unfold Evaluation.withJob
    split
    · exact kinds filed.builtin
    · exact filed.builtin
  · unfold Evaluation.withJob
    split
    · exact filed.registered
    · exact kinds filed.registered
  · unfold Distinct
    have unchanged : (Evaluation.withJob state old new).allJobs.map jobKey =
        state.allJobs.map jobKey := by
      rw [withJob_allJobs filed, map_map]
      exact map_congr_left fun row _ => swapped row
    rw [unchanged]
    exact filed.distinct

theorem WorkStep.filed (step : WorkStep digests context reported state change)
    (filed : Filed state) : Filed change.state := by
  cases step with
  | quiet jobs registered evidence results => exact filed.same jobs registered
  | starts job source plan recorded submits origin unowned fresh jobs registered evidence results =>
    have kind : (jobKey job).1 := by simp [jobKey, origin]
    have apart := filed.fresh_builtin kind (by rw [origin]; exact unowned)
    refine ⟨?_, by rw [registered]; exact filed.registered, ?_⟩
    · rw [jobs]
      intro row mem
      rcases mem_append.mp mem with old | new
      · exact filed.builtin row old
      · rw [mem_singleton.mp new, kind]
    · have perm : change.state.allJobs.Perm (job :: state.allJobs) := by
        unfold EvaluationState.allJobs
        rw [jobs, registered, append_assoc]
        exact perm_middle
      refine (perm.map jobKey).nodup_iff.mpr (nodup_cons.mpr ⟨fun mem => ?_, filed.distinct⟩)
      obtain ⟨row, listed, same⟩ := mem_map.mp mem
      exact apart row listed same
  | registers job request requestId operationId pool identity named executes origin unowned
      unnamed fresh issued jobs registered evidence results =>
    have kind : (jobKey job).1 = false := by simp [jobKey, origin]
    have apart := filed.fresh_registered kind (by rw [origin]; exact unowned)
    refine ⟨by rw [jobs]; exact filed.builtin, ?_, ?_⟩
    · rw [registered]
      intro row mem
      rcases mem_append.mp mem with old | new
      · exact filed.registered row old
      · rw [mem_singleton.mp new, kind]
    · unfold EvaluationState.allJobs
      rw [jobs, registered, ← append_assoc]
      exact filed.distinct.concat apart
  | idles jobs registered evidence results =>
    exact (filed_of_forall₂ filed jobs registered).same rfl rfl
  | takes report job source claim arrived owns new jobs registered evidence results =>
    exact (filed.withJob (takenJob_origin report _)).same jobs registered

structure Started (context : EvaluationContext) (state : EvaluationState) (change : Change)
    (job : OwnedJob) : Prop where
  fresh : Unobserved job
  apart : ∀ old ∈ state.allJobs, jobKey old ≠ jobKey job
  cause : (∃ source plan, context.records.find source.requestId = [source] ∧
      source.request.body = .submitMeasurement plan ∧
      job.origin = .measurement source.requestId plan) ∨
    ∃ outbound ∈ change.requests, ∃ requestId operationId pool identity wire limit inputs,
      outbound.request.requestId = some requestId ∧
      outbound.request.body = .executeRegisteredOperation operationId wire limit inputs ∧
      job.origin = .registered requestId operationId pool identity

structure Quietly (context : EvaluationContext) (state : EvaluationState) (change : Change) :
    Prop where
  evidence : change.state.evidence = state.evidence
  known : ∀ old ∈ state.allJobs, ∃ new ∈ change.state.allJobs, Idle old new
  rows : ∀ new ∈ change.state.allJobs, Started context state change new ∨
    ∃ old ∈ state.allJobs, Idle old new
  results : ∀ result, .measurementResult result ∈ change.events →
    result.sourceRequest = none ∨ Refusal context result

structure Takes (digests : Digests) (context : EvaluationContext) (state : EvaluationState)
    (change : Change) (report : JobReport) (job : OwnedJob) (source : RequestRecord) : Prop where
  owns : ReportOwner digests state context report job source
  allJobs : change.state.allJobs = state.allJobs.map fun row =>
    if row = job then takenJob context job report (storeBatch state job report).accepted else row
  evidence : change.state.evidence = (storeBatch state job report).ledger
  results : ∃ claim notices, change.events = notices ++
      resultEvents context job report (storeBatch state job report) claim ∧
    ∀ result, .measurementResult result ∉ notices

theorem Quietly.adding (started : Started context state change job)
    (listed : ∀ row, row ∈ change.state.allJobs ↔ row = job ∨ row ∈ state.allJobs)
    (evidence : change.state.evidence = state.evidence)
    (results : ∀ result, .measurementResult result ∉ change.events) :
    Quietly context state change := by
  refine ⟨evidence, fun old mem => ⟨old, (listed old).mpr (.inr mem), .refl old⟩,
    fun new mem => ?_, fun result mem => absurd mem (results result)⟩
  rcases (listed new).mp mem with rfl | old
  · exact .inl started
  · exact .inr ⟨new, old, .refl new⟩

theorem WorkStep.table (step : WorkStep digests context reported state change)
    (filed : Filed state) : Quietly context state change ∨
      ∃ report job source, reported = some report ∧
        Takes digests context state change report job source := by
  cases step with
  | quiet jobs registered evidence results =>
    have same : change.state.allJobs = state.allJobs := by
      unfold EvaluationState.allJobs
      rw [jobs, registered]
    refine .inl ⟨evidence, ?_, ?_, results⟩ <;> rw [same]
    · exact fun old mem => ⟨old, mem, .refl old⟩
    · exact fun new mem => .inr ⟨new, mem, .refl new⟩
  | starts job source plan recorded submits origin unowned fresh jobs registered evidence results =>
    have kind : (jobKey job).1 := by simp [jobKey, origin]
    have apart := filed.fresh_builtin kind (by rw [origin]; exact unowned)
    refine .inl (.adding ⟨fresh, apart, .inl ⟨source, plan, recorded, submits, origin⟩⟩ ?_ evidence
      results)
    simp only [mem_allJobs, jobs, registered, mem_append, mem_singleton]
    tauto
  | registers job request requestId operationId pool identity named executes origin unowned
      unnamed fresh issued jobs registered evidence results =>
    have kind : (jobKey job).1 = false := by simp [jobKey, origin]
    have apart := filed.fresh_registered kind (by rw [origin]; exact unowned)
    obtain ⟨wire, limit, inputs, body⟩ := executes
    refine .inl (.adding ⟨fresh, apart, .inr ⟨_, issued, requestId, operationId, pool, identity,
      wire, limit, inputs, named, body, origin⟩⟩ ?_ evidence results)
    simp only [mem_allJobs, jobs, registered, mem_append, mem_singleton]
    tauto
  | idles jobs registered evidence results =>
    have idle : List.Forall₂ Idle state.allJobs change.state.allJobs :=
      rel_append jobs registered
    exact .inl ⟨evidence, fun old mem => forall₂_target idle mem,
      fun new mem => .inr (forall₂_source idle mem),
      fun result mem => absurd mem (results result)⟩
  | takes report job source claim arrived owns new jobs registered evidence results =>
    refine .inr ⟨report, job, source, arrived, owns, ?_, evidence, claim, results⟩
    rw [← withJob_allJobs filed]
    unfold EvaluationState.allJobs
    rw [jobs, registered]

def Watched (state : EvaluationState) : Prop :=
  ∀ job ∈ state.allJobs, job.resourceId.isSome → job.observation = none →
    job.terminal = false

theorem WorkStep.watched (step : WorkStep digests context reported state change)
    (filed : Filed state) (watched : Watched state) : Watched change.state := by
  intro row mem named unobserved
  rcases step.table filed with quiet | ⟨report, job, source, -, takes⟩
  · rcases quiet.rows row mem with started | ⟨old, listed, same⟩
    · exact started.fresh.running
    rw [same.resourceId] at named
    rw [(same.kept named).2.1]
    exact watched old listed named (by rw [← same.observation]; exact unobserved)
  rw [takes.allJobs] at mem
  obtain ⟨old, listed, rfl⟩ := mem_map.mp mem
  split at named
  · rename_i equal
    rw [if_pos equal] at unobserved
    cases unobserved
  · rename_i other
    rw [if_neg other] at unobserved ⊢
    exact watched old listed named unobserved

theorem WorkStep.settles (step : WorkStep digests context reported state change)
    (filed : Filed state) (watched : Watched state) {resource : ResourceId}
    (mem : job ∈ state.allJobs) (holds : job.resourceId = some resource) (done : settled job) :
    ∃ new ∈ change.state.allJobs, new.resourceId = some resource ∧ settled new := by
  rcases step.table filed with quiet | ⟨report, owner, source, -, takes⟩
  · obtain ⟨new, listed, same⟩ := quiet.known job mem
    obtain ⟨status, terminal, -⟩ := same.kept (by rw [holds]; rfl)
    refine ⟨new, listed, by rw [same.resourceId]; exact holds, ?_⟩
    unfold settled at done ⊢
    rw [status, terminal]
    exact done
  rw [takes.allJobs]
  by_cases own : job = owner
  · subst own
    refine ⟨_, mem_map.mpr ⟨job, mem, if_pos rfl⟩, ?_, ?_⟩
    · obtain ⟨name, observed, unnamed | same⟩ := takes.owns.incoming.names
      · rw [holds] at unnamed
        cases unnamed
      · rw [← holds, same, ← observed]
        rfl
    · have ended : job.terminal := (Bool.and_eq_true_iff.mp done).1
      have observed : job.observation.isSome := by
        by_contra none_
        have running := watched job mem (by rw [holds]; rfl) (by simpa using none_)
        rw [ended] at running
        cases running
      exact takes.owns.incoming.keepsEnd observed ended
  · exact ⟨job, mem_map.mpr ⟨job, mem, if_neg own⟩, holds, done⟩

variable {evidence : EvidenceRef}

structure Carries (job : OwnedJob) (identity : MeasurementIdentity) (evidence : EvidenceRef) :
    Prop where
  scope : evidence.scope = job.scope
  source : evidence.sourceRequest = job.origin.submission
  candidate : evidence.candidate = identity.candidate
  purpose : evidence.purpose = identity.purpose
  fingerprints : evidence.fingerprints = identity.fingerprints

def Required (identity : MeasurementIdentity) (kind : EvidenceKind) (stage : String) : Prop :=
  if kind = .correctness ∧ identity.accuracyStage.isSome = true then
    identity.accuracyStage = some stage
  else ∃ row ∈ identity.stages, row.stageId = stage

private theorem mem_requiredStages {identity : MeasurementIdentity} {kind : EvidenceKind}
    {stage : String} : stage ∈ requiredStages identity kind ↔ Required identity kind stage := by
  unfold requiredStages Required
  cases declared : identity.accuracyStage with
  | none =>
    cases kind <;> exact mem_map
  | some accuracy =>
    cases kind with
    | correctness =>
      rw [if_pos ⟨rfl, rfl⟩, mem_singleton, Option.some_inj, eq_comm]
    | _ =>
      exact mem_map

structure Passes (identity : MeasurementIdentity) (kind : EvidenceKind)
    (facts : EvaluationTerminalFacts) : Prop where
  stages : ∀ stage, Required identity kind stage → stageOutcome facts stage = some .passed
  accuracy : kind ∈ identity.accuracyGated → facts.accuracyPassed
  benchmark : kind = .benchmark → facts.failedBenchmark = none

structure Arrived (report : JobReport) (identity : MeasurementIdentity) (evidence : EvidenceRef) :
    Prop where
  delivered : ∃ raw ∈ report.facts.evidence, evidence =
    { raw with acceptanceReceipt := some { report.observation with status := raw.status } }
  accepted : report.observation.accepted
  conclusive : conclusive report.observation
  sequence : evidence.observationSequence = report.observation.sequence
  succeeded : evidence.status = .succeeded → report.observation.status = .succeeded ∧
    ∃ facts, report.facts.evaluationResult = some facts ∧ Passes identity evidence.kind facts

private theorem scientificEvidence_passes {identity : MeasurementIdentity}
    (science : scientificEvidence report evidence identity)
    (succeeded : evidence.status = .succeeded) : report.observation.status = .succeeded ∧
      ∃ facts, report.facts.evaluationResult = some facts ∧
        Passes identity evidence.kind facts := by
  unfold scientificEvidence at science
  simp only [succeeded, ne_eq, not_true_eq_false, decide_false, Bool.false_or] at science
  cases given : report.facts.evaluationResult with
  | none => simp [given] at science
  | some facts =>
    rw [given, Option.any_some] at science
    simp only [Bool.and_eq_true, Bool.or_eq_true, decide_eq_true_eq, all_eq_true,
      Option.isNone_iff_eq_none] at science
    obtain ⟨⟨⟨ended, accuracy⟩, stages⟩, benchmark⟩ := science
    exact ⟨ended, facts, rfl,
      fun stage required => stages stage (mem_requiredStages.mpr required),
      fun gated => accuracy.resolve_left (not_not.mpr gated),
      fun kind => benchmark.resolve_left (not_not.mpr kind)⟩

variable {raw : EvidenceRef} {batch : EvidenceBatch}

private theorem acceptedEvidence_eq_proven
    (proven : acceptedEvidence job report raw = .proven evidence)
    (mem : raw ∈ report.facts.evidence) :
    ∃ identity, jobIdentity job = .proven identity ∧ Carries job identity evidence ∧
      Arrived report identity evidence := by
  unfold acceptedEvidence at proven
  simp only at proven
  obtain ⟨identity, known, proven⟩ := Verdict.andThen_eq_proven.mp proven
  split_ifs at proven with scope source candidate sequence purpose fingerprints unresolved receipt
  cases proven
  simp only [ne_eq, not_not] at scope source candidate sequence purpose fingerprints
  simp only [Bool.or_eq_true, Bool.not_eq_true', decide_eq_true_eq, not_or,
    Bool.not_eq_false] at unresolved
  exact ⟨identity, known, ⟨scope, source, candidate, purpose, fingerprints⟩,
    ⟨raw, mem, rfl⟩, unresolved.1.1.1.2, unresolved.1.1.2, sequence,
    fun succeeded => scientificEvidence_passes unresolved.1.1.1.1 succeeded⟩

structure Stored (state : EvaluationState) (job : OwnedJob) (report : JobReport)
    (batch : EvidenceBatch) : Prop where
  accepted : ∃ new, batch.accepted = job.evidence ++ new ∧ ∀ evidence ∈ new,
    evidence ∉ job.evidence ∧ ∃ identity, jobIdentity job = .proven identity ∧
      Carries job identity evidence ∧ Arrived report identity evidence
  ledger : ∃ added, batch.ledger = state.evidence ++ added ∧
    ∀ evidence ∈ added, evidence ∈ batch.accepted
  keys : Distinct EvidenceRef.key batch.ledger
  listed : ∀ evidence ∈ batch.accepted, evidence ∈ batch.ledger

theorem Stored.accept {incoming : EvidenceRef} {ledger : List EvidenceRef}
    (stored : Stored state job report batch)
    (proven : acceptedEvidence job report raw = .proven incoming)
    (mem : raw ∈ report.facts.evidence) (new : incoming ∉ batch.accepted)
    (grows : ∃ added, ledger = state.evidence ++ added ∧ ∀ evidence ∈ added, evidence ∈
      batch.accepted ++ [incoming]) (keys : Distinct EvidenceRef.key ledger)
    (listed : ∀ evidence ∈ batch.accepted ++ [incoming], evidence ∈ ledger) :
    Stored state job report
      { batch with ledger, accepted := batch.accepted ++ [incoming] } := by
  obtain ⟨earlier, same, each⟩ := stored.accepted
  refine ⟨⟨earlier ++ [incoming], by simp [same], fun evidence inside => ?_⟩, grows, keys, listed⟩
  rcases mem_append.mp inside with before | last
  · exact each evidence before
  · cases mem_singleton.mp last
    refine ⟨fun held => new ?_, acceptedEvidence_eq_proven proven mem⟩
    rw [same]
    exact mem_append_left _ held

private theorem storeEvidence_stored (stored : Stored state job report batch)
    (mem : raw ∈ report.facts.evidence) :
    Stored state job report (storeEvidence job report batch raw) := by
  unfold storeEvidence
  split
  · rename_i incoming proven
    obtain ⟨added, same, ours⟩ := stored.ledger
    split
    · -- A new key: the record joins the ledger and its job.
      rename_i absent
      have fresh : ∀ held ∈ batch.ledger, held.key ≠ incoming.key := by
        intro held inside
        simpa using find?_eq_none.mp absent held inside
      have new : incoming ∉ batch.accepted := fun inside =>
        fresh incoming (stored.listed incoming inside) rfl
      refine stored.accept proven mem new ⟨added ++ [incoming], by simp [same], ?_⟩ ?_ ?_
      · intro evidence inside
        rcases mem_append.mp inside with before | last
        · exact mem_append_left _ (ours evidence before)
        · exact mem_append_right _ last
      · exact stored.keys.concat fresh
      · intro evidence inside
        rcases mem_append.mp inside with before | last
        · exact mem_append_left _ (stored.listed evidence before)
        · exact mem_append_right _ last
    · rename_i previous found
      split
      · exact ⟨stored.accepted, stored.ledger, stored.keys, stored.listed⟩
      rename_i equal
      have held : incoming ∈ batch.ledger := by
        rw [← not_not.mp equal]
        exact mem_of_find?_eq_some found
      split
      · exact stored
      rename_i new
      refine stored.accept proven mem new ⟨added, same, fun evidence inside =>
        mem_append_left _ (ours evidence inside)⟩ stored.keys ?_
      intro evidence inside
      rcases mem_append.mp inside with before | last
      · exact stored.listed evidence before
      · cases mem_singleton.mp last
        exact held
  · exact stored

theorem storeBatch_stored (keys : Distinct EvidenceRef.key state.evidence)
    (listed : ∀ evidence ∈ job.evidence, evidence ∈ state.evidence) :
    Stored state job report (storeBatch state job report) := by
  have initial : Stored state job report { accepted := job.evidence, ledger := state.evidence } :=
    ⟨⟨[], by simp, by simp⟩, ⟨[], by simp, by simp⟩, keys, listed⟩
  have done := foldl_induction (fun rest batch => Stored state job report batch ∧
      ∀ raw ∈ rest, raw ∈ report.facts.evidence)
    (fun {raw rest batch} loop => ⟨storeEvidence_stored loop.1 (loop.2 raw mem_cons_self),
      fun later inside => loop.2 later (mem_cons_of_mem _ inside)⟩)
    ⟨initial, fun _ inside => inside⟩
  exact done.1

theorem Stored.open_ (stored : Stored state job report batch)
    (inconclusive : conclusive report.observation = false) : batch.accepted = job.evidence := by
  obtain ⟨new, same, each⟩ := stored.accepted
  cases new with
  | nil => simpa using same
  | cons first rest =>
    obtain ⟨-, identity, -, -, arrived⟩ := each first mem_cons_self
    rw [arrived.conclusive] at inconclusive
    cases inconclusive

def inputReport : EvaluationInput → Option JobReport
  | .event _ event => reportOf event
  | .downtime _ _ => none

/-- The evidence carries its job's measurement and came with a proof. -/
def SoundRecord (history : List EvaluationLabel) (job : OwnedJob) (evidence : EvidenceRef) : Prop :=
  ∃ identity, jobIdentity job = .proven identity ∧ Carries job identity evidence ∧
    ∃ label ∈ history, ∃ report, inputReport label.1 = some report ∧
      report.observation.requestId = evidence.sourceRequest ∧ Arrived report identity evidence

structure RowKept (history : List EvaluationLabel) (ledger : List EvidenceRef) (job : OwnedJob) :
    Prop where
  retained : ∀ evidence ∈ job.evidence, evidence ∈ ledger ∧ SoundRecord history job evidence
  ended : ∀ observation, job.observation = some observation → conclusive observation →
    job.terminal
  silent : job.observation.any conclusive = false → job.evidence = []

variable {history later : List EvaluationLabel} {ledger grown : List EvidenceRef}
  {reported : Option JobReport} {change : Change}

theorem SoundRecord.moved {old new : OwnedJob} (sound : SoundRecord history old evidence)
    (origin : new.origin = old.origin) (scope : new.scope = old.scope)
    (longer : ∀ label ∈ history, label ∈ later) : SoundRecord later new evidence := by
  obtain ⟨identity, known, carries, label, mem, arrived⟩ := sound
  refine ⟨identity, ?_, ⟨by rw [scope]; exact carries.scope, by rw [origin]; exact carries.source,
    carries.candidate, carries.purpose, carries.fingerprints⟩, label, longer label mem, arrived⟩
  unfold jobIdentity at known ⊢
  rw [origin]
  exact known

theorem RowKept.idle {old new : OwnedJob} (kept : RowKept history ledger old)
    (idle : Idle old new) (longer : ∀ label ∈ history, label ∈ later)
    (larger : ∀ evidence ∈ ledger, evidence ∈ grown) : RowKept later grown new := by
  refine ⟨fun evidence mem => ?_, fun observation taken final => ?_, fun open_ => ?_⟩
  · rw [idle.evidence] at mem
    obtain ⟨listed, sound⟩ := kept.retained evidence mem
    exact ⟨larger evidence listed, sound.moved idle.origin idle.scope longer⟩
  · rw [idle.observation] at taken
    exact idle.ends (kept.ended observation taken final)
  · rw [idle.observation] at open_
    rw [idle.evidence]
    exact kept.silent open_

theorem Unobserved.rowKept (fresh : Unobserved job) : RowKept history ledger job := by
  refine ⟨fun evidence mem => ?_, fun observation taken => ?_, fun _ => fresh.evidence⟩
  · rw [fresh.evidence] at mem
    cases mem
  · rw [fresh.observation] at taken
    cases taken

theorem RowKept.open_ (kept : RowKept history ledger job) {observation : Observation}
    (incoming : Incoming job observation) (inconclusive : conclusive observation = false) :
    job.evidence = [] := by
  apply kept.silent
  cases taken : job.observation with
  | none => rfl
  | some last =>
    by_contra final
    have concluded : conclusive last := by simpa using final
    have again := incoming.keepsEnd (by simp [taken]) (kept.ended last taken concluded)
    rw [again] at inconclusive
    cases inconclusive

private theorem takenJob_rowKept (kept : RowKept history state.evidence job)
    (stored : Stored state job report batch) (incoming : Incoming job report.observation)
    (named : job.origin.submission = report.observation.requestId)
    (longer : ∀ label ∈ history, label ∈ later)
    (arrives : ∃ label ∈ later, inputReport label.1 = some report) :
    RowKept later batch.ledger (takenJob context job report batch.accepted) := by
  refine ⟨fun evidence mem => ⟨stored.listed evidence mem, ?_⟩, ?_, fun open_ => ?_⟩
  · obtain ⟨new, same, each⟩ := stored.accepted
    have listed : evidence ∈ job.evidence ++ new := by
      rw [← same]
      exact mem
    rcases mem_append.mp listed with old | fresh
    · exact (kept.retained evidence old).2.moved (takenJob_origin report _)
        (takenJob_scope report _) longer
    obtain ⟨-, identity, known, carries, arrived⟩ := each evidence fresh
    obtain ⟨label, inside, carried⟩ := arrives
    have sound : SoundRecord later job evidence :=
      ⟨identity, known, carries, label, inside, report, carried,
        named.symm.trans carries.source.symm, arrived⟩
    exact sound.moved (takenJob_origin report _) (takenJob_scope report _) fun _ mem => mem
  · intro observation taken final
    cases taken
    exact (Bool.and_eq_true_iff.mp final).1
  · have inconclusive : conclusive report.observation = false := open_
    have same : batch.accepted = job.evidence := stored.open_ inconclusive
    exact same.trans (kept.open_ incoming inconclusive)

/-! ## Runs keep evidence -/

structure Kept (history : List EvaluationLabel) (state : EvaluationState) : Prop where
  filed : Filed state
  keys : Distinct EvidenceRef.key state.evidence
  held : ∀ evidence ∈ state.evidence, ∃ job ∈ state.allJobs, evidence ∈ job.evidence
  rows : ∀ job ∈ state.allJobs, RowKept history state.evidence job

theorem Kept.same {after : EvaluationState} (kept : Kept history state)
    (work : SameWork state after) : Kept history after := by
  refine ⟨kept.filed.same work.jobs work.registeredJobs, ?_, ?_, ?_⟩
  · rw [work.evidence]
    exact kept.keys
  · rw [work.evidence, work.allJobs]
    exact kept.held
  · rw [work.evidence, work.allJobs]
    exact kept.rows

theorem Kept.quietly (kept : Kept history state) (filed : Filed change.state)
    (quiet : Quietly context state change) (longer : ∀ label ∈ history, label ∈ later) :
    Kept later change.state := by
  refine ⟨filed, by rw [quiet.evidence]; exact kept.keys, ?_, ?_⟩ <;> rw [quiet.evidence]
  · intro item mem
    obtain ⟨old, listed, mine⟩ := kept.held item mem
    obtain ⟨new, inside, idle⟩ := quiet.known old listed
    exact ⟨new, inside, by rw [idle.evidence]; exact mine⟩
  · intro new mem
    rcases quiet.rows new mem with started | ⟨old, listed, idle⟩
    · exact started.fresh.rowKept
    · exact (kept.rows old listed).idle idle longer fun _ inside => inside

theorem WorkStep.kept (step : WorkStep digests context reported state change)
    (kept : Kept history state) (longer : ∀ label ∈ history, label ∈ later)
    (arrives : ∀ report, reported = some report →
      ∃ label ∈ later, inputReport label.1 = some report) : Kept later change.state := by
  have filed := step.filed kept.filed
  rcases step.table kept.filed with quiet | ⟨report, job, source, arrived, takes⟩
  · exact kept.quietly filed quiet longer
  obtain ⟨owns, same, evidence, -⟩ := takes
  have row := kept.rows job owns.member
  have stored : Stored state job report (storeBatch state job report) :=
    storeBatch_stored kept.keys fun evidence mem => (row.retained evidence mem).1
  have taken : RowKept later (storeBatch state job report).ledger
      (takenJob context job report (storeBatch state job report).accepted) :=
    takenJob_rowKept row stored owns.incoming owns.named.2 longer (arrives report arrived)
  generalize storeBatch state job report = batch at *
  have swapped : takenJob context job report batch.accepted ∈ change.state.allJobs := by
    rw [same]
    exact mem_map.mpr ⟨job, owns.member, if_pos rfl⟩
  obtain ⟨added, grows, ours⟩ := stored.ledger
  have larger : ∀ evidence ∈ state.evidence, evidence ∈ batch.ledger := by
    intro evidence mem
    rw [grows]
    exact mem_append_left _ mem
  refine ⟨filed, by rw [evidence]; exact stored.keys, ?_, ?_⟩
  · rw [evidence, grows]
    intro item mem
    rcases mem_append.mp mem with before | fresh
    · obtain ⟨old, listed, mine⟩ := kept.held item before
      by_cases equal : old = job
      · obtain ⟨new, appended, -⟩ := stored.accepted
        refine ⟨_, swapped, ?_⟩
        have inside : item ∈ batch.accepted := by
          rw [appended]
          exact mem_append_left _ (equal ▸ mine)
        exact inside
      · refine ⟨old, ?_, mine⟩
        rw [same]
        exact mem_map.mpr ⟨old, listed, if_neg equal⟩
    · exact ⟨_, swapped, ours item fresh⟩
  · rw [evidence, same]
    intro new mem
    obtain ⟨old, listed, rfl⟩ := mem_map.mp mem
    by_cases equal : old = job
    · rw [if_pos equal]
      exact taken
    · rw [if_neg equal]
      exact (kept.rows old listed).idle (.refl old) longer larger

theorem Kept.advance {label : EvaluationLabel} (kept : Kept history state)
    (distinct : Distinct (·.continuationId) state.continuations)
    (ran : advanceInput digests key state label.1 = .ok label.2) :
    Kept (history ++ [label]) label.2.state := by
  have longer : ∀ old ∈ history, old ∈ history ++ [label] := fun _ => mem_append_left _
  rcases advanceInput_cases distinct ran with waits | ⟨context, event, before, middle, same, step⟩
  · have still : Kept (history ++ [label]) state :=
      ⟨kept.filed, kept.keys, kept.held, fun job mem =>
        (kept.rows job mem).idle (.refl job) longer fun _ inside => inside⟩
    exact still.same waits.work
  · have work := (advanceMeasurements_work step.ran).step
    refine (work.kept (kept.same step.due) longer fun report carried => ?_).same step.after
    refine ⟨label, mem_append_right _ mem_cons_self, ?_⟩
    rw [same]
    exact carried

theorem advanceInput_evidence {input : EvaluationInput} (kept : Kept history state)
    (distinct : Distinct (·.continuationId) state.continuations)
    (ran : advanceInput digests key state input = .ok change) :
    state.evidence <+: change.state.evidence := by
  rcases advanceInput_cases distinct ran with waits | ⟨context, event, before, middle, -, step⟩
  · rw [waits.work.evidence]
  rw [step.after.evidence, ← step.due.evidence]
  have inside := kept.same step.due
  rcases (advanceMeasurements_work step.ran).step.table inside.filed with
    quiet | ⟨report, job, source, -, takes⟩
  · rw [quiet.evidence]
  have stored : Stored before job report (storeBatch before job report) :=
    storeBatch_stored inside.keys fun item mem =>
      ((inside.rows job takes.owns.member).retained item mem).1
  obtain ⟨added, grows, -⟩ := stored.ledger
  rw [takes.evidence, grows]
  exact prefix_append _ _

end VibeServeCore.Evaluation
