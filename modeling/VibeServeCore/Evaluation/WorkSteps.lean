/- source: evaluation.py, _job_releases.py, _measurements.py
   digest: Routing evaluation events, and what a measurement step does to jobs and evidence. -/

import VibeServeCore.Evaluation.Measurements
import VibeServeCore.Evaluation.WaitMoves
import VibeServeCore.Foundation.WriteOnce

namespace VibeServeCore.Evaluation

open Types Proofs Foundation.Process List Foundation.Ledger Foundation.WriteOnce

def releasedResources (state : EvaluationState) : List ResourceId :=
  (state.allJobs.filter OwnedJob.released).filterMap OwnedJob.resourceId

def releaseSignal (already : List ResourceId) (context : EvaluationContext) (job : OwnedJob) :
    Option Signal :=
  match job.resourceId, job.observation with
  | some resource, some observation =>
    if !job.released || resource ∈ already then none
    else
      (context.attempts.attempts.find? fun row =>
        job.scope.owner = .attempt row.attemptId && row.generation = job.scope.generation &&
          .job resource ∈ row.releaseDependencies).map fun owner =>
        .attempts (.releaseDependencyObserved owner.ref (.job resource) observation)
  | _, _ => none

def jobReleaseSignals (before after : EvaluationState) (context : EvaluationContext) :
    List Signal :=
  after.allJobs.filterMap (releaseSignal (releasedResources before) context)

def advanceSubarea (digests : Digests) (key : MeasurementIdentity → String)
    (state : EvaluationState) (context : EvaluationContext) (event : EvaluationEvent) :
    Except CoreError Change :=
  match event with
  | .turnSuspended .. | .deadlineReached .. | .continuationJobsChanged ..
  | .continuationRetireRequested .. | .continuationReopenRequested ..
  | .continuationScopeReopened .. => advanceContinuations state context event
  | _ => advanceMeasurements digests key state context event

/-- One event of the evaluation area. -/
def advanceEvaluation (digests : Digests) (key : MeasurementIdentity → String)
    (state : EvaluationState) (context : EvaluationContext) (event : EvaluationEvent) :
    Except CoreError Change := do
  let due ← reachDeadlines state context
  let change ← advanceSubarea digests key due.state context event
  let after ← reachDeadlines change.state context
  return {
    state := after.state
    signals := due.signals ++ change.signals ++ after.signals ++
      jobReleaseSignals state after.state context
    requests := due.requests ++ change.requests ++ after.requests
    events := due.events ++ change.events ++ after.events }

variable {digests : Digests} {key : MeasurementIdentity → String} {state : EvaluationState}
  {context : EvaluationContext} {reported : Option JobReport} {change : Change}
  {observation : Observation} {source : RequestRecord} {job : OwnedJob} {report : JobReport}
  {plan : MeasurementPlan} {failure : Option MeasurementFailure} {event : EvaluationEvent}

private theorem observedSource_eq_proven {later : Bool}
    (proven : observedSource digests context observation later = .proven source) :
    context.records.find observation.requestId = [source] ∧
      source.requestId = observation.requestId ∧
      heldMismatch source.observation observation later = none := by
  unfold observedSource at proven
  split at proven
  · cases proven
  · rename_i row found
    obtain ⟨-, -, proven⟩ := Verdict.andThen_eq_proven.mp proven
    obtain ⟨-, -, proven⟩ := Verdict.andThen_eq_proven.mp proven
    have named : row.requestId = observation.requestId := by
      have mem : row ∈ context.records.find observation.requestId := by
        rw [found]
        exact mem_singleton_self row
      simpa using (mem_filter.mp mem).2
    split at proven
    · rename_i refused mismatch
      rw [proven] at mismatch
      unfold heldMismatch at mismatch
      split_ifs at mismatch <;> (try split at mismatch) <;> (try split_ifs at mismatch) <;>
        cases mismatch
    · rename_i consistent
      split_ifs at proven
      cases proven
      exact ⟨found, named, consistent⟩
  · cases proven

variable {proven : OwnedJob} {asker : SubmissionAsker} {scope : Scope} {nowAt : Seconds}

theorem jobSource_eq_proven (bound : jobSource digests state context job source = .proven proven) :
    proven = job ∧ job.origin.submission = source.requestId ∧ job.scope = source.request.scope ∧
      match job.origin with
      | .measurement _ plan => source.request.body = .submitMeasurement plan
      | .registered .. => ∃ operationId wire limit inputs,
        source.request.body = .executeRegisteredOperation operationId wire limit inputs := by
  unfold jobSource at bound
  simp only at bound
  split_ifs at bound with apart
  simp only [ne_eq, Bool.or_eq_true, decide_eq_true_eq, not_or, not_not] at apart
  split at bound
  · rename_i origin body
    split_ifs at bound with same
    obtain ⟨-, -, bound⟩ := Verdict.andThen_eq_proven.mp bound
    obtain ⟨-, -, bound⟩ := Verdict.andThen_eq_proven.mp bound
    cases bound
    refine ⟨rfl, apart.1, apart.2, ?_⟩
    rw [origin]
    simp only
    rw [body, not_not.mp same]
  · cases bound
  · rename_i origin body
    obtain ⟨_, -, bound⟩ := Verdict.andThen_eq_proven.mp bound
    split_ifs at bound
    cases bound
    refine ⟨rfl, apart.1, apart.2, ?_⟩
    rw [origin]
    exact ⟨_, _, _, _, body⟩
  · cases bound

structure Incoming (job : OwnedJob) (observation : Observation) : Prop where
  names : ∃ resource, observation.resourceId = some resource ∧
    (job.resourceId = none ∨ job.resourceId = some resource)
  keepsEnd : job.observation.isSome → job.terminal →
    RequestLedger.conclusive observation

private theorem incomingJob_eq_proven (fresh : incomingJob job source report = .proven proven) :
    proven = job ∧ Incoming job report.observation ∧
      (freshObservation job.observation report.observation).isProven := by
  unfold incomingJob at fresh
  simp only at fresh
  split at fresh
  · cases fresh
  rename_i unnamed
  obtain ⟨held, later, fresh⟩ := Verdict.andThen_eq_proven.mp fresh
  split_ifs at fresh with facts sides past
  cases fresh
  have named : ∃ resource, report.observation.resourceId = some resource ∧
      (job.resourceId = none ∨ job.resourceId = some resource) := by
    cases resource : report.observation.resourceId with
    | none => simp [resource] at unnamed
    | some name =>
      refine ⟨name, rfl, ?_⟩
      cases mine : job.resourceId with
      | none => exact .inl rfl
      | some other =>
        have same : name = other := by simpa [resource, mine] using unnamed
        exact .inr (congrArg some same.symm)
  refine ⟨rfl, ⟨named, fun observed ended => ?_⟩, Verdict.isProven_iff.mpr ⟨_, later⟩⟩
  obtain ⟨last, taken⟩ := Option.isSome_iff_exists.mp observed
  simp only [taken, Option.any_some, ended, Bool.true_and, Bool.or_eq_true, not_or] at past
  simpa using past.1.2

structure ReportOwner (digests : Digests) (state : EvaluationState) (context : EvaluationContext)
    (report : JobReport) (job : OwnedJob) (source : RequestRecord) : Prop where
  recorded : context.records.find report.observation.requestId = [source]
  held : heldMismatch source.observation report.observation report.job.isLeft = none
  reported : reportedJobs state report.job = [job]
  bound : jobSource digests state context job source = .proven job
  free : resourceTaken state report.observation source.requestId = false
  incoming : Incoming job report.observation
  fresh : (freshObservation job.observation report.observation).isProven

private theorem observedOwner_eq_proven
    (proven : observedOwner digests state context report = .proven job) :
    ∃ source, ReportOwner digests state context report job source := by
  obtain ⟨source, sourced, proven⟩ := Verdict.andThen_eq_proven.mp proven
  split at proven
  · rename_i owner reported
    obtain ⟨found, bound, proven⟩ := Verdict.andThen_eq_proven.mp proven
    split_ifs at proven with taken
    obtain ⟨same, incoming, fresh⟩ := incomingJob_eq_proven proven
    have mine := (jobSource_eq_proven bound).1
    subst same
    subst mine
    obtain ⟨recorded, -, held⟩ := observedSource_eq_proven sourced
    exact ⟨source, recorded, held, reported, bound, by simpa using taken, incoming, fresh⟩
  · cases proven

structure Unobserved (job : OwnedJob) : Prop where
  observation : job.observation = none
  evidence : job.evidence = []
  running : job.terminal = false

structure Idle (old new : OwnedJob) : Prop where
  origin : new.origin = old.origin
  resourceId : new.resourceId = old.resourceId
  scope : new.scope = old.scope
  observation : new.observation = old.observation
  evidence : new.evidence = old.evidence
  kept : old.resourceId.isSome → new.status = old.status ∧ new.terminal = old.terminal ∧
    new.released = old.released
  ends : old.terminal → new.terminal

theorem Idle.refl (job : OwnedJob) : Idle job job :=
  ⟨rfl, rfl, rfl, rfl, rfl, fun _ => ⟨rfl, rfl, rfl⟩, id⟩

def Refusal (context : EvaluationContext) (result : MeasurementResult) : Prop :=
  result.evidence = [] ∧ ∃ source, context.records.find source.requestId = [source] ∧
    result.sourceRequest = some source.requestId ∧ source.request.decisionId.isSome

inductive WorkStep (digests : Digests) (context : EvaluationContext)
    (reported : Option JobReport) (state : EvaluationState) (change : Change) : Prop
  | quiet (jobs : change.state.jobs = state.jobs)
      (registered : change.state.registeredJobs = state.registeredJobs)
      (evidence : change.state.evidence = state.evidence)
      (results : ∀ result, .measurementResult result ∈ change.events →
        result.sourceRequest = none ∨ Refusal context result)
  | starts (job : OwnedJob) (source : RequestRecord) (plan : MeasurementPlan)
      (recorded : context.records.find source.requestId = [source])
      (submits : source.request.body = .submitMeasurement plan)
      (origin : job.origin = .measurement source.requestId plan)
      (unowned : ∀ other ∈ state.jobs, other.origin.submission ≠ source.requestId)
      (fresh : Unobserved job)
      (jobs : change.state.jobs = state.jobs ++ [job])
      (registered : change.state.registeredJobs = state.registeredJobs)
      (evidence : change.state.evidence = state.evidence)
      (results : ∀ result, .measurementResult result ∉ change.events)
  | registers (job : OwnedJob) (request : Request) (requestId : RequestId)
      (operationId : OperationId) (pool : PoolId) (identity : Option MeasurementIdentity)
      (named : request.requestId = some requestId)
      (executes : ∃ wire limit inputs,
        request.body = .executeRegisteredOperation operationId wire limit inputs)
      (origin : job.origin = .registered requestId operationId pool identity)
      (unowned : ∀ other ∈ state.registeredJobs, other.origin.submission ≠ requestId)
      (unnamed : job.resourceId = none)
      (fresh : Unobserved job)
      (issued : ⟨request, .inherited⟩ ∈ change.requests)
      (jobs : change.state.jobs = state.jobs)
      (registered : change.state.registeredJobs = state.registeredJobs ++ [job])
      (evidence : change.state.evidence = state.evidence)
      (results : ∀ result, .measurementResult result ∉ change.events)
  | idles (jobs : List.Forall₂ Idle state.jobs change.state.jobs)
      (registered : List.Forall₂ Idle state.registeredJobs change.state.registeredJobs)
      (evidence : change.state.evidence = state.evidence)
      (results : ∀ result, .measurementResult result ∉ change.events)
  | takes (report : JobReport) (job : OwnedJob) (source : RequestRecord)
      (claim : Option MeasurementFailure) (arrived : reported = some report)
      (owns : ReportOwner digests state context report job source)
      (new : job.observation ≠ some report.observation)
      (jobs : change.state.jobs = (withJob state job
        (takenJob context job report (storeBatch state job report).accepted)).jobs)
      (registered : change.state.registeredJobs = (withJob state job
        (takenJob context job report (storeBatch state job report).accepted)).registeredJobs)
      (evidence : change.state.evidence = (storeBatch state job report).ledger)
      (results : ∃ notices, change.events = notices ++
          resultEvents context job report (storeBatch state job report) claim ∧
        ∀ result, .measurementResult result ∉ notices)

structure WorkChange (digests : Digests) (context : EvaluationContext)
    (reported : Option JobReport) (state : EvaluationState) (change : Change) : Prop where
  waits : change.state.continuations = state.continuations
  silent : ∀ event ∈ change.events, (∃ result, event = .measurementResult result) ∨
    ∃ notice, event = .jobQueued notice
  step : WorkStep digests context reported state change

namespace WorkChange

private theorem nothing (state : EvaluationState) : WorkChange digests context reported state
    { state := state } :=
  ⟨rfl, by simp, .quiet rfl rfl rfl (by simp)⟩

section
variable (made : WorkChange digests context reported state change)

include made

private theorem republished {next : Change} (same : next.state = change.state)
    (events : next.events = change.events) (requests : change.requests ⊆ next.requests) :
    WorkChange digests context reported state next := by
  obtain ⟨after, signals, asked, published⟩ := next
  cases same
  cases events
  refine ⟨made.waits, made.silent, ?_⟩
  cases made.step with
  | quiet jobs registered evidence results => exact .quiet jobs registered evidence results
  | starts job source plan recorded submits origin unowned fresh jobs registered evidence results =>
    exact .starts job source plan recorded submits origin unowned fresh jobs registered evidence
      results
  | registers job request requestId operationId pool identity named executes origin unowned
      unnamed fresh issued jobs registered evidence results =>
    exact .registers job request requestId operationId pool identity named executes origin unowned
      unnamed fresh (requests issued) jobs registered evidence results
  | idles jobs registered evidence results => exact .idles jobs registered evidence results
  | takes report job source claim arrived owns new jobs registered evidence results =>
    exact .takes report job source claim arrived owns new jobs registered evidence results

private theorem requesting (requests : List Outbound) :
    WorkChange digests context reported state { change with requests := change.requests ++ requests } :=
  made.republished rfl rfl (subset_append_left _ _)

private theorem signalling (signals : List Signal) :
    WorkChange digests context reported state { change with signals } :=
  made.republished rfl rfl (List.Subset.refl _)

end

private theorem unnamed (waits : change.state.continuations = state.continuations)
    (jobs : change.state.jobs = state.jobs)
    (registered : change.state.registeredJobs = state.registeredJobs)
    (evidence : change.state.evidence = state.evidence)
    (results : ∀ event ∈ change.events, ∃ result, event = .measurementResult result ∧
      result.sourceRequest = none) : WorkChange digests context reported state change := by
  refine ⟨waits, fun event mem => ?_, .quiet jobs registered evidence fun result mem => ?_⟩
  · obtain ⟨result, same, -⟩ := results event mem
    exact .inl ⟨result, same⟩
  · obtain ⟨other, same, unnamed⟩ := results _ mem
    cases same
    exact .inl unnamed

end WorkChange

private theorem rejected_work (scope : Scope) (failure : Option MeasurementFailure) :
    WorkChange digests context reported state (rejected state scope failure) :=
  .unnamed rfl rfl rfl rfl (by simp [rejected])

private theorem allocate_work {budget : Option SubmissionBudget} :
    WorkChange digests context reported state (allocate key state context asker plan budget) := by
  unfold allocate
  simp only
  split
  · split
    · exact rejected_work _ _
    · exact .unnamed rfl rfl rfl rfl (by simp)
  · exact rejected_work _ _

private theorem admitPlan_work {identity : MeasurementIdentity} :
    WorkChange digests context reported state
      (admitPlan digests key state context asker plan identity) := by
  unfold admitPlan
  simp only
  split
  · exact rejected_work _ _
  · exact allocate_work

private theorem measurementRequested_work {asked : MeasurementPlan} :
    WorkChange digests context reported state
      (measurementRequested digests key state context scope asked) := by
  unfold measurementRequested
  split
  · split
    · simp only
      split
      · exact .unnamed rfl rfl rfl rfl (by simp)
      · split
        · exact .nothing state
        · exact admitPlan_work
    · exact rejected_work _ _
  · exact rejected_work _ _

private theorem recorded_work {call : AgentCall}
    (waits : change.state.continuations = state.continuations)
    (jobs : change.state.jobs = state.jobs)
    (registered : change.state.registeredJobs = state.registeredJobs)
    (evidence : change.state.evidence = state.evidence) :
    WorkChange digests context reported state (recorded change call) :=
  .unnamed waits jobs registered evidence (by simp [recorded])

private theorem admitPlan_frame (digests : Digests) (key : MeasurementIdentity → String)
    (state : EvaluationState) (context : EvaluationContext) (asker : SubmissionAsker)
    (plan : MeasurementPlan) (identity : MeasurementIdentity) : ∃ budgets,
      (admitPlan digests key state context asker plan identity).state =
        { state with submissionBudgets := budgets } := by
  unfold admitPlan
  simp only
  split
  · exact ⟨state.submissionBudgets, rfl⟩
  unfold allocate
  simp only
  split
  · split
    · exact ⟨state.submissionBudgets, rfl⟩
    · exact ⟨_, rfl⟩
  · exact ⟨state.submissionBudgets, rfl⟩

private theorem agentMeasurementRequested_work {limit : Within} {callId : String}
    (ran : agentMeasurementRequested digests key state context scope plan limit callId = .ok change) :
    WorkChange digests context reported state change := by
  unfold agentMeasurementRequested at ran
  simp only at ran
  split at ran
  · cases ran
    exact .nothing state
  split at ran
  · cases ran
    exact recorded_work rfl rfl rfl rfl
  split at ran
  · cases ran
    exact recorded_work rfl rfl rfl rfl
  split at ran
  · split at ran
    · cases ran
      exact recorded_work rfl rfl rfl rfl
    split at ran
    · cases ran
      exact recorded_work rfl rfl rfl rfl
    · obtain ⟨deadline, -, rfl⟩ := map_ok ran
      obtain ⟨budgets, same⟩ := admitPlan_frame digests key state context _ plan _
      exact recorded_work (by rw [same]) (by rw [same]) (by rw [same]) (by rw [same])
  · cases ran
    exact recorded_work rfl rfl rfl rfl

private theorem submissionJob_work {budgets : List SubmissionBudget}
    (recorded : context.records.find source.requestId = [source])
    (named : source.requestId = observation.requestId)
    (submits : source.request.body = .submitMeasurement plan) :
    WorkChange digests context reported state (submissionJob { state with submissionBudgets := budgets }
      context observation failure source plan) := by
  unfold submissionJob
  simp only
  split
  · rename_i accepted
    simp only [Bool.and_eq_true, Bool.not_eq_true', any_eq_false, decide_eq_true_eq]
      at accepted
    refine ⟨rfl, by simp, .starts _ source plan recorded submits rfl accepted.1.1 ⟨rfl, rfl, rfl⟩
      rfl rfl rfl (by simp)⟩
  · split
    · rename_i refused
      simp only [Bool.and_eq_true] at refused
      refine ⟨rfl, by simp, .quiet rfl rfl rfl fun result mem => .inr ?_⟩
      simp only [mem_singleton, StrategyEvent.measurementResult.injEq] at mem
      subst mem
      exact ⟨rfl, source, recorded, congrArg some named.symm, refused.2⟩
    · exact ⟨rfl, by simp, .quiet rfl rfl rfl (by simp)⟩

private theorem submissionReceipted_work : WorkChange digests context reported state
      (submissionReceipted digests state context observation failure) := by
  unfold submissionReceipted
  split
  · rename_i source sourced
    obtain ⟨found, named, -⟩ := observedSource_eq_proven sourced
    rw [← named] at found
    split
    · rename_i plan submits
      split
      · exact .nothing state
      split
      · split
        · exact submissionJob_work found named submits
        · exact .nothing state
      · exact .nothing state
    · exact .nothing state
  · exact .nothing state

private theorem submissionObserved_work
    (ran : submissionObserved digests state context observation failure = .ok change) :
    WorkChange digests context reported state change := by
  have made : WorkChange digests context reported state
    (submissionReceipted digests state context observation failure) := submissionReceipted_work
  unfold submissionObserved at ran
  simp only at ran
  split at ran
  · split at ran
    · split at ran
      · cases ran
        exact made
      split at ran
      · obtain ⟨history, -, ran⟩ := bind_ok ran
        cases ran
        exact made.signalling _
      · obtain ⟨history, -, ran⟩ := bind_ok ran
        cases ran
        exact made.signalling _
    · cases ran
      exact made
  · cases ran
    exact made

private theorem registeredRequested_work {request : Request} {pool : PoolId}
    {expected : Option MeasurementIdentity} : WorkChange digests context reported state
      (registeredRequested digests state context request pool expected) := by
  unfold registeredRequested
  split
  · rename_i operation _ operationId wire limit inputs requestId _ _ executes named
    simp only
    split
    · exact rejected_work _ _
    split
    · rename_i unregistered
      have unowned : ∀ other ∈ state.registeredJobs, other.origin.submission ≠ requestId := by
        intro other mem same
        have kept : other ∈ [] := by
          rw [← unregistered]
          exact mem_filter.mpr ⟨mem, by simp [same]⟩
        cases kept
      have registers : ∀ budgets, WorkChange digests context reported state
          { state := { state with
              registeredJobs := state.registeredJobs ++ [
                { origin := .registered requestId operationId pool
                    operation.command.registeredMeasurement
                  resourceId := none
                  scope := request.scope
                  wait := some { requests := [requestId] } }]
              submissionBudgets := budgets }
            requests := [⟨request, .inherited⟩] } := fun budgets =>
        ⟨rfl, by simp, .registers _ request requestId operationId pool
          operation.command.registeredMeasurement named ⟨_, _, _, executes⟩ rfl unowned rfl
          ⟨rfl, rfl, rfl⟩ mem_cons_self rfl rfl rfl (by simp)⟩
      split
      · exact registers _
      · split
        · exact rejected_work _ _
        · exact registers _
    · split
      · exact .nothing state
      · exact rejected_work _ _
    · exact rejected_work _ _
  · exact rejected_work _ _

private theorem jobBudget_frame (digests : Digests) (state : EvaluationState)
    (context : EvaluationContext)
    (job : OwnedJob) (claim : Option MeasurementFailure) : ∃ budgets,
      jobBudget digests state context job claim = { state with submissionBudgets := budgets } := by
  unfold jobBudget
  split
  · split
    · simp only
      split
      · exact ⟨_, rfl⟩
      · exact ⟨state.submissionBudgets, rfl⟩
    · exact ⟨state.submissionBudgets, rfl⟩
  · exact ⟨state.submissionBudgets, rfl⟩

private theorem withJob_waits (old new : OwnedJob) :
    (withJob state old new).continuations = state.continuations := by
  unfold withJob
  split <;> rfl

private theorem queuedNotice_notices {updated : OwnedJob} {event : StrategyEvent}
    (mem : event ∈ queuedNotice updated job context) : ∃ notice, event = .jobQueued notice := by
  unfold queuedNotice at mem
  simp only at mem
  split at mem
  · cases mem
  · split at mem
    · cases mem
    · exact ⟨_, mem_singleton.mp mem⟩

private theorem resultEvents_results {batch : EvidenceBatch} {claim : Option MeasurementFailure}
    {event : StrategyEvent} (mem : event ∈ resultEvents context job report batch claim) :
    ∃ result, event = .measurementResult result := by
  unfold resultEvents at mem
  simp only at mem
  split at mem
  · cases mem
  split at mem
  · exact ⟨_, mem_singleton.mp mem⟩
  · split at mem
    · exact ⟨_, mem_singleton.mp mem⟩
    · cases mem

private theorem jobObserved_work (ran : jobObserved digests state context report = .ok change) :
    WorkChange digests context (some report) state change := by
  unfold jobObserved at ran
  split at ran
  · rename_i job owned
    obtain ⟨source, owns⟩ := observedOwner_eq_proven owned
    simp only at ran
    split at ran
    · cases ran
      exact .nothing state
    rename_i new
    split at ran
    · cases ran
      exact .nothing state
    obtain ⟨requests, -, ran⟩ := bind_ok ran
    obtain ⟨signals, -, ran⟩ := bind_ok ran
    cases ran
    obtain ⟨budgets, same⟩ := jobBudget_frame digests
      { withJob state job (takenJob context job report (storeBatch state job report).accepted)
        with evidence := (storeBatch state job report).ledger } context
      (takenJob context job report (storeBatch state job report).accepted)
      (canonicalFailure report.observation report.failure
        report.facts.evaluationResult.isSome)
    refine ⟨?_, fun event mem => ?_, .takes report job source _ rfl owns new ?_ ?_ ?_
      ⟨_, rfl, fun result mem => ?_⟩⟩
    · rw [same]
      exact withJob_waits _ _
    · rcases mem_append.mp mem with notice | result
      · exact .inr (queuedNotice_notices notice)
      · exact .inl (resultEvents_results result)
    · rw [same]
    · rw [same]
    · rw [same]
    · obtain ⟨notice, different⟩ := queuedNotice_notices mem
      cases different
  · cases ran
    exact .nothing state

private theorem releasePoll_idle {sent : OwnedJob × List Outbound}
    (ran : releasePoll context nowAt job = .ok sent) : Idle job sent.1 := by
  unfold releasePoll at ran
  split at ran
  · cases ran
    exact .refl job
  split at ran
  · cases ran
    exact .refl job
  · obtain ⟨poll, -, rfl⟩ := map_ok ran
    exact ⟨rfl, rfl, rfl, rfl, rfl, fun _ => ⟨rfl, rfl, rfl⟩, id⟩

private theorem wokenJob_idle (owner requestId : RequestId) (job : OwnedJob) :
    Idle job (wokenJob context owner requestId job) := by
  unfold wokenJob
  split
  · split
    · exact .refl job
    · split
      · exact ⟨rfl, rfl, rfl, rfl, rfl, fun _ => ⟨rfl, rfl, rfl⟩, id⟩
      · rename_i unnamed
        exact ⟨rfl, rfl, rfl, rfl, rfl, fun named => absurd named unnamed, fun _ => rfl⟩
  · exact .refl job

private theorem pollDue_work (ran : pollDue state context nowAt = .ok change) :
    WorkChange digests context reported state change := by
  unfold pollDue at ran
  split at ran
  · cases ran
    exact .nothing state
  obtain ⟨jobs, polled, ran⟩ := bind_ok ran
  obtain ⟨registered, polledToo, ran⟩ := bind_ok ran
  cases ran
  have idle : ∀ {rows : List OwnedJob} {sent : List (OwnedJob × List Outbound)},
      rows.mapM (releasePoll context nowAt) = .ok sent →
        List.Forall₂ Idle rows (sent.map (·.1)) := by
    intro rows sent mapped
    rw [forall₂_map_right_iff]
    exact forall₂_of_mapM (fun _ _ => releasePoll_idle) mapped
  exact ⟨rfl, by simp, .idles (idle polled) (idle polledToo) rfl (by simp)⟩

private theorem waitLapsed_work {owner requestId : RequestId} :
    WorkChange digests context reported state (waitLapsed state context owner requestId) := by
  have idle : ∀ rows : List OwnedJob,
      List.Forall₂ Idle rows (rows.map (wokenJob context owner requestId)) := by
    intro rows
    rw [forall₂_map_right_iff]
    exact forall₂_same.mpr fun job _ => wokenJob_idle owner requestId job
  exact ⟨rfl, by simp [waitLapsed], .idles (idle _) (idle _) rfl (by simp [waitLapsed])⟩

/-! ## The subarea and the area -/

private theorem cancelledAfterStop_eq_ok {first : Change}
    (ran : cancelledAfterStop digests first context = .ok change) :
    ∃ requests, change = { first with requests := first.requests ++ requests } := by
  unfold cancelledAfterStop at ran
  split at ran
  · cases ran
    exact ⟨[], by simp⟩
  · obtain ⟨requests, -, rfl⟩ := map_ok ran
    exact ⟨requests, rfl⟩

theorem WorkChange.asking (requests : List Outbound) :
    WorkChange digests context reported state { state := state, requests } :=
  (WorkChange.nothing state).requesting requests

def reportOf : EvaluationEvent → Option JobReport
  | .jobObserved resource observation facts failure =>
    some ⟨.inl resource, observation, facts, failure⟩
  | .registeredJobObserved operationId observation facts =>
    some ⟨.inr operationId, observation, facts, none⟩
  | _ => none

theorem advanceMeasurements_work
    (ran : advanceMeasurements digests key state context event = .ok change) :
    WorkChange digests context (reportOf event) state change := by
  have afterStop : ∀ {reported : Option JobReport} {first : Change},
      WorkChange digests context reported state first →
        cancelledAfterStop digests first context = .ok change →
          WorkChange digests context reported state change := by
    intro reported first made cancelled
    obtain ⟨requests, rfl⟩ := cancelledAfterStop_eq_ok cancelled
    exact made.requesting requests
  cases event with
  | measurementRequested scope plan =>
    cases ran
    exact measurementRequested_work
  | agentMeasurementRequested scope plan limit callId => exact agentMeasurementRequested_work ran
  | measurementSubmissionObserved observation failure =>
    obtain ⟨first, observed, ran⟩ := bind_ok ran
    exact afterStop (submissionObserved_work observed) ran
  | registeredJobRequested request pool expected =>
    cases ran
    exact registeredRequested_work
  | jobObserved resource observation facts failure
  | registeredJobObserved operationId observation facts =>
    obtain ⟨first, observed, ran⟩ := bind_ok ran
    exact afterStop (jobObserved_work observed) ran
  | observationsDue nowAt =>
    obtain ⟨first, polled, ran⟩ := bind_ok ran
    exact afterStop (pollDue_work polled) ran
  | jobWaitLapsed owner requestId => exact afterStop waitLapsed_work ran
  | jobTerminationRequested resource cause =>
    obtain ⟨requests, -, rfl⟩ := map_ok ran
    exact .asking requests
  | jobsDrainRequested scope authority disposition =>
    simp only [advanceMeasurements, drain] at ran
    split at ran
    · split at ran
      · cases ran
        exact .nothing state
      · obtain ⟨requests, -, rfl⟩ := map_ok ran
        exact .asking requests
    · cases ran
      exact .nothing state
  | runJobsCancelRequested scope authority =>
    simp only [advanceMeasurements, runJobsCancel] at ran
    split at ran
    · cases ran
      exact .nothing state
    · obtain ⟨requests, -, rfl⟩ := map_ok ran
      exact .asking requests
  | _ => cases ran

theorem advanceSubarea_cases (distinct : Distinct (·.continuationId) state.continuations)
    (ran : advanceSubarea digests key state context event = .ok change) :
    WaitChange context state change ∨
      advanceMeasurements digests key state context event = .ok change := by
  unfold advanceSubarea at ran
  split at ran
  all_goals first
    | exact .inl (advanceContinuations_waits distinct ran)
    | exact .inr ran

theorem advanceEvaluation_eq_ok
    (ran : advanceEvaluation digests key state context event = .ok change) :
    ∃ due middle after, WaitChange context state due ∧
      advanceSubarea digests key due.state context event = .ok middle ∧
      WaitChange context middle.state after ∧ change.state = after.state ∧
      change.requests = due.requests ++ middle.requests ++ after.requests ∧
      change.events = due.events ++ middle.events ++ after.events := by
  obtain ⟨due, first, ran⟩ := bind_ok ran
  obtain ⟨middle, own, ran⟩ := bind_ok ran
  obtain ⟨after, last, ran⟩ := bind_ok ran
  cases ran
  exact ⟨due, middle, after, reachDeadlines_waits first, own, reachDeadlines_waits last, rfl, rfl,
    rfl⟩

end VibeServeCore.Evaluation
