/- source: _measurements.py
   digest: The published results of a job, together, are its accepted evidence in order. -/

import VibeServeCore.Evaluation.Evidence
import VibeServeCore.Records.Finality

namespace VibeServeCore.Evaluation

open Types Proofs Foundation.Process List Foundation.Ledger
open Records (sampleDigests sampleRun sampleScope)
open RequestLedger (conclusive)

variable {digests : Digests} {key : MeasurementIdentity → String} {state : EvaluationState}
  {context : EvaluationContext} {reported : Option JobReport} {change : Change} {job : OwnedJob}
  {report : JobReport} {history : List EvaluationLabel} {committed : RequestId → Request}

def evidenceNamed (requestId : RequestId) (published : List MeasurementResult) :
    List EvidenceRef :=
  (published.filter fun result => result.sourceRequest = some requestId).flatMap (·.evidence)

/-- The results a history published. -/
def publishedBy (history : List EvaluationLabel) : List MeasurementResult :=
  history.flatMap fun label => results label.2.events

private theorem publishedBy_concat (label : EvaluationLabel) :
    publishedBy (history ++ [label]) = publishedBy history ++ results label.2.events := by
  simp [publishedBy]

private theorem evidenceNamed_append (requestId : RequestId)
    (first second : List MeasurementResult) :
    evidenceNamed requestId (first ++ second) =
      evidenceNamed requestId first ++ evidenceNamed requestId second := by
  simp [evidenceNamed]

private theorem evidenceNamed_eq_nil {requestId : RequestId} {published : List MeasurementResult}
    (each : ∀ result ∈ published, result.sourceRequest ≠ some requestId ∨ result.evidence = []) :
    evidenceNamed requestId published = [] := by
  unfold evidenceNamed
  rw [flatMap_eq_nil_iff]
  intro result mem
  obtain ⟨listed, named⟩ := mem_filter.mp mem
  exact (each result listed).resolve_left (not_not.mpr (by simpa using named))

section
variable (committed : RequestId → Request)

/-- An agent submitted the measurement. -/
def Agent (requestId : RequestId) : Prop :=
  (committed requestId).decisionId = none ∧
    ∃ plan, (committed requestId).body = .submitMeasurement plan

/-- The job's results go to the strategy. -/
def Reported (job : OwnedJob) : Prop :=
  match job.origin with
  | .registered .. => True
  | .measurement submission _ => ¬Agent committed submission

def Sourced (job : OwnedJob) : Prop :=
  match job.origin with
  | .measurement submission _ => ∃ plan, (committed submission).body = .submitMeasurement plan
  | .registered submission .. => ∃ operationId wire limit inputs,
    (committed submission).body = .executeRegisteredOperation operationId wire limit inputs

/-- The step's ledger keeps each request under its identity. -/
structure Commits (label : EvaluationLabel) : Prop where
  holds : ∀ context event, label.1 = .event context event → ∀ requestId row,
    context.records.find requestId = [row] → row.request = committed requestId
  takes : ∀ outbound ∈ label.2.requests, ∀ requestId, outbound.request.requestId = some requestId →
    (committed requestId).body = outbound.request.body

end

theorem Sourced.moved {old new : OwnedJob} (sourced : Sourced committed old)
    (origin : new.origin = old.origin) : Sourced committed new := by
  unfold Sourced
  rw [origin]
  exact sourced

theorem Sourced.jobKey_eq {first second : OwnedJob} (left : Sourced committed first)
    (right : Sourced committed second) (same : first.origin.submission = second.origin.submission) :
    jobKey first = jobKey second := by
  unfold Sourced at left right
  unfold jobKey
  cases one : first.origin with
  | measurement submission plan =>
    cases two : second.origin with
    | measurement other _ =>
      rw [one, two] at same
      exact congrArg (Prod.mk true) same
    | registered other _ _ _ =>
      rw [one, two] at same
      rw [one] at left
      rw [two] at right
      obtain ⟨_, submits⟩ := left
      obtain ⟨_, _, _, _, executes⟩ := right
      cases same
      cases submits.symm.trans executes
  | registered submission _ _ _ =>
    cases two : second.origin with
    | measurement other _ =>
      rw [one, two] at same
      rw [one] at left
      rw [two] at right
      obtain ⟨_, _, _, _, executes⟩ := left
      obtain ⟨_, submits⟩ := right
      cases same
      cases submits.symm.trans executes
    | registered other _ _ _ =>
      rw [one, two] at same
      exact congrArg (Prod.mk false) same

theorem Reported.not_agent (mine : Reported committed job) (sourced : Sourced committed job) :
    ¬Agent committed job.origin.submission := by
  intro agent
  unfold Reported at mine
  unfold Sourced at sourced
  cases origin : job.origin with
  | measurement submission plan =>
    rw [origin] at mine agent
    exact mine agent
  | registered submission _ _ _ =>
    rw [origin] at sourced agent
    obtain ⟨_, _, _, _, executes⟩ := sourced
    obtain ⟨-, plan, submits⟩ := agent
    cases submits.symm.trans executes

/-- The code's own test: a submitted job is reported unless an agent submitted it. -/
theorem reportedToStrategy_iff {source : RequestRecord}
    (recorded : context.records.find job.origin.submission = [source])
    (holds : source.request = committed job.origin.submission) :
    reportedToStrategy context job ↔ Reported committed job := by
  have found : context.records.record job.origin.submission = some source := by
    unfold RecordsState.record
    rw [← head?_filter]
    exact congrArg List.head? recorded
  unfold reportedToStrategy Reported Agent
  cases origin : job.origin with
  | registered submission _ _ _ => simp
  | measurement submission plan =>
    rw [origin] at found holds
    simp only [JobOrigin.submission] at found holds
    simp only [found, Option.any_some, Bool.not_eq_true', ← holds]
    constructor
    · rintro reported ⟨undecided, asked, body⟩
      simp [body, undecided] at reported
    intro reported
    split
    · rename_i asked body
      simp only [Option.isNone_eq_false_iff]
      by_contra undecided
      exact reported ⟨by simpa using undecided, asked, body⟩
    · rfl

variable {claim : Option MeasurementFailure} {after : EvaluationState} {label : EvaluationLabel}

private theorem resultEvents_named {batch : EvidenceBatch} {result : MeasurementResult}
    (mem : result ∈ results (resultEvents context job report batch claim)) :
    reportedToStrategy context job ∧
      result.sourceRequest = some job.origin.submission := by
  have listed := mem_results.mp mem
  unfold resultEvents at listed
  simp only at listed
  split at listed
  · cases listed
  rename_i inside
  simp only [Bool.or_eq_true, Bool.not_eq_true', not_or, Bool.not_eq_false] at inside
  refine ⟨inside.2, ?_⟩
  split at listed
  · cases mem_singleton.mp listed
    rfl
  · split at listed
    · cases mem_singleton.mp listed
      rfl
    · cases listed

private theorem resultEvents_evidence {batch : EvidenceBatch} {ledger : List EvidenceRef}
    (stored : Stored state job report batch) (row : RowKept history ledger job)
    (strategic : reportedToStrategy context job) :
    job.evidence ++ evidenceNamed job.origin.submission
      (results (resultEvents context job report batch claim)) = batch.accepted := by
  obtain ⟨new, same, fresh⟩ := stored.accepted
  have newly : batch.accepted.filter (· ∉ job.evidence) = new := by
    rw [same, filter_append, filter_eq_nil_iff.mpr (by simp), nil_append,
      filter_eq_self.mpr fun item mem => by simpa using (fresh item mem).1]
  unfold resultEvents
  simp only [strategic]
  by_cases final : conclusive report.observation
  · simp only [final, Bool.not_true, Bool.or_self, Bool.false_eq_true, if_false]
    by_cases ended : job.observation.any conclusive
    · simp only [ended, Bool.not_true, Bool.false_eq_true, if_false, newly]
      by_cases more : (!new.isEmpty || batch.refused)
      · rw [if_pos more, same]
        simp [results, evidenceNamed, publishedResult]
      · rw [if_neg more, same]
        simp only [Bool.or_eq_true, Bool.not_eq_true', not_or, Bool.not_eq_false] at more
        rw [List.isEmpty_iff.mp more.1]
        simp [results, evidenceNamed]
    · have empty : job.evidence = [] := row.silent (by simpa using ended)
      simp [ended, empty, results, evidenceNamed, publishedResult]
  · have open_ : conclusive report.observation = false := by simpa using final
    rw [stored.open_ open_]
    simp [open_, results, evidenceNamed]

structure Matches (committed : RequestId → Request) (history : List EvaluationLabel)
    (state : EvaluationState) : Prop where
  sourced : ∀ job ∈ state.allJobs, Sourced committed job
  reported : ∀ job ∈ state.allJobs, Reported committed job →
    evidenceNamed job.origin.submission (publishedBy history) = job.evidence
  agents : ∀ requestId, Agent committed requestId → ∀ result ∈ publishedBy history,
    result.sourceRequest ≠ some requestId
  unowned : ∀ requestId, (∀ job ∈ state.allJobs, job.origin.submission ≠ requestId) →
    evidenceNamed requestId (publishedBy history) = []

theorem Matches.same (matched : Matches committed history state)
    (jobs : after.allJobs = state.allJobs) : Matches committed history after := by
  refine ⟨?_, ?_, matched.agents, ?_⟩ <;> rw [jobs]
  · exact matched.sourced
  · exact matched.reported
  · exact matched.unowned

theorem Matches.quietly (matched : Matches committed history state)
    (commits : Commits committed label) {event : EvaluationEvent}
    (input : label.1 = .event context event) (quiet : Quietly context state change)
    (spoken : results label.2.events = results change.events)
    (issued : ∀ outbound ∈ change.requests, outbound ∈ label.2.requests) :
    Matches committed (history ++ [label]) change.state := by
  have holds := commits.holds context event input
  have silent : ∀ result ∈ results label.2.events, result.sourceRequest = none ∨
      result.evidence = [] ∧ ∀ requestId, Agent committed requestId →
        result.sourceRequest ≠ some requestId := by
    intro result mem
    rw [spoken] at mem
    refine (quiet.results result (mem_results.mp mem)).imp_right fun refusal => ?_
    obtain ⟨empty, source, recorded, named, decided⟩ := refusal
    refine ⟨empty, fun requestId agent same => ?_⟩
    rw [named] at same
    cases same
    have undecided := agent.1
    rw [← holds _ _ recorded] at undecided
    rw [undecided] at decided
    cases decided
  have started : ∀ {new}, Started context state change new → Sourced committed new := by
    intro new started
    unfold Sourced
    rcases started.cause with ⟨source, plan, recorded, submits, origin⟩ | ⟨outbound, asked,
      requestId, operationId, pool, identity, wire, limit, inputs, named, body, origin⟩
    · rw [origin]
      exact ⟨plan, by rw [← holds _ _ recorded]; exact submits⟩
    · rw [origin]
      exact ⟨operationId, wire, limit, inputs, by
        rw [commits.takes _ (issued _ asked) requestId named]; exact body⟩
  have unchanged : ∀ requestId, evidenceNamed requestId (publishedBy (history ++ [label])) =
      evidenceNamed requestId (publishedBy history) := by
    intro requestId
    have nothing : evidenceNamed requestId (results label.2.events) = [] := by
      refine evidenceNamed_eq_nil fun result mem => ?_
      rcases silent result mem with unnamed | ⟨empty, -⟩
      · exact .inl (by rw [unnamed]; exact nofun)
      · exact .inr empty
    rw [publishedBy_concat, evidenceNamed_append, nothing, append_nil]
  refine ⟨fun new mem => ?_, fun new mem mine => ?_, fun requestId agent result mem => ?_,
    fun requestId absent => ?_⟩
  · rcases quiet.rows new mem with added | ⟨old, listed, idle⟩
    · exact started added
    · exact (matched.sourced old listed).moved idle.origin
  · rw [unchanged]
    rcases quiet.rows new mem with added | ⟨old, listed, idle⟩
    · rw [added.fresh.evidence]
      exact matched.unowned _ fun old listed same =>
        added.apart old listed ((matched.sourced old listed).jobKey_eq (started added) same)
    · have mineToo : Reported committed old := by
        unfold Reported at mine ⊢
        rw [← idle.origin]
        exact mine
      rw [idle.evidence, idle.origin]
      exact matched.reported old listed mineToo
  · rw [publishedBy_concat] at mem
    rcases mem_append.mp mem with before | now
    · exact matched.agents requestId agent result before
    · rcases silent result now with unnamed | ⟨-, apart⟩
      · rw [unnamed]
        exact nofun
      · exact apart requestId agent
  · rw [unchanged]
    refine matched.unowned requestId fun old listed same => ?_
    obtain ⟨new, inside, idle⟩ := quiet.known old listed
    exact absent new inside (by rw [idle.origin]; exact same)

theorem Matches.takes {source : RequestRecord} (matched : Matches committed history state)
    (kept : Kept history state) (taken : Takes digests context state change report job source)
    (holds : source.request = committed source.requestId)
    (spoken : results label.2.events = results change.events) :
    Matches committed (history ++ [label]) change.state := by
  obtain ⟨owns, jobs, -, claim, notices, published, quiet⟩ := taken
  have row := kept.rows job owns.member
  have stored : Stored state job report (storeBatch state job report) :=
    storeBatch_stored kept.keys fun evidence mem => (row.retained evidence mem).1
  generalize storeBatch state job report = batch at jobs published stored
  obtain ⟨sourceNamed, jobNamed⟩ := owns.named
  have strategic : reportedToStrategy context job ↔ Reported committed job :=
    reportedToStrategy_iff (by rw [jobNamed]; exact owns.recorded)
      (by rw [jobNamed, ← sourceNamed]; exact holds)
  have said : results label.2.events = results (resultEvents context job report batch claim) := by
    rw [spoken, published, results_append, results_eq_nil quiet, nil_append]
  have others : ∀ requestId, requestId ≠ job.origin.submission →
      evidenceNamed requestId (publishedBy (history ++ [label])) =
        evidenceNamed requestId (publishedBy history) := by
    intro requestId different
    have nothing : evidenceNamed requestId
        (results (resultEvents context job report batch claim)) = [] := by
      refine evidenceNamed_eq_nil fun result mem => .inl ?_
      rw [(resultEvents_named mem).2]
      exact fun same => different (Option.some.inj same).symm
    rw [publishedBy_concat, evidenceNamed_append, said, nothing, append_nil]
  -- A row is the taken job's, or has another submission: a submission started one job only.
  have apart : ∀ old ∈ state.allJobs, old ≠ job →
      old.origin.submission ≠ job.origin.submission := by
    intro old listed different same
    exact different (kept.filed.distinct.eq_of_key listed owns.member
      ((matched.sourced old listed).jobKey_eq (matched.sourced job owns.member) same))
  refine ⟨fun new mem => ?_, fun new mem mine => ?_, fun requestId agent result mem => ?_,
    fun requestId absent => ?_⟩
  · rw [jobs] at mem
    obtain ⟨old, listed, rfl⟩ := mem_map.mp mem
    split
    · exact (matched.sourced job owns.member).moved (takenJob_origin report _)
    · exact matched.sourced old listed
  · rw [jobs] at mem
    obtain ⟨old, listed, rfl⟩ := mem_map.mp mem
    split at mine
    · rename_i equal
      rw [if_pos equal, takenJob_origin]
      have mineToo : Reported committed job := by
        unfold Reported at mine ⊢
        rw [takenJob_origin] at mine
        exact mine
      rw [publishedBy_concat, evidenceNamed_append, matched.reported job owns.member mineToo, said]
      exact resultEvents_evidence stored row (strategic.mpr mineToo)
    · rename_i different
      rw [if_neg different, others _ (apart old listed different)]
      exact matched.reported old listed mine
  · rw [publishedBy_concat] at mem
    rcases mem_append.mp mem with before | now
    · exact matched.agents requestId agent result before
    rw [said] at now
    obtain ⟨told, named⟩ := resultEvents_named now
    rw [named]
    rintro same
    cases same
    exact (strategic.mp told).not_agent (matched.sourced job owns.member) agent
  · have different : requestId ≠ job.origin.submission := by
      rintro rfl
      refine absent (takenJob context job report batch.accepted) ?_ ?_
      · rw [jobs]
        exact mem_map.mpr ⟨job, owns.member, if_pos rfl⟩
      · rw [takenJob_origin]
    rw [others requestId different]
    refine matched.unowned requestId fun old listed same => ?_
    have distinct : old ≠ job := by
      rintro rfl
      exact different same.symm
    refine absent old ?_ same
    rw [jobs]
    exact mem_map.mpr ⟨old, listed, if_neg distinct⟩

theorem WorkStep.matches {event : EvaluationEvent}
    (step : WorkStep digests context reported state change) (kept : Kept history state)
    (matched : Matches committed history state) (commits : Commits committed label)
    (input : label.1 = .event context event)
    (spoken : results label.2.events = results change.events)
    (issued : ∀ outbound ∈ change.requests, outbound ∈ label.2.requests) :
    Matches committed (history ++ [label]) change.state := by
  rcases step.table kept.filed with quiet | ⟨report, job, source, -, takes⟩
  · exact matched.quietly commits input quiet spoken issued
  refine matched.takes kept takes ?_ spoken
  rw [takes.owns.named.1]
  exact commits.holds context event input _ _ takes.owns.recorded

theorem Matches.advance (matched : Matches committed history state) (kept : Kept history state)
    (distinct : Distinct (·.continuationId) state.continuations)
    (ran : advanceInput digests key state label.1 = .ok label.2)
    (commits : Commits committed label) : Matches committed (history ++ [label]) label.2.state := by
  rcases advanceInput_cases distinct ran with waits | ⟨context, event, before, middle, same, step⟩
  · have silent : publishedBy (history ++ [label]) = publishedBy history := by
      rw [publishedBy_concat, waits.results, append_nil]
    have still := matched.same waits.work.allJobs
    exact ⟨still.sourced, by rw [silent]; exact still.reported,
      by rw [silent]; exact still.agents, by rw [silent]; exact still.unowned⟩
  · obtain ⟨first, last, asked, -⟩ := step.requests
    have own := (advanceMeasurements_work step.ran).step.matches (kept.same step.due)
      (matched.same step.due.allJobs) commits same step.results fun outbound mem => by
        rw [asked]
        exact mem_append_left _ (mem_append_right _ mem)
    exact own.same step.after.allJobs

private theorem run_keeps {base labels : List EvaluationLabel} {first last : EvaluationState}
    (run : EvaluationRun digests key first labels last) (kept : Kept base first)
    (distinct : Distinct (·.continuationId) first.continuations) :
    Kept (base ++ labels) last ∧ Distinct (·.continuationId) last.continuations ∧
      first.evidence <+: last.evidence := by
  refine run.history (fun labels state => Kept (base ++ labels) state ∧
      Distinct (·.continuationId) state.continuations ∧ first.evidence <+: state.evidence)
    (fun {labels state label next} held step => ?_)
    ⟨by rw [append_nil]; exact kept, distinct, prefix_rfl⟩
  obtain ⟨kept, distinct, grown⟩ := held
  obtain ⟨ran, rfl⟩ := step
  rw [← append_assoc]
  exact ⟨kept.advance distinct ran, advanceInput_distinct distinct ran,
    grown.trans (advanceInput_evidence kept distinct ran)⟩

theorem Kept.empty : Kept [] {} := ⟨.empty, nodup_nil, by simp, by simp [EvaluationState.allJobs]⟩

private theorem run_matches {labels : List EvaluationLabel} {last : EvaluationState}
    (run : EvaluationRun digests key {} labels last)
    (commits : ∀ label ∈ labels, Commits committed label) : Matches committed labels last := by
  have initial : Matches committed [] {} :=
    ⟨by simp [EvaluationState.allJobs], by simp [EvaluationState.allJobs], by simp [publishedBy],
      by simp [publishedBy, evidenceNamed]⟩
  have done := run.history (fun labels state => Kept labels state ∧
      Distinct (·.continuationId) state.continuations ∧
      ((∀ label ∈ labels, Commits committed label) → Matches committed labels state))
    (fun {labels state label next} held step => ?_)
    ⟨.empty, nodup_nil, fun _ => initial⟩
  · exact done.2.2 commits
  · obtain ⟨kept, distinct, matched⟩ := held
    obtain ⟨ran, rfl⟩ := step
    refine ⟨kept.advance distinct ran, advanceInput_distinct distinct ran, fun every => ?_⟩
    have before := matched fun old mem => every old (mem_append_left _ mem)
    exact before.advance kept distinct ran
      (every label (mem_append_right _ mem_cons_self))

/-- Records have unique keys, are sound and never change, and a job's evidence is published in order
and once, unless an agent submitted it. -/
theorem evidence_sound_and_published_once (digests : Digests) (key : MeasurementIdentity → String)
    {before after : List EvaluationLabel} {first last : EvaluationState}
    (earlier : EvaluationRun digests key {} before first)
    (later : EvaluationRun digests key first after last) :
    Distinct EvidenceRef.key last.evidence ∧ first.evidence <+: last.evidence ∧
      (∀ evidence ∈ last.evidence, ∃ job ∈ last.allJobs, evidence ∈ job.evidence) ∧
      (∀ job ∈ last.allJobs, ∀ evidence ∈ job.evidence, evidence ∈ last.evidence ∧
        SoundRecord (before ++ after) job evidence) ∧
      ∀ committed : RequestId → Request,
        (∀ label ∈ before ++ after, Commits committed label) → ∀ job ∈ last.allJobs,
          (Reported committed job → evidenceNamed job.origin.submission
            (publishedBy (before ++ after)) = job.evidence) ∧
          (¬Reported committed job → ∀ result ∈ publishedBy (before ++ after),
            result.sourceRequest ≠ some job.origin.submission) := by
  obtain ⟨keptFirst, distinctFirst, -⟩ := run_keeps earlier .empty nodup_nil
  obtain ⟨kept, -, grown⟩ := run_keeps later keptFirst distinctFirst
  refine ⟨kept.keys, grown, kept.held, fun job member => (kept.rows job member).retained,
    fun committed commits job member => ?_⟩
  have matched := run_matches (earlier.append later) commits
  refine ⟨matched.reported job member, fun unreported => matched.agents _ ?_⟩
  unfold Reported at unreported
  cases origin : job.origin with
  | registered submission _ _ _ => simp [origin] at unreported
  | measurement submission plan =>
    rw [origin] at unreported
    exact not_not.mp unreported

/-! ## A measured job -/

def measuredPlan : MeasurementPlan where
  purpose := .official
  candidate := .revision ⟨⟨"work"⟩, "sha"⟩
  fingerprints := ⟨"evaluator", "workload", "environment"⟩
  recipeDigest := "recipe"
  stages := [{ stageId := "bench", executionBudget := 10 }]
  queueAllowance := 10
  content := ⟨""⟩

def measuredSubmission : RequestId := ⟨"measurement:run:0:key:1"⟩

def measureReceipt : DecisionReceipt where
  decisionId := ⟨"measure"⟩
  decision := some (.work ⟨⟨"measure"⟩, sampleScope, .measure measuredPlan⟩)
  payloadDigest := ""
  feedback := .accepted { decisionId := ⟨"measure"⟩ }
  requestIds := [measuredSubmission]

def measuredFact (sequence : Nat) (status : ObservationStatus) (terminal : Bool) : Observation where
  eventId := ⟨"event:" ++ toString sequence⟩
  requestId := measuredSubmission
  scope := sampleScope
  sequence := sequence
  observedAt := 0
  status := status
  resourceId := some ⟨"job"⟩
  accepted := true
  terminal := terminal

def measuredContext (rows : List RequestRecord) : EvaluationContext where
  run := { sampleRun with receipts := [measureReceipt] }
  attempts := {}
  sessions := {}
  records := { records := rows }

def measuredRequest : Request where
  requestId := some measuredSubmission
  scope := sampleScope
  decisionId := some ⟨"measure"⟩
  body := .submitMeasurement measuredPlan

def measuredRow : RequestRecord where
  requestId := measuredSubmission
  request := measuredRequest
  payloadDigest := sampleDigests.request measuredRequest
  lifecycle := .ownedJob
  phase := .dispatched
  observation := some (measuredFact 1 .pending false)
  until_ := ⟨100, []⟩

def measuredEvidence : EvidenceRef where
  evidenceId := ⟨"rate"⟩
  kind := .benchmark
  purpose := .official
  scope := sampleScope
  sourceRequest := measuredSubmission
  candidate := ⟨⟨"work"⟩, "sha"⟩
  observationSequence := 2
  fingerprints := ⟨"evaluator", "workload", "environment"⟩
  provenance := .trusted
  status := .succeeded

def measuredInputs : List EvaluationInput :=
  [.event (measuredContext []) (.measurementRequested sampleScope measuredPlan),
    .event (measuredContext [measuredRow])
      (.measurementSubmissionObserved (measuredFact 1 .pending false) none),
    .event (measuredContext [measuredRow])
      (.jobObserved ⟨"job"⟩ (measuredFact 2 .succeeded true)
        { evidence := [measuredEvidence]
          evaluationResult := some
            { stages := [⟨"bench", .passed⟩], accuracyPassed := true } } none)]

def measuredState : EvaluationState :=
  outcome (advanceInput sampleDigests fun _ => "key") AreaChange.state {} measuredInputs

/-- The strategy's measurement is kept as evidence and published as its job's evidence. -/
theorem measured_evidence_is_kept : ∃ labels,
    EvaluationRun sampleDigests (fun _ => "key") {} labels measuredState ∧
      measuredState.allJobs.map (fun job => job.evidence.map EvidenceRef.evidenceId) =
        [[⟨"rate"⟩]] ∧
      (∀ label ∈ labels, Commits (fun _ => measuredRequest) label) ∧
      ∀ job ∈ measuredState.allJobs,
        (∀ evidence ∈ job.evidence, evidence ∈ measuredState.evidence ∧
          SoundRecord labels job evidence) ∧
        evidenceNamed job.origin.submission (publishedBy labels) = job.evidence := by
  have accepted : ((execute (advanceInput sampleDigests fun _ => "key") AreaChange.state
      ({} : EvaluationState) measuredInputs).map fun ran => ran.1.flatMap fun label =>
        label.2.requests.map fun outbound => outbound.request.body) =
      .ok [.submitMeasurement measuredPlan] := by decide +kernel
  obtain ⟨⟨labels, last⟩, ran, bodies⟩ := map_ok accepted
  have reached : measuredState = last := by rw [measuredState, outcome, ran]
  have run : EvaluationRun sampleDigests (fun _ => "key") {} labels measuredState :=
    reached ▸ Run.of_execute ran
  have commits : ∀ label ∈ labels, Commits (fun _ => measuredRequest) label := by
    refine fun label listed => ⟨fun context event input requestId row found => ?_,
      fun outbound asked requestId _ => ?_⟩
    · have taken := mem_map_of_mem (f := Prod.fst) listed
      rw [execute_inputs ran, input] at taken
      have held : row ∈ context.records.records :=
        mem_of_mem_filter (found ▸ mem_singleton_self row)
      simp only [measuredInputs, mem_cons, EvaluationInput.event.injEq, not_mem_nil, or_false]
        at taken
      rcases taken with ⟨rfl, -⟩ | ⟨rfl, -⟩ | ⟨rfl, -⟩
      · cases held
      · rw [mem_singleton.mp held]
        rfl
      · rw [mem_singleton.mp held]
        rfl
    · have body : outbound.request.body ∈ [RequestBody.submitMeasurement measuredPlan] :=
        bodies ▸ mem_flatMap.mpr ⟨label, listed, mem_map_of_mem asked⟩
      exact (mem_singleton.mp body).symm
  have reported : ∀ job, Reported (fun _ => measuredRequest) job := by
    intro job
    unfold Reported
    split
    · trivial
    · rintro ⟨unowned, -⟩
      cases unowned
  obtain ⟨-, -, -, sound, published⟩ :=
    evidence_sound_and_published_once sampleDigests (fun _ => "key") (.nil _) run
  exact ⟨labels, run, by decide +kernel, commits, fun job member =>
    ⟨sound job member, (published _ commits job member).1 (reported job)⟩⟩

end VibeServeCore.Evaluation
