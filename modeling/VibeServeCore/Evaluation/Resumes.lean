/- source: _continuations.py, evaluation.py
   digest: A suspended turn is announced once and resumed once, with one frozen answer. -/

import VibeServeCore.Evaluation.Publication
import VibeServeCore.Evaluation.Reopening

namespace VibeServeCore.Evaluation

open Types Proofs Foundation.Process Foundation.Ledger List Foundation.WriteOnce
open Kernel (creditContinuation creditDowntime)
open Records (sampleDigests)
open RequestLedger (conclusive)

variable {digests : Digests} {key : MeasurementIdentity → String} {state : EvaluationState}
  {context : EvaluationContext} {change : Change} {row : Continuation}

def suspensions (events : List StrategyEvent) : List ContinuationId :=
  events.filterMap fun event =>
    match event with
    | .turnSuspended waiting => some waiting.continuationId
    | _ => none

def resumes (events : List StrategyEvent) : List ResumeAuthorized :=
  events.filterMap fun event =>
    match event with
    | .resumeAuthorized resume => some resume
    | _ => none

private theorem suspensions_append (first second : List StrategyEvent) :
    suspensions (first ++ second) = suspensions first ++ suspensions second :=
  filterMap_append

private theorem resumes_append (first second : List StrategyEvent) :
    resumes (first ++ second) = resumes first ++ resumes second :=
  filterMap_append

def receiptOf (resume : ResumeAuthorized) : ResumeAuthorizationReceipt :=
  ⟨resume.continuationId, resume.nextInvocation, resume.evidence, resume.historyCursor,
    resume.timeout, none⟩

def receiptIn (state : EvaluationState) (identity : ContinuationId) :
    Option ResumeAuthorizationReceipt :=
  register (·.continuationId) (·.authorizationReceipt) state.continuations identity

def receiptsAbout (events : List StrategyEvent) (identity : ContinuationId) :
    List ResumeAuthorizationReceipt :=
  about (·.continuationId) ((resumes events).map receiptOf) identity

private theorem receiptsAbout_append (first second : List StrategyEvent)
    (identity : ContinuationId) :
    receiptsAbout (first ++ second) identity =
      receiptsAbout first identity ++ receiptsAbout second identity := by
  unfold receiptsAbout
  rw [resumes_append, map_append, about_append]

private theorem consumed_id (invocation : InvocationRef) (row : Continuation) :
    (if row.phase = .authorized && row.nextInvocation = invocation then
      { row with phase := .resumed } else row).continuationId = row.continuationId := by
  split <;> rfl

private theorem consumed_receipt (invocation : InvocationRef) (row : Continuation) :
    (if row.phase = .authorized && row.nextInvocation = invocation then
      { row with phase := .resumed } else row).authorizationReceipt = row.authorizationReceipt := by
  split <;> rfl

/-- What no move of a wait changes. -/
structure Keeps (old new : Continuation) : Prop where
  identity : new.continuationId = old.continuationId
  invocation : new.invocation = old.invocation
  jobs : new.jobs = old.jobs
  timeout : old.timeout.isSome → new.timeout = old.timeout
  receipt : old.authorizationReceipt.isSome →
    new.authorizationReceipt = old.authorizationReceipt

theorem Keeps.refl (row : Continuation) : Keeps row row :=
  ⟨rfl, rfl, rfl, fun _ => rfl, fun _ => rfl⟩

theorem Keeps.trans {first second third : Continuation} (left : Keeps first second)
    (right : Keeps second third) : Keeps first third := by
  refine ⟨right.identity.trans left.identity, right.invocation.trans left.invocation,
    right.jobs.trans left.jobs, fun frozen => ?_, fun published => ?_⟩
  · rw [← left.timeout frozen]
    exact right.timeout (by rw [left.timeout frozen]; exact frozen)
  · rw [← left.receipt published]
    exact right.receipt (by rw [left.receipt published]; exact published)

variable {first after : EvaluationState} {events : List StrategyEvent} {jobs : List OwnedJob}
  {receipt : ResumeAuthorizationReceipt} {resume : ResumeAuthorized}

variable {second third : EvaluationState} {next : Continuation} {reported : Option JobReport}

theorem RowMove.keeps (move : RowMove context state row events next) : Keeps row next := by
  cases move with
  | spends counting undone spent => exact ⟨rfl, rfl, rfl, fun _ => rfl, fun _ => rfl⟩
  | freezes counting undone spent timeout evidence =>
    refine ⟨rfl, rfl, rfl, fun frozen => ?_, fun _ => rfl⟩
    rw [counting.2] at frozen
    cases frozen
  | publishes able unpublished evidence cursor =>
    refine ⟨rfl, rfl, rfl, fun _ => rfl, fun published => ?_⟩
    rw [unpublished] at published
    cases published
  | repeats able published
  | retires unfinished authority leaves
  | reopens parked authority resolutions
  | returns reopening => exact ⟨rfl, rfl, rfl, fun _ => rfl, fun _ => rfl⟩

def WaitsKept (before after : EvaluationState) : Prop :=
  ∀ old ∈ before.continuations, ∃ new ∈ after.continuations, Keeps old new

theorem WaitsKept.trans (left : WaitsKept first second) (right : WaitsKept second third) :
    WaitsKept first third := by
  intro old mem
  obtain ⟨middle, inside, kept⟩ := left old mem
  obtain ⟨new, listed, keptToo⟩ := right middle inside
  exact ⟨new, listed, kept.trans keptToo⟩

theorem WaitMove.waitsKept (move : WaitMove context state events after)
    (distinct : Distinct (·.continuationId) state.continuations) : WaitsKept state after := by
  intro old mem
  cases move with
  | @moved row next events held move =>
    by_cases own : old.continuationId = row.continuationId
    · have same : old = row := by
        have first := continuationOf_of_mem distinct mem
        rw [own, held] at first
        exact (Option.some.inj first).symm
      subst same
      exact ⟨next, mem_overwrite_self mem move.sameId.symm, move.keeps⟩
    · refine ⟨old, mem_overwrite_of_ne mem ?_, .refl old⟩
      rw [move.sameId]
      exact own
  | recorded fresh valid preceding =>
    refine ⟨_, mem_append_left _ (mem_map_of_mem mem), ?_⟩
    split
    · exact ⟨rfl, rfl, rfl, fun _ => rfl, fun _ => rfl⟩
    · exact .refl old

theorem WaitMove.writes (move : WaitMove context state events after) (identity : ContinuationId) :
    Writes (receiptIn state identity) (receiptIn after identity)
      (receiptsAbout events identity) := by
  cases move with
  | @moved row next events held move =>
    by_cases own : row.continuationId = identity
    · subst own
      have before : receiptIn state row.continuationId = row.authorizationReceipt := by
        unfold receiptIn register
        have found : state.continuations.find? (fun other =>
          other.continuationId = row.continuationId) = some row := held
        rw [found, Option.bind_some]
      have after : receiptIn (store state next) row.continuationId =
          next.authorizationReceipt := by
        unfold receiptIn register
        have found : (store state next).continuations.find? (fun other =>
            other.continuationId = row.continuationId) = some next :=
          continuationOf_store held move.sameId
        rw [found, Option.bind_some]
      rw [before, after]
      cases move with
      | publishes able unpublished evidence cursor =>
        rw [unpublished]
        simp [Writes, receiptsAbout, resumes, receiptOf, about]
      | _ => exact .unchanged _
    · have silent : receiptsAbout events identity = [] := by
        cases move with
        | publishes able unpublished evidence cursor =>
          simp [receiptsAbout, resumes, receiptOf, about, own]
        | _ => rfl
      have same : receiptIn (store state next) identity = receiptIn state identity := by
        unfold receiptIn register store
        rw [find?_overwrite_of_ne]
        rw [move.sameId]
        exact fun equal => own equal.symm
      rw [silent, same]
      exact .unchanged _
  | @recorded asked turn fresh valid preceding =>
    have bare := validateNew_bare valid
    have absent : ∀ old ∈ state.continuations, old.continuationId ≠ asked.continuationId := by
      intro old mem
      simpa using find?_eq_none.mp fresh old mem
    unfold receiptIn recordWait
    rw [← register_map (consumed_id _) (consumed_receipt _)]
    refine register_concat (fun old mem => ?_) ?_ (by simp [resumes]) identity
    · obtain ⟨earlier, listed, rfl⟩ := mem_map.mp mem
      rw [consumed_id]
      exact absent earlier listed
    · simp [bare.receipt, resumes]

structure Frozen (jobs : List OwnedJob) (row : Continuation)
    (receipt : ResumeAuthorizationReceipt) : Prop where
  identity : receipt.continuationId = row.continuationId
  nextInvocation : receipt.nextInvocation = row.nextInvocation
  evidence : receipt.evidence = row.evidence
  timeout : receipt.timeout = row.timeout
  unspent : row.timeout = none → row.spent = []
  settled : row.timeout = none → ∀ resource ∈ row.jobs, ∃ job ∈ jobs,
    job.resourceId = some resource ∧ settled job

theorem Frozen.moved {new : Continuation} (frozen : Frozen jobs row receipt)
    (identity : new.continuationId = row.continuationId)
    (next : new.nextInvocation = row.nextInvocation) (evidence : new.evidence = row.evidence)
    (timeout : new.timeout = row.timeout) (spent : new.spent = row.spent)
    (named : new.jobs = row.jobs) : Frozen jobs new receipt := by
  refine ⟨frozen.identity.trans identity.symm, frozen.nextInvocation.trans next.symm,
    frozen.evidence.trans evidence.symm, frozen.timeout.trans timeout.symm, ?_, ?_⟩ <;>
    rw [timeout]
  · rw [spent]
    exact frozen.unspent
  · rw [named]
    exact frozen.settled

def Answered (state : EvaluationState) : Prop :=
  ∀ row ∈ state.continuations, ∀ receipt, row.authorizationReceipt = some receipt →
    Frozen state.allJobs row receipt

private theorem jobsOf_resources (named : jobsOf state row = .ok jobs) :
    ∀ resource ∈ row.jobs, ∃ job ∈ jobs, holdingJobs state resource = [job] := by
  have each : List.Forall₂ (fun resource job => holdingJobs state resource = [job])
      row.jobs jobs := by
    refine forall₂_of_mapM (fun resource job owned => ?_) named
    unfold ownedJob at owned
    split at owned
    · rename_i mine only
      cases owned
      exact only
    · cases owned
  exact fun resource mem => forall₂_target each mem

private theorem mem_holdingJobs {resource : ResourceId} {job : OwnedJob} :
    job ∈ holdingJobs state resource ↔
      job ∈ state.allJobs ∧ job.resourceId = some resource := by
  unfold holdingJobs
  simp

private theorem ready_eq_true (done : ready state row = .ok true) :
    row.timeout.isSome ∨ row.spent = [] ∧ ∀ resource ∈ row.jobs, ∃ job ∈ state.allJobs,
      job.resourceId = some resource ∧ settled job := by
  unfold ready at done
  split_ifs at done with frozen unspent
  · exact .inl frozen
  · cases done
  obtain ⟨jobs, named, every⟩ := map_ok done
  refine .inr ⟨by simpa using unspent, fun resource mem => ?_⟩
  obtain ⟨job, listed, holds⟩ := jobsOf_resources named resource mem
  obtain ⟨inside, held⟩ := mem_holdingJobs.mp (by
    rw [holds]
    exact mem_singleton_self job)
  exact ⟨job, inside, held, all_eq_true.mp every job listed⟩

theorem Frozen.done (frozen : Frozen state.allJobs row receipt) (untimed : row.timeout = none) :
    ¬Undone state row := by
  rintro (spent | ⟨jobs, named, job, mem, unsettled⟩)
  · exact spent (frozen.unspent untimed)
  obtain ⟨resource, listed, held, only⟩ := jobsOf_eq_ok named job mem
  obtain ⟨other, inside, heldToo, done⟩ := frozen.settled untimed resource listed
  have same : other ∈ holdingJobs state resource := mem_holdingJobs.mpr ⟨inside, heldToo⟩
  rw [only, mem_singleton] at same
  rw [same, unsettled] at done
  cases done

theorem RowMove.frozen (move : RowMove context state row events next)
    (held : ∀ receipt, row.authorizationReceipt = some receipt → Frozen state.allJobs row receipt)
    (published : next.authorizationReceipt = some receipt) : Frozen state.allJobs next receipt := by
  cases move with
  | spends counting undone spent => exact absurd undone ((held receipt published).done counting.2)
  | freezes counting undone spent timeout evidence =>
    exact absurd undone ((held receipt published).done counting.2)
  | publishes able unpublished evidence cursor =>
    cases published
    refine ⟨rfl, rfl, rfl, rfl, fun untimed => ?_, fun untimed => ?_⟩ <;>
      rcases ready_eq_true able.ready with frozen | ⟨unspent, settled⟩
    · rw [show row.timeout = none from untimed] at frozen
      cases frozen
    · exact unspent
    · rw [show row.timeout = none from untimed] at frozen
      cases frozen
    · exact settled
  | repeats able _ => exact (held receipt published).moved rfl rfl rfl rfl rfl rfl
  | retires unfinished authority leaves | reopens parked authority resolutions =>
    exact (held receipt published).moved rfl rfl rfl rfl rfl rfl
  | returns reopening => exact (held receipt published).moved rfl rfl rfl rfl rfl rfl

theorem WaitMove.answered (move : WaitMove context state events after) (answered : Answered state) :
    Answered after := by
  intro new mem receipt published
  cases move with
  | @moved row next events held move =>
    rcases mem_overwrite mem with ⟨rfl, -⟩ | ⟨old, -⟩
    · exact move.frozen (answered row (mem_of_find?_eq_some held)) published
    · exact answered new old receipt published
  | @recorded asked turn fresh valid preceding =>
    rcases mem_append.mp mem with consumed | last
    · obtain ⟨old, listed, rfl⟩ := mem_map.mp consumed
      rw [consumed_receipt] at published
      have same := answered old listed receipt published
      split
      · exact same.moved rfl rfl rfl rfl rfl rfl
      · exact same
    · cases mem_singleton.mp last
      rw [show asked.authorizationReceipt = none from (validateNew_bare valid).receipt] at published
      cases published

structure ResumeStep (before : EvaluationState) (events : List StrategyEvent)
    (after : EvaluationState) : Prop where
  kept : WaitsKept before after
  writes : ∀ identity, Writes (receiptIn before identity) (receiptIn after identity)
    (receiptsAbout events identity)
  announced : after.continuations.map (·.continuationId) =
    before.continuations.map (·.continuationId) ++ suspensions events

theorem ResumeStep.refl (state : EvaluationState) : ResumeStep state [] state :=
  ⟨fun row mem => ⟨row, mem, .refl row⟩, fun _ => .unchanged _, by simp [suspensions]⟩

theorem ResumeStep.trans {earlier later : List StrategyEvent}
    (left : ResumeStep first earlier second) (right : ResumeStep second later third) :
    ResumeStep first (earlier ++ later) third := by
  refine ⟨left.kept.trans right.kept, fun identity => ?_, ?_⟩
  · rw [receiptsAbout_append]
    exact (left.writes identity).trans (right.writes identity)
  · rw [right.announced, left.announced, suspensions_append, append_assoc]

theorem ResumeStep.still (waits : after.continuations = state.continuations)
    (suspends : suspensions events = []) (resumed : resumes events = []) :
    ResumeStep state events after := by
  refine ⟨fun row mem => ⟨row, by rw [waits]; exact mem, .refl row⟩, fun identity => ?_, ?_⟩
  · unfold receiptsAbout receiptIn
    rw [resumed, waits]
    exact .unchanged _
  · rw [waits, suspends, append_nil]

theorem WaitMove.announced (move : WaitMove context state events after) :
    after.continuations.map (·.continuationId) =
      state.continuations.map (·.continuationId) ++ suspensions events := by
  cases move with
  | @moved row next events held move =>
    have silent : suspensions events = [] := by cases move <;> rfl
    rw [silent, append_nil]
    exact map_key_overwrite next state.continuations
  | @recorded asked turn fresh valid preceding =>
    simp only [recordWait, map_append, map_map, map_cons, map_nil]
    congr 1
    exact map_congr_left fun row _ => consumed_id _ row

theorem WaitMove.resumeStep (move : WaitMove context state events after)
    (distinct : Distinct (·.continuationId) state.continuations) : ResumeStep state events after :=
  ⟨move.waitsKept distinct, move.writes, move.announced⟩

theorem WaitChange.resumeStep (made : WaitChange context state change)
    (distinct : Distinct (·.continuationId) state.continuations) :
    ResumeStep state change.events change.state := by
  obtain ⟨labels, moves, published⟩ := made.moves
  rw [← published]
  have both := moves.history (fun labels current => ResumeStep state labels.flatten current ∧
      Distinct (·.continuationId) current.continuations)
    (fun {labels first events last} held move => ?_) ⟨.refl state, distinct⟩
  · exact both.1
  · rw [flatten_append, flatten_singleton]
    exact ⟨held.1.trans (move.resumeStep held.2), move.distinct held.2⟩

theorem WorkChange.resumeStep (made : WorkChange digests context reported state change) :
    ResumeStep state change.events change.state := by
  refine .still made.waits ?_ ?_ <;> refine filterMap_eq_nil_iff.mpr fun event mem => ?_ <;>
    rcases made.silent event mem with ⟨_, rfl⟩ | ⟨_, rfl⟩ <;> rfl

structure Resumable (state : EvaluationState) : Prop where
  distinct : Distinct (·.continuationId) state.continuations
  filed : Filed state
  watched : Watched state
  answered : Answered state

theorem Resumable.empty : Resumable {} :=
  ⟨nodup_nil, .empty, by simp [Watched, EvaluationState.allJobs], by simp [Answered]⟩

theorem WaitChange.resumable (made : WaitChange context state change)
    (resumable : Resumable state) : Resumable change.state := by
  have same := made.sameWork
  refine ⟨made.distinct resumable.distinct, resumable.filed.same same.jobs same.registeredJobs,
    ?_, ?_⟩
  · unfold Watched
    rw [same.allJobs]
    exact resumable.watched
  · obtain ⟨labels, moves, -⟩ := made.moves
    exact moves.invariant Answered (fun held move => move.answered held) resumable.answered

theorem WorkChange.resumable (made : WorkChange digests context reported state change)
    (resumable : Resumable state) : Resumable change.state := by
  refine ⟨by rw [made.waits]; exact resumable.distinct, made.step.filed resumable.filed,
    made.step.watched resumable.filed resumable.watched, fun row mem receipt published => ?_⟩
  rw [made.waits] at mem
  have frozen := resumable.answered row mem receipt published
  refine ⟨frozen.identity, frozen.nextInvocation, frozen.evidence, frozen.timeout, frozen.unspent,
    fun untimed resource listed => ?_⟩
  obtain ⟨job, inside, holds, done⟩ := frozen.settled untimed resource listed
  exact made.step.settles resumable.filed resumable.watched inside holds done

private theorem creditContinuation_keeps (credit : Seconds) (row : Continuation) :
    Keeps row (creditContinuation credit row) := by
  unfold creditContinuation
  split
  · exact ⟨rfl, rfl, rfl, fun _ => rfl, fun _ => rfl⟩
  · exact .refl row

private theorem creditContinuation_frozen {credit : Seconds} (frozen : Frozen jobs row receipt) :
    Frozen jobs (creditContinuation credit row) receipt := by
  unfold creditContinuation
  split
  · exact frozen.moved rfl rfl rfl rfl rfl rfl
  · exact frozen

private theorem creditContinuation_receipt (credit : Seconds) (row : Continuation) :
    (creditContinuation credit row).authorizationReceipt = row.authorizationReceipt := by
  unfold creditContinuation
  split <;> rfl

private theorem creditDowntime_resumes (run : RunState) (credit : Seconds)
    (resumable : Resumable state) :
    ResumeStep state [] (creditDowntime state run credit) ∧
      Resumable (creditDowntime state run credit) := by
  unfold creditDowntime
  split
  · exact ⟨.refl state, resumable⟩
  have keys := (creditContinuation_keeps credit · |>.identity)
  have same : (state.continuations.map (creditContinuation credit)).map (·.continuationId) =
      state.continuations.map (·.continuationId) := by
    rw [map_map]
    exact map_congr_left fun row _ => keys row
  refine ⟨⟨fun row mem => ⟨_, mem_map_of_mem mem, creditContinuation_keeps credit row⟩,
    fun identity => ?_, by rw [same]; exact (append_nil _).symm⟩,
    ⟨by unfold Distinct; rw [same]; exact resumable.distinct,
      resumable.filed.same rfl rfl, resumable.watched, fun row mem receipt published => ?_⟩⟩
  · unfold receiptIn
    rw [← register_map keys (creditContinuation_receipt credit)]
    exact .unchanged _
  · obtain ⟨old, listed, rfl⟩ := mem_map.mp mem
    rw [creditContinuation_receipt] at published
    exact creditContinuation_frozen (resumable.answered old listed receipt published)

private theorem advanceInput_resumes {input : EvaluationInput} (resumable : Resumable state)
    (ran : advanceInput digests key state input = .ok change) :
    ResumeStep state change.events change.state ∧ Resumable change.state := by
  cases input with
  | downtime run credit =>
    cases ran
    exact creditDowntime_resumes run credit resumable
  | event context event =>
    obtain ⟨due, middle, after, dueWaits, own, afterWaits, reached, -, published⟩ :=
      advanceEvaluation_eq_ok ran
    have first := dueWaits.resumable resumable
    have second : ResumeStep due.state middle.events middle.state ∧ Resumable middle.state := by
      rcases advanceSubarea_cases first.distinct own with waits | measured
      · exact ⟨waits.resumeStep first.distinct, waits.resumable first⟩
      · have work := advanceMeasurements_work measured
        exact ⟨work.resumeStep, work.resumable first⟩
    rw [reached, published]
    exact ⟨((dueWaits.resumeStep resumable.distinct).trans second.1).trans
      (afterWaits.resumeStep second.2.distinct), afterWaits.resumable second.2⟩

def heard (labels : List EvaluationLabel) : List StrategyEvent :=
  labels.flatMap fun label => label.2.events

private theorem run_resumes {labels : List EvaluationLabel} {last : EvaluationState}
    (run : EvaluationRun digests key first labels last) (resumable : Resumable first) :
    ResumeStep first (heard labels) last ∧ Resumable last := by
  refine run.history (fun labels state => ResumeStep first (heard labels) state ∧ Resumable state)
    (fun {labels state label next} held step => ?_) ⟨.refl first, resumable⟩
  obtain ⟨ran, rfl⟩ := step
  obtain ⟨stepped, kept⟩ := advanceInput_resumes held.2 ran
  refine ⟨?_, kept⟩
  unfold heard
  rw [flatMap_append, flatMap_singleton]
  exact held.1.trans stepped

/-- A wait that holds the receipt of a resume, over the work of an evaluation: the submissions of its
scope are concluded, and it froze or all its jobs are settled and none ran out of queue budget. -/
structure Entitled (context : EvaluationContext) (work : EvaluationState)
    (resume : ResumeAuthorized) (wait : Continuation) : Prop where
  identity : wait.continuationId = resume.continuationId
  receipt : wait.authorizationReceipt = some (receiptOf resume)
  concluded : ∃ turn, waitingTurn context wait = .ok turn ∧
    ∀ record ∈ submissionRows turn.scope work context.records, ∃ observation,
      record.observation = some observation ∧ conclusive observation
  ended : wait.timeout.isSome ∨ wait.spent = [] ∧ ∀ resource ∈ wait.jobs,
    ∃ job ∈ work.allJobs, job.resourceId = some resource ∧ settled job

theorem Entitled.kept {work : EvaluationState} {old new : Continuation}
    (entitled : Entitled context work resume old) (kept : Keeps old new) (held : Answered after)
    (mem : new ∈ after.continuations) : Entitled context work resume new := by
  have receipt : new.authorizationReceipt = some (receiptOf resume) := by
    rw [kept.receipt (by rw [entitled.receipt]; rfl), entitled.receipt]
  refine ⟨kept.identity.trans entitled.identity, receipt, ?_, ?_⟩
  · unfold waitingTurn
    rw [kept.invocation]
    exact entitled.concluded
  cases frozen : new.timeout with
  | some timeout => exact .inl rfl
  | none =>
    -- The old row was not frozen either, so its jobs had settled.
    have counting : ¬old.timeout.isSome := by
      intro timed
      rw [← kept.timeout timed, frozen] at timed
      cases timed
    refine .inr ⟨(held new mem _ receipt).unspent frozen, ?_⟩
    rw [kept.jobs]
    exact (entitled.ended.resolve_left counting).2

theorem Entitled.over {work other : EvaluationState} {wait : Continuation}
    (entitled : Entitled context work resume wait) (same : SameWork work other) :
    Entitled context other resume wait := by
  refine ⟨entitled.identity, entitled.receipt, ?_, ?_⟩
  · unfold submissionRows
    rw [same.registeredJobs]
    exact entitled.concluded
  · rw [same.allJobs]
    exact entitled.ended

theorem WaitMove.entitled (move : WaitMove context state events after)
    (spoken : .resumeAuthorized resume ∈ events) :
    ∃ wait ∈ after.continuations, Entitled context state resume wait := by
  cases move with
  | recorded fresh valid preceding => cases mem_singleton.mp spoken
  | @moved row next events held move =>
    cases move with
    | publishes able unpublished evidence cursor =>
      cases mem_singleton.mp spoken
      obtain ⟨turn, waits, -, concluded⟩ := able.settled
      refine ⟨_, mem_overwrite_self (mem_of_find?_eq_some held) rfl, rfl, rfl,
        ⟨turn, waits, fun record listed => ?_⟩, ready_eq_true able.ready⟩
      have told := all_eq_true.mp concluded record listed
      cases observed : record.observation with
      | none =>
        rw [observed] at told
        cases told
      | some observation =>
        rw [observed] at told
        exact ⟨observation, rfl, told⟩
    | _ => cases spoken

theorem WaitChange.entitled (made : WaitChange context state change)
    (resumable : Resumable state) (spoken : .resumeAuthorized resume ∈ change.events) :
    ∃ wait ∈ change.state.continuations, Entitled context state resume wait := by
  obtain ⟨labels, moves, published⟩ := made.moves
  rw [← published] at spoken
  have each := moves.history (fun labels current => SameWork state current ∧
      Distinct (·.continuationId) current.continuations ∧ Answered current ∧
      (.resumeAuthorized resume ∈ labels.flatten →
        ∃ wait ∈ current.continuations, Entitled context state resume wait))
    (fun {labels first events last} held move => ?_)
    ⟨.refl state, resumable.distinct, resumable.answered, by simp⟩
  · exact each.2.2.2 spoken
  · obtain ⟨same, distinct, answered, entitles⟩ := held
    have later := move.answered answered
    refine ⟨same.trans move.sameWork, move.distinct distinct, later, fun said => ?_⟩
    rw [flatten_append, flatten_singleton] at said
    rcases mem_append.mp said with earlier | now
    · obtain ⟨wait, listed, entitled⟩ := entitles earlier
      obtain ⟨new, mem, kept⟩ := move.waitsKept distinct wait listed
      exact ⟨new, mem, entitled.kept kept later mem⟩
    · obtain ⟨wait, listed, entitled⟩ := move.entitled now
      exact ⟨wait, listed, entitled.over same.symm⟩

private theorem advanceEvaluation_entitled {event : EvaluationEvent} (resumable : Resumable state)
    (ran : advanceEvaluation digests key state context event = .ok change)
    (spoken : .resumeAuthorized resume ∈ change.events) :
    ∃ wait ∈ change.state.continuations,
      Entitled context state resume wait ∨ Entitled context change.state resume wait := by
  obtain ⟨due, middle, after, dueWaits, own, afterWaits, reached, -, published⟩ :=
    advanceEvaluation_eq_ok ran
  have first := dueWaits.resumable resumable
  have second : Resumable middle.state ∧ WaitsKept due.state middle.state := by
    rcases advanceSubarea_cases first.distinct own with waits | measured
    · exact ⟨waits.resumable first, (waits.resumeStep first.distinct).kept⟩
    · have work := advanceMeasurements_work measured
      exact ⟨work.resumable first, work.resumeStep.kept⟩
  have last := afterWaits.resumable second.1
  have kept := (afterWaits.resumeStep second.1.distinct).kept
  rw [published] at spoken
  rw [reached]
  -- What is published early is still held by the wait the event leaves behind.
  rcases mem_append.mp spoken with spoken | spoken
  · obtain ⟨wait, listed, entitled⟩ : ∃ wait ∈ middle.state.continuations,
        Entitled context state resume wait := by
      rcases mem_append.mp spoken with early | inside
      · obtain ⟨wait, listed, entitled⟩ := dueWaits.entitled resumable early
        obtain ⟨new, mem, same⟩ := second.2 wait listed
        exact ⟨new, mem, entitled.kept same second.1.answered mem⟩
      rcases advanceSubarea_cases first.distinct own with waits | measured
      · obtain ⟨wait, listed, entitled⟩ := waits.entitled first inside
        exact ⟨wait, listed, entitled.over dueWaits.sameWork.symm⟩
      · rcases (advanceMeasurements_work measured).silent _ inside with ⟨_, other⟩ | ⟨_, other⟩ <;>
          cases other
    obtain ⟨new, mem, same⟩ := kept wait listed
    exact ⟨new, mem, .inl (entitled.kept same last.answered mem)⟩
  · obtain ⟨wait, listed, entitled⟩ := afterWaits.entitled second.1 spoken
    exact ⟨wait, listed, .inr (entitled.over afterWaits.sameWork)⟩

/-- Each wait is announced and resumed at most once, with its own answer. A resume is published only
for a wait that is entitled to it by the work before its event, or by the work the event leaves. -/
theorem suspended_turn_resumes_once (digests : Digests) (key : MeasurementIdentity → String)
    {before after : List EvaluationLabel} {first last : EvaluationState}
    (earlier : EvaluationRun digests key {} before first)
    (later : EvaluationRun digests key first after last) :
    (suspensions (heard (before ++ after))).Nodup ∧
      ((resumes (heard (before ++ after))).map (·.continuationId)).Nodup ∧
      (∀ old ∈ first.continuations, ∃ new ∈ last.continuations, Keeps old new) ∧
      (∀ row ∈ last.continuations, ∀ receipt, row.authorizationReceipt = some receipt →
        receipt.nextInvocation = row.nextInvocation ∧ receipt.evidence = row.evidence ∧
          receipt.timeout = row.timeout) ∧
      ∀ (context : EvaluationContext) (event : EvaluationEvent) (change : Change)
        (resume : ResumeAuthorized),
        advanceEvaluation digests key last context event = .ok change →
        .resumeAuthorized resume ∈ change.events →
        ∃ wait ∈ change.state.continuations,
          Entitled context last resume wait ∨ Entitled context change.state resume wait := by
  obtain ⟨-, resumableFirst⟩ := run_resumes earlier .empty
  obtain ⟨between, resumable⟩ := run_resumes later resumableFirst
  obtain ⟨whole, -⟩ := run_resumes (earlier.append later) .empty
  refine ⟨?_, ?_, between.kept, fun row member receipt published => ?_,
    fun context event change resume ran spoken =>
      advanceEvaluation_entitled resumable ran spoken⟩
  · have announced := whole.announced
    rw [map_nil, nil_append] at announced
    rw [← announced]
    exact resumable.distinct
  · rw [nodup_iff_count_le_one]
    intro identity
    have once := (whole.writes identity).length_le
    unfold receiptsAbout about at once
    rw [← countP_eq_length_filter, countP_map] at once
    rw [List.count, countP_map]
    refine le_of_eq_of_le (countP_congr fun resume _ => ?_) once
    exact beq_iff_eq.trans decide_eq_true_iff.symm
  · have frozen := resumable.answered row member receipt published
    exact ⟨frozen.nextInvocation, frozen.evidence, frozen.timeout⟩

/-! ## A wait for one measurement -/

def awaitedSubmission : RequestId := ⟨"measurement:attempt:0:key:1"⟩

def awaitedReceipt : DecisionReceipt where
  decisionId := ⟨"measure"⟩
  decision := some (.work ⟨⟨"measure"⟩, parkedScope, .measure measuredPlan⟩)
  payloadDigest := ""
  feedback := .accepted { decisionId := ⟨"measure"⟩ }
  requestIds := [awaitedSubmission]

def awaitedRunning : Observation :=
  { releasedFact awaitedSubmission (some ⟨"job"⟩) with
    status := .pending, terminal := false, released := false, childrenComplete := false }

def awaitedEnd : Observation :=
  { releasedFact awaitedSubmission (some ⟨"job"⟩) with sequence := 2 }

def awaitedRequest : Request where
  requestId := some awaitedSubmission
  scope := parkedScope
  decisionId := some ⟨"measure"⟩
  admissionId := some ⟨"admission"⟩
  body := .submitMeasurement measuredPlan

def awaitedRow (observation : Observation) : RequestRecord where
  requestId := awaitedSubmission
  request := awaitedRequest
  payloadDigest := sampleDigests.request awaitedRequest
  lifecycle := .ownedJob
  phase := .dispatched
  observation := some observation
  until_ := ⟨100, []⟩

def awaitingContext (rows : List RequestRecord) : EvaluationContext :=
  { activeContext none [] with
    run := { parkedRun with receipts := [awaitedReceipt] }
    records := { records := yieldRecord :: rows } }

def awaitedInputs : List EvaluationInput :=
  [.event (awaitingContext []) (.measurementRequested parkedScope measuredPlan),
    .event (awaitingContext [awaitedRow awaitedRunning])
      (.measurementSubmissionObserved awaitedRunning none),
    .event (awaitingContext [awaitedRow awaitedRunning])
      (.turnSuspended { parkedWait with phase := .waiting, parkAuthority := none }),
    .event (awaitingContext [awaitedRow awaitedEnd]) (.jobObserved ⟨"job"⟩ awaitedEnd {} none),
    .event (awaitingContext [awaitedRow awaitedEnd])
      (.continuationJobsChanged ⟨"job"⟩ awaitedEnd)]

def awaitedState : EvaluationState :=
  outcome (advanceInput sampleDigests fun _ => "key") AreaChange.state {} awaitedInputs

theorem awaited_turn_resumes : ∃ labels,
    EvaluationRun sampleDigests (fun _ => "key") {} labels awaitedState ∧
      awaitedState.continuations.map Continuation.phase = [.authorized] ∧
      (suspensions (heard labels)).Nodup ∧
      ((resumes (heard labels)).map (·.continuationId)).Nodup := by
  have accepted : (execute (advanceInput sampleDigests fun _ => "key") AreaChange.state
      ({} : EvaluationState) awaitedInputs).isOk := by decide +kernel
  obtain ⟨labels, run⟩ := Run.of_outcome accepted
  have once := suspended_turn_resumes_once sampleDigests (fun _ => "key") (.nil _) run
  exact ⟨labels, run, by decide +kernel, once.1, once.2.1⟩

end VibeServeCore.Evaluation
