/- source: _wait_clock.py, _step.py (`consume`)
   digest: When an expired job stays expired, and how host restarts move limits. -/

import VibeServeCore.Evaluation.Continuations
import VibeServeCore.Kernel.Step
import VibeServeCore.Records.Downtime

namespace VibeServeCore.Clock

open Types Evaluation Records Kernel Foundation.Process
open RequestRecovery (openHostEpoch movedRecord)

section
variable {job next : OwnedJob} {observation previous : Observation} {stated : Seconds}
  {run : RunState} {hosts : List HostEpoch} {limits : Limits}

private theorem downtimeWithin_nonneg (hosts : List HostEpoch) (start finish : Seconds) :
    0 ≤ downtimeWithin hosts start finish := by
  refine List.sum_nonneg fun part mem => ?_
  obtain ⟨pair, -, rfl⟩ := List.mem_map.mp mem
  exact le_max_right _ _

def ceiling (run : RunState) (stated : Seconds) : Seconds := max run.deadlineAt stated

def budgetSpentAt (job : OwnedJob) (since : Seconds) (run : RunState) (hosts : List HostEpoch) :
    Seconds :=
  since + downtimeWithin hosts since run.nowAt + run.limits.queueWaitBudget - job.queueCredit

private theorem jobBound_of_limit (plain : ∀ observation, job.observation = some observation →
    pending job → stated + job.queueCredit ≤ observation.observedAt) :
    (jobBound job stated run hosts).at_ = min (stated + job.queueCredit) (ceiling run stated) := by
  have limited : jobBound job stated run hosts =
      if stated + job.queueCredit ≤ ceiling run stated then ⟨stated + job.queueCredit, .limit⟩
      else ⟨ceiling run stated, .runEnd⟩ := by
    cases known : job.observation with
    | none =>
      simp only [jobBound, known]
      rfl
    | some observation =>
      have skipped :
          ¬(pending job && stated + job.queueCredit > observation.observedAt) := by
        rw [Bool.and_eq_true, decide_eq_true_eq]
        exact fun both => absurd (plain observation known both.1) (not_le.mpr both.2)
      simp only [jobBound, known, if_neg skipped]
      rfl
  rw [limited, apply_ite Bound.at_, min_def]

private theorem jobBound_of_queued (known : job.observation = some observation)
    (queued : pending job) (early : observation.observedAt < stated + job.queueCredit) :
    (jobBound job stated run hosts).at_ =
      min (min (stated + job.queueCredit + run.limits.observeBackoffCap)
        (budgetSpentAt job observation.observedAt run hosts)) (ceiling run stated) := by
  have taken : (pending job && stated + job.queueCredit > observation.observedAt) := by
    rw [queued, Bool.true_and]
    exact decide_eq_true early
  let first := earliest
    [⟨stated + job.queueCredit + run.limits.observeBackoffCap, .limit⟩,
      ⟨budgetSpentAt job observation.observedAt run hosts, .queueBudget⟩]
    ⟨stated + job.queueCredit, .limit⟩
  have least : first.at_ = min (stated + job.queueCredit + run.limits.observeBackoffCap)
      (budgetSpentAt job observation.observedAt run hosts) := by
    simp only [first, earliest, List.foldl_cons, List.foldl_nil]
    rw [min_comm, min_def_lt, apply_ite Bound.at_]
  have bounded : jobBound job stated run hosts =
      if first.at_ ≤ ceiling run stated then first else ⟨ceiling run stated, .runEnd⟩ := by
    simp only [jobBound, known, if_pos taken]
    rfl
  rw [bounded, apply_ite Bound.at_, ← least, min_def]

def earns (previous : Observation) (until_ : Seconds) (limits : Limits) (hosts : List HostEpoch) :
    Seconds :=
  min (max (until_ - previous.observedAt -
    downtimeWithin hosts previous.observedAt until_) 0) limits.observeBackoffCap

private theorem credited_of_queued (known : job.observation = some previous) (queued : pending job)
    (capped : 0 ≤ limits.observeBackoffCap) :
    credited job observation limits hosts =
      job.queueCredit + earns previous observation.observedAt limits hosts := by
  simp only [credited, known, queued, Bool.not_true, Bool.false_or, decide_eq_true_eq]
  split_ifs with still
  · -- A fact that is not later earns nothing, whatever the downtime.
    have down := downtimeWithin_nonneg hosts previous.observedAt observation.observedAt
    have nothing : observation.observedAt - previous.observedAt -
        downtimeWithin hosts previous.observedAt observation.observedAt ≤ 0 := by linarith
    rw [earns, max_eq_right nothing, min_eq_left capped, add_zero]
  · rfl

private theorem credited_of_not_queued (running : ¬pending job) :
    credited job observation limits hosts = job.queueCredit := by
  unfold credited
  cases job.observation <;> simp [running]

private theorem earns_le_cap (previous : Observation) (until_ : Seconds) (limits : Limits)
    (hosts : List HostEpoch) : earns previous until_ limits hosts ≤ limits.observeBackoffCap :=
  min_le_right _ _

private theorem earns_le_elapsed {until_ : Seconds} (limits : Limits) (hosts : List HostEpoch)
    (elapsed : previous.observedAt ≤ until_) :
    earns previous until_ limits hosts ≤ until_ - previous.observedAt := by
  have down := downtimeWithin_nonneg hosts previous.observedAt until_
  exact (min_le_left _ _).trans (max_le (by linarith) (by linarith))

/-- Only the queue budget can have ended the job: its own limit and the run's end lie ahead. -/
structure QueueSpent (job : OwnedJob) (previous : Observation) (stated : Seconds)
    (run : RunState) : Prop where
  queued : pending job
  early : previous.observedAt < stated + job.queueCredit
  unlimited : run.nowAt < stated + job.queueCredit + run.limits.observeBackoffCap
  running : run.nowAt < ceiling run stated

/-- The gap since the last fact, up to the cap, pays for the budget left and the downtime since the
next one, which is queued again; or by then the limit moved by what the gap earned, or the run's end,
has come. -/
def StaysPast (job next : OwnedJob) (previous observation : Observation) (stated clock : Seconds)
    (run : RunState) (hosts : List HostEpoch) : Prop :=
  let earned := earns previous observation.observedAt run.limits hosts
  let left := run.limits.queueWaitBudget - job.queueCredit
  pending next ∧ left + downtimeWithin hosts observation.observedAt clock ≤ earned ∨
    stated + job.queueCredit + earned ≤ observation.observedAt ∨
    ceiling run stated ≤ observation.observedAt

private theorem staysPast_iff (job next : OwnedJob) (previous observation : Observation)
    (stated clock : Seconds) (run : RunState) (hosts : List HostEpoch) :
    StaysPast job next previous observation stated clock run hosts ↔
      let credit := job.queueCredit + earns previous observation.observedAt run.limits hosts
      stated + credit ≤ observation.observedAt ∨ ceiling run stated ≤ observation.observedAt ∨
        pending next ∧ downtimeWithin hosts observation.observedAt clock +
          run.limits.queueWaitBudget ≤ credit := by
  dsimp only [StaysPast]
  rw [or_comm, or_assoc, add_assoc]
  refine or_congr_right (or_congr_right (and_congr_right fun _ => ?_))
  constructor <;> intro pays <;> linarith

private theorem jobBound_le_fact_iff (run : RunState) (known : job.observation = some observation)
    (capped : 0 ≤ run.limits.observeBackoffCap) :
    (jobBound job stated run hosts).at_ ≤ observation.observedAt ↔
      stated + job.queueCredit ≤ observation.observedAt ∨
        ceiling run stated ≤ observation.observedAt ∨
        pending job ∧ downtimeWithin hosts observation.observedAt run.nowAt +
          run.limits.queueWaitBudget ≤ job.queueCredit := by
  by_cases early : pending job ∧ observation.observedAt < stated + job.queueCredit
  · rw [jobBound_of_queued known early.1 early.2, min_le_iff, min_le_iff]
    have spent : budgetSpentAt job observation.observedAt run hosts ≤ observation.observedAt ↔
        downtimeWithin hosts observation.observedAt run.nowAt +
          run.limits.queueWaitBudget ≤ job.queueCredit := by
      unfold budgetSpentAt
      constructor <;> intro bound <;> linarith
    have unlimited : ¬stated + job.queueCredit + run.limits.observeBackoffCap ≤
        observation.observedAt := by linarith [early.2]
    simp only [not_le.mpr early.2, unlimited, spent, early.1, false_or, true_and]
    exact or_comm
  · have plain : pending job → stated + job.queueCredit ≤ observation.observedAt :=
      fun queued => not_lt.mp fun before => early ⟨queued, before⟩
    rw [jobBound_of_limit fun fact same => Option.some.inj (known.symm.trans same) ▸ plain,
      min_le_iff]
    refine or_congr_right' fun unlimited => ?_
    simp [show ¬pending job = true from fun queued => unlimited (plain queued)]

private theorem limit_stays_past (capped : 0 ≤ run.limits.observeBackoffCap)
    (expired : (jobBound job stated run hosts).at_ ≤ run.nowAt)
    (late : run.nowAt ≤ observation.observedAt)
    (limited : ∀ previous, job.observation = some previous → ¬QueueSpent job previous stated run) :
    stated + credited job observation run.limits hosts ≤ observation.observedAt ∨
      ceiling run stated ≤ observation.observedAt := by
  by_cases ended : ceiling run stated ≤ run.nowAt
  · exact .inr (ended.trans late)
  refine .inl ?_
  by_cases queued : pending job
  · obtain ⟨previous, known⟩ : ∃ previous, job.observation = some previous := by
      unfold pending at queued
      split at queued
      · exact ⟨_, by assumption⟩
      · cases queued
    rw [credited_of_queued known queued capped]
    by_cases early : previous.observedAt < stated + job.queueCredit
    · -- The limit passed with everything the queued fact could still earn.
      have closed : stated + job.queueCredit + run.limits.observeBackoffCap ≤ run.nowAt :=
        not_lt.mp fun unlimited => limited previous known ⟨queued, early, unlimited, not_le.mp ended⟩
      have most := earns_le_cap previous observation.observedAt run.limits hosts
      linarith
    · -- The queued fact came after the limit, which what it earns cannot overtake.
      have passed := not_lt.mp early
      rcases le_total previous.observedAt observation.observedAt with elapsed | ahead
      · have most := earns_le_elapsed run.limits hosts elapsed
        linarith
      have down := downtimeWithin_nonneg hosts previous.observedAt observation.observedAt
      have nothing : earns previous observation.observedAt run.limits hosts ≤ 0 :=
        (min_le_left _ _).trans (max_le (by linarith) le_rfl)
      rw [jobBound_of_limit fun fact same _ => Option.some.inj (known.symm.trans same) ▸ passed,
        min_le_iff] at expired
      linarith [expired.resolve_right ended]
  · rw [jobBound_of_limit fun _ _ waits => absurd waits queued, min_le_iff] at expired
    rw [credited_of_not_queued queued]
    exact (expired.resolve_right ended).trans late

/-- A passed bound stays past at the job's next fact exactly when more than the queue budget ended
it, or the gap between the two facts pays for the budget left, or the limit has come by then. -/
theorem expired_bound_stays_iff (job next : OwnedJob) (observation : Observation)
    (stated clock : Seconds) (run : RunState) (hosts : List HostEpoch)
    (taken : next.observation = some observation)
    (credit : next.queueCredit = credited job observation run.limits hosts)
    (capped : 0 < run.limits.observeBackoffCap)
    (expired : (jobBound job stated run hosts).at_ ≤ run.nowAt)
    (late : run.nowAt ≤ observation.observedAt) :
    (jobBound next stated { run with nowAt := clock } hosts).at_ ≤ observation.observedAt ↔
      ∀ previous, job.observation = some previous → QueueSpent job previous stated run →
        StaysPast job next previous observation stated clock run hosts := by
  rw [jobBound_le_fact_iff { run with nowAt := clock } taken capped.le, credit]
  by_cases spent : ∃ previous, job.observation = some previous ∧ QueueSpent job previous stated run
  · obtain ⟨previous, known, spent⟩ := spent
    rw [credited_of_queued known spent.queued capped.le]
    constructor
    · intro stays other same _
      cases known.symm.trans same
      exact (staysPast_iff ..).mpr stays
    · exact fun stays => (staysPast_iff ..).mp (stays previous known spent)
  · have limited : ∀ previous, job.observation = some previous →
        ¬QueueSpent job previous stated run := fun previous known only =>
      spent ⟨previous, known, only⟩
    refine iff_of_true ?_ fun previous known only => absurd only (limited previous known)
    rcases limit_stays_past capped.le expired late limited with limit | ended
    · exact .inl limit
    · exact .inr (.inl ended)

def jobAt (fact : Observation) (credit : Seconds) (state : ProgressState) : OwnedJob :=
  { queuedJob with
    observation := some fact
    progress := some
      { observationSequence := fact.sequence, observedAt := fact.observedAt, state
        content := ⟨""⟩ }
    queueCredit := credit }

def queueRun : RunState :=
  { sampleRun with nowAt := 20, limits := { sampleRun.limits with queueWaitBudget := 20 } }

/-- A job queued since time zero has spent its budget of 20 at time 20; its next fact then gives it
more time, as the interval earned only 10. -/
theorem spent_queue_budget_comes_back :
    let fact := queuedFact 1 20
    (jobBound queuedJob 100 queueRun []).at_ = 20 ∧
      credited queuedJob fact queueRun.limits [] = 10 ∧
      (jobBound (jobAt fact 10 .pending) 100 queueRun []).at_ = 30 ∧
      (jobBound (jobAt fact 10 .running) 100 queueRun []).at_ = 110 := by
  decide +kernel

/-- A job whose queued fact came after its limit of 1 is past it, and so it is after the next. -/
theorem passed_limit_stays_past :
    (jobBound (jobAt (queuedFact 0 2) 0 .pending) 1 queueRun []).at_ ≤ 20 ∧
      (jobBound (jobAt (queuedFact 1 20) 10 .pending) 1 queueRun []).at_ ≤ 20 := by
  have expired : (jobBound (jobAt (queuedFact 0 2) 0 .pending) 1 queueRun []).at_ ≤
      queueRun.nowAt := by decide +kernel
  refine ⟨expired, (expired_bound_stays_iff (jobAt (queuedFact 0 2) 0 .pending)
    (jobAt (queuedFact 1 20) 10 .pending) (queuedFact 1 20) 1 20 queueRun [] rfl
    (by decide +kernel) (by decide +kernel) expired (by decide +kernel)).mpr ?_⟩
  rintro previous ⟨⟩ spent
  exact absurd spent.early (by decide +kernel)

end

/-- A limit moved by a credit and capped by the run's deadline, as records and waits both do it;
`round` is what the arithmetic makes of a sum. -/
def movedLimit (round : Seconds → Seconds) (deadline limit credit : Seconds) : Seconds :=
  let later := round (limit + credit)
  if limit ≤ deadline then min later deadline else later

private theorem movedLimit_zero (deadline limit : Seconds) :
    movedLimit id deadline limit 0 = limit := by
  dsimp only [movedLimit, id]
  rw [add_zero]
  split_ifs with early
  · exact min_eq_left early
  · rfl

/-- Without rounding, credits capped one by one move a limit as their sum capped once. -/
theorem movedLimit_twice {deadline limit total credit : Seconds} (before : 0 ≤ total)
    (gained : 0 ≤ credit) : movedLimit id deadline (movedLimit id deadline limit total) credit =
      movedLimit id deadline limit (total + credit) := by
  dsimp only [movedLimit, id]
  rw [← add_assoc]
  by_cases early : limit ≤ deadline
  · -- The cap of the earlier moves is lost in the cap of this one.
    simp only [early, if_true, min_le_right, ← min_add_add_right, min_assoc]
    rw [min_eq_right (by linarith : deadline ≤ deadline + credit)]
  · have late : ¬limit + total ≤ deadline := by linarith
    simp only [early, late, if_false]

/-- The limit of a wait with its downtime credit, as `wait_bounds` reads it. -/
def movedDeadline (run : RunState) (wait : Continuation) : Seconds :=
  movedLimit id run.deadlineAt wait.deadlineAt wait.downtimeCredit

/-- The wait can still be credited. -/
def isWaiting (wait : Continuation) : Bool :=
  (wait.phase = .waiting || wait.phase = .parked) && wait.timeout.isNone

structure SameLimit (state : CoreState) (record : RequestRecord) (wait : Continuation) : Prop where
  isOpen : record.isOpen
  waiting : isWaiting wait
  credited : 0 ≤ wait.downtimeCredit
  limit : record.until_.at_ = movedDeadline state.run wait

section
variable {state next : CoreState} {record : RequestRecord} {wait : Continuation}
  {hosts log : List HostEpoch} {epoch position place : Nat} {nowAt lastCommitAt credit : Seconds}

theorem SameLimit.moved (same : SameLimit state record wait) (gained : 0 ≤ credit)
    (deadline : next.run.deadlineAt = state.run.deadlineAt) :
    SameLimit next (movedRecord state.run credit record) (creditContinuation credit wait) := by
  have waiting := same.waiting
  have limit := same.limit
  have credited := same.credited
  unfold isWaiting at waiting
  unfold movedRecord creditContinuation
  rw [if_pos same.isOpen, if_pos waiting]
  refine ⟨same.isOpen, waiting, by dsimp only; linarith, ?_⟩
  have moves : movedLimit id state.run.deadlineAt (movedDeadline state.run wait) credit =
      movedLimit id state.run.deadlineAt wait.deadlineAt (wait.downtimeCredit + credit) :=
    movedLimit_twice credited gained
  rw [← limit] at moves
  rw [movedDeadline, deadline]
  exact moves

private theorem opened_ne (opens : opened hosts epoch nowAt lastCommitAt = .ok log) :
    log ≠ hosts := by
  rcases opened_log opens with ⟨rfl, rfl⟩ | ⟨last, found, newer, rfl⟩
  · rintro ⟨⟩
  · intro same
    rw [← same] at found
    have current : epoch = last.epoch := congrArg HostEpoch.epoch (Option.some.inj found)
    omega

private theorem openEpoch_credits
    (opens : openEpoch state (.records (.recoveryStarted epoch nowAt)) = .ok next) :
    next.run = state.run ∧
      ((next.records.records = state.records.records ∧
          next.evaluation.continuations = state.evaluation.continuations) ∨
        ∃ credit, 0 ≤ credit ∧
          next.records.records = state.records.records.map (movedRecord state.run credit) ∧
          next.evaluation.continuations =
            state.evaluation.continuations.map (creditContinuation credit)) := by
  obtain ⟨records, opened, opens⟩ := bind_ok opens
  cases opens
  refine ⟨rfl, ?_⟩
  unfold openHostEpoch at opened
  split_ifs at opened
  · cases opened
    exact .inl ⟨rfl, by simp [creditDowntime]⟩
  obtain ⟨log, logs, opened⟩ := bind_ok opened
  have changed := opened_ne logs
  dsimp only at opened
  split_ifs at opened with idle
  · cases opened
    exact .inl ⟨rfl, by simp only [if_pos changed, creditDowntime, idle, if_true]⟩
  cases opened
  have gained : 0 < downtime log := by
    simp only [Bool.or_eq_true, decide_eq_true_eq, not_or, not_le] at idle
    exact idle.1
  exact .inr ⟨downtime log, gained.le, rfl, by
    simp only [if_pos changed, creditDowntime, idle, if_false, Bool.false_eq_true]⟩

/-! ## Runs of host restarts -/

inductive LimitStep (position place : Nat) : CoreState → Option (Nat × Seconds) → CoreState → Prop
  | restarted {state next : CoreState} {epoch : Nat} {nowAt : Seconds}
      (opens : openEpoch state (.records (.recoveryStarted epoch nowAt)) = .ok next) :
      LimitStep position place state (some (epoch, nowAt)) next
  | elsewhere {state next : CoreState} (deadline : next.run.deadlineAt = state.run.deadlineAt)
      (record : ∀ row, state.records.records[position]? = some row → ∃ later,
        next.records.records[position]? = some later ∧ later.until_ = row.until_ ∧
          later.isOpen = row.isOpen)
      (wait : ∀ row, state.evaluation.continuations[place]? = some row → ∃ later,
        next.evaluation.continuations[place]? = some later ∧ later.deadlineAt = row.deadlineAt ∧
          later.downtimeCredit = row.downtimeCredit ∧ isWaiting later = isWaiting row) :
      LimitStep position place state none next

def Agree (position place : Nat) (state : CoreState) : Prop :=
  ∃ record wait, state.records.records[position]? = some record ∧
    state.evaluation.continuations[place]? = some wait ∧ SameLimit state record wait

theorem LimitStep.agree {label : Option (Nat × Seconds)} (agree : Agree position place state)
    (step : LimitStep position place state label next) : Agree position place next := by
  obtain ⟨record, wait, foundRecord, foundWait, same⟩ := agree
  cases step with
  | restarted opens =>
    obtain ⟨run, ⟨records, waits⟩ | ⟨credit, gained, records, waits⟩⟩ := openEpoch_credits opens
    · refine ⟨record, wait, records ▸ foundRecord, waits ▸ foundWait, ?_⟩
      exact ⟨same.isOpen, same.waiting, same.credited, run ▸ same.limit⟩
    · exact ⟨_, _, by rw [records, List.getElem?_map, foundRecord]; rfl,
        by rw [waits, List.getElem?_map, foundWait]; rfl, same.moved gained (by rw [run])⟩
  | elsewhere deadline keepsRecord keepsWait =>
    obtain ⟨later, found, until_, isOpen⟩ := keepsRecord record foundRecord
    obtain ⟨laterWait, foundLater, stated, credit, waiting⟩ := keepsWait wait foundWait
    refine ⟨later, laterWait, found, foundLater, ⟨isOpen ▸ same.isOpen, waiting ▸ same.waiting,
      credit ▸ same.credited, ?_⟩⟩
    rw [until_, same.limit]
    unfold movedDeadline
    rw [stated, credit, deadline]

end

/-- However hosts start, the limit of an open record is what `wait_bounds` makes of a wait that
stated the same limit. -/
theorem restarts_move_limits_alike (position place : Nat) {first last : CoreState}
    {labels : List (Option (Nat × Seconds))} {record : RequestRecord} {wait : Continuation}
    (foundRecord : first.records.records[position]? = some record)
    (foundWait : first.evaluation.continuations[place]? = some wait)
    (isOpen : record.isOpen) (waiting : isWaiting wait)
    (stated : record.until_.at_ = wait.deadlineAt) (uncredited : wait.downtimeCredit = 0)
    (run : Run (LimitStep position place) first labels last) :
    ∃ later laterWait, last.records.records[position]? = some later ∧
      last.evaluation.continuations[place]? = some laterWait ∧
      later.until_.at_ = movedDeadline last.run laterWait ∧
      ∀ jobs, waitBounds last.evaluation last.records last.run laterWait jobs =
        jobs.mapM fun job => do
          let limit ← submissionLimit last.evaluation last.records job
          return jobBound job (max later.until_.at_ (limit.getD 0)) last.run last.records.hosts := by
  have initial : Agree position place first := by
    refine ⟨record, wait, foundRecord, foundWait, isOpen, waiting, uncredited.ge, ?_⟩
    rw [stated, movedDeadline, uncredited, movedLimit_zero]
  obtain ⟨later, laterWait, found, foundLater, same⟩ :=
    run.invariant (Agree position place) (fun agree step => step.agree agree) initial
  refine ⟨later, laterWait, found, foundLater, same.limit, fun jobs => ?_⟩
  rw [same.limit]
  rfl

def waitedCore : CoreState where
  run := sampleRun
  records :=
    { records :=
        [{ requestId := ⟨"adopt"⟩, request := adoptionRequest, payloadDigest := ""
           lifecycle := .query, phase := .dispatched, until_ := ⟨998, []⟩ }]
      hosts := [⟨1, 0, 0⟩]
      recovery := ⟨1, .ready, []⟩ }
  evaluation :=
    { continuations :=
        [{ continuationId := ⟨"wait"⟩, invocation := ⟨⟨"session"⟩, ⟨"first"⟩, 0⟩
           nextInvocation := ⟨⟨"session"⟩, ⟨"second"⟩, 0⟩, jobs := [], deadlineAt := 998
           phase := .waiting }] }

/-- Five seconds without a host carry both limits to the run's deadline. -/
theorem capped_restart_moves_both_limits :
    ∃ last later wait, openEpoch waitedCore (.records (.recoveryStarted 2 5)) = .ok last ∧
      last.records.records[0]? = some later ∧ last.evaluation.continuations[0]? = some wait ∧
      later.until_.at_ = 1000 ∧ later.until_.at_ = movedDeadline last.run wait := by
  have limits : ((openEpoch waitedCore (.records (.recoveryStarted 2 5))).map fun last =>
      last.records.records[0]?.map fun row => row.until_.at_) = .ok (some 1000) := by
    decide +kernel
  obtain ⟨last, opens, limit⟩ := map_ok limits
  obtain ⟨later, wait, found, foundWait, same, -⟩ := restarts_move_limits_alike 0 0
    rfl rfl (by decide) (by decide) rfl rfl (.single (.restarted opens))
  rw [found] at limit
  exact ⟨last, later, wait, opens, found, foundWait, Option.some.inj limit, same⟩

/-- The distance between the doubles around a value. -/
def spacing (value : Seconds) : Seconds :=
  2 ^ (Nat.log2 (|value| * 2 ^ 1074).floor.toNat - 52) / 2 ^ 1074

/-- The double nearest to a value, and of two as near the even one. -/
def nearest (value : Seconds) : Seconds :=
  let places := value / spacing value
  let low := places.floor
  let above := places - low
  let whole := if above < 1 / 2 || above = 1 / 2 && low % 2 = 0 then low else low + 1
  whole * spacing value

/-- In doubles the two part: hosts down from 0 to 0.2 and from 2 to 3.1 move the record's limit 60.1
twice and the wait's by the sum. -/
theorem rounded_restarts_part_the_limits :
    let first := nearest (nearest 0.2 - 0)
    let second := nearest (nearest 3.1 - 2)
    let stated := nearest 60.1
    movedLimit nearest 1000 (movedLimit nearest 1000 stated first) second = nearest 61.400000000000006 ∧
      movedLimit nearest 1000 stated (nearest (first + second)) = nearest 61.4 ∧
      nearest 61.4 < nearest 61.400000000000006 := by
  decide +kernel

end VibeServeCore.Clock
