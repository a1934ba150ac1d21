/- source: _deadlines.py, _host_epochs.py, _wait_clock.py, _watches.py
   digest: Absolute limits, the host log, the bound queue credit gives, and fired watches. -/

import VibeServeCore.Types.Kernel

namespace VibeServeCore.Clock

open Types

variable (hosts : List HostEpoch) (run : RunState)

def resolveUntil (limit : Within) : Until :=
  let at_ := run.nowAt + max limit.limit 0
  ⟨if run.deadlineAt > run.nowAt then min at_ run.deadlineAt else at_, limit.watches⟩

def queuedUntil (limit : Seconds) (watches : List Watch) : Until :=
  if run.deadlineAt > run.nowAt then ⟨run.deadlineAt, watches⟩
  else ⟨run.nowAt + max limit 0, watches⟩

def fromDispatch (run : RunState) (until_ : Until) : UntilSpec :=
  .fromDispatch (max (until_.at_ - run.nowAt) 0) until_.watches

def startedUntil (limit : Seconds) (watches : List Watch) : Until :=
  resolveUntil run ⟨limit, watches⟩

def cleanup (request : Request) : Outbound :=
  let at_ := run.nowAt + run.limits.cleanupBound
  let bounded := if run.status ≠ .closing && run.result.isNone then max run.deadlineAt at_ else at_
  ⟨request, .until ⟨bounded, []⟩⟩

def pairwise {Item : Type} (items : List Item) : List (Item × Item) :=
  items.zip items.tail

def downtime : Seconds :=
  ((pairwise hosts).map fun pair => max (pair.2.startedAt - pair.1.aliveAt) 0).sum

def hostLogLength : Nat := 2

def opened (epoch : Nat) (nowAt lastCommitAt : Seconds) : Except CoreError (List HostEpoch) :=
  let started : HostEpoch := ⟨epoch, nowAt, nowAt⟩
  match hosts.getLast? with
  | none => .ok [started]
  | some last =>
    if epoch ≤ last.epoch then
      .error (.contract ["epoch"] "a new host epoch must follow the recorded ones")
    else
      let closed := hosts.dropLast ++ [{ last with aliveAt := max last.aliveAt lastCommitAt }]
      let log := closed ++ [started]
      .ok (log.drop (log.length - hostLogLength))

def renewed (state : RecordsState) (epoch : Nat) (nowAt : Seconds) :
    Except CoreError (AreaChange RecordsState) :=
  match state.hosts.getLast? with
  | none =>
    .error (.contract ["epoch"] "a lease renewal names an epoch that is not current")
  | some current =>
    if current.epoch ≠ epoch then
      .error (.contract ["epoch"] "a lease renewal names an epoch that is not current")
    else if nowAt ≤ current.aliveAt then .ok { state := state }
    else
      .ok { state :=
        { state with hosts := state.hosts.dropLast ++ [{ current with aliveAt := nowAt }] } }

/-! ## Queue credit -/

structure Bound where
  at_ : Seconds
  by_ : WaitEnd

def earliest (bounds : List Bound) (default_ : Bound) : Bound :=
  match bounds with
  | [] => default_
  | first :: rest => rest.foldl (fun best bound => if bound.at_ < best.at_ then bound else best) first

def pending (job : OwnedJob) : Bool :=
  match job.progress, job.observation with
  | some progress, some observation =>
    !job.terminal && progress.state = .pending &&
      progress.observationSequence = observation.sequence
  | _, _ => false

def downtimeWithin (start finish : Seconds) : Seconds :=
  ((pairwise hosts).map fun pair =>
    max (min pair.2.startedAt finish - max pair.1.aliveAt start) 0).sum

/-- The queue credit a next fact earns: the pending interval, less downtime, capped per poll. -/
def credited (job : OwnedJob) (observation : Observation) (limits : Limits)
    (hosts : List HostEpoch) : Seconds :=
  match job.observation with
  | none => job.queueCredit
  | some previous =>
    if !pending job || observation.observedAt ≤ previous.observedAt then job.queueCredit
    else
      let start := previous.observedAt
      let finish := observation.observedAt
      let queued := finish - start - downtimeWithin hosts start finish
      job.queueCredit + min (max queued 0) limits.observeBackoffCap

def jobBound (job : OwnedJob) (stated : Seconds) (run : RunState) (hosts : List HostEpoch) :
    Bound :=
  let plain : Bound := ⟨stated + job.queueCredit, .limit⟩
  let bound :=
    match job.observation with
    | some observation =>
      if pending job && plain.at_ > observation.observedAt then
        -- The pending fact came before the limit passed, so the time since it is queue time.
        let queuedSince := observation.observedAt
        let down := downtimeWithin hosts queuedSince run.nowAt
        earliest
          [⟨plain.at_ + run.limits.observeBackoffCap, .limit⟩,
            ⟨queuedSince + down + run.limits.queueWaitBudget - job.queueCredit, .queueBudget⟩]
          plain
      else plain
    | none => plain
  let ceiling := max run.deadlineAt stated
  if bound.at_ ≤ ceiling then bound else ⟨ceiling, .runEnd⟩

def recordBound (record : RequestRecord) (evaluation : EvaluationState) (run : RunState)
    (hosts : List HostEpoch) : Bound :=
  earliest
    ((evaluation.allJobs.filter fun job =>
        job.origin.submission = record.requestId && !job.terminal).map fun job =>
      jobBound job record.until_.at_ run hosts)
    ⟨record.until_.at_, .limit⟩

end VibeServeCore.Clock

namespace VibeServeCore.Watches

open Types

def workspaceOpen (attempts : AttemptsState) (workspace : AttemptRef) : Bool :=
  attempts.attempts.any fun attempt =>
    attempt.ref = workspace && attempt.closure.isNone &&
      (attempt.phase = .acquiring || attempt.phase = .active)

def jobGone (evaluation : EvaluationState) (job : ResourceId) : Bool :=
  evaluation.allJobs.any fun row => row.resourceId = some job && (row.terminal || row.released)

def fired (state : CoreState) : Watch → Option FailureReason
  | .whileOpen workspace =>
    if workspaceOpen state.attempts workspace then none else some .workspaceClosed
  | .whileAlive job => if jobGone state.evaluation job then some .ownerGone else none

def firedReason (state : CoreState) (record : RequestRecord) : Option FailureReason :=
  if record.isOpen then record.until_.watches.findSome? (fired state) else none

def watchDeadlines (state : CoreState) : List RecordsEvent :=
  state.records.records.filterMap fun record =>
    (firedReason state record).map fun reason =>
      .reconciliationDeadline record.requestId state.run.nowAt reason

end VibeServeCore.Watches
