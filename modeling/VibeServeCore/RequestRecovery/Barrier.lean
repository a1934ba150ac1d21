/- source: _request_recovery.py (children, barrier, deadlines)
   digest: Descendants, the recovery barrier, and the deadlines of open records. -/

import Mathlib.Data.List.Sort
import VibeServeCore.Clock
import VibeServeCore.Foundation.Process
import VibeServeCore.RequestRecovery.Resolution

namespace VibeServeCore.RequestRecovery

open Types Proofs Episode Clock Foundation.Ledger Foundation.Process
open RequestForward (turnOf)

abbrev Change := AreaChange RecordsState

variable (digests : Digests)

variable (state : RecordsState) (observation : Observation) (context : RecordsContext)
  (barrier : RecoveryBarrier) (event : RequestObserved) (record : RequestRecord)
  (reason : FailureReason)

def canonicalIds {kind : IdentityKind} (ids : List (Identity kind)) : List (Identity kind) :=
  ids.eraseDups.insertionSort fun first second => first.root ≤ second.root

/-- Every resource reachable through recorded parents; the recorded edges bound the rounds. -/
def ancestorsOf (children : List ChildLease) :
    Nat → List ResourceId → List ResourceId → List ResourceId
  | 0, _, seen => seen
  | fuel + 1, frontier, seen =>
    match frontier.getLast? with
    | none => seen
    | some ancestor =>
      let parents := match children.find? fun child => child.resourceId = ancestor with
        | some lease => lease.parentResources
        | none => []
      let added := (parents.filter fun parent => parent ∉ seen).eraseDups
      ancestorsOf children fuel (frontier.dropLast ++ added) (seen ++ added)

def ancestryRounds (children : List ChildLease) : Nat :=
  (children.map (·.parentResources.length)).sum + 2

def mergeChild (children : List ChildLease) (resource : ResourceId) :
    Except CoreError (List ChildLease) :=
  let parents := observation.resourceId.toList
  if some resource = observation.resourceId then
    .error (.contract ["children"] "resource cannot be its own descendant")
  else if resource ∈ ancestorsOf children (ancestryRounds children) parents parents then
    .error (.contract ["children", "parent_resources"] "cyclic child ownership ancestry")
  else
    match children.find? fun child => child.resourceId = resource with
    | none =>
      let lease : ChildLease :=
        { resourceId := resource, scope := observation.scope
          sourceRequests := [observation.requestId], parentResources := parents }
      .ok (children ++ [lease])
    | some previous =>
      if previous.scope ≠ observation.scope then
        .error (.contract ["children", "scope"] "conflicting child ownership scope")
      else
        let sources := canonicalIds (previous.sourceRequests ++ [observation.requestId])
        let updated :=
          { previous with
            sourceRequests := sources
            parentResources := canonicalIds (previous.parentResources ++ parents)
            watermarkHistoryComplete :=
              previous.watermarkHistoryComplete && sources = previous.sourceRequests }
        .ok (children.replace previous updated)

def sourceFact : Observation :=
  match event.target with
  | some target => target.observation
  | none => event.observation

def sourceObservation : Except CoreError Observation :=
  let observation := sourceFact event
  match state.find observation.requestId with
  | [source] =>
    if (observationFor source observation).isProven then .ok observation
    else .error (.contract ["observation", "admission_id"]
      "child ownership requires canonical source episode")
  | _ => .error (.contract ["observation", "request_id"]
      "child ownership requires a unique canonical source")

def ignoreOwnershipFact (canonical : Option Observation) (observation : Observation)
    (child : Bool) : Except CoreError Bool :=
  match canonical with
  | none => .ok false
  | some canonical =>
    if canonical.requestId ≠ observation.requestId then .ok child
    else if (freshObservation (some canonical) observation).isProven then
      .ok (child && observation = canonical)
    else if observation.sequence < canonical.sequence then .ok true
    else .error (.contract ["observation", "sequence"]
      "conflicting ownership observation sequence")

def childQuery : Verdict RequestRecord :=
  match state.find event.observation.requestId with
  | [] => .missing .absentRequest
  | [query] => (observationFor query event.observation).andThen fun _ => .proven query
  | _ => .mismatch .requestId

def childInspectionFact (target : TargetObservation) : Verdict Observation :=
  (childQuery state event).andThen fun query =>
    let exact := match query.request.body with
      | .inspectRequest inspected resource =>
        inspected = target.observation.requestId && resource = target.targetResource &&
          query.request.scope = target.observation.scope &&
          query.request.admissionId = target.observation.admissionId &&
          query.observation = some event.observation
      | _ => false
    if !exact then .mismatch .payload
    else if query.phase ≠ .completed || !event.observation.terminal ||
        !event.observation.accepted || event.observation.status ≠ .succeeded then
      .missing .absentObservation
    else
      let lease := state.children.find? fun child =>
        some child.resourceId = target.targetResource && child.scope = target.observation.scope
      let stale := match lease with
        | none => false
        | some lease =>
          !lease.watermarkHistoryComplete &&
            match state.record target.observation.requestId with
            | none => true
            | some source =>
              decide (query.requestId ≠
                childInspectionId source lease.resourceId state.recovery.epoch)
      if stale then .missing .absentObservation else .proven target.observation

def markChild (previous : ChildLease) (observation : Observation) : ChildLease :=
  let marks := upsert (·.sourceRequest) (watermarks previous)
    ⟨observation.requestId, observation⟩
  -- A historical source outside the manifest is not erased before that source refreshes.
  let aggregate := match previous.observation with
    | some seen =>
      if marks.any fun mark => mark.sourceRequest = seen.requestId then observation else seen
    | none => observation
  { previous with
    observation := some aggregate
    observationWatermarks :=
      marks.insertionSort fun first second => first.sourceRequest.root ≤ second.sourceRequest.root
    watermarkHistoryComplete :=
      sameIdentities (marks.map (·.sourceRequest)) previous.sourceRequests }

def sortChildren (children : List ChildLease) : List ChildLease :=
  children.insertionSort fun first second => first.resourceId.root ≤ second.resourceId.root

def mergeFact (canonical : Option Observation) (child : Bool) (previous : Option ChildLease) :
    Except CoreError RecordsState := do
  let ignored ← ignoreOwnershipFact canonical observation child
  if ignored then .ok state
  else
    let merged ← sequence (mergeChild observation) state.children observation.children
    match previous with
    | none => .ok { state with children := sortChildren merged }
    | some lease =>
      if lease ∈ merged then
        .ok { state with children := sortChildren (merged.replace lease (markChild lease observation)) }
      else .error (.validation "children" "lease is not in list")

def observedLease (resource : ResourceId) :
    Except CoreError (ChildLease × Option ChildObservationWatermark) :=
  match state.children.find? fun child => child.resourceId = resource with
  | some previous =>
    if previous.scope ≠ observation.scope || observation.requestId ∉ previous.sourceRequests then
      .error (.contract ["target", "resource_id"] "child observation requires exact ownership proof")
    else
      .ok (previous, previous.observationWatermarks.find? fun mark =>
        mark.sourceRequest = observation.requestId)
  | none =>
    .error (.contract ["target", "resource_id"] "child observation requires exact ownership proof")

def acceptedChildFact (previous : ChildLease) (mark : Option ChildObservationWatermark)
    (observation : Observation) : Option Observation :=
  match mark with
  | some mark => some mark.observation
  | none => previous.observation.filter fun seen => seen.requestId = observation.requestId

def observeRoot : Except CoreError RecordsState :=
  match state.record observation.requestId with
  | none => .error (.contract ["observation"] "unknown canonical ownership source")
  | some record =>
    if observation.scope ≠ record.request.scope then
      .error (.contract ["observation"] "unknown canonical ownership source")
    else mergeFact state observation record.observation false none

def observeFact : Except CoreError RecordsState := do
  let observation ← sourceObservation state event
  match event.target with
  | some target =>
    match target.targetResource with
    | some resource =>
      match childInspectionFact state event target with
      | .missing _ => .ok state
      | .mismatch field => .error (.contract ["target", field.text]
          "child inspection differs from committed canonical query")
      | .proven _ =>
        let (previous, mark) ← observedLease state observation resource
        mergeFact state observation (acceptedChildFact previous mark observation)
          (mark.isSome && previous.watermarkHistoryComplete) (some previous)
    | none => observeRoot state observation
  | none => observeRoot state observation

def observeChildren : Except CoreError RecordsState := do
  let base ← (if event.target.isSome then observeFact state { event with target := none }
    else .ok state)
  let updated ← observeFact base event
  let _ ← validateChildren updated
  .ok updated

def jobTakesChild (child : ChildLease) (ancestor : RequestRecord) (job : OwnedJob) : Bool :=
  match state.record job.origin.submission, job.observation with
  | some source, some observation =>
    source.request.admissionId = ancestor.request.admissionId &&
      (child.observation.all fun seen => seen.requestId = source.requestId) &&
      typedJobOwner digests source context observation job &&
      source.request.scope = child.scope && observation.requestId = job.origin.submission &&
      observation.scope = child.scope && observation.resourceId = some child.resourceId &&
      observation.admissionId = source.request.admissionId &&
      ((resolvedObservation observation).isProven ||
        (observation.accepted && observation.childrenComplete && observation.status ≠ .unknown))
  | _, _ => false

def retainsChild (child : ChildLease) : Except CoreError Bool :=
  let several := child.sourceRequests.length > 1
  if (child.observation.isSome || several) && !childProven child state then .ok true
  else if several && !childReleased digests child state then .ok true
  else if state.records.any fun record => record.requestId ∈ child.sourceRequests &&
      record.phase = .prepared && record.observation.isNone then
    .ok true
  else
    let matches_ := context.evaluation.allJobs.filter fun job =>
      job.resourceId = some child.resourceId
    if matches_.any fun job => job.scope ≠ child.scope then
      .error (.contract ["children", "scope"] "typed owner conflicts with discovered child scope")
    else if matches_.isEmpty then .ok true
    else
      match child.sourceRequests.head?.bind state.record with
      | none => .error (.contract ["children"] "child requires a canonical source")
      | some ancestor => .ok !(matches_.any (jobTakesChild digests state context child ancestor))

def transferChildren : Except CoreError RecordsState := do
  let _ ← validateChildren state
  let retained ← state.children.filterM (retainsChild digests state context)
  .ok { state with children := retained }

def withResolution (check : RecoveryCheck) (resolution : Resolution) : RecoveryCheck :=
  if check.resolution = .blocked && resolution = .pending then check
  else { check with resolution }

def sourced (target : RequestId) : Bool :=
  state.children.any fun child => target ∈ child.sourceRequests

def leavesUnproven (target : RequestId) : Bool :=
  state.children.any fun child => target ∈ child.sourceRequests && !childProven child state

def aggregateResolution (context : RecordsContext) (state : RecordsState) : Resolution :=
  let alone := resolution digests record context
  if alone = .safePrepared && sourced state record.requestId then .pending
  else if leavesUnproven state record.requestId then .pending
  else alone

def ownedJobSubject (job : OwnedJob) : WaitSubject :=
  match job.origin with
  | .registered requestId _ _ _ => ⟨.ownedJob, requestId.root⟩
  | .measurement _ _ => ⟨.ownedJob, (job.resourceId.map (·.root)).getD ""⟩

def ownerSessions (record : Option RequestRecord) (context : RecordsContext) : List WaitSubject :=
  match record with
  | none => []
  | some record =>
    match record.request.body with
    | .ensureSession spec _ =>
      (context.sessions.sessions.filter fun session =>
        session.wait.isSome && session.scope = record.request.scope && session.spec = spec).map
          fun session => ⟨.session, session.spec.sessionId.root⟩
    | _ => []

def expectedAnswers (check : RecoveryCheck) (epoch : Nat) : List RequestId :=
  let children := state.children.filter fun child => check.target ∈ child.sourceRequests
  [check.target] ++ check.inspection.toList ++
    (match state.record check.target with
    | some record => children.map fun child => childInspectionId record child.resourceId epoch
    | none => []) ++
    (state.records.filter fun row =>
      match row.request.body with
      | .inspectRequest target _ => target = check.target
      | _ => false).map (·.requestId)

def settlingJobs (target : RequestId) : List WaitSubject :=
  let jobs := (state.children.filter fun child => target ∈ child.sourceRequests).map fun child =>
    context.evaluation.allJobs.find? fun job =>
      job.wait.isSome && job.resourceId = some child.resourceId && job.scope = child.scope
  if jobs.all (·.isSome) then (jobs.filterMap fun job => job.map ownedJobSubject).eraseDups else []

def buildWait (requests : List RequestId) (subjects : List WaitSubject) : Except CoreError WaitOn :=
  if requests.isEmpty && subjects.isEmpty then
    .error (.validation "requests" "a wait names a request, a waiting entity or a timer")
  else if !requests.Nodup then .error (.validation "requests" "a wait names each request once")
  else if !subjects.Nodup then .error (.validation "subjects" "a wait names each entity once")
  else .ok { requests := requests, subjects }

def checkWait (check : RecoveryCheck) (sent : List RequestId) (epoch : Nat) :
    Except CoreError (Option WaitOn) :=
  if check.resolution ≠ .pending then .ok none
  else
    let requests := ((expectedAnswers state check epoch).filter fun request =>
      request ∈ sent || (state.record request).any (·.inFlight)).eraseDups
    let subjects := settlingJobs state context check.target ++
      ownerSessions (state.record check.target) context
    if requests.isEmpty && subjects.isEmpty then .ok check.wait
    else (buildWait requests subjects).map some

def barrierPhase (checks : List RecoveryCheck) : RecoveryPhase :=
  if checks.all fun check => check.resolution ≠ .pending && check.resolution ≠ .blocked then .ready
  else if checks.any fun check => check.resolution = .blocked then .blocked
  else .recovering

def finish (context : RecordsContext) (sent : List Outbound) : Except CoreError Change := do
  let sentIds := sent.filterMap (·.request.requestId)
  let checks ← barrier.checks.mapM fun check =>
    (checkWait state context check sentIds barrier.epoch).map fun wait => { check with wait }
  let phase := barrierPhase checks
  let signals :=
    if phase = .ready && (state.recovery.phase ≠ .ready || state.recovery.epoch ≠ barrier.epoch) then
      [.records (.recoveryReady barrier.epoch)]
    else []
  .ok { state := { state with recovery := { barrier with checks, phase } }, signals }

def recheck (target : RequestId) : Except CoreError Change :=
  let barrier := state.recovery
  if barrier.phase ≠ .recovering then .ok { state := state }
  else
    let checks := barrier.checks.map fun check =>
      if check.target = target && check.resolution = .pending then
        match state.record check.target with
        | some record => withResolution check (aggregateResolution digests record context state)
        | none => check
      else check
    finish state { barrier with checks } context []

def replaceRecord : RecordsState :=
  { state with records := overwrite (·.requestId) record state.records }

def freshBound (nowAt : Seconds) : Seconds :=
  max context.run.nowAt nowAt + context.run.limits.reconciliationBound

def atLeastUntil (bound : Seconds) : RequestRecord :=
  { record with until_ := { record.until_ with at_ := max record.until_.at_ bound } }

def requeueLostInspection (nowAt : Seconds) (record : RequestRecord) : RecordsState :=
  let open_ := match record.request.body with
    | .inspectRequest .. => record.inFlight
    | _ => decide (record.phase = .prepared)
  if open_ && record.observation.isNone then
    replaceRecord state { atLeastUntil record (freshBound context nowAt) with phase := .prepared }
  else state

def restartCommand (epoch : Nat) (nowAt : Seconds) (record : RequestRecord) :
    RecordsState × List Outbound :=
  let inspects := match record.request.body with
    | .inspectRequest .. => true
    | _ => false
  if inspects || record.phase = .prepared then
    (requeueLostInspection state context nowAt record, [])
  else if record.phase = .dispatched || record.phase = .reconciling then
    (replaceRecord state (atLeastUntil record (freshBound context nowAt)),
      [probe (inspection record epoch) context])
  else (state, [])

def opensEpoch (epoch : Nat) : Bool :=
  epoch > barrier.epoch || (epoch = barrier.epoch && barrier.phase = .required)

def movedRecord (run : RunState) (credit : Seconds) (record : RequestRecord) : RequestRecord :=
  let at_ := record.until_.at_ + credit
  let capped := if record.until_.at_ ≤ run.deadlineAt then min at_ run.deadlineAt else at_
  if record.isOpen then { record with until_ := { record.until_ with at_ := capped } } else record

def openHostEpoch (run : RunState) (epoch : Nat) (nowAt : Seconds) :
    Except CoreError RecordsState :=
  if !opensEpoch state.recovery epoch then .ok state
  else do
    let hosts ← opened state.hosts epoch nowAt run.nowAt
    let credit := downtime hosts
    if credit ≤ 0 || run.status = .terminal then .ok { state with hosts }
    else
      .ok { state with hosts, records := state.records.map (movedRecord run credit) }

def blockedBefore : Bool :=
  barrier.checks.any fun check => check.target = record.requestId && check.resolution = .blocked

structure Started where
  state : RecordsState
  checks : List RecoveryCheck := []
  requests : List Outbound := []

def addressesRecord : Bool :=
  match record.request.body.commandTarget? with
  | some target => state.records.any fun row => row.requestId = target
  | none => false

def startRecord (initial : RecordsState) (epoch : Nat) (nowAt : Seconds) (started : Started)
    (record : RequestRecord) : Started :=
  if addressesRecord initial record && !leavesUnproven started.state record.requestId then
    let (state, sent) := restartCommand started.state context epoch nowAt record
    { started with state, requests := started.requests ++ sent }
  else
    let alone := resolution digests record context
    let resolved := aggregateResolution digests record context started.state
    let asks := resolved = .pending && alone ≠ .terminal && alone ≠ .reattached
    let check : RecoveryCheck :=
      { target := record.requestId
        inspection := if asks then (inspection record epoch).requestId else none
        resolution :=
          if resolved = .pending && blockedBefore initial.recovery record then .blocked
          else resolved
        wait := none }
    let children := started.state.children.filter fun child =>
      record.requestId ∈ child.sourceRequests && !childProven child started.state
    { started with
      checks := started.checks ++ [check]
      requests := started.requests ++
        (if asks then [probe (inspection record epoch) context] else []) ++
        children.map fun child => probe (childInspection record child.resourceId epoch) context }

def observeRecorded : Except CoreError RecordsState :=
  match record.observation with
  | none => .ok state
  | some observation =>
    if (observationFor record observation).isProven then
      observeChildren state { observation := observation }
    else .ok state

def start (epoch : Nat) (nowAt : Seconds) : Except CoreError Change := do
  let _ ← validateChildren state
  if !opensEpoch state.recovery epoch then .ok { state := state }
  else if context.run.status = .terminal then
    -- The run ended, so its closure already proved every owner released.
    finish state { epoch, phase := .recovering } context []
  else
    let observed ← sequence observeRecorded state state.records
    let _ ← validateChildren observed
    let transferred ← transferChildren digests observed context
    let started := state.records.foldl (startRecord digests context state epoch nowAt)
      { state := transferred }
    if !(started.checks.map (·.target)).Nodup then
      .error (.validation "checks" "duplicate recovery target")
    else
      let change ← finish started.state
        { epoch, phase := .recovering, checks := started.checks } context started.requests
      .ok { change with requests := started.requests }

def childReleaseSignals (before after : RecordsState) (context : RecordsContext) : List Signal :=
  after.children.filterMap fun child =>
    match child.observation, child.scope.owner with
    | some observation, .attempt attemptId =>
      let previous := before.children.find? fun lease => lease.resourceId = child.resourceId
      let target : AttemptRef := ⟨attemptId, child.scope.generation⟩
      if observation.requestId ∈ child.sourceRequests && childReleased digests child after &&
          !(previous.any fun lease => childReleased digests lease before) &&
          context.attempts.attempts.any fun owner =>
            owner.ref = target && .job child.resourceId ∈ owner.releaseDependencies then
        some (.attempts (.releaseDependencyObserved target (.job child.resourceId) observation))
      else none
    | _, _ => none

def inspectionExists (wanted : Request) : Except CoreError Bool :=
  match wanted.requestId.bind state.record with
  | none => .ok false
  | some previous =>
    if previous.request.scope = wanted.scope && previous.request.admissionId = wanted.admissionId &&
        previous.request.body = wanted.body then
      .ok true
    else .error (.contract ["request_id"] "inspection successor identity conflict")

def newProbe (wanted : Request) : Except CoreError (List Outbound) :=
  (inspectionExists state wanted).map fun recorded =>
    if recorded then [] else [probe wanted context]

def reopenCheck (epoch : Nat) (record : RequestRecord) (checks : List RecoveryCheck) :
    Except CoreError (List RecoveryCheck × List Outbound) :=
  let alone := resolution digests record context
  let asks := alone ≠ .terminal && alone ≠ .reattached
  let wanted := inspection record epoch
  let asked := if asks then wanted.requestId else none
  match checks.find? fun check => check.target = record.requestId with
  | none => do
    let own ← if asks then newProbe state context wanted else .ok []
    let check : RecoveryCheck :=
      { target := record.requestId, inspection := asked, wait := none }
    .ok (checks ++ [check], own)
  | some check =>
    if check.resolution = .pending || check.resolution = .blocked then .ok (checks, [])
    else do
      let own ← if check.inspection.isNone && asks then newProbe state context wanted else .ok []
      let reopened : RecoveryCheck :=
        { check with resolution := .pending, inspection := check.inspection.or asked }
      .ok (checks.replace check reopened, own)

def probeRecord (epoch : Nat) (collected : List RecoveryCheck × List Outbound)
    (record : RequestRecord) : Except CoreError (List RecoveryCheck × List Outbound) :=
  let children := state.children.filter fun child =>
    record.requestId ∈ child.sourceRequests && !childProven child state
  if children.isEmpty then .ok collected
  else do
    let reopened ← reopenCheck digests state context epoch record collected.1
    let probes ← children.mapM fun child =>
      newProbe state context (childInspection record child.resourceId epoch)
    .ok (reopened.1, collected.2 ++ reopened.2 ++ probes.flatten)

def pendingProbes : Except CoreError (List RecoveryCheck × List Outbound) :=
  sequence (probeRecord digests state context barrier.epoch) (barrier.checks, []) state.records

def reports (target : TargetObservation) : Bool :=
  (target.reissue.isSome && record.phase = .prepared) ||
    record.observation = some target.observation

def answersCheck (epoch : Nat) (check : RecoveryCheck) : Bool :=
  match event.target with
  | none => false
  | some target =>
    check.target = target.observation.requestId &&
      match target.targetResource, state.record check.target with
      | none, some record => reports record target
      | some resource, some record =>
        childInspectionId record resource epoch = event.observation.requestId
      | _, none => false

def observeCheck (before after : RecordsState) (context : RecordsContext) (event : RequestObserved)
    (epoch : Nat) (check : RecoveryCheck) : RecoveryCheck :=
  match before.record check.target with
  | none => check
  | some record =>
    let matches_ := answersCheck before event epoch check
    let handedOver := sourced before check.target && !sourced after check.target
    let resolved :=
      if matches_ || handedOver then aggregateResolution digests record context after
      else check.resolution
    let childResource := event.target.bind (·.targetResource)
    -- A record core already ended as blocked has no deadline left to end its check.
    if matches_ && resolved = .pending && check.resolution = .pending && record.phase = .blocked &&
        childResource.isNone && !sourced after check.target then
      withResolution check .terminal
    else withResolution check resolved

def observe : Except CoreError Change := do
  let observed ← observeChildren state event
  let released := childReleaseSignals digests state observed context
  let updated ← transferChildren digests observed context
  let barrier := state.recovery
  if barrier.phase = .required then .ok { state := updated, signals := released }
  else
    let (checks, requests) ← pendingProbes digests updated context barrier
    if barrier.phase = .ready && checks = barrier.checks then
      .ok { state := updated, signals := released }
    else
      let resolved := checks.map (observeCheck digests state updated context event barrier.epoch)
      let change ← finish updated { barrier with checks := resolved } context requests
      .ok { change with signals := released ++ change.signals, requests }

/-! ## Deadlines -/

def deadlineTarget (state : RecordsState) : Nat → List RequestId → RequestId →
    Except CoreError RequestRecord
  | 0, _, _ => .error .recursion
  | fuel + 1, seen, requestId =>
    if requestId ∈ seen then
      .error (.contract ["request", "target"] "cyclic reconciliation command ancestry")
    else
      match state.record requestId with
      | none => .error (.contract ["request_id", requestId.root] "unknown reconciliation target")
      | some record =>
        match record.request.body.commandTarget? with
        | none => .ok record
        | some targetId =>
          match state.record targetId with
          | none =>
            .error (.contract ["request", "target", targetId.root]
              "missing canonical reconciliation target")
          | some target =>
            if record.request.scope ≠ target.request.scope ||
                record.request.admissionId ≠ target.request.admissionId then
              .error (.contract ["request", "target"]
                "reconciliation command conflicts with target scope or episode")
            else deadlineTarget state fuel (requestId :: seen) targetId

def awaitingReport : Option Seconds :=
  if state.recovery.phase = .ready then none
  else
    match state.recovery.checks.find? fun row => row.target = record.requestId with
    | none => none
    | some check =>
      if check.resolution ≠ .pending then none
      else
        match check.inspection.bind state.record with
        | none => none
        | some row => if row.observation.isSome then none else some row.until_.at_

def firedWatch : Option Watch :=
  record.until_.watches.find? fun watch =>
    match watch, reason with
    | .whileOpen _, .workspaceClosed | .whileAlive _, .ownerGone => true
    | _, _ => false

def limitReason : FailureReason → Bool
  | .timedOut | .queueBudgetSpent => true
  | _ => false

def buildFailed (failure : Failed) : Except CoreError Failed :=
  let needsWatch := failure.reason = .workspaceClosed || failure.reason = .ownerGone
  let needsLimit := limitReason failure.reason
  let needsCause := failure.reason = .refused
  let needsDetail := failure.reason = .invalidReply || failure.reason = .turnFailed ||
    failure.reason = .waitRefused
  if failure.watch.isSome = needsWatch && failure.limitAt.isSome = needsLimit &&
      failure.cause.isSome = needsCause && (!needsDetail || failure.detail.isSome) then
    .ok failure
  else .error (.validation "failed" "fields do not match the reason")

def failure (limitAt : Seconds) : Except CoreError Failed :=
  buildFailed
    { reason, decision := record.request.decisionId, watch := firedWatch record reason
      limitAt := if limitReason reason then some limitAt else none }

def lostTurn (first : Bool) : Except CoreError (List Signal) :=
  if !first || !record.isOpen || record.phase = .prepared then .ok []
  else
    (turnOf context record).map fun turn =>
      match turn with
      | none => []
      | some invocation =>
        [.sessions (.invocationCancellationRequested invocation (lostTurnAuthority invocation))]

def decisionEnded : Bool :=
  match record.request.decisionId with
  | none => false
  | some decision =>
    state.records.any fun row =>
      row.failure.isSome && failureHearer row.request = .decision &&
        row.request.decisionId = some decision && row.requestId ≠ record.requestId

def endFailure (failed : Failed) (lost : Bool) : Option Failed :=
  if lost then none else record.failure.or (some failed)

def blockedRecord (failed : Failed) (lost : Bool) : RequestRecord :=
  { record with phase := .blocked, failure := endFailure record failed lost }

def heardFailure (failed : Failed) (lost first : Bool) : List StrategyEvent :=
  match endFailure record failed lost with
  | some told =>
    if first && failureHearer record.request = .decision && !decisionEnded state record then
      [.failed told]
    else []
  | none => []

def endOpenRecord (failed : Failed) (lost first : Bool) : RecordsState × List StrategyEvent :=
  if !record.isOpen then (state, [])
  else
    (replaceRecord state (blockedRecord record failed lost),
      heardFailure state record failed lost first)

def cancelSettled (records : RecordsState) (run : RunState) (resource : ResourceId) : Bool :=
  let cancels := (records.aboutResource resource).filter fun row =>
    match row.request.body with
    | .cancelOwnedJob _ => true
    | _ => false
  let blocked := (cancels.filter fun row => row.phase = .blocked || row.failure.isSome).length
  blocked < cancels.length || blocked > run.limits.requestRetries.limit

def orphanSource : Option RequestId :=
  let source : Option RequestId := match record.request.body with
    | .submitMeasurement _ => some record.requestId
    | .cancelOwnedJob resourceId =>
      let job? := context.evaluation.jobs.find? fun job => job.resourceId = some resourceId
      (job?.map fun job => job.origin.submission).filter fun submission =>
        (state.record submission).any fun ended => ended.failure.isSome
    | _ => none
  source.filter fun submission =>
    !(context.evaluation.agentCalls.any fun call => call.requestId = some submission)

def orphanedJobs : List Signal :=
  match orphanSource state context record with
  | none => []
  | some source =>
    (context.evaluation.jobs.filter fun job => job.origin.submission = source && !job.terminal).filterMap
      fun job => (job.resourceId.filter fun resource =>
        !cancelSettled state context.run resource).map fun resource =>
          .evaluation (.jobTerminationRequested resource
            (if limitReason reason then .deadline else .retirement))

def cancelledHere : Bool :=
  match record.request.body with
  | .executeRegisteredOperation .. =>
    record.lifecycle ≠ .ownedJob && record.lifecycle ≠ .sessionTurn
  | _ => false

def deadlineInspection (epoch : Nat) : Request :=
  { inspection record epoch with
    requestId := some ⟨"recovery:deadline:" ++ toString epoch ++ ":" ++ record.requestId.root⟩ }

def sameCommand (recorded wanted : Request) : Bool :=
  recorded.scope = wanted.scope && recorded.admissionId = wanted.admissionId &&
    recorded.body = wanted.body

def deadlineBarrier : Except CoreError (RecoveryBarrier × List Outbound) :=
  if aggregateResolution digests record context state = .reattached then .ok (state.recovery, [])
  else
    let wanted := deadlineInspection record state.recovery.epoch
    let blocked : RecoveryCheck :=
      { target := record.requestId, inspection := wanted.requestId, resolution := .blocked
        wait := none }
    let checks := match state.recovery.checks.find? fun check => check.target = record.requestId with
      | none => state.recovery.checks ++ [blocked]
      | some check => state.recovery.checks.replace check blocked
    let barrier := { state.recovery with phase := .blocked, checks }
    match wanted.requestId.bind state.record with
    | none => .ok (barrier, [probe wanted context])
    | some existing =>
      if sameCommand existing.request wanted then .ok (barrier, [])
      else .error (.contract ["request_id"] "inspection successor identity conflict")

def pendingCancellations (cancellations : List Request) : Except CoreError (List Request) :=
  cancellations.filterM fun cancellation =>
    match cancellation.requestId.bind state.record with
    | none => .ok true
    | some previous =>
      if sameCommand previous.request cancellation then .ok false
      else .error (.contract ["request_id"] "cancellation successor identity conflict")

def deadlineCancel (epoch : Nat) (resource : ResourceId) : Request where
  requestId := some ⟨"recovery:cancel:" ++ toString epoch ++ ":" ++
    toString record.requestId.root.length ++ ":" ++ record.requestId.root ++ ":" ++ resource.root⟩
  scope := record.request.scope
  admissionId := record.request.admissionId
  body := .cancelOwnedResource resource record.requestId

def deadlineBlock (epoch : Nat) (reason : FailureReason) : Request where
  requestId := some ⟨"recovery:block:" ++ toString epoch ++ ":" ++ record.requestId.root⟩
  scope := record.request.scope
  admissionId := record.request.admissionId
  body := .blockRequest record.requestId reason

def previousBlock : Except CoreError (Option RequestRecord) :=
  let wanted := deadlineBlock record state.recovery.epoch .timedOut
  match wanted.requestId.bind state.record with
  | none => .ok none
  | some previous =>
    let same := match previous.request.body with
      | .blockRequest target _ =>
        target = record.requestId && previous.request.scope = record.request.scope &&
          previous.request.admissionId = record.request.admissionId
      | _ => false
    if same then .ok (some previous)
    else .error (.contract ["request_id"] "reconciliation successor identity conflict")

def unresolvedChildren : Bool :=
  state.children.any fun child =>
    record.requestId ∈ child.sourceRequests && !childReleased digests child state

def deadlineResources (resolved : Resolution) : List ResourceId :=
  let own := match record.observation with
    | some observation =>
      if resolved ≠ .reattached && observation.accepted &&
          (observationFor record observation).isProven &&
          resourceIdentified record context observation &&
          !(resolvedObservation observation).isProven && cancelledHere record then
        observation.resourceId.toList
      else []
    | none => []
  canonicalIds (own ++ (state.children.filter fun child =>
    child.scope = record.request.scope && record.requestId ∈ child.sourceRequests &&
      !childReleased digests child state).map (·.resourceId))

def deadlineWaits (nowAt : Seconds) (reason : FailureReason) : Bool :=
  let timed := reason = .timedOut
  let bound := recordBound record context.evaluation context.run state.hosts
  let unresolved := unresolvedChildren digests state record
  let resolved := resolution digests record context
  (timed && nowAt < bound.at_) ||
    (timed && (awaitingReport state record).any fun until_ => nowAt < until_) ||
    (resolved = .terminal && !unresolved) ||
    (timed && !record.isOpen && !unresolved && resolved = .reattached)

def deadlineReason (bound : Bound) : FailureReason :=
  if reason = .timedOut && bound.by_ = .queueBudget then .queueBudgetSpent else reason

def gatedBarrier (ended : RecordsState) (context : RecordsContext) (record : RequestRecord) :
    Except CoreError (RecoveryBarrier × List Outbound) :=
  if ended.recovery.phase ≠ .ready then deadlineBarrier digests ended context record
  else .ok (ended.recovery, [])

def endAtDeadline : Except CoreError Change := do
  let bound := recordBound record context.evaluation context.run state.hosts
  let told := deadlineReason reason bound
  let recorded ← previousBlock state record
  let first := recorded.isNone
  let lost ← lostTurn context record first
  let failed ← failure record told bound.at_
  let (ended, events) := endOpenRecord state record failed (!lost.isEmpty) first
  let orphans := orphanedJobs ended context record told
  let resources := deadlineResources digests ended context record
    (resolution digests record context)
  let cancels ← pendingCancellations ended
    (resources.map (deadlineCancel record state.recovery.epoch))
  let blocks := if first then [probe (deadlineBlock record state.recovery.epoch told) context] else []
  let bounded := cancels.map fun cancel => within cancel context.run.limits.cancellationBound
  let (barrier, inspections) ← gatedBarrier digests ended context record
  .ok { state := { ended with recovery := barrier }, signals := lost ++ orphans
        requests := blocks ++ bounded ++ inspections, events }

def deadline (requestId : RequestId) (nowAt : Seconds) (reason : FailureReason) :
    Except CoreError Change := do
  let record ← deadlineTarget state (state.records.length + 1) [] requestId
  let _ ← validateChildren state
  if deadlineWaits digests state context record (max context.run.nowAt nowAt) reason then
    .ok { state := state }
  else endAtDeadline digests state context record reason

def lapseCommand (requestId : RequestId) (nowAt : Seconds) : Except CoreError Change := do
  let _ ← deadlineTarget state (state.records.length + 1) [] requestId
  match state.record requestId with
  | none => .ok { state := state }
  | some command =>
    if !command.commandOpen || max context.run.nowAt nowAt < command.until_.at_ then
      .ok { state := state }
    else .ok { state := replaceRecord state { command with phase := .blocked } }

def overdueReconciliations (evaluation : EvaluationState) (run : RunState) : List RecordsEvent :=
  ((state.records.filter fun record =>
      record.isOpen && (recordBound record evaluation run state.hosts).at_ ≤ run.nowAt).map
    fun record => .reconciliationDeadline record.requestId run.nowAt .timedOut) ++
  ((state.records.filter fun record =>
      record.commandOpen && record.until_.at_ ≤ run.nowAt).map
    fun record => .reconciliationCommandLapsed record.requestId run.nowAt)

def advance (event : RecordsEvent) : Except CoreError Change :=
  match event with
  | .recoveryStarted epoch nowAt => start digests state context epoch nowAt
  | .requestObserved event => observe digests state context event
  | .reconciliationDeadline requestId nowAt reason =>
    deadline digests state context requestId nowAt reason
  | .reconciliationCommandLapsed requestId nowAt => lapseCommand state context requestId nowAt
  | .recoveryCheckWaitLapsed target => recheck digests state context target
  | .recoveryReady epoch =>
    if epoch = state.recovery.epoch && state.recovery.phase ≠ .ready then
      .error (.contract ["recovery"] "readiness requires resolved current-epoch checks")
    else .ok { state := state }
  | _ => .error (.contract ["event"] "event is not owned by record recovery")

end VibeServeCore.RequestRecovery
