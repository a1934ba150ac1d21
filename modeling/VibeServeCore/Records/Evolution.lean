/- source: records.py
   digest: Routing record events, and what a ledger step may do to a row. -/

import VibeServeCore.RequestLedger
import VibeServeCore.RequestRecovery.Barrier

/-! One relation says what a writer may do to a row, `LedgerStep` also what it may publish: news of
a row only as the step closes it. Steps compose, so whole runs follow. -/

namespace VibeServeCore.Records

open Types Proofs Foundation.Ledger
open RequestLedger (completionOf)

abbrev Change := AreaChange RecordsState

def observation (digests : Digests) (state : RecordsState) (context : RecordsContext)
    (event : RequestObserved) : Except CoreError Change := do
  let late ← RequestLedger.isLate state event
  if late then .ok { state := state }
  else
    let ledger ← RequestLedger.observed digests context state event
    let recorded ← RequestLedger.canonical ledger.state event
    let recovery ← RequestRecovery.observe digests ledger.state context recorded
    .ok { state := recovery.state, signals := ledger.signals ++ recovery.signals
          requests := ledger.requests ++ recovery.requests
          events := ledger.events ++ recovery.events }

def advanceRecord (digests : Digests) (state : RecordsState) (context : RecordsContext)
    (event : RecordsEvent) : Except CoreError Change :=
  match event with
  | .requestPrepared _ | .dispatchAuthorized _ _ | .operationRetireRequested _ _ | .retryDue _ _
  | .requestUndispatchable _ | .blockedRecordStalled _ =>
    RequestLedger.advance digests state context event
  | .requestObserved observed => observation digests state context observed
  | .recoveryStarted _ _ | .recoveryReady _ | .reconciliationDeadline _ _ _
  | .reconciliationCommandLapsed _ _ | .recoveryCheckWaitLapsed _ =>
    RequestRecovery.advance digests state context event
  | .hostRenewed epoch nowAt => Clock.renewed state epoch nowAt

/-- A later form of a closing observation: facts only become true and children are appended. -/
structure Refines (closed later : Observation) : Prop where
  status : later.status = closed.status
  accepted : later.accepted = closed.accepted
  terminal : later.terminal = closed.terminal
  resourceId : later.resourceId = closed.resourceId
  revision : later.revision = closed.revision
  released : closed.released → later.released
  childrenComplete : closed.childrenComplete → later.childrenComplete
  children : closed.children <+: later.children
  sequence : closed.sequence ≤ later.sequence

theorem Refines.refl (observation : Observation) : Refines observation observation :=
  ⟨rfl, rfl, rfl, rfl, rfl, id, id, List.prefix_refl _, le_rfl⟩

theorem Refines.trans {first second third : Observation} (left : Refines first second)
    (right : Refines second third) : Refines first third where
  status := right.status.trans left.status
  accepted := right.accepted.trans left.accepted
  terminal := right.terminal.trans left.terminal
  resourceId := right.resourceId.trans left.resourceId
  revision := right.revision.trans left.revision
  released := fun held => right.released (left.released held)
  childrenComplete := fun held => right.childrenComplete (left.childrenComplete held)
  children := left.children.trans right.children
  sequence := left.sequence.trans right.sequence

/-- What a completed row keeps. -/
structure Settled (row next : RequestRecord) : Prop where
  phase : next.phase = .completed
  observation : ∀ closed, row.observation = some closed →
    ∃ later, next.observation = some later ∧ Refines closed later
  sequence : ∀ number, row.sequence = some number →
    ∃ later, next.sequence = some later ∧ number ≤ later
  outcome : next.outcome = row.outcome
  outcomeSchema : next.outcomeSchema = row.outcomeSchema
  outcomeJson : next.outcomeJson = row.outcomeJson
  setupFailure : next.setupFailure = row.setupFailure
  evaluationResult : next.evaluationResult = row.evaluationResult

def AnswerKept (row next : RequestRecord) : Prop :=
  ∀ held, row.observation = some held →
    ∃ later, next.observation = some later ∧ (later = held ∨ held.sequence < later.sequence)

/-- Identity stands, a closed row stays settled, its answer is superseded unless sent out again. -/
structure RecordEvolution (reissued : RequestId → Prop) (row next : RequestRecord) : Prop where
  requestId : next.requestId = row.requestId
  request : next.request = row.request
  payloadDigest : next.payloadDigest = row.payloadDigest
  lifecycle : next.lifecycle = row.lifecycle
  closed : row.phase = .completed → Settled row next
  answer : ¬reissued row.requestId → AnswerKept row next

variable {row next : RequestRecord}

theorem Settled.refl (closed : row.phase = .completed) : Settled row row where
  phase := closed
  observation := fun observation found => ⟨observation, found, .refl observation⟩
  sequence := fun number found => ⟨number, found, le_rfl⟩
  outcome := rfl
  outcomeSchema := rfl
  outcomeJson := rfl
  setupFailure := rfl
  evaluationResult := rfl

variable {first second third : RequestRecord} {middle : List RequestRecord}
    {decisionId : DecisionId} {status : CompletionStatus} {result : OperationResult}

theorem Settled.trans (left : Settled first second) (right : Settled second third) :
    Settled first third where
  phase := right.phase
  observation := fun closed found => by
    obtain ⟨middle, foundMiddle, refined⟩ := left.observation closed found
    obtain ⟨later, foundLater, refinedLater⟩ := right.observation middle foundMiddle
    exact ⟨later, foundLater, refined.trans refinedLater⟩
  sequence := fun number found => by
    obtain ⟨middle, foundMiddle, grown⟩ := left.sequence number found
    obtain ⟨later, foundLater, grownLater⟩ := right.sequence middle foundMiddle
    exact ⟨later, foundLater, grown.trans grownLater⟩
  outcome := right.outcome.trans left.outcome
  outcomeSchema := right.outcomeSchema.trans left.outcomeSchema
  outcomeJson := right.outcomeJson.trans left.outcomeJson
  setupFailure := right.setupFailure.trans left.setupFailure
  evaluationResult := right.evaluationResult.trans left.evaluationResult

theorem AnswerKept.same (same : next.observation = row.observation) :
    AnswerKept row next := fun held stored => ⟨held, same.trans stored, .inl rfl⟩

theorem AnswerKept.trans (left : AnswerKept first second) (right : AnswerKept second third) :
    AnswerKept first third := by
  intro held stored
  obtain ⟨middle, storedMiddle, leftOrder⟩ := left held stored
  obtain ⟨later, storedLater, rightOrder⟩ := right middle storedMiddle
  refine ⟨later, storedLater, ?_⟩
  rcases leftOrder with rfl | leftOrder
  · exact rightOrder
  · rcases rightOrder with rfl | rightOrder
    · exact .inr leftOrder
    · exact .inr (leftOrder.trans rightOrder)

variable {reissued : RequestId → Prop}

theorem RecordEvolution.refl (row : RequestRecord) : RecordEvolution reissued row row :=
  ⟨rfl, rfl, rfl, rfl, Settled.refl, fun _ => .same rfl⟩

theorem RecordEvolution.trans ⦃first second third : RequestRecord⦄
    (left : RecordEvolution reissued first second)
    (right : RecordEvolution reissued second third) : RecordEvolution reissued first third where
  requestId := right.requestId.trans left.requestId
  request := right.request.trans left.request
  payloadDigest := right.payloadDigest.trans left.payloadDigest
  lifecycle := right.lifecycle.trans left.lifecycle
  closed := fun closed =>
    (left.closed closed).trans (right.closed (left.closed closed).phase)
  answer := fun kept => (left.answer kept).trans (right.answer (left.requestId ▸ kept))

theorem RecordEvolution.mono {wider : RequestId → Prop} (widen : ∀ identity, reissued identity →
    wider identity) ⦃row next : RequestRecord⦄ (evolved : RecordEvolution reissued row next) :
    RecordEvolution wider row next :=
  { evolved with answer := fun kept => evolved.answer fun held => kept (widen _ held) }

theorem RecordEvolution.of_open (open_ : row.phase ≠ .completed)
    (requestId : next.requestId = row.requestId) (request : next.request = row.request)
    (payloadDigest : next.payloadDigest = row.payloadDigest)
    (lifecycle : next.lifecycle = row.lifecycle)
    (answer : ¬reissued row.requestId → AnswerKept row next) : RecordEvolution reissued row next :=
  ⟨requestId, request, payloadDigest, lifecycle, fun closed => absurd closed open_, answer⟩

structure SoundRow (row : RequestRecord) : Prop where
  answer : ∀ observation, row.observation = some observation →
    Correlated row observation ∧ row.sequence = some observation.sequence
  unsent : row.phase = .prepared → row.observation = none
  closed : row.phase = .completed → row.observation.isSome

theorem SoundRow.congr (sound : SoundRow row) (same : next.requestId = row.requestId)
    (request : next.request = row.request) (observation : next.observation = row.observation)
    (sequence : next.sequence = row.sequence)
    (unsent : next.phase = .prepared → row.observation = none)
    (closed : next.phase = .completed → row.observation.isSome) : SoundRow next where
  answer := by
    intro held stored
    obtain ⟨correlated, numbered⟩ := sound.answer held (observation.symm.trans stored)
    exact ⟨correlated.congr same request, sequence.trans numbered⟩
  unsent := fun prepared => observation.trans (unsent prepared)
  closed := fun completed => by rw [observation]; exact closed completed

structure SoundRecords (records : List RequestRecord) : Prop where
  distinct : Distinct RequestRecord.requestId records
  rows : ∀ row ∈ records, SoundRow row

theorem SoundRecords.overwrite {records : List RequestRecord} (sound : SoundRecords records)
    (row : SoundRow next) : SoundRecords (overwrite RequestRecord.requestId next records) where
  distinct := sound.distinct.overwrite next
  rows := by
    intro other mem
    rcases mem_overwrite mem with ⟨rfl, _⟩ | ⟨kept, _⟩
    · exact row
    · exact sound.rows other kept

/-- The row became COMPLETED. -/
structure Enters (before after : List RequestRecord) (next : RequestRecord) : Prop where
  member : next ∈ after
  phase : next.phase = .completed
  opened : ∃ row ∈ before, row.requestId = next.requestId ∧ row.phase ≠ .completed

theorem Enters.after {before after : List RequestRecord} (entered : Enters before middle next)
    (later : Rewrites (RecordEvolution reissued) middle after) :
    ∃ last, Enters before after last ∧ RecordEvolution reissued next last := by
  obtain ⟨last, mem, evolved⟩ := later.evolves.mem entered.member
  obtain ⟨row, memberRow, same, opened⟩ := entered.opened
  refine ⟨last, ⟨mem, (evolved.closed entered.phase).phase, row, memberRow, ?_, opened⟩, evolved⟩
  rw [evolved.requestId, same]

theorem Enters.before {before after : List RequestRecord}
    (earlier : Rewrites (RecordEvolution reissued) before middle)
    (entered : Enters middle after next) : Enters before after next := by
  obtain ⟨row, memberRow, same, opened⟩ := entered.opened
  obtain ⟨first, memberFirst, evolved⟩ := earlier.source memberRow
  refine ⟨entered.member, entered.phase, first, memberFirst, ?_, ?_⟩
  · rw [← same, evolved.requestId]
  · intro closed
    exact opened (evolved.closed closed).phase

/-- A row that completed tells the decision's status. -/
def CompletedBy (before after : List RequestRecord) (decisionId : DecisionId)
    (status : CompletionStatus) : Prop :=
  ∃ next observation, Enters before after next ∧ next.request.decisionId = some decisionId ∧
    next.observation = some observation ∧ status = completionOf observation.status

/-- A row that completed has the reported answer. -/
def ReportedBy (before after : List RequestRecord) (result : OperationResult) : Prop :=
  ∃ next observation, Enters before after next ∧ next.requestId = result.observation.requestId ∧
    next.observation = some observation ∧ Refines result.observation observation

theorem CompletedBy.after {before after : List RequestRecord}
    (completed : CompletedBy before middle decisionId status)
    (later : Rewrites (RecordEvolution reissued) middle after) :
    CompletedBy before after decisionId status := by
  obtain ⟨next, observation, entered, decided, stored, reported⟩ := completed
  obtain ⟨last, enteredLast, evolved⟩ := entered.after later
  obtain ⟨refined, storedLast, refines⟩ :=
    (evolved.closed entered.phase).observation observation stored
  refine ⟨last, refined, enteredLast, ?_, storedLast, ?_⟩
  · rw [evolved.request, decided]
  · rw [reported, refines.status]

theorem CompletedBy.before {before after : List RequestRecord}
    (earlier : Rewrites (RecordEvolution reissued) before middle)
    (completed : CompletedBy middle after decisionId status) :
    CompletedBy before after decisionId status := by
  obtain ⟨next, observation, entered, rest⟩ := completed
  exact ⟨next, observation, entered.before earlier, rest⟩

theorem ReportedBy.after {before after : List RequestRecord}
    (reported : ReportedBy before middle result)
    (later : Rewrites (RecordEvolution reissued) middle after) :
    ReportedBy before after result := by
  obtain ⟨next, observation, entered, named, stored, refines⟩ := reported
  obtain ⟨last, enteredLast, evolved⟩ := entered.after later
  obtain ⟨refined, storedLast, refinesLast⟩ :=
    (evolved.closed entered.phase).observation observation stored
  refine ⟨last, refined, enteredLast, ?_, storedLast, refines.trans refinesLast⟩
  rw [evolved.requestId, named]

theorem ReportedBy.before {before after : List RequestRecord}
    (earlier : Rewrites (RecordEvolution reissued) before middle)
    (reported : ReportedBy middle after result) : ReportedBy before after result := by
  obtain ⟨next, observation, entered, rest⟩ := reported
  exact ⟨next, observation, entered.before earlier, rest⟩

/-- What touches a record's retries: an accepted retryable answer, one past the limit, which ends the
record, and a retry that is due. -/
inductive RetryFact
  | counted (at_ : Seconds) (retries : RequestRetries) (answer : Observation)
  | ended (retries : RequestRetries) (answer : Observation)
  | resent (at_ : Seconds)
  deriving DecidableEq

def limitOf (retries : RequestRetries) (row : RequestRecord) : Nat :=
  match row.request.body with
  | .executeRegisteredOperation _ _ limit _ => limit
  | _ => retries.limit

/-- What each retry fact means for a row. -/
def RetryFact.Tells (row next : RequestRecord) : RetryFact → Prop
  | .counted at_ retries answer =>
    row.phase ≠ .completed ∧ answer.retryable ∧ row.retryCount + 1 ≤ limitOf retries row ∧
      next.retryCount = row.retryCount + 1 ∧
      next.retryAt = some (at_ + retries.delay next.retryCount) ∧ next.observation = some answer
  | .ended retries answer =>
    row.phase ≠ .completed ∧ answer.retryable ∧ limitOf retries row < row.retryCount + 1 ∧
      next.retryCount = row.retryCount ∧ next.retryAt = none ∧ next.phase = .completed ∧
      ∃ last, next.observation = some last ∧ last.status = answer.status ∧
        last.accepted = false ∧ last.released
  | .resent at_ =>
    (∃ due, row.retryWaitUntil = some due ∧ due ≤ at_) ∧ next.phase = .prepared ∧
      next.retryCount = row.retryCount ∧ next.retryAt = none

/-- The retry facts between two forms of a row; nothing else touches its count or sets a time. -/
inductive Trace : List RetryFact → RequestRecord → RequestRecord → Prop
  | start (row : RequestRecord) : Trace [] row row
  | quiet {facts row middle next} (trace : Trace facts row middle)
      (evolved : RecordEvolution (fun _ => True) middle next)
      (count : next.retryCount = middle.retryCount)
      (retryAt : next.retryAt = none ∨ next.retryAt = middle.retryAt) : Trace facts row next
  | fact {facts row middle next} {fact : RetryFact} (trace : Trace facts row middle)
      (evolved : RecordEvolution (fun _ => True) middle next) (tells : fact.Tells middle next) :
      Trace (facts ++ [fact]) row next

theorem Trace.requestId {facts : List RetryFact} (trace : Trace facts row next) :
    next.requestId = row.requestId := by
  induction trace with
  | start => rfl
  | quiet _ evolved _ _ ih | fact _ evolved _ ih => exact evolved.requestId.trans ih

theorem Trace.trans {facts more : List RetryFact} (left : Trace facts first second)
    (right : Trace more second third) : Trace (facts ++ more) first third := by
  induction right with
  | start => rwa [List.append_nil]
  | quiet _ evolved count retryAt ih => exact (ih left).quiet evolved count retryAt
  | fact _ evolved tells ih =>
    rw [← List.append_assoc]
    exact (ih left).fact evolved tells

theorem RecordEvolution.traced {reissued : RequestId → Prop}
    (evolved : RecordEvolution reissued row next) (count : next.retryCount = row.retryCount)
    (retryAt : next.retryAt = none ∨ next.retryAt = row.retryAt) : Trace [] row next :=
  (Trace.start row).quiet (evolved.mono fun _ _ => trivial) count retryAt

/-! ## Steps -/

/-- Completions of a withdrawal without a row, and rows sent out again. -/
structure Allowance where
  withdrawn : DecisionId → CompletionStatus → Prop
  reissued : RequestId → Prop

/-- What a writer of the ledger does, with the retry facts it tells of each record. -/
structure LedgerTold (allowed : Allowance) (told : RequestId → List RetryFact)
    (before : RecordsState) (change : Change) : Prop where
  sound : SoundRecords change.state.records
  rewrites : Rewrites (RecordEvolution allowed.reissued) before.records change.state.records
  traces : Rewrites (fun row next => Trace (told row.requestId) row next) before.records
    change.state.records
  completions : ∀ decisionId status, .decisionCompleted decisionId status ∈ change.signals →
    allowed.withdrawn decisionId status ∨
      CompletedBy before.records change.state.records decisionId status
  results : ∀ result, .operationResult result ∈ change.events →
    ReportedBy before.records change.state.records result

/-- A step that tells no fact about retries. -/
abbrev LedgerStep (allowed : Allowance) : RecordsState → Change → Prop :=
  LedgerTold allowed fun _ => []

section
variable {allowed : Allowance} {told more : RequestId → List RetryFact}

theorem LedgerTold.silent {before : RecordsState} {change : Change}
    (sound : SoundRecords before.records) (records : change.state.records = before.records)
    (quiet : ∀ decisionId status, .decisionCompleted decisionId status ∉ change.signals)
    (mute : ∀ result, .operationResult result ∉ change.events) :
    LedgerStep allowed before change where
  sound := by rw [records]; exact sound
  rewrites := by rw [records]; exact .refl RecordEvolution.refl _
  traces := by rw [records]; exact .refl .start _
  completions := fun decisionId status mem => absurd mem (quiet decisionId status)
  results := fun result mem => absurd mem (mute result)

theorem LedgerTold.unchanged {before : RecordsState} (sound : SoundRecords before.records) :
    LedgerStep allowed before { state := before } :=
  .silent sound rfl (by simp) (by simp)

theorem LedgerTold.compose {before : RecordsState} {first second whole : Change}
    (left : LedgerTold allowed told before first)
    (right : LedgerTold allowed more first.state second) (state : whole.state = second.state)
    (signals : ∀ signal ∈ whole.signals, signal ∈ first.signals ∨ signal ∈ second.signals)
    (events : ∀ event ∈ whole.events, event ∈ first.events ∨ event ∈ second.events) :
    LedgerTold allowed (fun identity => told identity ++ more identity) before whole where
  sound := by rw [state]; exact right.sound
  rewrites := by rw [state]; exact left.rewrites.trans RecordEvolution.trans right.rewrites
  traces := by
    rw [state]
    refine left.traces.trans (fun row middle next early late => early.trans ?_) right.traces
    rwa [early.requestId] at late
  completions := by
    intro decisionId status mem
    rw [state]
    rcases signals _ mem with early | late
    · exact (left.completions _ _ early).imp_right fun held => held.after right.rewrites
    · exact (right.completions _ _ late).imp_right fun held => held.before left.rewrites
  results := by
    intro result mem
    rw [state]
    rcases events _ mem with early | late
    · exact (left.results _ early).after right.rewrites
    · exact (right.results _ late).before left.rewrites

/-- A silent step adds nothing to what was told. -/
theorem LedgerTold.followed {before : RecordsState} {first second whole : Change}
    (left : LedgerTold allowed told before first) (right : LedgerStep allowed first.state second)
    (state : whole.state = second.state)
    (signals : ∀ signal ∈ whole.signals, signal ∈ first.signals ∨ signal ∈ second.signals)
    (events : ∀ event ∈ whole.events, event ∈ first.events ∨ event ∈ second.events) :
    LedgerTold allowed told before whole := by
  simpa only [List.append_nil] using left.compose right state signals events

theorem LedgerTold.merge {before : RecordsState} {first second : Change}
    (left : LedgerTold allowed told before first) (right : LedgerStep allowed first.state second) :
    LedgerTold allowed told before (first.merge second) := by
  refine left.followed right rfl (fun signal mem => ?_) (fun event mem => ?_)
  · simpa [AreaChange.merge] using mem
  · simpa [AreaChange.merge] using mem

end

end VibeServeCore.Records
