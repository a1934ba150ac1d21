/- source: transport/persistent-event-stream.ts, transport/backoff.ts
   digest: The redial loop reports an outage once, unless a full replay fails. -/

import Mathlib.Data.List.Chain
import VibeServeCore.Stream.Assembly

namespace VibeServeCore.Stream

open Foundation.Process
open Foundation.Json (Text)

inductive BackendErrorKind
  | rejected | timeout | parse | disconnected
  deriving DecidableEq

structure StreamError where
  kind : Option BackendErrorKind
  message : String

def isServerRejection (error : StreamError) : Bool := error.kind = some .rejected

def isProtocolFault (error : StreamError) : Bool := error.kind = some .parse

inductive StreamConnectionState
  | connected
  | disconnected (error : StreamError)

inductive StreamRecovery
  | idle | initial | bootstrap | retry | rebootstrap
  deriving DecidableEq

inductive QueuedStreamRecovery
  | retry | rebootstrap
  deriving DecidableEq

structure BackoffSchedule where
  delaysMs : List Nat
  attempt : Nat := 0

def BackoffSchedule.next (schedule : BackoffSchedule) : Option (Nat × BackoffSchedule) :=
  schedule.delaysMs[schedule.attempt]?.map fun delay =>
    (delay, { schedule with attempt := schedule.attempt + 1 })

def BackoffSchedule.reset (schedule : BackoffSchedule) : BackoffSchedule :=
  { schedule with attempt := 0 }

structure Dial where
  afterSequence : Nat
  resumed : Bool
  tail : Option Nat
  storeId : Option String
  token : Nat
  handshakePending : Bool
  deferredProtocolError : Bool := false

def Dial.probes (dial : Dial) : Bool := dial.tail.isSome || dial.storeId.isSome

/-- The dial slot waits for closes, for `subscribe`, for an outcome, or for the dial function. -/
inductive Await
  | nothing
  | retirement
  | transport
  | dialed (result : Except StreamError Bool)
  | attempted (recovered : Bool)

structure PersistentEventStream where
  tail : Option Nat
  backoff : BackoffSchedule
  activeExecutionCheckpoints : Assembler := {}
  subscribed : Bool := false
  subscription : Option Nat := none
  reconnecting : Bool := false
  connectionSeq : Nat := 0
  bootstrapped : Bool := false
  closed : Bool := false
  disconnectedReported : Bool := false
  disconnectError : Option StreamError := none
  recovery : StreamRecovery := .idle
  queuedRecovery : Option QueuedStreamRecovery := none
  recoveryFailed : Bool := false
  dial : Option Dial := none
  awaiting : Await := .nothing
  reports : List StreamConnectionState := []

structure Callbacks (Effect : Type) where
  sha256 : Text → CheckpointId
  parse : Text → Except String (List ActiveExecution)
  cursor : PersistentEventStream → Nat
  storeId : PersistentEventStream → String
  shouldReconnect : PersistentEventStream → Bool
  onMessage : ServerMessage → PersistentEventStream → Effect
  onConnectionState : PersistentEventStream → Effect

inductive Call
  | subscribe | retry | retryIfDisconnected | rebootstrap | close
  | deliver (token : Nat) (message : ServerMessage)
  | disconnect (token : Nat) (error : StreamError)

namespace PersistentEventStream

section
variable (stream : PersistentEventStream) (caller : Callbacks PersistentEventStream)

def emit (state : StreamConnectionState) : PersistentEventStream :=
  caller.onConnectionState { stream with reports := state :: stream.reports }

def reportDisconnected (error : StreamError) : PersistentEventStream :=
  if stream.disconnectedReported then stream
  else emit { stream with disconnectedReported := true } caller (.disconnected error)

def scheduleReconnect : PersistentEventStream :=
  if stream.reconnecting then stream
  else match stream.backoff.next with
    | none => stream
    | some (_, backoff) => { stream with backoff, reconnecting := true }

def markRecovered : PersistentEventStream :=
  let reset := { stream with backoff := stream.backoff.reset }
  if stream.queuedRecovery = some .retry then reset
  else emit { reset with disconnectError := none, disconnectedReported := false } caller .connected

def recoveryMode (rebootstrap : Bool) : StreamRecovery :=
  if rebootstrap then .rebootstrap else if stream.bootstrapped then .retry else .bootstrap

def recoverySuperseded : Bool :=
  stream.closed || (stream.recovery ≠ .initial && stream.queuedRecovery = some .rebootstrap)

def reconnectNow (rebootstrap : Bool) : PersistentEventStream :=
  if stream.recovery ≠ .idle || stream.closed ||
      !(rebootstrap || caller.shouldReconnect stream) then stream
  else { stream with
    recovery := stream.recoveryMode rebootstrap, recoveryFailed := false
    bootstrapped := stream.bootstrapped && !rebootstrap
    connectionSeq := stream.connectionSeq + 1, subscription := none, awaiting := .retirement }

def queueRecovery (recovery : QueuedStreamRecovery) : PersistentEventStream :=
  if stream.queuedRecovery = some .rebootstrap then stream
  else { stream with queuedRecovery := some recovery }

def queueRebootstrap : PersistentEventStream :=
  if stream.recovery = .initial then
    if stream.bootstrapped && !stream.recoveryFailed then stream
    else stream.queueRecovery .rebootstrap
  else if (stream.recovery = .retry || (stream.recovery = .rebootstrap && stream.recoveryFailed))
      && stream.queuedRecovery ≠ some .rebootstrap then
    { stream with queuedRecovery := some .rebootstrap, connectionSeq := stream.connectionSeq + 1 }
  else stream

def rebootstrap : PersistentEventStream :=
  if stream.closed || !stream.subscribed then stream
  else if stream.recovery ≠ .idle then stream.queueRebootstrap
  else reconnectNow { stream with reconnecting := false, backoff := stream.backoff.reset } caller true

def queueRetry : PersistentEventStream :=
  if (stream.recovery = .initial ||
      (stream.recovery = .rebootstrap && stream.disconnectError.isSome)) &&
      caller.shouldReconnect stream then stream.queueRecovery .retry
  else stream

def reportPending : PersistentEventStream :=
  match stream.disconnectError with
  | none => stream
  | some error => stream.reportDisconnected caller error

def retry : PersistentEventStream :=
  if stream.closed || !stream.subscribed then stream
  else if stream.recovery ≠ .idle then stream.queueRetry caller
  else if !caller.shouldReconnect stream then stream
  else
    let told := stream.reportPending caller
    reconnectNow { told with reconnecting := false, backoff := told.backoff.reset } caller false

def drainQueuedRecovery : PersistentEventStream :=
  let drained := { stream with queuedRecovery := none }
  match stream.queuedRecovery with
  | none => drained
  | some .rebootstrap => drained.rebootstrap caller
  | some .retry => drained.retry caller

def startDial (afterSequence : Nat) (resumed : Bool) (tail : Option Nat)
    (storeId : Option String) : PersistentEventStream :=
  { stream with
    connectionSeq := stream.connectionSeq + 1, activeExecutionCheckpoints := {}
    dial := some
      { afterSequence, resumed, tail, storeId, token := stream.connectionSeq + 1
        handshakePending := tail.isSome || storeId.isSome }
    awaiting := .transport }

def bootstrapDial : PersistentEventStream := stream.startDial 0 false stream.tail none

def resumeDial : PersistentEventStream :=
  let storeId := caller.storeId stream
  stream.startDial (caller.cursor stream) true none (if storeId = "" then none else some storeId)

def fence (message : ServerMessage) : PersistentEventStream :=
  if message = .protocolError then
    { stream with
      recoveryFailed := stream.recoveryFailed || stream.recovery ≠ .idle
      connectionSeq := stream.connectionSeq + 1, subscription := none }
  else stream

def establishes (resumed : Bool) : ServerMessage → Bool
  | .stream (.eventBatch batch) => !resumed || batch.rebootstrap
  | _ => false

def deliver (dial : Dial) (message : ServerMessage) : PersistentEventStream :=
  if stream.closed || dial.token ≠ stream.connectionSeq then stream
  else match accept caller.sha256 caller.parse stream.activeExecutionCheckpoints message with
    | .error _ => stream
    | .ok (checkpoints, none) => { stream with activeExecutionCheckpoints := checkpoints }
    | .ok (checkpoints, some message) =>
      let fenced := fence { stream with activeExecutionCheckpoints := checkpoints } message
      caller.onMessage message { fenced with
        bootstrapped := fenced.bootstrapped || establishes dial.resumed message }

/-- A dial's handler: a probe keeps back a protocol error until its handshake settles. -/
def receive (token : Nat) (message : ServerMessage) : PersistentEventStream :=
  match stream.dial with
  | none => stream
  | some dial =>
    let settled := { dial with handshakePending := false }
    if token ≠ dial.token then stream
    else if message = .subscribed && dial.deferredProtocolError then
      deliver { stream with dial := some { settled with deferredProtocolError := false } }
        caller dial .protocolError
    else if message = .subscribed || !dial.handshakePending then
      deliver { stream with dial := some settled } caller dial message
    else if dial.deferredProtocolError then stream
    else if message = .protocolError then
      { stream with
        dial := some { dial with deferredProtocolError := true }
        recoveryFailed := stream.recoveryFailed || stream.recovery ≠ .idle }
    else stream.deliver caller dial message

def handleDisconnect (token : Nat) (error : StreamError) : PersistentEventStream :=
  if stream.closed || token ≠ stream.connectionSeq then stream
  else
    let dropped := { stream with
      activeExecutionCheckpoints := {}, disconnectError := some error
      recoveryFailed := stream.recoveryFailed || stream.recovery ≠ .idle }
    let redialing := caller.shouldReconnect dropped
    let armed := if redialing then dropped.scheduleReconnect else dropped
    if isProtocolFault error || redialing || !stream.bootstrapped then
      armed.reportDisconnected caller error
    else armed

def perform : Call → PersistentEventStream
  | .subscribe =>
    if stream.subscribed then stream
    else bootstrapDial
      { stream with subscribed := true, recovery := .initial, recoveryFailed := false }
  | .retry => stream.retry caller
  | .retryIfDisconnected =>
    if stream.disconnectError.isNone then stream else stream.retry caller
  | .rebootstrap => stream.rebootstrap caller
  | .close =>
    { stream with
      closed := true, activeExecutionCheckpoints := {}, queuedRecovery := none
      reconnecting := false, subscription := none }
  | .deliver token message => stream.receive caller token message
  | .disconnect token error => stream.handleDisconnect caller token error

def publishDeferred (dial : Dial) (rejected : Bool) : PersistentEventStream :=
  let settled := { stream with dial := some { dial with handshakePending := false } }
  if dial.deferredProtocolError && !rejected then settled.deliver caller dial .protocolError
  else settled

def settleDial (dial : Dial) : Except StreamError Unit → PersistentEventStream
  | .error error =>
    { stream.publishDeferred caller dial (isServerRejection error) with
      awaiting := .dialed (.error error) }
  | .ok _ =>
    let settled := stream.publishDeferred caller dial false
    if settled.closed || dial.token ≠ settled.connectionSeq || settled.recoveryFailed then
      { settled with awaiting := .dialed (.ok false) }
    else { settled with subscription := some dial.token, awaiting := .dialed (.ok true) }

/-- The `catch` blocks of `#bootstrapDial` and `#resumeDial`: a rejected probe is dialed again. -/
def dialFailed (error : StreamError) (dial : Dial) : PersistentEventStream :=
  let failed := { stream with awaiting := .attempted false }
  if dial.probes || dial.resumed then
    if stream.recoverySuperseded then failed
    else if dial.probes && isServerRejection error then
      startDial { stream with recoveryFailed := false } dial.afterSequence dial.resumed none none
    else reportDisconnected { failed with recoveryFailed := true } caller error
  else if stream.closed then failed
  else emit { failed with recoveryFailed := true } caller (.disconnected error)

def releaseSlot : PersistentEventStream :=
  drainQueuedRecovery { stream with recovery := .idle, awaiting := .nothing } caller

def finishAttempt (recovered : Bool) : PersistentEventStream :=
  if stream.recovery = .initial then
    if stream.closed || recovered then
      { stream with recovery := .idle, awaiting := .nothing, queuedRecovery := none }
    else stream.releaseSlot caller
  else if stream.recoverySuperseded then stream.releaseSlot caller
  else if recovered then (stream.markRecovered caller).releaseSlot caller
  else if stream.recovery ≠ .rebootstrap || caller.shouldReconnect stream then
    stream.scheduleReconnect.releaseSlot caller
  else stream.releaseSlot caller

def resume : PersistentEventStream :=
  match stream.awaiting, stream.dial with
  | .retirement, _ =>
    if stream.recoverySuperseded then stream.releaseSlot caller
    else if stream.recovery = .retry then stream.resumeDial caller
    else stream.bootstrapDial
  | .dialed (.error error), some dial => stream.dialFailed caller error dial
  | .dialed (.ok recovered), _ => { stream with awaiting := .attempted recovered }
  | .attempted recovered, _ => stream.finishAttempt caller recovered
  | _, _ => stream

end

def callbacks (policy : Callbacks (List Call)) : Nat → Callbacks PersistentEventStream
  | 0 => { policy with onMessage := fun _ stream => stream, onConnectionState := id }
  | depth + 1 =>
    let react (calls : List Call) (stream : PersistentEventStream) :=
      calls.foldl (fun stream => stream.perform (callbacks policy depth)) stream
    { policy with
      onMessage := fun message stream => react (policy.onMessage message stream) stream
      onConnectionState := fun stream => react (policy.onConnectionState stream) stream }

inductive Event
  | call (call : Call)
  | timer
  | settle (answer : Except StreamError Unit)
  | resume

/-- An event, and what the callbacks call during it. -/
structure Turn where
  event : Event
  policy : Callbacks (List Call)
  depth : Nat := 0

def turn (stream : PersistentEventStream) (turn : Turn) : PersistentEventStream :=
  let caller := callbacks turn.policy turn.depth
  match turn.event with
  | .call call => stream.perform caller call
  | .timer =>
    if stream.reconnecting then reconnectNow { stream with reconnecting := false } caller false
    else stream
  | .settle answer =>
    match stream.awaiting, stream.dial with
    | .transport, some dial => stream.settleDial caller dial answer
    | _, _ => stream
  | .resume => stream.resume caller

def fullReplayFailed (stream : PersistentEventStream) : Bool :=
  match stream.awaiting, stream.dial with
  | .dialed (.error _), some dial => !(stream.closed || dial.probes || dial.resumed)
  | _, _ => false

/-- A turn without a resume after a failed full replay. -/
def Spares (first : PersistentEventStream) (taken : Turn) (last : PersistentEventStream) : Prop :=
  (taken.event = .resume → first.fullReplayFailed = false) ∧ last = first.turn taken

/-! ## One report per outage -/

def down : StreamConnectionState → Bool
  | .connected => false
  | .disconnected _ => true

/-- No outage is reported twice in a row. -/
def ReportedOnce (stream : PersistentEventStream) : Prop :=
  stream.reports.IsChain fun later earlier => down later = true → down earlier = false

def Sound (stream : PersistentEventStream) : Prop :=
  stream.ReportedOnce ∧
    ∀ report ∈ stream.reports.head?, down report → stream.disconnectedReported

variable {stream : PersistentEventStream} {caller : Callbacks PersistentEventStream}

theorem Sound.scheduleReconnect (held : stream.Sound) : stream.scheduleReconnect.Sound := by
  unfold PersistentEventStream.scheduleReconnect
  split
  · exact held
  · split <;> exact held

theorem Sound.reconnectNow {rebootstrap : Bool} (held : stream.Sound) :
    (stream.reconnectNow caller rebootstrap).Sound := by
  unfold PersistentEventStream.reconnectNow
  split <;> exact held

theorem Sound.queueRecovery {recovery : QueuedStreamRecovery} (held : stream.Sound) :
    (stream.queueRecovery recovery).Sound := by
  unfold PersistentEventStream.queueRecovery
  split <;> exact held

theorem Sound.rebootstrap (held : stream.Sound) : (stream.rebootstrap caller).Sound := by
  unfold PersistentEventStream.rebootstrap queueRebootstrap
  split_ifs
  all_goals first | exact held | exact held.queueRecovery | exact Sound.reconnectNow held

def Keeps (caller : Callbacks PersistentEventStream) : Prop :=
  ∀ stream : PersistentEventStream, stream.Sound →
    (caller.onConnectionState stream).Sound ∧ ∀ message, (caller.onMessage message stream).Sound

section
variable (keeps : Keeps caller)

include keeps

theorem Sound.emit {state : StreamConnectionState} (once : stream.ReportedOnce)
    (up : down state → ∀ report ∈ stream.reports.head?, down report = false)
    (flagged : down state → stream.disconnectedReported) : (stream.emit caller state).Sound := by
  refine (keeps _ ⟨?_, fun report mem => ?_⟩).1
  · exact List.isChain_cons.mpr ⟨fun report mem down => up down report mem, once⟩
  · cases mem
    exact flagged

theorem Sound.reportDisconnected {error : StreamError} (held : stream.Sound) :
    (stream.reportDisconnected caller error).Sound := by
  unfold PersistentEventStream.reportDisconnected
  split
  · exact held
  · rename_i unreported
    -- the flag is not set, so the last report, if any, was `connected`
    exact Sound.emit keeps held.1 (fun _ report mem => Bool.eq_false_iff.mpr fun down =>
      unreported (held.2 report mem down)) fun _ => rfl

theorem Sound.markRecovered (held : stream.Sound) : (stream.markRecovered caller).Sound := by
  unfold PersistentEventStream.markRecovered
  split
  · exact held
  · exact Sound.emit keeps held.1 (fun down => by cases down) fun down => by cases down

theorem Sound.retry (held : stream.Sound) : (stream.retry caller).Sound := by
  have told : (stream.reportPending caller).Sound := by
    unfold reportPending
    split
    · exact held
    · exact held.reportDisconnected keeps
  unfold PersistentEventStream.retry queueRetry
  split_ifs
  · exact held
  · exact held.queueRecovery
  · exact held
  · exact held
  · exact Sound.reconnectNow told

theorem Sound.releaseSlot (held : stream.Sound) : (stream.releaseSlot caller).Sound := by
  unfold PersistentEventStream.releaseSlot drainQueuedRecovery
  split
  · exact held
  · exact Sound.rebootstrap held
  · exact Sound.retry keeps held

theorem Sound.deliver {dial : Dial} {message : ServerMessage} (held : stream.Sound) :
    (stream.deliver caller dial message).Sound := by
  unfold PersistentEventStream.deliver fence
  split
  · exact held
  · split
    · exact held
    · exact held
    · refine (keeps _ ?_).2 _
      split <;> exact held

theorem Sound.handleDisconnect {token : Nat} {error : StreamError} (held : stream.Sound) :
    (stream.handleDisconnect caller token error).Sound := by
  unfold PersistentEventStream.handleDisconnect
  split
  · exact held
  · extract_lets dropped redialing armed
    have sound : armed.Sound := by
      unfold armed
      split
      · exact Sound.scheduleReconnect held
      · exact held
    split
    · exact sound.reportDisconnected keeps
    · exact sound

theorem Sound.perform (held : stream.Sound) (call : Call) : (stream.perform caller call).Sound := by
  cases call with
  | subscribe =>
    simp only [PersistentEventStream.perform]
    split <;> exact held
  | retry => exact held.retry keeps
  | retryIfDisconnected =>
    simp only [PersistentEventStream.perform]
    split
    · exact held
    · exact held.retry keeps
  | rebootstrap => exact held.rebootstrap
  | close => exact held
  | deliver token message =>
    simp only [PersistentEventStream.perform, receive]
    split
    · exact held
    · split_ifs
      all_goals first | exact held | exact Sound.deliver keeps held
  | disconnect token error => exact held.handleDisconnect keeps

theorem Sound.settleDial {dial : Dial} {answer : Except StreamError Unit} (held : stream.Sound) :
    (stream.settleDial caller dial answer).Sound := by
  have published : ∀ rejected, (stream.publishDeferred caller dial rejected).Sound := by
    intro rejected
    unfold publishDeferred
    split
    · exact Sound.deliver keeps held
    · exact held
  cases answer with
  | error error => exact published (isServerRejection error)
  | ok _ =>
    simp only [PersistentEventStream.settleDial]
    split <;> exact published false

theorem Sound.finishAttempt {recovered : Bool} (held : stream.Sound) :
    (stream.finishAttempt caller recovered).Sound := by
  unfold PersistentEventStream.finishAttempt
  split_ifs
  all_goals first
    | exact held
    | exact held.releaseSlot keeps
    | exact Sound.releaseSlot keeps (held.markRecovered keeps)
    | exact Sound.releaseSlot keeps held.scheduleReconnect

theorem Sound.resume (held : stream.Sound) (spared : stream.fullReplayFailed = false) :
    (stream.resume caller).Sound := by
  unfold PersistentEventStream.resume
  split
  · split_ifs
    · exact held.releaseSlot keeps
    · exact held
    · exact held
  · rename_i error dial awaits dialed
    simp only [fullReplayFailed, awaits, dialed] at spared
    unfold dialFailed
    split_ifs with probes superseded rejected closed
    · exact held
    · exact held
    · exact Sound.reportDisconnected keeps held
    · exact held
    · simp_all
  · exact held
  · exact held.finishAttempt keeps
  · exact held

end

theorem Keeps.callbacks (policy : Callbacks (List Call)) (depth : Nat) :
    Keeps (callbacks policy depth) := by
  induction depth with
  | zero => exact fun stream held => ⟨held, fun _ => held⟩
  | succ depth ih =>
    have reacts : ∀ (calls : List Call) (stream : PersistentEventStream), stream.Sound →
        (calls.foldl (fun stream => stream.perform (PersistentEventStream.callbacks policy depth))
          stream).Sound := fun calls stream =>
      foldl_induction (fun _ stream => Sound stream) fun held => Sound.perform ih held _
    exact fun stream held => ⟨reacts _ _ held, fun _ => reacts _ _ held⟩

theorem Sound.turn {taken : Turn} {last : PersistentEventStream} (held : stream.Sound)
    (step : Spares stream taken last) : last.Sound := by
  obtain ⟨spared, rfl⟩ := step
  have keeps := Keeps.callbacks taken.policy taken.depth
  unfold PersistentEventStream.turn
  split
  · exact held.perform keeps _
  · split
    · exact Sound.reconnectNow held
    · exact held
  · split
    · exact held.settleDial keeps
    · exact held
  · rename_i resumed
    exact held.resume keeps (spared resumed)

/-- An outage is reported once, however its dials fail, as long as no full replay is among them. -/
theorem one_report_per_outage {tail : Option Nat} {delaysMs : List Nat} {turns : List Turn}
    {last : PersistentEventStream}
    (run : Run Spares { tail, backoff := ⟨delaysMs, 0⟩ } turns last) : last.ReportedOnce := by
  have sound : last.Sound := run.invariant Sound Sound.turn ⟨.nil, fun _ mem => by cases mem⟩
  exact sound.1

def refused : StreamError := ⟨some .disconnected, "connection refused"⟩

def outage : List Turn :=
  [.call .subscribe, .settle (.error refused), .resume, .resume,
    .call .retry, .resume, .settle (.error refused), .resume].map fun event =>
  { event
    policy :=
      { sha256 := fun _ => placeholderId, parse := fun _ => .ok [], cursor := fun _ => 0
        storeId := fun _ => "", shouldReconnect := fun _ => true
        onMessage := fun _ _ => [], onConnectionState := fun _ => [] } }

/-- With a tail the failed probes of one outage are one report. -/
theorem probed_outage_reported_once :
    let last := outage.foldl turn { tail := some 100, backoff := ⟨[500], 0⟩ }
    last.reports = [.disconnected refused] ∧ last.ReportedOnce := by
  have run : Run Spares { tail := some 100, backoff := ⟨[500], 0⟩ } outage
      (outage.foldl turn { tail := some 100, backoff := ⟨[500], 0⟩ }) := by
    iterate 8 refine .cons ⟨fun _ => rfl, rfl⟩ ?_
    exact .nil _
  exact ⟨rfl, one_report_per_outage run⟩

/-- Without one the same outage is reported by each failed full replay. -/
theorem replayed_outage_reported_twice :
    let last := outage.foldl turn { tail := none, backoff := ⟨[500], 0⟩ }
    last.reports = [.disconnected refused, .disconnected refused] ∧ ¬ last.ReportedOnce := by
  intro last
  have reports : last.reports = [.disconnected refused, .disconnected refused] := rfl
  refine ⟨reports, fun once => ?_⟩
  rw [ReportedOnce, reports] at once
  cases (List.isChain_cons_cons.mp once).1 rfl

end PersistentEventStream

end VibeServeCore.Stream
