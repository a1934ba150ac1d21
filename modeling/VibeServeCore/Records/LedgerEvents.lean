/- source: _request_ledger.py, _request_recovery.py
   digest: Every ledger event and every recovery writer is a ledger step of a sound ledger. -/

import VibeServeCore.Records.LedgerSteps

namespace VibeServeCore.Records

open Types Proofs Foundation.Ledger Foundation.Process List RequestRecovery
open RequestLedger (cascade retirementDecision withdrawalCompletion)

variable {allowed : Allowance} {digests : Digests} {context : RecordsContext} {state : RecordsState}
  {change current : Change} {requestId : RequestId} {record : RequestRecord}
  {ends : RecordsState → RequestRecord → Except CoreError Change} {observation : Observation}
  {scope : Scope} {target : TargetObservation}

private theorem routeProposal_silent {event : RequestPrepared}
    (routed : RequestLedger.routeProposal state context event = .ok change) :
    change.state = state ∧ Quiet change.signals ∧ change.events = [] := by
  unfold RequestLedger.routeProposal at routed
  split at routed
  · obtain ⟨descriptor, -, routed⟩ := bind_ok routed
    split_ifs at routed
    · cases routed
      exact ⟨rfl, by simp [Quiet], rfl⟩
    · split at routed
      · cases routed
      · cases routed
        exact ⟨rfl, by simp [Quiet], rfl⟩
    · split at routed
      all_goals
        cases routed
        exact ⟨rfl, by simp [Quiet], rfl⟩
  · cases routed
    exact ⟨rfl, by simp [Quiet], rfl⟩

private theorem prepared_silent {event : RequestPrepared}
    (registered : RequestLedger.prepared digests state context event = .ok change) :
    change.state = state ∧ Quiet change.signals ∧ change.events = [] := by
  unfold RequestLedger.prepared at registered
  split at registered
  · cases registered
  split at registered
  · exact routeProposal_silent registered
  obtain ⟨found, -, registered⟩ := bind_ok registered
  split at registered
  · exact routeProposal_silent registered
  · split_ifs at registered
    cases registered
    exact ⟨rfl, by simp [Quiet], rfl⟩

theorem prepared_step {event : RequestPrepared} (sound : SoundRecords state.records)
    (registered : RequestLedger.prepared digests state context event = .ok change) :
    LedgerStep allowed state change := by
  obtain ⟨same, quiet, events⟩ := prepared_silent registered
  exact .silent sound (by rw [same]) quiet (by simp [events])

private theorem dispatchedRecord_fields (state : RecordsState) (context : RecordsContext)
    (record : RequestRecord) :
    let next := RequestLedger.dispatchedRecord state context record
    next.requestId = record.requestId ∧ next.request = record.request ∧
      next.payloadDigest = record.payloadDigest ∧ next.lifecycle = record.lifecycle ∧
      next.phase = .dispatched ∧ next.observation = record.observation ∧
      next.sequence = record.sequence := by
  simp only [RequestLedger.dispatchedRecord]
  split <;> exact ⟨rfl, rfl, rfl, rfl, rfl, rfl, rfl⟩

private theorem dispatchedRecord_retries (state : RecordsState) (context : RecordsContext)
    (record : RequestRecord) :
    (RequestLedger.dispatchedRecord state context record).retryCount = record.retryCount ∧
      (RequestLedger.dispatchedRecord state context record).retryAt = record.retryAt := by
  simp only [RequestLedger.dispatchedRecord]
  split <;> exact ⟨rfl, rfl⟩

theorem dispatched_step (sound : SoundRecords state.records)
    (sent : RequestLedger.dispatched state context requestId = .ok change) :
    LedgerStep allowed state change := by
  obtain ⟨found, looked, sent⟩ := bind_ok sent
  split at sent
  · cases sent
  rename_i record
  obtain ⟨mem, -⟩ := unique_eq_some looked
  split_ifs at sent with already startable
  · cases sent
    exact .unchanged sound
  cases sent
  have opened : record.phase ≠ .completed := by
    intro closed
    simp [closed] at startable
  obtain ⟨same, request, digest, lifecycle, phase, stored, numbered⟩ :=
    dispatchedRecord_fields state context record
  obtain ⟨count, retryAt⟩ := dispatchedRecord_retries state context record
  have evolved : RecordEvolution allowed.reissued record
      (RequestLedger.dispatchedRecord state context record) :=
    .of_open opened same request digest lifecycle fun _ => .same stored
  exact .write sound mem evolved
    ((sound.rows record mem).congr same request stored numbered (by simp [phase])
      (by simp [phase]))
    (evolved.traced count (.inr retryAt))

theorem endReleasedDispatch_step (cascades : Cascades allowed ends) {request : Request}
    {invocation : InvocationRef} (sound : SoundRecords state.records)
    (ended : RequestLedger.endReleasedDispatch digests context ends state request invocation
      observation = .ok change) : LedgerStep allowed state change := by
  unfold RequestLedger.endReleasedDispatch at ended
  split at ended
  · cases ended
    exact .unchanged sound
  rename_i releases
  have terminal : observation.terminal := by
    simp only [RequestLedger.releasesTurn, Bool.not_eq_true, Bool.not_eq_false',
      Bool.and_eq_true] at releases
    exact releases.1
  split at ended
  · cases ended
    exact .unchanged sound
  · rename_i dispatch found
    exact applyFacts_step cascades sound (mem_of_find?_eq_some found)
      (retryable_terminal terminal) ended

/-- The loop reads rows taken before it began; each is still the ledger's at its turn. -/
theorem endCancelsOfReleasedTurn_step (cascades : Cascades allowed ends) (spares : SparesSent ends)
    {turn : TurnSpec} (sound : SoundRecords state.records) (ended :
      RequestLedger.endCancelsOfReleasedTurn digests context ends state scope turn observation = .ok
      change) : LedgerStep allowed state change := by
  unfold RequestLedger.endCancelsOfReleasedTurn at ended
  split at ended
  · cases ended
    exact .unchanged sound
  rename_i releases
  have terminal : observation.terminal := by
    simp only [Bool.not_eq_true, Bool.not_eq_false', Bool.and_eq_true] at releases
    exact releases.1.1
  -- Carried through the loop: the step so far, and that the rows still to come are in place.
  let holds := fun (rest : List RequestRecord) (current : Change) =>
    LedgerStep allowed state current ∧ Distinct RequestRecord.requestId rest ∧
      ∀ row ∈ rest, row ∈ current.state.records ∧ row.phase ≠ .prepared
  refine (sequence_induction holds ?_ ?_ ended).1
  · rintro cancel rest current next ⟨reached, distinct, inPlace⟩ turned
    obtain ⟨more, applied, turned⟩ := bind_ok turned
    cases turned
    obtain ⟨fresh, distinctRest⟩ := nodup_cons.mp distinct
    have mem := (inPlace cancel (mem_cons_self ..)).1
    refine ⟨reached.merge (applyFacts_step cascades reached.sound mem
      (retryable_terminal terminal) applied), distinctRest, fun row later => ?_⟩
    obtain ⟨memberRow, sent⟩ := inPlace row (mem_cons_of_mem _ later)
    have failed : (RequestLedger.releasedCancelFacts cancel observation).observation.status ≠
        .succeeded := by rintro ⟨⟩
    refine ⟨applyFacts_keepsSent spares failed applied row memberRow (fun same => fresh ?_) sent,
      sent⟩
    exact mem_map.mpr ⟨row, later, same⟩
  · refine ⟨.unchanged sound, ?_, fun row waiting => ?_⟩
    · exact sound.distinct.sublist ((filter_sublist).map _)
    · obtain ⟨mem, awaited⟩ := mem_filter.mp waiting
      refine ⟨mem, fun prepared => ?_⟩
      simp [prepared] at awaited

private theorem reissue_told (sound : SoundRecords state.records) (mem : record ∈ state.records)
    (opened : record.phase ≠ .completed) (reissued : allowed.reissued record.requestId)
    {retried : List RetryFact}
    (traced : Trace retried record (RequestLedger.reissuedRecord context record)) :
    LedgerTold allowed (only record.requestId retried) state
      (RequestLedger.reissue context state record) := by
  refine .write sound mem
    (.of_open opened rfl rfl rfl rfl fun kept => absurd reissued kept) ⟨?_, fun _ => rfl, ?_⟩
    (by rwa [only_self]) fun _ other => if_neg other
  · intro observation stored
    cases stored
  · intro closed
    cases closed

private theorem reissuable_open {proof : ReissueProof}
    (allowed : RequestLedger.reissuable record proof) : record.phase ≠ .completed := by
  intro closed
  simp [RequestLedger.reissuable, closed] at allowed

def ReissuesTarget (state : RecordsState) (target : TargetObservation) : Prop :=
  target.reissue.isSome ∧
    ∃ row ∈ state.records, row.requestId = target.observation.requestId ∧ row.phase ≠ .completed

theorem ReissuesTarget.before {told : RequestId → List RetryFact} {before : RecordsState}
    (reached : LedgerTold allowed told before current)
    (reissues : ReissuesTarget current.state target) : ReissuesTarget before target := by
  obtain ⟨given, row, mem, named, opened⟩ := reissues
  obtain ⟨first, memberFirst, evolved⟩ := reached.rewrites.source mem
  exact ⟨given, first, memberFirst, evolved.requestId.symm.trans named,
    fun closed => opened (evolved.closed closed).phase⟩

/-- What the answer to an inspection tells of the inspected record. An answer that sends the record
out again is not judged. -/
def targetFacts (context : RecordsContext) (state : RecordsState) (target : TargetObservation) :
    RequestId → List RetryFact :=
  only target.observation.requestId <|
    match state.record target.observation.requestId with
    | none => []
    | some row =>
      if target.reissue.any fun proof => row.phase = .prepared || RequestLedger.reissuable row proof
      then []
      else answerFacts context row target.observation

private theorem targetFacts_resent (found : state.record target.observation.requestId = some record)
    (resent : target.reissue.any fun proof =>
      record.phase = .prepared || RequestLedger.reissuable record proof) :
    targetFacts context state target = fun _ => [] := by
  simp only [targetFacts, found, resent, if_true, only_nil]

theorem observeTarget_told (cascades : Cascades allowed ends) {next : Change}
    {root : RequestRecord} (sound : SoundRecords current.state.records)
    (mayReissue : ReissuesTarget current.state target →
      allowed.reissued target.observation.requestId)
    (taken : RequestLedger.observeTarget digests context ends current root target = .ok next) :
    ∃ more : Change, LedgerTold allowed (targetFacts context current.state target) current.state
        more ∧ next.state = more.state ∧
      (∀ signal ∈ next.signals, signal ∈ current.signals ∨ signal ∈ more.signals) ∧
      ∀ event ∈ next.events, event ∈ current.events ∨ event ∈ more.events := by
  obtain ⟨found, looked, taken⟩ := bind_ok taken
  split at taken
  · cases taken
  rename_i original
  obtain ⟨mem, named⟩ := unique_eq_some looked
  have recorded := unique_record looked
  split at taken
  · rename_i unsent
    cases taken
    rw [targetFacts_resent recorded (by cases given : target.reissue <;> simp_all)]
    exact ⟨_, .unchanged sound, rfl, fun _ => .inl, fun _ => .inl⟩
  rename_i sent
  split at taken
  · rename_i permitted
    cases taken
    rw [targetFacts_resent recorded (by cases given : target.reissue <;> simp_all)]
    obtain ⟨given, permitted⟩ := (Option.any_eq_true_iff_get _ _).mp permitted
    have opened := reissuable_open permitted
    have reissued := mayReissue ⟨given, original, mem, named, opened⟩
    rw [← named] at reissued
    have evolved : RecordEvolution (fun _ => True) original
        (RequestLedger.reissuedRecord context original) :=
      .of_open opened rfl rfl rfl rfl fun kept => absurd trivial kept
    have resent := reissue_told sound mem opened reissued (evolved.traced rfl (.inl rfl))
    rw [only_nil] at resent
    exact ⟨_, resent, rfl, by simp [AreaChange.merge], by simp [AreaChange.merge]⟩
  · rename_i judged
    obtain ⟨more, applied, taken⟩ := bind_ok taken
    have told : targetFacts context current.state target =
        only original.requestId (answerFacts context original target.toFacts.observation) := by
      simp only [targetFacts, recorded, named]
      rw [if_neg (by cases given : target.reissue <;> simp_all)]
    rw [told]
    have step := applyFacts_told cascades sound mem applied
    split at taken
    · split_ifs at taken
      · rename_i invocation _ _ _
        cases taken
        let restated : Change := { state := more.state, signals :=
          [.sessions (.turnObserved invocation target.observation none none none [])] }
        have silent : LedgerStep allowed more.state restated :=
          .silent step.sound rfl (by simp [restated]) (by simp [restated])
        exact ⟨_, step.merge silent, rfl, by simp [AreaChange.merge, restated, or_assoc],
          by simp [AreaChange.merge, restated]⟩
      · cases taken
        exact ⟨more, step, rfl, by simp [AreaChange.merge], by simp [AreaChange.merge]⟩
    · cases taken
      exact ⟨more, step, rfl, by simp [AreaChange.merge], by simp [AreaChange.merge]⟩

/-- The inspected record an observation also answers for: a turn's own answers name none, and a
child's answer is no record's. -/
def heardTarget (root : RequestRecord) (event : RequestObserved) : Option TargetObservation :=
  match root.request.body with
  | .cancelTurn _ | .dispatchTurn _ _ => none
  | _ => event.target.filter fun target => target.targetResource.isNone

/-- What an observation tells of each record. Both answers are judged on the ledger they find: the
inspected record's on the one its inspection's own answer leaves. -/
def observedFacts (digests : Digests) (context : RecordsContext) (state : RecordsState)
    (event : RequestObserved) (identity : RequestId) : List RetryFact :=
  match state.record event.observation.requestId with
  | none => []
  | some root =>
    only root.requestId (answerFacts context root event.observation) identity ++
      match heardTarget root event, RequestLedger.applyFacts digests context
        (cascade digests context state) state root event.toFacts false with
      | some target, .ok own => targetFacts context own.state target identity
      | _, _ => []

theorem observed_told {event : RequestObserved} (sound : SoundRecords state.records)
    (mayReissue : ∀ target, event.target = some target → target.targetResource = none →
      ReissuesTarget state target → allowed.reissued target.observation.requestId)
    (taken : RequestLedger.observed digests context state event = .ok change) :
    LedgerTold allowed (observedFacts digests context state event) state change := by
  have cascades : Cascades allowed (cascade digests context state) := cascade_cascades state
  obtain ⟨found, looked, taken⟩ := bind_ok taken
  split at taken
  · cases taken
  rename_i root
  obtain ⟨mem, -⟩ := unique_eq_some looked
  obtain ⟨own, applied, taken⟩ := bind_ok taken
  have rooted := applyFacts_told cascades sound mem applied
  have told : observedFacts digests context state event = fun identity =>
      only root.requestId (answerFacts context root event.observation) identity ++
        (heardTarget root event).elim [] fun target =>
          targetFacts context own.state target identity := by
    funext identity
    simp only [observedFacts, unique_record looked, applied]
    cases heardTarget root event <;> rfl
  rw [told]
  split at taken
  · rename_i invocation body
    obtain ⟨more, ended, taken⟩ := bind_ok taken
    cases taken
    simp only [heardTarget, body, Option.elim_none, append_nil]
    exact rooted.merge (endReleasedDispatch_step cascades rooted.sound ended)
  · rename_i turn lease body
    obtain ⟨more, ended, taken⟩ := bind_ok taken
    cases taken
    simp only [heardTarget, body, Option.elim_none, append_nil]
    exact rooted.merge
      (endCancelsOfReleasedTurn_step cascades (cancelDependents_spares _) rooted.sound ended)
  · rename_i cancels turns
    have heard : heardTarget root event =
        event.target.filter fun target => target.targetResource.isNone := by
      unfold heardTarget
      split
      · rename_i body
        exact absurd body (cancels _)
      · rename_i body
        exact absurd body (turns _ _)
      · rfl
    rw [heard]
    split at taken
    · rename_i absent
      cases taken
      simpa [absent] using rooted
    rename_i target given
    split_ifs at taken with child
    · cases taken
      simpa [given, Option.filter, Option.isSome_iff_ne_none.mp child] using rooted
    · have root_ : target.targetResource = none := by simpa using child
      obtain ⟨more, step, state, signals, events⟩ := observeTarget_told cascades rooted.sound
        (fun reissues => mayReissue target given root_ (reissues.before rooted)) taken
      have whole := rooted.compose step state signals events
      simpa [given, Option.filter, root_] using whole

private theorem retryWaitUntil_open {due : Seconds} (waiting : record.retryWaitUntil = some due) :
    record.phase ≠ .completed := by
  intro closed
  simp [RequestRecord.retryWaitUntil, closed] at waiting

def RetryComesDue (context : RecordsContext) (state : RecordsState) (requestId : RequestId)
    (nowAt : Seconds) : Prop :=
  state.recovery.phase = .ready ∧ ∃ row ∈ state.records, row.requestId = requestId ∧
    ∃ due, row.retryWaitUntil = some due ∧ due ≤ max context.run.nowAt nowAt

/-- A retry that is due while the recovery gate is open. -/
def retryFacts (context : RecordsContext) (state : RecordsState) (requestId : RequestId)
    (nowAt : Seconds) : RequestId → List RetryFact :=
  let at_ := max context.run.nowAt nowAt
  only requestId <|
    if state.recovery.phase = .ready &&
        (state.record requestId).any fun row => row.retryWaitUntil.any (· ≤ at_) then
      [.resent at_]
    else []

private theorem unique_record_none (missing : RequestLedger.unique state requestId = .ok none) :
    state.record requestId = none := by
  have first : state.record requestId = (state.find requestId).head? := (head?_filter ..).symm
  unfold RequestLedger.unique at missing
  split at missing
  · rename_i rows
    rw [first, rows]
    rfl
  · cases missing
  · cases missing

/-- A due retry sends its record out again exactly when it tells so. -/
theorem retry_cases {nowAt : Seconds}
    (retried : RequestLedger.retry context state requestId nowAt = .ok change) :
    (change = { state := state } ∧ retryFacts context state requestId nowAt = fun _ => []) ∨
    ∃ record due, RequestLedger.unique state requestId = .ok (some record) ∧
      record.retryWaitUntil = some due ∧ due ≤ max context.run.nowAt nowAt ∧
      state.recovery.phase = .ready ∧ change = RequestLedger.reissue context state record ∧
      retryFacts context state requestId nowAt =
        only requestId [.resent (max context.run.nowAt nowAt)] := by
  obtain ⟨found, looked, retried⟩ := bind_ok retried
  dsimp only [retryFacts]
  split at retried
  · cases retried
    exact .inl ⟨rfl, by simp [unique_record_none looked, only_nil]⟩
  rename_i record
  rw [unique_record looked]
  split at retried
  · rename_i idle
    cases retried
    exact .inl ⟨rfl, by simp [idle, only_nil]⟩
  rename_i due waiting
  split_ifs at retried with early
  · cases retried
    refine .inl ⟨rfl, ?_⟩
    rw [if_neg, only_nil]
    simp only [Bool.or_eq_true, decide_eq_true_eq] at early
    simp only [Option.any_some, waiting, Bool.and_eq_true, decide_eq_true_eq, not_and, not_le]
    exact fun ready => early.resolve_right fun closed => closed ready
  · cases retried
    simp only [Bool.or_eq_true, decide_eq_true_eq, not_or, not_lt, not_not] at early
    refine .inr ⟨record, due, looked, waiting, early.1, early.2, rfl, ?_⟩
    rw [if_pos]
    simpa [waiting, early.2] using le_max_iff.mp early.1

theorem retry_told {nowAt : Seconds} (sound : SoundRecords state.records)
    (mayReissue : RetryComesDue context state requestId nowAt → allowed.reissued requestId)
    (retried : RequestLedger.retry context state requestId nowAt = .ok change) :
    LedgerTold allowed (retryFacts context state requestId nowAt) state change := by
  obtain ⟨rfl, silent⟩ | ⟨record, due, looked, waiting, passed, ready, rfl, told⟩ :=
    retry_cases retried
  · rw [silent]
    exact .unchanged sound
  obtain ⟨mem, named⟩ := unique_eq_some looked
  have opened := retryWaitUntil_open waiting
  have reissued := mayReissue ⟨ready, _, mem, named, due, waiting, passed⟩
  rw [told, ← named]
  rw [← named] at reissued
  exact reissue_told sound mem opened reissued
    ((Trace.start record).fact (.of_open opened rfl rfl rfl rfl fun kept => absurd trivial kept)
      ⟨⟨due, waiting, passed⟩, rfl, rfl, rfl⟩)

theorem undispatchable_step (sound : SoundRecords state.records)
    (ended : RequestLedger.undispatchable digests context state requestId = .ok change) :
    LedgerStep allowed state change := by
  obtain ⟨found, -, ended⟩ := bind_ok ended
  split at ended
  · cases ended
    exact .unchanged sound
  dsimp only at ended
  split at ended
  · cases ended
    exact .unchanged sound
  · exact cancelPrepared_step (cascade_cascades state) sound ended

theorem endStalledBlock_step (sound : SoundRecords state.records)
    (ended : RequestLedger.endStalledBlock digests context state requestId = .ok change) :
    LedgerStep allowed state change := by
  obtain ⟨found, looked, ended⟩ := bind_ok ended
  split at ended
  · cases ended
    exact .unchanged sound
  · split_ifs at ended
    · cases ended
      exact .unchanged sound
    · exact applyFacts_step (cascade_cascades state) sound (unique_eq_some looked).1
        (retryable_terminal (by unfold RequestLedger.stalledFacts; split <;> rfl)) ended

def WithdrawalAnswer (digests : Digests) (context : RecordsContext) (operation : OperationRef)
    (scope : Scope) (decisionId : DecisionId) (status : CompletionStatus) : Prop :=
  retirementDecision digests context operation scope = some decisionId ∧ status = .succeeded

theorem retire_step {operation : OperationRef} (sound : SoundRecords state.records)
    (mayAnswer : ∀ decisionId status, WithdrawalAnswer digests context operation scope decisionId
      status → allowed.withdrawn decisionId status)
    (retired : RequestLedger.retire digests context state operation scope = .ok change) :
    LedgerStep allowed state change := by
  unfold RequestLedger.retire at retired
  split at retired
  · -- Whatever the branch, the retirement answers for the withdrawal's decision only.
    have answers : ∀ {base : RecordsState}, SoundRecords base.records →
        LedgerStep allowed base
          { state := base, signals := withdrawalCompletion digests context operation scope } := by
      intro base soundBase
      refine ⟨soundBase, .refl RecordEvolution.refl _, .refl Trace.start _,
        fun decisionId status mem => .inl ?_, by simp⟩
      dsimp only [withdrawalCompletion] at mem
      split at mem
      · cases mem
      · rename_i withdraw decided
        obtain ⟨rfl, rfl⟩ := mem_completionSignal mem
        exact mayAnswer _ _ ⟨decided, rfl⟩
    split_ifs at retired
    · obtain ⟨closed, cancelled, retired⟩ := bind_ok retired
      cases retired
      have cancelling : LedgerStep allowed state closed :=
        cancelPrepared_step (cascade_cascades state) sound cancelled
      exact cancelling.merge (answers cancelling.sound)
    · cases retired
      exact answers sound
    · cases retired
      exact .silent sound rfl (by simp) (by simp)
  · cases retired

def Withdrawn (digests : Digests) (context : RecordsContext) (event : RecordsEvent)
    (decisionId : DecisionId) (status : CompletionStatus) : Prop :=
  match event with
  | .operationRetireRequested operation scope =>
    WithdrawalAnswer digests context operation scope decisionId status
  | _ => False

/-- The records an event sends out again: a due retry, or one proven never to have begun. -/
def Reissued (context : RecordsContext) (state : RecordsState) (event : RecordsEvent)
    (identity : RequestId) : Prop :=
  match event with
  | .retryDue requestId nowAt =>
    identity = requestId ∧ RetryComesDue context state requestId nowAt
  | .requestObserved event =>
    ∃ target, event.target = some target ∧ target.targetResource = none ∧
      identity = target.observation.requestId ∧ ReissuesTarget state target
  | _ => False

def allowance (digests : Digests) (context : RecordsContext) (state : RecordsState)
    (event : RecordsEvent) : Allowance :=
  ⟨Withdrawn digests context event, Reissued context state event⟩

/-- What an event tells of the retries of each record. -/
def eventFacts (digests : Digests) (context : RecordsContext) (state : RecordsState) :
    RecordsEvent → RequestId → List RetryFact
  | .requestObserved event =>
    match RequestLedger.isLate state event with
    | .ok false => observedFacts digests context state event
    | _ => fun _ => []
  | .retryDue requestId nowAt => retryFacts context state requestId nowAt
  | _ => fun _ => []

variable {row : RequestRecord} {next : RecordsState} {event : RequestObserved} {epoch : Nat}
  {nowAt : Seconds} {barrier : RecoveryBarrier} {signals : List Signal} {reason : FailureReason}

theorem record_eq_some {identity : RequestId} (found : state.record identity = some row) :
    row ∈ state.records ∧ row.requestId = identity := by
  refine ⟨mem_of_find?_eq_some found, ?_⟩
  simpa using find?_some found

private theorem mergeFact_frame {canonical : Option Observation} {child : Bool}
    {previous : Option ChildLease}
    (merged : mergeFact state observation canonical child previous = .ok next) :
    next = { state with children := next.children } := by
  obtain ⟨ignored, -, merged⟩ := bind_ok merged
  split_ifs at merged
  · cases merged
    rfl
  obtain ⟨children, -, merged⟩ := bind_ok merged
  split at merged
  · cases merged
    rfl
  · split_ifs at merged
    cases merged
    rfl

private theorem observeRoot_frame (observed : observeRoot state observation = .ok next) :
    next = { state with children := next.children } := by
  unfold observeRoot at observed
  split at observed
  · cases observed
  · split_ifs at observed
    exact mergeFact_frame observed

private theorem observeFact_frame (observed : observeFact state event = .ok next) :
    next = { state with children := next.children } := by
  obtain ⟨observation, -, observed⟩ := bind_ok observed
  split at observed
  · split at observed
    · split at observed
      · cases observed
        rfl
      · cases observed
      · obtain ⟨lease, -, observed⟩ := bind_ok observed
        exact mergeFact_frame observed
    · exact observeRoot_frame observed
  · exact observeRoot_frame observed

theorem observeChildren_frame (observed : observeChildren state event = .ok next) :
    next = { state with children := next.children } := by
  obtain ⟨base, based, observed⟩ := bind_ok observed
  obtain ⟨updated, taken, observed⟩ := bind_ok observed
  obtain ⟨_, -, observed⟩ := bind_ok observed
  cases observed
  have left : base = { state with children := base.children } := by
    split_ifs at based
    · exact observeFact_frame based
    · cases based
      rfl
  have right := observeFact_frame taken
  rw [left] at right
  exact right

theorem transferChildren_frame (transferred : transferChildren digests state context = .ok next) :
    next = { state with children := next.children } := by
  obtain ⟨_, -, transferred⟩ := bind_ok transferred
  obtain ⟨retained, -, transferred⟩ := bind_ok transferred
  cases transferred
  rfl

theorem observeRecorded_frame {rows : List RequestRecord}
    (observed : sequence observeRecorded state rows = .ok next) :
    next = { state with children := next.children } := by
  refine sequence_induction
    (fun _ (current : RecordsState) => current = { state with children := current.children })
    (fun same taken => ?_) rfl observed
  unfold observeRecorded at taken
  split at taken
  · cases taken
    exact same
  split_ifs at taken
  · have later := observeChildren_frame taken
    rw [same] at later
    exact later
  · cases taken
    exact same

private theorem finish_silent {sent : List Outbound}
    (finished : finish state barrier context sent = .ok change) :
    change.state.records = state.records ∧ Quiet change.signals ∧ change.events = [] := by
  obtain ⟨checks, -, finished⟩ := bind_ok finished
  cases finished
  refine ⟨rfl, ?_, rfl⟩
  split_ifs <;> simp [Quiet]

def Outward (signals : List Signal) : Prop :=
  ∀ signal ∈ signals, (∀ event, signal ≠ .records event) ∧
    ∀ decisionId status, signal ≠ .decisionCompleted decisionId status

theorem Outward.quiet (outward : Outward signals) : Quiet signals :=
  fun decisionId status mem => (outward _ mem).2 decisionId status rfl

theorem childReleaseSignals_outward (digests : Digests) (context : RecordsContext)
    (before after : RecordsState) : Outward (childReleaseSignals digests before after context) := by
  intro signal mem
  obtain ⟨child, -, made⟩ := mem_filterMap.mp mem
  split at made
  · dsimp only at made
    split_ifs at made
    cases made
    exact ⟨fun event => by simp, fun decisionId status => by simp⟩
  · cases made

theorem observe_step (sound : SoundRecords state.records)
    (taken : observe digests state context event = .ok change) :
    LedgerStep allowed state change := by
  obtain ⟨observed, tookChildren, taken⟩ := bind_ok taken
  dsimp only at taken
  obtain ⟨updated, transferred, taken⟩ := bind_ok taken
  have kept : updated.records = state.records := by
    rw [transferChildren_frame transferred, observeChildren_frame tookChildren]
  have quiet := (childReleaseSignals_outward digests context state observed).quiet
  split_ifs at taken
  · cases taken
    exact .silent sound kept quiet (by simp)
  obtain ⟨⟨checks, requests⟩, -, taken⟩ := bind_ok taken
  split_ifs at taken
  · cases taken
    exact .silent sound kept quiet (by simp)
  obtain ⟨barrier, finished, taken⟩ := bind_ok taken
  cases taken
  obtain ⟨same, still, mute⟩ := finish_silent finished
  refine .silent sound (same.trans kept) (fun decisionId status mem => ?_) (by simp [mute])
  rcases mem_append.mp mem with early | late
  · exact quiet decisionId status early
  · exact still decisionId status late

private theorem recheck_step {target : RequestId} (sound : SoundRecords state.records)
    (checked : recheck digests state context target = .ok change) :
    LedgerStep allowed state change := by
  unfold recheck at checked
  dsimp only at checked
  split_ifs at checked
  · cases checked
    exact .unchanged sound
  · obtain ⟨same, quiet, mute⟩ := finish_silent checked
    exact .silent sound same quiet (by simp [mute])

private theorem moved_write {next : RequestRecord} (sound : SoundRecords state.records)
    (mem : row ∈ state.records) (inFlight : row.phase ≠ .completed) (identity : next.requestId =
      row.requestId ∧ next.request = row.request ∧ next.payloadDigest = row.payloadDigest ∧
      next.lifecycle = row.lifecycle)
    (answer : next.observation = row.observation ∧ next.sequence = row.sequence)
    (retries : next.retryCount = row.retryCount ∧ next.retryAt = row.retryAt)
    (unsent : next.phase = .prepared → row.observation = none) (opened : next.phase ≠ .completed) :
    LedgerStep allowed state { state := replaceRecord state next } := by
  obtain ⟨same, request, digest, lifecycle⟩ := identity
  have evolved : RecordEvolution allowed.reissued row next :=
    .of_open inFlight same request digest lifecycle fun _ => .same answer.1
  exact .write sound mem evolved
    ((sound.rows row mem).congr same request answer.1 answer.2 unsent
      fun closed => absurd closed opened)
    (evolved.traced retries.1 (.inr retries.2))

private theorem restartCommand_step (context : RecordsContext) (epoch : Nat) (nowAt : Seconds)
    (sound : SoundRecords state.records) (mem : record ∈ state.records) :
    LedgerStep allowed state { state := (restartCommand state context epoch nowAt record).1 } := by
  unfold restartCommand requeueLostInspection
  dsimp only
  split_ifs with restarts lost running
  · have opened : record.phase ≠ .completed := by
      intro closed
      simp only [closed, RequestRecord.inFlight] at lost
      split at lost <;> simp at lost
    have unanswered : record.observation = none :=
      Option.isNone_iff_eq_none.mp (Bool.and_eq_true_iff.mp lost).2
    exact moved_write sound mem opened ⟨rfl, rfl, rfl, rfl⟩ ⟨rfl, rfl⟩ ⟨rfl, rfl⟩
      (fun _ => unanswered) (by rintro ⟨⟩)
  · exact .unchanged sound
  · have opened : record.phase ≠ .completed := by
      intro closed
      simp [closed] at running
    exact moved_write sound mem opened ⟨rfl, rfl, rfl, rfl⟩ ⟨rfl, rfl⟩ ⟨rfl, rfl⟩
      (sound.rows record mem).unsent opened
  · exact .unchanged sound

private theorem restartCommand_others (mem : row ∈ state.records)
    (other : row.requestId ≠ record.requestId) :
    row ∈ (restartCommand state context epoch nowAt record).1.records := by
  unfold restartCommand requeueLostInspection
  dsimp only
  split_ifs
  · exact mem_overwrite_of_ne mem other
  · exact mem
  · exact mem_overwrite_of_ne mem other
  · exact mem

private theorem startRecords_step (digests : Digests) (context : RecordsContext)
    (initial : RecordsState)
    (epoch : Nat) (nowAt : Seconds) (started : Started) (sound : SoundRecords state.records)
    (kept : started.state.records = state.records) :
    LedgerStep allowed state
      { state := (state.records.foldl (startRecord digests context initial epoch nowAt)
        started).state } := by
  let holds := fun (rest : List RequestRecord) (current : Started) =>
    LedgerStep allowed state { state := current.state } ∧ Distinct RequestRecord.requestId rest ∧
      ∀ row ∈ rest, row ∈ current.state.records
  refine (foldl_induction holds ?_ ?_).1
  · rintro record rest current ⟨reached, distinct, inPlace⟩
    obtain ⟨fresh, distinctRest⟩ := nodup_cons.mp distinct
    have mem := inPlace record (mem_cons_self ..)
    have later : ∀ row ∈ rest, row ∈ current.state.records :=
      fun row listed => inPlace row (mem_cons_of_mem _ listed)
    unfold startRecord
    split_ifs
    · refine ⟨reached.compose (restartCommand_step context epoch nowAt reached.sound mem) rfl
        (by simp) (by simp), distinctRest, fun row listed => ?_⟩
      refine restartCommand_others (later row listed) fun same => fresh ?_
      exact mem_map.mpr ⟨row, listed, same⟩
    · exact ⟨reached, distinctRest, later⟩
  · refine ⟨.silent sound kept (by simp) (by simp), sound.distinct, fun row mem => ?_⟩
    rw [kept]
    exact mem

private theorem start_step (sound : SoundRecords state.records)
    (opened : start digests state context epoch nowAt = .ok change) :
    LedgerStep allowed state change := by
  obtain ⟨_, -, opened⟩ := bind_ok opened
  split_ifs at opened
  · cases opened
    exact .unchanged sound
  · obtain ⟨same, quiet, mute⟩ := finish_silent opened
    exact .silent sound same quiet (by simp [mute])
  obtain ⟨observed, recorded, opened⟩ := bind_ok opened
  obtain ⟨_, -, opened⟩ := bind_ok opened
  obtain ⟨transferred, moved, opened⟩ := bind_ok opened
  have kept : transferred.records = state.records := by
    rw [transferChildren_frame moved, observeRecorded_frame recorded]
  dsimp only at opened
  split_ifs at opened
  obtain ⟨barrier, finished, opened⟩ := bind_ok opened
  cases opened
  have restarted : LedgerStep allowed state _ :=
    startRecords_step digests context state epoch nowAt { state := transferred } sound kept
  obtain ⟨same, quiet, mute⟩ := finish_silent finished
  have stored : LedgerStep allowed _ barrier :=
    .silent restarted.sound same quiet (by simp [mute])
  exact restarted.compose stored rfl (by simp) (by simp)

private theorem movedRecord_evolves {reissued : RequestId → Prop} (run : RunState)
    (credit : Seconds)
    (row : RequestRecord) : RecordEvolution reissued row (movedRecord run credit row) := by
  unfold movedRecord
  by_cases opened : row.isOpen
  · have inFlight : row.phase ≠ .completed := by
      intro closed
      simp [RequestRecord.isOpen, RequestRecord.inFlight, closed] at opened
    simp only [opened, if_true]
    exact .of_open inFlight rfl rfl rfl rfl fun _ => .same rfl
  · simp only [opened, Bool.false_eq_true, if_false]
    exact .refl row

private theorem movedRecord_traced (run : RunState) (credit : Seconds) (row : RequestRecord) :
    Trace [] row (movedRecord run credit row) := by
  have evolved : RecordEvolution (fun _ => True) row (movedRecord run credit row) :=
    movedRecord_evolves run credit row
  unfold movedRecord at evolved ⊢
  by_cases opened : row.isOpen
  · simp only [opened, if_true] at evolved ⊢
    exact evolved.traced rfl (.inr rfl)
  · simp only [opened, Bool.false_eq_true, if_false]
    exact .start row

private theorem movedRecord_sound (run : RunState) (credit : Seconds) (sound : SoundRow row) :
    SoundRow (movedRecord run credit row) := by
  unfold movedRecord
  by_cases opened : row.isOpen
  · simp only [opened, if_true]
    exact sound.congr rfl rfl rfl rfl sound.unsent sound.closed
  · simp only [opened, Bool.false_eq_true, if_false]
    exact sound

theorem openHostEpoch_step {run : RunState} (sound : SoundRecords state.records)
    (opened : openHostEpoch state run epoch nowAt = .ok next) :
    LedgerStep allowed state { state := next } := by
  unfold openHostEpoch at opened
  split_ifs at opened
  · cases opened
    exact .unchanged sound
  obtain ⟨hosts, -, opened⟩ := bind_ok opened
  dsimp only at opened
  split_ifs at opened
  · cases opened
    exact .silent sound rfl (by simp) (by simp)
  cases opened
  have rewrites : Rewrites (RecordEvolution allowed.reissued) state.records
      (state.records.map (movedRecord run (Clock.downtime hosts))) :=
    .map _ _ fun row _ => movedRecord_evolves run _ row
  have traces : Rewrites (Trace []) state.records
      (state.records.map (movedRecord run (Clock.downtime hosts))) :=
    .map _ _ fun row _ => movedRecord_traced run _ row
  refine ⟨⟨?_, fun row mem => ?_⟩, rewrites, traces, by simp, by simp⟩
  · exact sound.distinct.rewrites rewrites fun _ _ step => step.requestId
  · obtain ⟨old, memberOld, rfl⟩ := mem_map.mp mem
    exact movedRecord_sound run _ (sound.rows old memberOld)

/-! ## Deadlines -/

private theorem deadlineTarget_mem {fuel : Nat} {seen : List RequestId}
    (found : deadlineTarget state fuel seen requestId = .ok record) : record ∈ state.records := by
  induction fuel generalizing seen requestId with
  | zero => cases found
  | succ fuel ih =>
    unfold deadlineTarget at found
    split_ifs at found
    split at found
    · cases found
    rename_i own looked
    split at found
    · cases found
      exact (record_eq_some looked).1
    · split at found
      · cases found
      · split_ifs at found
        exact ih found

theorem lostTurn_outward {first : Bool} (lost : lostTurn context record first = .ok signals) :
    Outward signals := by
  unfold lostTurn at lost
  split_ifs at lost
  · cases lost
    simp [Outward]
  · obtain ⟨turn, -, rfl⟩ := map_ok lost
    cases turn <;> simp [Outward]

theorem orphanedJobs_outward (state : RecordsState) (context : RecordsContext)
    (record : RequestRecord) (reason : FailureReason) :
    Outward (orphanedJobs state context record reason) := by
  intro signal mem
  unfold orphanedJobs at mem
  split at mem
  · cases mem
  · obtain ⟨job, -, made⟩ := mem_filterMap.mp mem
    obtain ⟨resource, -, rfl⟩ := Option.map_eq_some_iff.mp made
    exact ⟨fun event => by simp, fun decisionId status => by simp⟩

theorem gatedBarrier_cases {inspections : List Outbound}
    (gated : gatedBarrier digests state context record = .ok (barrier, inspections)) :
    barrier = state.recovery ∨ state.recovery.phase ≠ .ready ∧
      ∃ check checks, check.target = record.requestId ∧ check.resolution = .blocked ∧
        barrier = { state.recovery with phase := .blocked, checks } ∧
        ((∀ old ∈ state.recovery.checks, old.target ≠ check.target) ∧
            checks = state.recovery.checks ++ [check] ∨
          ∃ old, old.target = check.target ∧ checks = state.recovery.checks.replace old check) := by
  unfold gatedBarrier at gated
  split_ifs at gated with gating
  · refine (em (barrier = state.recovery)).imp_right fun moved => ⟨gating, ?_⟩
    unfold deadlineBarrier at gated
    split_ifs at gated
    · cases gated
      exact absurd rfl moved
    dsimp only at gated
    split at gated
    on_goal 2 => split_ifs at gated
    all_goals
      cases gated
      refine ⟨⟨record.requestId, (deadlineInspection record state.recovery.epoch).requestId,
        .blocked, none⟩, _, rfl, rfl, rfl, ?_⟩
      split
      · rename_i missing
        refine .inl ⟨fun old mem same => ?_, rfl⟩
        exact find?_eq_none.mp missing old mem (decide_eq_true same)
      · rename_i old found
        exact .inr ⟨old, by simpa using find?_some found, rfl⟩
  · cases gated
    exact .inl rfl

private theorem endOpenRecord_step (failed : Failed) (lost first : Bool)
    (sound : SoundRecords state.records) (mem : record ∈ state.records) :
    LedgerStep allowed state
      { state := (endOpenRecord state record failed lost first).1
        events := (endOpenRecord state record failed lost first).2 } := by
  unfold endOpenRecord
  split_ifs with ended
  · exact .unchanged sound
  have inFlight : record.phase ≠ .completed := by
    intro closed
    simp [RequestRecord.isOpen, RequestRecord.inFlight, closed] at ended
  have written : LedgerStep allowed state
      { state := replaceRecord state (blockedRecord record failed lost) } :=
    moved_write sound mem inFlight ⟨rfl, rfl, rfl, rfl⟩ ⟨rfl, rfl⟩ ⟨rfl, rfl⟩ (by rintro ⟨⟩)
      (by rintro ⟨⟩)
  refine ⟨written.sound, written.rewrites, written.traces, by simp, fun result told => ?_⟩
  dsimp only [heardFailure] at told
  split at told
  · split_ifs at told
    · simp at told
    · cases told
  · cases told

section
variable (sound : SoundRecords state.records)

include sound

private theorem endAtDeadline_step (mem : record ∈ state.records)
    (ended : endAtDeadline digests state context record reason = .ok change) :
    LedgerStep allowed state change := by
  obtain ⟨recorded, -, ended⟩ := bind_ok ended
  obtain ⟨lost, cancelled, ended⟩ := bind_ok ended
  obtain ⟨failed, -, ended⟩ := bind_ok ended
  obtain ⟨cancels, -, ended⟩ := bind_ok ended
  obtain ⟨⟨barrier, inspections⟩, -, ended⟩ := bind_ok ended
  cases ended
  have blocked : LedgerStep allowed state _ :=
    endOpenRecord_step failed (!lost.isEmpty) recorded.isNone sound mem
  refine ⟨blocked.sound, blocked.rewrites, blocked.traces, fun decisionId status told => ?_,
    blocked.results⟩
  rcases mem_append.mp told with early | late
  · exact absurd early ((lostTurn_outward cancelled).quiet decisionId status)
  · exact absurd late ((orphanedJobs_outward _ context record _).quiet decisionId status)

private theorem deadline_step
    (passed : deadline digests state context requestId nowAt reason = .ok change) :
    LedgerStep allowed state change := by
  obtain ⟨record, found, passed⟩ := bind_ok passed
  obtain ⟨_, -, passed⟩ := bind_ok passed
  split_ifs at passed
  · cases passed
    exact .unchanged sound
  · exact endAtDeadline_step sound (deadlineTarget_mem found) passed

private theorem lapseCommand_step
    (lapsed : lapseCommand state context requestId nowAt = .ok change) :
    LedgerStep allowed state change := by
  obtain ⟨_, -, lapsed⟩ := bind_ok lapsed
  split at lapsed
  · cases lapsed
    exact .unchanged sound
  rename_i command looked
  split_ifs at lapsed with waits
  · cases lapsed
    exact .unchanged sound
  cases lapsed
  have inFlight : command.phase ≠ .completed := by
    intro closed
    simp [RequestRecord.commandOpen, RequestRecord.inFlight, closed] at waits
  exact moved_write sound (record_eq_some looked).1 inFlight ⟨rfl, rfl, rfl, rfl⟩ ⟨rfl, rfl⟩
    ⟨rfl, rfl⟩ (by rintro ⟨⟩) (by rintro ⟨⟩)

theorem recovery_step {event : RecordsEvent}
    (advanced : RequestRecovery.advance digests state context event = .ok change) :
    LedgerStep allowed state change := by
  cases event with
  | recoveryStarted epoch nowAt => exact start_step sound advanced
  | requestObserved event => exact observe_step sound advanced
  | reconciliationDeadline requestId nowAt reason => exact deadline_step sound advanced
  | reconciliationCommandLapsed requestId nowAt => exact lapseCommand_step sound advanced
  | recoveryCheckWaitLapsed target => exact recheck_step sound advanced
  | recoveryReady epoch =>
    dsimp only [RequestRecovery.advance] at advanced
    split_ifs at advanced
    cases advanced
    exact .unchanged sound
  | _ => cases advanced

end

end VibeServeCore.Records
