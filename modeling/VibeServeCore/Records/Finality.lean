/- source: records.py, _step.py (`register_requests`)
   digest: In every ledger run a closed record stays settled and is told of once. -/

import VibeServeCore.Records.LedgerEvents
import VibeServeCore.Registration

/-! The ledger moves by a records event, by the limit move of a new host epoch, and by registration,
the only way a row comes into being. -/

namespace VibeServeCore.Records

open Types Proofs Foundation.Ledger Foundation.Process Registration List

def Named (row next : RequestRecord) : Prop :=
  ∃ commands, next = { row with addressedBy := commands }

theorem Named.refl (row : RequestRecord) : Named row row := ⟨row.addressedBy, rfl⟩

theorem Named.trans ⦃first second third : RequestRecord⦄ (left : Named first second)
    (right : Named second third) : Named first third := by
  obtain ⟨commands, rfl⟩ := left
  obtain ⟨later, rfl⟩ := right
  exact ⟨later, rfl⟩

private theorem address_named (target command : RequestId) (rows : List RequestRecord) :
    Rewrites Named rows (address target command rows) := by
  induction rows with
  | nil => exact .refl Named.refl _
  | cons row rest ih =>
    unfold address
    split_ifs
    · exact .refl Named.refl _
    · exact .cons ⟨_, rfl⟩ (.refl Named.refl _)
    · exact .cons (.refl row) ih

structure Assigned (request next : Request) : Prop where
  same : next = { request with requestId := next.requestId }
  kept : ∀ identity, request.requestId = some identity → next.requestId = some identity

def Joins (digests : Digests) (requests : List Scheduled) (row : RequestRecord) : Prop :=
  ∃ scheduled ∈ requests, ∃ requestId, Assigned scheduled.request row.request ∧
    row = preparedRow digests scheduled requestId
      { scheduled.request with requestId := some requestId }

/-- Rows are appended for the allocated requests, and commands are named on rows. -/
structure Appends (digests : Digests) (requests : List Scheduled) (before after : Registered)
    (added : List RequestRecord) : Prop where
  rows : Rewrites Named (before.records ++ added) after.records
  allocated : after.allocated = before.allocated ++ added.map (·.request)
  joins : ∀ row ∈ added, Joins digests requests row
  distinct : Distinct RequestRecord.requestId before.records →
    Distinct RequestRecord.requestId (before.records ++ added)

variable {digests : Digests} {requests : List Scheduled} {before middle after : Registered}
  {added : List RequestRecord} {row : RequestRecord}

theorem Appends.map_eq {View : Type} (appends : Appends digests requests before after added)
    (view : RequestRecord → View)
    (blind : ∀ row commands, view { row with addressedBy := commands } = view row) :
    after.records.map view = (before.records ++ added).map view := by
  refine appends.rows.map_eq view fun row next named => ?_
  obtain ⟨commands, rfl⟩ := named
  exact blind row commands

theorem Appends.nothing (digests : Digests) (requests : List Scheduled) (before : Registered) :
    Appends digests requests before before [] where
  rows := by
    rw [append_nil]
    exact .refl Named.refl _
  allocated := by simp
  joins := by simp
  distinct := by simp

theorem Appends.trans {more : List RequestRecord}
    (first : Appends digests requests before middle added)
    (second : Appends digests requests middle after more) :
    Appends digests requests before after (added ++ more) where
  rows := by
    rw [← append_assoc]
    exact (first.rows.append Named.refl more).trans Named.trans second.rows
  allocated := by simp [second.allocated, first.allocated]
  joins := forall_mem_append.mpr ⟨first.joins, second.joins⟩
  distinct := by
    intro distinct
    have keys := first.map_eq RequestRecord.requestId fun _ _ => rfl
    have appended := first.distinct distinct
    unfold Distinct at appended
    rw [← keys] at appended
    have last := second.distinct appended
    unfold Distinct at last ⊢
    rwa [map_append, keys, ← map_append, append_assoc] at last

theorem Appends.mono {fewer : List Scheduled} (appends : Appends digests fewer before after added)
    (all : ∀ scheduled ∈ fewer, scheduled ∈ requests) :
    Appends digests requests before after added := by
  refine ⟨appends.rows, appends.allocated, fun row mem => ?_, appends.distinct⟩
  obtain ⟨scheduled, listed, joined⟩ := appends.joins row mem
  exact ⟨scheduled, all scheduled listed, joined⟩

private theorem registerOne_appends {runId : RunId} {revision : Nat} {entry : Scheduled × Nat}
    (registered : registerOne digests runId revision before entry = .ok after) :
    ∃ added, Appends digests [entry.1] before after added := by
  unfold registerOne at registered
  dsimp only at registered
  split at registered
  · split_ifs at registered
    cases registered
    exact ⟨[], .nothing _ _ _⟩
  rename_i absent
  cases registered
  set requestId := allocateId digests runId revision entry.1.request entry.2 with allocates
  refine ⟨[preparedRow digests entry.1 requestId
    { entry.1.request with requestId := some requestId }], ?_, rfl, fun row listed => ?_,
    fun distinct => ?_⟩
  · dsimp only
    split
    · exact address_named _ _ _
    · exact .refl Named.refl _
  · refine ⟨entry.1, mem_singleton_self _, requestId, ?_, mem_singleton.mp listed⟩
    rw [mem_singleton.mp listed]
    refine ⟨rfl, fun identity held => ?_⟩
    simp [preparedRow, allocates, allocateId, held]
  · refine distinct.concat fun other mem => ?_
    simpa [preparedRow] using find?_eq_none.mp absent other mem

theorem registerRequests_appends {state next : CoreState} {allocated : List Request}
    (registered : registerRequests digests state requests = .ok (next, allocated)) :
    ∃ added, Appends digests requests { records := state.records.records }
      { records := next.records.records, allocated } added := by
  obtain ⟨done, ran, registered⟩ := bind_ok registered
  have grown : ∃ added, Appends digests requests { records := state.records.records } done added := by
    -- Every entry of the loop is one of the proposals with its index.
    refine (sequence_induction (fun rest current => (∀ entry ∈ rest, entry.1 ∈ requests) ∧
      ∃ added, Appends digests requests { records := state.records.records } current added)
      ?_ ⟨fun entry mem => ?_, [], .nothing _ _ _⟩ ran).2
    · rintro entry rest current next ⟨listed, added, appends⟩ turned
      obtain ⟨more, one⟩ := registerOne_appends turned
      refine ⟨fun later mem => listed later (mem_cons_of_mem _ mem), added ++ more,
        appends.trans (one.mono fun scheduled only => ?_)⟩
      rw [mem_singleton.mp only]
      exact listed entry mem_cons_self
    · exact mem_of_getElem? (mem_zipIdx_iff_getElem?.mp mem)
  split_ifs at registered <;> cases registered
  · exact ⟨[], .nothing _ _ _⟩
  · exact grown

theorem Named.evolution {reissued : RequestId → Prop} ⦃row next : RequestRecord⦄
    (named : Named row next) : RecordEvolution reissued row next := by
  obtain ⟨commands, rfl⟩ := named
  refine ⟨rfl, rfl, rfl, rfl, fun closed => ?_, fun _ => .same rfl⟩
  have settled := Settled.refl closed
  exact ⟨settled.phase, settled.observation, settled.sequence, rfl, rfl, rfl, rfl, rfl⟩

/-- As registration leaves it. -/
structure Fresh (row : RequestRecord) : Prop where
  phase : row.phase = .prepared
  observation : row.observation = none
  retryCount : row.retryCount = 0
  retryAt : row.retryAt = none

structure Registers (before after : List RequestRecord) : Prop where
  evolves : Evolves Named before after
  sources : ∀ row ∈ after, Fresh row ∨ ∃ first ∈ before, Named first row

private theorem preparedRow_sound (scheduled : Scheduled) (requestId : RequestId)
    (request : Request) :
    SoundRow (preparedRow digests scheduled requestId request) where
  answer := by
    intro observation stored
    cases stored
  unsent := fun _ => rfl
  closed := by
    intro closed
    cases closed

theorem registerRequests_step {state next : CoreState} {allocated : List Request}
    (sound : SoundRecords state.records.records)
    (registered : registerRequests digests state requests = .ok (next, allocated)) :
    SoundRecords next.records.records ∧ Registers state.records.records next.records.records := by
  obtain ⟨added, appends⟩ := registerRequests_appends registered
  have appended : Distinct RequestRecord.requestId (state.records.records ++ added) :=
    appends.distinct sound.distinct
  refine ⟨⟨?_, fun row mem => ?_⟩,
    (Evolves.append Named.refl _ _).trans Named.trans appends.rows.evolves, fun row mem => ?_⟩
  · unfold Distinct
    rw [appends.map_eq _ fun _ _ => rfl]
    exact appended
  · obtain ⟨source, listed, commands, rfl⟩ := appends.rows.source mem
    have soundRow : SoundRow source := by
      rcases List.mem_append.mp listed with old | new
      · exact sound.rows source old
      · obtain ⟨scheduled, -, requestId, -, rfl⟩ := appends.joins source new
        exact preparedRow_sound _ _ _
    exact soundRow.congr rfl rfl rfl rfl soundRow.unsent soundRow.closed
  · obtain ⟨source, listed, commands, rfl⟩ := appends.rows.source mem
    rcases List.mem_append.mp listed with old | new
    · exact .inr ⟨source, old, commands, rfl⟩
    · obtain ⟨scheduled, -, requestId, -, rfl⟩ := appends.joins source new
      exact .inl ⟨rfl, rfl, rfl, rfl⟩

/-- What the kernel does with the ledger. -/
inductive LedgerMove
  | event (context : RecordsContext) (event : RecordsEvent)
  | hostEpoch (run : RunState) (epoch : Nat) (nowAt : Seconds)
  | register (core : CoreState) (requests : List Scheduled)

def move (digests : Digests) (state : RecordsState) : LedgerMove → Except CoreError Change
  | .event context event => advanceRecord digests state context event
  | .hostEpoch run epoch nowAt =>
    (RequestRecovery.openHostEpoch state run epoch nowAt).map fun next => { state := next }
  | .register core requests =>
    (registerRequests digests { core with records := state } requests).map fun registered =>
      { state := registered.1.records }

/-- Runs of the request ledger. -/
abbrev LedgerRun (digests : Digests) :=
  Run (Produces (move digests) AreaChange.state)

def moveAllowance (digests : Digests) (state : RecordsState) : LedgerMove → Allowance
  | .event context event => allowance digests context state event
  | _ => ⟨fun _ _ => False, fun _ => False⟩

/-- What a move tells of the retries of each record. -/
def moveFacts (digests : Digests) (state : RecordsState) :
    LedgerMove → RequestId → List RetryFact
  | .event context event => eventFacts digests context state event
  | _ => fun _ => []

/-- The move sends the request out again. -/
def Resends (state : RecordsState) (identity : RequestId) : LedgerMove → Prop
  | .event context event => Reissued context state event identity
  | _ => False

variable {state first last : RecordsState} {change : Change} {label : LedgerMove}
  {labels : List (LedgerMove × Change)}

theorem advanceRecord_step {context : RecordsContext} {event : RecordsEvent}
    (sound : SoundRecords state.records)
    (advanced : advanceRecord digests state context event = .ok change) :
    LedgerTold (allowance digests context state event) (eventFacts digests context state event) state
      change := by
  cases event with
  | requestObserved observed =>
    obtain ⟨late, judged, advanced⟩ := bind_ok advanced
    dsimp only [eventFacts]
    rw [judged]
    split_ifs at advanced with ignored
    · cases advanced
      rw [ignored]
      exact .unchanged sound
    rw [Bool.eq_false_of_not_eq_true ignored]
    obtain ⟨ledger, taken, advanced⟩ := bind_ok advanced
    obtain ⟨recorded, -, advanced⟩ := bind_ok advanced
    obtain ⟨recovery, followed, advanced⟩ := bind_ok advanced
    cases advanced
    have first : LedgerTold (allowance digests context state (.requestObserved observed))
        (observedFacts digests context state observed) state ledger := observed_told sound
      (fun target given root reissues => ⟨target, given, root, rfl, reissues⟩) taken
    exact first.followed (observe_step first.sound followed) rfl (by simp) (by simp)
  | hostRenewed epoch nowAt =>
    dsimp only [advanceRecord, Clock.renewed] at advanced
    split at advanced
    · cases advanced
    split_ifs at advanced
    · cases advanced
      exact .unchanged sound
    · cases advanced
      exact .silent sound rfl (by simp) (by simp)
  | recoveryStarted | recoveryReady | reconciliationDeadline | reconciliationCommandLapsed
  | recoveryCheckWaitLapsed =>
    dsimp only [advanceRecord] at advanced
    exact recovery_step sound advanced
  | requestPrepared event => exact prepared_step sound advanced
  | dispatchAuthorized requestId nowAt => exact dispatched_step sound advanced
  | operationRetireRequested operation scope => exact retire_step sound (fun _ _ => id) advanced
  | retryDue requestId nowAt => exact retry_told sound (fun due => ⟨rfl, due⟩) advanced
  | requestUndispatchable requestId => exact undispatchable_step sound advanced
  | blockedRecordStalled requestId => exact endStalledBlock_step sound advanced

structure MoveStep (allowed : Allowance) (before : RecordsState) (change : Change) : Prop where
  sound : SoundRecords change.state.records
  evolves : Evolves (RecordEvolution allowed.reissued) before.records change.state.records
  completions : ∀ decisionId status, .decisionCompleted decisionId status ∈ change.signals →
    allowed.withdrawn decisionId status ∨
      CompletedBy before.records change.state.records decisionId status
  results : ∀ result, .operationResult result ∈ change.events →
    ReportedBy before.records change.state.records result

theorem LedgerTold.move {allowed : Allowance} {told : RequestId → List RetryFact}
    (step : LedgerTold allowed told state change) : MoveStep allowed state change :=
  ⟨step.sound, step.rewrites.evolves, step.completions, step.results⟩

theorem move_step (sound : SoundRecords state.records)
    (moved : move digests state label = .ok change) :
    MoveStep (moveAllowance digests state label) state change := by
  cases label with
  | event context event => exact (advanceRecord_step sound moved).move
  | hostEpoch run epoch nowAt =>
    obtain ⟨next, opened, rfl⟩ := map_ok moved
    exact (openHostEpoch_step sound opened).move
  | register core requests =>
    obtain ⟨⟨next, allocated⟩, registered, rfl⟩ := map_ok moved
    obtain ⟨soundNext, grown⟩ := registerRequests_step sound registered
    exact ⟨soundNext, grown.evolves.mono Named.evolution, by simp, by simp⟩

theorem LedgerRun.sound (run : LedgerRun digests first labels last)
    (sound : SoundRecords first.records) : SoundRecords last.records := by
  refine Run.invariant (fun state => SoundRecords state.records) ?_ run sound
  rintro first label last sound ⟨moved, rfl⟩
  exact (move_step sound moved).sound

theorem LedgerRun.evolves (run : LedgerRun digests first labels last)
    (sound : SoundRecords first.records) :
    Evolves (RecordEvolution fun _ => True) first.records last.records := by
  refine Run.related (fun state => SoundRecords state.records)
    (fun first last => Evolves (RecordEvolution fun _ => True) first.records last.records)
    (fun state => .refl RecordEvolution.refl _) (fun _ _ _ => .trans RecordEvolution.trans)
    ?_ ?_ run sound
  · rintro first label last sound ⟨moved, rfl⟩
    exact (move_step sound moved).sound
  · rintro first label last sound ⟨moved, rfl⟩
    exact (move_step sound moved).evolves.mono (RecordEvolution.mono fun _ _ => trivial)

private theorem withdrawn_by_retirement {decisionId : DecisionId} {status : CompletionStatus}
    (answered : (moveAllowance digests state label).withdrawn decisionId status) :
    ∃ context operation scope, label = .event context (.operationRetireRequested operation scope) ∧
      WithdrawalAnswer digests context operation scope decisionId status := by
  cases label with
  | event context event =>
    cases event with
    | operationRetireRequested operation scope => exact ⟨context, operation, scope, rfl, answered⟩
    | _ => exact answered.elim
  | _ => exact answered.elim

theorem Enters.not_closed {before after : List RequestRecord} {next row : RequestRecord}
    (entered : Enters before after next) (distinct : Distinct RequestRecord.requestId before)
    (mem : row ∈ before) (closed : row.phase = .completed) : next.requestId ≠ row.requestId := by
  intro same
  obtain ⟨opened, memberOpened, sameOpened, stillOpen⟩ := entered.opened
  rw [distinct.eq_of_key memberOpened mem (sameOpened.trans same)] at stillOpen
  exact stillOpen closed

/-- A COMPLETED record keeps its place and disposition and only gains evidence. Every move publishes
results and completions only for the records that enter COMPLETED by it, or as the answer to a
withdrawal that finds nothing to retire; no record enters twice. -/
theorem completed_record_is_final (digests : Digests) {history later : List (LedgerMove × Change)}
    {reached last : RecordsState} (past : LedgerRun digests {} history reached)
    (future : LedgerRun digests reached later last) :
    (∀ (position : Nat) (row : RequestRecord), reached.records[position]? = some row →
      row.phase = .completed → ∃ next, last.records[position]? = some next ∧
        next.requestId = row.requestId ∧ next.request = row.request ∧ Settled row next) ∧
    ∀ (label : LedgerMove) (change : Change), move digests last label = .ok change →
      (∀ result, .operationResult result ∈ change.events →
        ReportedBy last.records change.state.records result) ∧
      (∀ decisionId status, .decisionCompleted decisionId status ∈ change.signals →
        (∃ context operation scope,
          label = .event context (.operationRetireRequested operation scope) ∧
            WithdrawalAnswer digests context operation scope decisionId status) ∨
          CompletedBy last.records change.state.records decisionId status) ∧
      ∀ row ∈ last.records, row.phase = .completed →
        ∀ next, Enters last.records change.state.records next → next.requestId ≠ row.requestId := by
  have soundReached : SoundRecords reached.records :=
    LedgerRun.sound past ⟨List.nodup_nil, by simp⟩
  have soundLast := LedgerRun.sound future soundReached
  refine ⟨fun position row found closed => ?_, fun label change moved => ?_⟩
  · obtain ⟨next, foundNext, evolved⟩ := LedgerRun.evolves future soundReached position row found
    exact ⟨next, foundNext, evolved.requestId, evolved.request, evolved.closed closed⟩
  have step := move_step soundLast moved
  refine ⟨step.results, fun decisionId status published => ?_, fun row member closed next entered =>
    entered.not_closed soundLast.distinct member closed⟩
  exact (step.completions decisionId status published).imp_left withdrawn_by_retirement

/-! ## A small run -/

def sampleRun : RunState where
  runId := ⟨"run"⟩
  nowAt := 0
  deadlineAt := 1000
  baseline := ⟨⟨"base"⟩, "sha"⟩
  fingerprints := ⟨"evaluator", "workload", "environment"⟩
  limits :=
    { maxAttempts := 4, maxParallel := 2, poolCapacities := [], requestRetries := ⟨2, 1, 8⟩
      cancellationBound := 10, cleanupBound := 10, reconciliationBound := 10, observeInterval := 1
      observeBackoffCap := 10, queueWaitBudget := 10, queueNoticeInterval := 5
      maxAdoptionRounds := 2 }

def sampleContext : RecordsContext := ⟨sampleRun, [], {}, {}, {}⟩

def sampleDigests : Digests :=
  ⟨fun request => (request.requestId.map (·.root)).getD "", fun _ => "", fun _ => "",
    fun _ => ""⟩

def sampleScope : Scope := ⟨.run ⟨"run"⟩, 0⟩

def adoptionRequest : Request :=
  { requestId := some ⟨"adopt"⟩, scope := sampleScope
    body := .adoptRevision (.trustedBaseline sampleRun.baseline) }

def adoptionAnswer (sequence : Nat) (status : ObservationStatus) (terminal released : Bool) :
    Observation where
  eventId := ⟨"event:" ++ toString sequence⟩
  requestId := ⟨"adopt"⟩
  scope := sampleScope
  sequence := sequence
  observedAt := 0
  status := status
  accepted := true
  terminal := terminal
  released := released
  childrenComplete := true

def answered (observation : Observation) : LedgerMove :=
  .event sampleContext (.requestObserved { observation := observation })

def adoptionSent : List LedgerMove :=
  [.event sampleContext (.recoveryStarted 0 0),
    .register { run := sampleRun } [⟨adoptionRequest, ⟨100, []⟩, none⟩],
    .event sampleContext (.dispatchAuthorized ⟨"adopt"⟩ none)]

def ledgerAfter (moves : List LedgerMove) : RecordsState :=
  outcome (move sampleDigests) AreaChange.state {} moves

/-- The adoption succeeds, and a later answer proves its release: the record stays settled. -/
theorem completed_adoption_is_final :
    let closed := ledgerAfter (adoptionSent ++ [answered (adoptionAnswer 1 .succeeded true false)])
    ∃ history later last row next, LedgerRun sampleDigests {} history closed ∧
      LedgerRun sampleDigests closed later last ∧ later.length = 1 ∧
      closed.records[0]? = some row ∧ row.phase = .completed ∧
      last.records[0]? = some next ∧ Settled row next := by
  intro closed
  obtain ⟨history, past⟩ : ∃ history, LedgerRun sampleDigests {} history closed :=
    Run.of_outcome (by decide +kernel)
  have refined : ((move sampleDigests closed
      (answered (adoptionAnswer 2 .succeeded true true))).map fun _ => ()) = .ok () := by
    decide +kernel
  obtain ⟨change, moved, -⟩ := map_ok refined
  have future : LedgerRun sampleDigests closed [(_, change)] change.state :=
    .single ⟨moved, rfl⟩
  obtain ⟨row, found, phase⟩ : ∃ row, closed.records[0]? = some row ∧ row.phase = .completed := by
    have present : (closed.records[0]?.any fun row => row.phase = .completed) := by
      decide +kernel
    obtain ⟨some_, phase⟩ := (Option.any_eq_true_iff_get _ _).mp present
    exact ⟨_, (Option.some_get some_).symm, by simpa using phase⟩
  obtain ⟨next, foundNext, -, -, settled⟩ :=
    (completed_record_is_final sampleDigests past future).1 0 row found phase
  exact ⟨history, _, _, row, next, past, future, rfl, found, phase, foundNext, settled⟩

end VibeServeCore.Records
