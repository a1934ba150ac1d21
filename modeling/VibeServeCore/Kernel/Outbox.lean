/- source: _step.py (`register_requests`), _request_ledger.py, _request_recovery.py
   digest: Every request a step returns has its own row, and the ledger of a run only grows. -/

import VibeServeCore.Kernel.Replay

namespace VibeServeCore.Kernel

open Types Proofs Foundation.Ledger List Foundation.Process Registration Records

/-- What no rewrite of a row changes. -/
def identityOf (row : RequestRecord) : RequestId × Request × String × LifecycleClass :=
  (row.requestId, row.request, row.payloadDigest, row.lifecycle)

def Digested (digests : Digests) (records : List RequestRecord) : Prop :=
  ∀ row ∈ records, row.payloadDigest = digests.request row.request

structure Prepared (request : Request) (row : RequestRecord) : Prop where
  stands : row.request = request
  named : request.requestId = some row.requestId
  phase : row.phase = .prepared

/-- Identity and phase are kept. -/
def Still (row next : RequestRecord) : Prop :=
  identityOf next = identityOf row ∧ next.phase = row.phase

theorem Still.refl (row : RequestRecord) : Still row row := ⟨rfl, rfl⟩

theorem Still.trans ⦃first second third : RequestRecord⦄ (left : Still first second)
    (right : Still second third) : Still first third :=
  ⟨right.1.trans left.1, right.2.trans left.2⟩

theorem Still.prepared {request : Request} {row next : RequestRecord} (still : Still row next)
    (prepared : Prepared request row) : Prepared request next where
  stands := (congrArg (fun identity => identity.2.1) still.1).trans prepared.stands
  named := by
    rw [prepared.named]
    exact congrArg some (congrArg Prod.fst still.1).symm
  phase := still.2.trans prepared.phase

theorem Named.still ⦃row next : RequestRecord⦄ (named : Named row next) : Still row next := by
  obtain ⟨commands, rfl⟩ := named
  exact .refl row

theorem Rewrites.digested {digests : Digests} {before after : List RequestRecord}
    (rewrites : Rewrites (fun row next => identityOf next = identityOf row) before after)
    (digested : Digested digests before) : Digested digests after := by
  intro next mem
  obtain ⟨row, listed, same⟩ := rewrites.source mem
  have payload : next.payloadDigest = row.payloadDigest :=
    congrArg (fun identity => identity.2.2.1) same
  have request : next.request = row.request := congrArg (fun identity => identity.2.1) same
  rw [payload, request]
  exact digested row listed

section
variable {digests : Digests}

structure Registers (digests : Digests) (before after : Registered) : Prop where
  evolves : Evolves Still before.records after.records
  digested : Digested digests before.records → Digested digests after.records
  allocated : ∀ request ∈ after.allocated, request ∈ before.allocated ∨
    ∃ row ∈ after.records, Prepared request row

private theorem registerRequests_registers {state next : CoreState} {requests : List Scheduled}
    {allocated : List Request}
    (registered : registerRequests digests state requests = .ok (next, allocated)) :
    Registers digests { records := state.records.records }
      { records := next.records.records, allocated } := by
  obtain ⟨added, appends⟩ := registerRequests_appends registered
  have still := appends.rows.evolves.mono Named.still
  refine ⟨(Evolves.append Still.refl _ _).trans Still.trans still, fun digested => ?_,
    fun request mem => .inr ?_⟩
  · refine Rewrites.digested ⟨still.mono fun _ _ same => same.1, appends.rows.length⟩ fun row mem => ?_
    rcases mem_append.mp mem with old | new
    · exact digested row old
    · obtain ⟨scheduled, -, requestId, -, rfl⟩ := appends.joins row new
      rfl
  · have allocates : allocated = [] ++ added.map (·.request) := appends.allocated
    rw [allocates, nil_append] at mem
    obtain ⟨row, listed, rfl⟩ := mem_map.mp mem
    obtain ⟨later, kept, same⟩ := still.mem (mem_append_right _ listed)
    obtain ⟨scheduled, -, requestId, -, rfl⟩ := appends.joins row listed
    exact ⟨later, kept, same.prepared ⟨rfl, rfl, rfl⟩⟩

end

section
variable {digests : Digests} {state : RecordsState} {label : LedgerMove} {change : Change}

theorem openHostEpoch_still {run : RunState} {epoch : Nat} {nowAt : Seconds} {next : RecordsState}
    (opened : RequestRecovery.openHostEpoch state run epoch nowAt = .ok next) :
    Rewrites Still state.records next.records := by
  unfold RequestRecovery.openHostEpoch at opened
  split_ifs at opened
  · cases opened
    exact .refl Still.refl _
  obtain ⟨hosts, -, opened⟩ := bind_ok opened
  dsimp only at opened
  split_ifs at opened
  · cases opened
    exact .refl Still.refl _
  · cases opened
    refine .map _ _ fun row _ => ?_
    unfold RequestRecovery.movedRecord
    split_ifs <;> exact ⟨rfl, rfl⟩

theorem RecordEvolution.identity {reissued : RequestId → Prop} ⦃row next : RequestRecord⦄
    (evolved : RecordEvolution reissued row next) : identityOf next = identityOf row := by
  simp only [identityOf, evolved.requestId, evolved.request, evolved.payloadDigest,
    evolved.lifecycle]

private theorem move_digested (sound : SoundRecords state.records)
    (digested : Digested digests state.records)
    (moved : move digests state label = .ok change) : Digested digests change.state.records := by
  cases label with
  | event context event =>
    have rewrites := (advanceRecord_step sound moved).rewrites
    exact Rewrites.digested ⟨rewrites.evolves.mono RecordEvolution.identity, rewrites.length⟩
      digested
  | hostEpoch run epoch nowAt =>
    obtain ⟨next, opened, rfl⟩ := map_ok moved
    have rewrites := openHostEpoch_still opened
    exact Rewrites.digested ⟨rewrites.evolves.mono fun _ _ still => still.1, rewrites.length⟩
      digested
  | register core requests =>
    obtain ⟨⟨next, allocated⟩, registered, rfl⟩ := map_ok moved
    exact (registerRequests_registers registered).digested digested

/-- Sound rows that carry their request's digest. -/
structure SoundLedger (digests : Digests) (state : RecordsState) : Prop where
  sound : SoundRecords state.records
  digested : Digested digests state.records

theorem SoundLedger.of_empty (empty : state.records = []) : SoundLedger digests state :=
  ⟨⟨by simp [Distinct, empty], by simp [empty]⟩, by simp [Digested, empty]⟩

theorem SoundLedger.move (ledger : SoundLedger digests state)
    (moved : Records.move digests state label = .ok change) : SoundLedger digests change.state :=
  ⟨(move_step ledger.sound moved).sound, move_digested ledger.sound ledger.digested moved⟩

variable {first last middle : RecordsState} {labels : List (LedgerMove × Change)}
  {request : Request}

theorem SoundLedger.run (ledger : SoundLedger digests first)
    (run : LedgerRun digests first labels last) : SoundLedger digests last := by
  refine Run.invariant (SoundLedger digests) ?_ run ledger
  rintro first label last ledger ⟨moved, rfl⟩
  exact ledger.move moved

theorem LedgerRun.identities (run : LedgerRun digests first labels last)
    (sound : SoundRecords first.records) :
    first.records.map identityOf <+: last.records.map identityOf :=
  (LedgerRun.evolves run sound).prefix_map identityOf RecordEvolution.identity

def isPrepared (requestId : RequestId) (state : RecordsState) : Bool :=
  state.records.any fun row => row.requestId = requestId && row.phase = .prepared

private theorem isPrepared_iff {requestId : RequestId} : isPrepared requestId state = true ↔
    ∃ row ∈ state.records, row.requestId = requestId ∧ row.phase = .prepared := by
  simp [isPrepared]

private theorem isPrepared_of_evolves {requestId : RequestId}
    (evolves : Evolves Still first.records last.records)
    (prepared : isPrepared requestId first = true) : isPrepared requestId last = true := by
  obtain ⟨row, mem, named, phase⟩ := isPrepared_iff.mp prepared
  obtain ⟨next, kept, still⟩ := evolves.mem mem
  exact isPrepared_iff.mpr ⟨next, kept, (congrArg Prod.fst still.1).trans named,
    still.2.trans phase⟩

/-- No records signal takes the request's row out of PREPARED. -/
def Kernel.Holds (kernel : Kernel) (requestId : RequestId) : Prop :=
  ∀ state event change, kernel.dispatch state (.records event) = .ok change →
    isPrepared requestId state.records = true →
      isPrepared requestId (withArea state change.state).records = true

/-- Every request has its row in the last ledger, which is a run of ledger moves away, and a held
request's row is PREPARED there. -/
structure Posts (kernel : Kernel) (requests : List Request) (first last : RecordsState) :
    Prop where
  run : ∃ labels, LedgerRun kernel.digests first labels last
  posted : SoundLedger kernel.digests first → ∀ request ∈ requests, ∃ row ∈ last.records,
    row.request = request ∧ request.requestId = some row.requestId
  held : ∀ requestId, kernel.Holds requestId → isPrepared requestId first = true ∨
    (∃ request ∈ requests, request.requestId = some requestId) → isPrepared requestId last = true

section
variable {kernel : Kernel}

theorem Posts.unchanged (state : RecordsState) : Posts kernel [] state state :=
  ⟨⟨[], .nil _⟩, fun _ => by simp, fun _ _ => by simp⟩

theorem Posts.append {early later : List Request} (left : Posts kernel early first middle)
    (right : Posts kernel later middle last) : Posts kernel (early ++ later) first last := by
  obtain ⟨before, reached⟩ := left.run
  obtain ⟨after, followed⟩ := right.run
  refine ⟨⟨before ++ after, reached.append followed⟩, fun ledger request mem => ?_,
    fun requestId holds held => right.held requestId holds ?_⟩
  · rcases mem_append.mp mem with mem | mem
    · obtain ⟨row, listed, stands, named⟩ := left.posted ledger request mem
      obtain ⟨next, kept, evolved⟩ :=
        (LedgerRun.evolves followed (ledger.run reached).sound).mem listed
      exact ⟨next, kept, evolved.request.trans stands, by rw [named, evolved.requestId]⟩
    · exact right.posted (ledger.run reached) request mem
  · rcases held with prepared | ⟨request, mem, named⟩
    · exact .inl (left.held requestId holds (.inl prepared))
    rcases mem_append.mp mem with mem | mem
    · exact .inl (left.held requestId holds (.inr ⟨request, mem, named⟩))
    · exact .inr ⟨request, mem, named⟩

end

end

section
variable {kernel : Kernel} {before after : CoreState}

def Kernel.AnswersRecords (kernel : Kernel) : Prop :=
  ∀ state event change, kernel.dispatch state (.records event) = .ok change →
    reduceRecords kernel.digests state event = .ok change

theorem Kernel.ReducesRecords.answers (records : kernel.ReducesRecords) : kernel.AnswersRecords :=
  fun state event _ answered => (records state event).symm.trans answered

theorem withArea_records {slice : AreaState} (other : stateArea slice ≠ .records)
    (state : CoreState) : (withArea state slice).records = state.records := by
  cases slice with
  | records => exact absurd rfl other
  | _ => rfl

/-- A reducer keeps the ledger, or it is the records reducer. -/
theorem Reduces.ledger (records : kernel.AnswersRecords) {entry : Pending}
    {change : AreaChange AreaState} (step : Reduces kernel before entry change after) :
    after.records = before.records ∨ ∃ event ledger,
      kernel.dispatch before (.records event) = .ok change ∧
      advanceRecord kernel.digests before.records before.recordsContext event = .ok ledger ∧
      after.records = ledger.state := by
  obtain ⟨-, ordinary, answered, area, -, rfl⟩ := step
  cases signal : entry.signal with
  | records event =>
    rw [signal] at answered
    obtain ⟨ledger, advanced, rfl⟩ := answerAs_eq_ok.mp (records _ _ _ answered)
    exact .inr ⟨event, ledger, answered, advanced, rfl⟩
  | decisionCompleted => simp [signal, isCompletion] at ordinary
  | _ => exact .inl (withArea_records (by simp [area, signal, eventArea]) before)

theorem EffectStep.posts (records : kernel.AnswersRecords) {effect : Effect}
    (step : EffectStep kernel before effect after) :
    Posts kernel effect.requests before.records after.records := by
  cases effect with
  | complete decisionId status =>
    rcases completeDecision_state step with rfl | rfl <;> exact .unchanged _
  | finish events =>
    obtain ⟨proposal, finishes⟩ := step
    have ended := (finishRunInputs_state finishes.finished).1
    dsimp only at ended
    rw [ended]
    exact .unchanged _
  | reduce entry change =>
    rcases Reduces.ledger records step with same | ⟨event, ledger, answered, advanced, moved⟩
    · rw [same]
      exact .unchanged _
    refine ⟨⟨[(.event before.recordsContext event, ledger)], .single ⟨advanced, moved⟩⟩, ?_, ?_⟩
    · intro _ request mem
      cases mem
    · rintro requestId holds (prepared | ⟨request, mem, -⟩)
      · rw [step.installed]
        exact holds before event change answered prepared
      · cases mem
  | register requests allocated =>
    obtain ⟨-, registered⟩ := step
    have registers := registerRequests_registers registered
    have prepares : ∀ request ∈ allocated, ∃ row ∈ after.records.records, Prepared request row :=
      fun request mem => (registers.allocated request mem).resolve_left not_mem_nil
    refine ⟨⟨[(.register before requests, { state := after.records })], .single ⟨?_, rfl⟩⟩, ?_, ?_⟩
    · simp only [move, registered, Except.map]
    · intro _ request mem
      obtain ⟨row, listed, prepared⟩ := prepares request mem
      exact ⟨row, listed, prepared.stands, prepared.named⟩
    · rintro requestId - (prepared | ⟨request, mem, named⟩)
      · exact isPrepared_of_evolves registers.evolves prepared
      · obtain ⟨row, listed, prepared⟩ := prepares request mem
        rw [prepared.named] at named
        exact isPrepared_iff.mpr ⟨row, listed, Option.some.inj named, prepared.phase⟩

theorem EffectRun.posts (records : kernel.AnswersRecords) {effects : List Effect}
    (run : EffectRun kernel before effects after) :
    Posts kernel (effects.flatMap Effect.requests) before.records after.records := by
  induction run with
  | nil state => exact .unchanged _
  | cons head _ ih =>
    exact (EffectStep.posts records head).append ih

theorem propagate_posts (records : kernel.AnswersRecords) {signals : List Signal}
    {cause : Option DecisionId} {result : Transition}
    (propagated : propagate kernel before signals cause = .ok result) :
    Posts kernel result.requests before.records result.state.records := by
  obtain ⟨effects, propagates⟩ := propagate_propagates propagated
  rw [propagates.requests]
  exact EffectRun.posts records propagates.run

theorem stage_records (state : CoreState) (decision : Command) :
    (stage state decision).records = state.records := by
  cases decision <;> rfl

section
variable (records : kernel.AnswersRecords)

include records

theorem PhaseStep.posts {phase : Phase} (step : PhaseStep kernel before phase after) :
    Posts kernel phase.requests before.records after.records := by
  cases phase with
  | refuse receipt rejection =>
    obtain ⟨-, -, -, rfl⟩ := step
    exact .unchanged _
  | conflict rejection =>
    cases step
    exact .unchanged _
  | decide submission inner =>
    obtain ⟨-, -, propagated, rfl⟩ := step
    obtain ⟨signal, -, propagated⟩ := bind_ok propagated
    have posted := propagate_posts records propagated
    rw [stage_records] at posted
    exact posted
  | propagate signals cause result =>
    obtain ⟨propagated, rfl⟩ := step
    exact propagate_posts records propagated
  | advance stamps | record control =>
    cases step
    exact .unchanged _
  | switch status =>
    obtain ⟨-, -, -, -, rfl⟩ := step
    exact .unchanged _
  | openEpoch signal =>
    unfold PhaseStep openEpoch at step
    dsimp only at step
    split at step
    · rename_i epoch nowAt
      obtain ⟨opened, opens, step⟩ := bind_ok step
      cases step
      refine ⟨⟨[(.hostEpoch before.run epoch nowAt, { state := opened })], .single ⟨?_, rfl⟩⟩,
        ?_, ?_⟩
      · simp only [move, opens, Except.map]
      · intro _ request mem
        cases mem
      · rintro requestId - (prepared | ⟨request, mem, -⟩)
        · exact isPrepared_of_evolves (openHostEpoch_still opens).evolves prepared
        · cases mem
    · cases step
      exact .unchanged _

theorem PhaseRun.posts {phases : List Phase} (run : PhaseRun kernel before phases after) :
    Posts kernel (phases.flatMap Phase.requests) before.records after.records := by
  induction run with
  | nil state => exact .unchanged _
  | cons head _ ih =>
    exact (PhaseStep.posts records head).append ih

private theorem consume_posts {event : CoreEvent} {result : Transition}
    (consumed : consume kernel before event = .ok result) :
    Posts kernel result.requests before.records result.state.records := by
  obtain ⟨phases, handled, handles, rfl⟩ := consume_phases consumed
  have posted := PhaseRun.posts records handles.run
  rw [← handles.requests] at posted
  exact posted

theorem ConsumeRun.ledger
    {labels : List (CoreEvent × Transition)} (run : ConsumeRun kernel before labels after) :
    ∃ moves, LedgerRun kernel.digests before.records moves after.records := by
  induction run with
  | nil state => exact ⟨[], .nil _⟩
  | cons head _ ih =>
    obtain ⟨consumed, rfl⟩ := head
    obtain ⟨moves, first⟩ := (consume_posts records consumed).run
    obtain ⟨later, rest⟩ := ih
    exact ⟨moves ++ later, first.append rest⟩

end

def heldBack : StepError := .core (.contract ["records"] "the request is held back")

/-- The kernel whose records reducer fails instead of taking the request's row out of PREPARED. -/
def Kernel.holding (kernel : Kernel) (requestId : RequestId) : Kernel :=
  { kernel with
    dispatch := fun state signal =>
      match signal, kernel.dispatch state signal with
      | .records _, .ok change =>
        if isPrepared requestId state.records &&
            !isPrepared requestId (withArea state change.state).records then .error heldBack
        else .ok change
      | _, answer => answer }

/-- A records signal that the step serves takes the request's row out of PREPARED. -/
def MovesOn (kernel : Kernel) (state : CoreState) (event : CoreEvent) (requestId : RequestId) :
    Prop :=
  consume (kernel.holding requestId) state event = .error heldBack

section
variable (requestId : RequestId)

@[simp] theorem holding_digests : (kernel.holding requestId).digests = kernel.digests := rfl

private theorem holding_records {state : CoreState} {event : RecordsEvent}
    {change : AreaChange AreaState}
    (answered : (kernel.holding requestId).dispatch state (.records event) = .ok change) :
    kernel.dispatch state (.records event) = .ok change ∧
      (isPrepared requestId state.records = true →
        isPrepared requestId (withArea state change.state).records = true) := by
  cases free : kernel.dispatch state (.records event) with
  | error error => simp [Kernel.holding, free] at answered
  | ok answer =>
    simp only [Kernel.holding, free] at answered
    split_ifs at answered with leaves
    cases answered
    simpa using leaves

private theorem holding_holds : (kernel.holding requestId).Holds requestId :=
  fun _ _ _ answered => (holding_records requestId answered).2

private theorem serve_stops (loop : Propagation) (entry : Pending) :
    Stops heldBack (serve (kernel.holding requestId) loop entry) (serve kernel loop entry) := by
  have dispatches : Stops heldBack ((kernel.holding requestId).dispatch loop.state entry.signal)
      (kernel.dispatch loop.state entry.signal) := by
    unfold Kernel.holding
    dsimp only
    split
    · rename_i answered
      rw [answered]
      split_ifs
      · exact .inl rfl
      · exact .inr rfl
    · exact .inr rfl
  unfold serve
  split_ifs
  · exact .inr rfl
  · exact dispatches.bind fun _ => .refl _ _

private theorem settle_stops (remaining : Nat) (loop : Propagation) :
    Stops heldBack (settle (kernel.holding requestId) remaining loop)
      (settle kernel remaining loop) := by
  induction remaining generalizing loop with
  | zero => exact .inr rfl
  | succ remaining ih =>
    refine (Stops.refl _ (nextTurn kernel.digests loop)).bind fun ⟨entry, turned⟩ => ?_
    cases entry with
    | none => exact .inr rfl
    | some entry => exact (serve_stops requestId turned entry).bind ih

private theorem propagateWithin_stops (depth : Nat) (state : CoreState) (signals : List Signal)
    (cause : Option DecisionId) :
    Stops heldBack (propagateWithin (kernel.holding requestId) depth state signals cause)
      (propagateWithin kernel depth state signals cause) := by
  induction depth generalizing state signals cause with
  | zero => exact .inr rfl
  | succ depth ih =>
    refine (settle_stops requestId _ _).bind fun loop =>
      (Stops.refl _ (liftCore (registeredTransition kernel loop))).bind fun first => ?_
    cases Watches.watchDeadlines first.state with
    | nil => exact .inr rfl
    | cons fired others => exact (ih _ _ _).bind fun _ => .refl _ _

private theorem submitted_stops (state : CoreState) (submission : Submission)
    (expectedRevision : Nat) :
    Stops heldBack (submitted (kernel.holding requestId) state submission expectedRevision)
      (submitted kernel state submission expectedRevision) := by
  have propagates : Stops heldBack (propagateDecision (kernel.holding requestId) state submission)
      (propagateDecision kernel state submission) :=
    (Stops.refl _ _).bind fun _ => propagateWithin_stops requestId _ _ _ _
  simp only [submitted, holding_digests]
  cases decisionReplay kernel.digests state submission.command with
  | some replay => exact .inr rfl
  | none =>
    cases validateDecision kernel.digests state submission (some expectedRevision) with
    | some rejection => exact .inr rfl
    | none =>
      rcases propagates with stopped | same
      · rw [stopped]
        exact .inl rfl
      · rw [same]
        exact .inr rfl

private theorem control_stops (state : CoreState) (input : ControlInput) (nowAt : Seconds)
    (result : Option RunResultProposal) :
    Stops heldBack (control (kernel.holding requestId) state input nowAt result)
      (control kernel state input nowAt result) := by
  have stops : Stops heldBack (stopControl (kernel.holding requestId) state input nowAt result)
      (stopControl kernel state input nowAt result) := by
    unfold stopControl
    split
    · exact .inr rfl
    · exact .inr rfl
    dsimp only
    split
    · exact .inr rfl
    · exact (submitted_stops requestId _ _ _).bind fun _ => .refl _ _
  have switches : Stops heldBack (newControl (kernel.holding requestId) state input nowAt)
      (newControl kernel state input nowAt) := by
    unfold newControl
    split_ifs
    · exact .inr rfl
    · exact .inr rfl
    refine Stops.bind ?_ fun _ => .refl _ _
    cases input.action with
    | steer => exact .inr rfl
    | _ => exact propagateWithin_stops requestId _ _ _ _
  unfold control
  split
  · split_ifs
    · exact .inr rfl
    · exact stops
    · exact .inr rfl
  · split_ifs
    · exact stops
    · exact switches

private theorem handle_stops (state : CoreState) (event : CoreEvent) :
    Stops heldBack (handle (kernel.holding requestId) state event) (handle kernel state event) := by
  unfold handle
  split
  · exact .inr rfl
  · exact .inr rfl
  · unfold proposal
    split_ifs
    · exact .inr rfl
    · refine Stops.sequence (fun done submission => ?_) _ _
      have submits : Stops heldBack _ (submitted kernel done.state submission _) :=
        submitted_stops requestId done.state submission done.state.revision
      rcases submits with stopped | same
      · exact .inl (by rw [submitNext, stopped]; rfl)
      · exact .inr (by rw [submitNext, submitNext, same])
  · exact submitted_stops requestId _ _ _
  · exact control_stops requestId _ _ _ _
  · exact (Stops.refl _ _).bind fun _ => (Stops.refl _ _).bind fun _ =>
      propagateWithin_stops requestId _ _ _ _

private theorem consume_stops (state : CoreState) (event : CoreEvent) :
    Stops heldBack (consume (kernel.holding requestId) state event) (consume kernel state event) :=
  (Stops.refl _ _).bind fun _ => (handle_stops requestId state event).bind fun _ => .refl _ _

end

/-- The ledger only grows at the end, and every request a step returns has one row, PREPARED unless
a records event of the step moved it on. -/
theorem ledger_is_append_only (records : kernel.ReducesRecords) {start reached last : CoreState}
    {history later : List (CoreEvent × Transition)} (empty : start.records.records = [])
    (past : ConsumeRun kernel start history reached)
    (future : ConsumeRun kernel reached later last) :
    reached.records.records.map identityOf <+: last.records.records.map identityOf ∧
    (last.records.records.map RequestRecord.requestId).Nodup ∧
    (∀ row ∈ last.records.records, row.payloadDigest = kernel.digests.request row.request) ∧
    ∀ event result, consume kernel last event = .ok result → ∀ request ∈ result.requests,
      ∃ row, result.state.records.records.filter
          (fun row => request.requestId = some row.requestId) = [row] ∧
        row.request = request ∧
        (row.phase = .prepared ∨ MovesOn kernel last event row.requestId) := by
  obtain ⟨moves, early⟩ := ConsumeRun.ledger records.answers past
  obtain ⟨more, late⟩ := ConsumeRun.ledger records.answers future
  have initial : SoundLedger kernel.digests start.records := .of_empty empty
  have ledgerReached := initial.run early
  have ledgerLast := ledgerReached.run late
  refine ⟨LedgerRun.identities late ledgerReached.sound, ledgerLast.sound.distinct,
    ledgerLast.digested, fun event result consumed request member => ?_⟩
  have posts := consume_posts records.answers consumed
  obtain ⟨moves, run⟩ := posts.run
  obtain ⟨row, listed, stands, named⟩ := posts.posted ledgerLast request member
  have distinct := (ledgerLast.run run).sound.distinct
  refine ⟨row, ?_, stands, ?_⟩
  · have own : (fun other : RequestRecord => decide (request.requestId = some other.requestId)) =
        fun other => decide (other.requestId = row.requestId) := by
      funext other
      simp [named, eq_comm]
    rw [own]
    exact distinct.filter_key listed
  · refine (consume_stops row.requestId last event).symm.imp_left fun same => ?_
    rw [consumed] at same
    have answers : (kernel.holding row.requestId).AnswersRecords :=
      fun _ _ _ answered => records.answers _ _ _ (holding_records _ answered).1
    obtain ⟨other, mem, unique, phase⟩ := isPrepared_iff.mp ((consume_posts answers same).held
      _ (holding_holds _) (.inr ⟨request, member, named⟩))
    exact distinct.eq_of_key mem listed unique ▸ phase

end

/-! ## A sample outbox -/

def adoptingKernel : Kernel where
  digests := kernelDigests
  dispatch state signal :=
    match signal with
    | .records event => reduceRecords kernelDigests state event
    | .settlement _ => .ok <|
      if state.records.records.isEmpty then
        { state := .settlement state.settlement, requests := [within adoptionRequest 10] }
      else
        { state := .settlement state.settlement
          signals := [.records (.dispatchAuthorized ⟨"adopt"⟩ none)] }
    | _ => idleDispatch state signal
  recursionLimit := 2

theorem adoptingKernel_reducesRecords : adoptingKernel.ReducesRecords := fun _ _ => rfl

/-- The first winner's request has one PREPARED row. -/
theorem adoption_is_prepared :
    ∃ result row, consume adoptingKernel sampleCore (.proposalSubmitted [winnerProposal "a"] 0) =
        .ok result ∧ result.requests.length = 1 ∧
      (∀ request ∈ result.requests, result.state.records.records.filter
        (fun row => request.requestId = some row.requestId) = [row]) ∧ row.phase = .prepared := by
  have accepted : ((consume adoptingKernel sampleCore
      (.proposalSubmitted [winnerProposal "a"] 0)).map fun result =>
        (result.requests.map (·.requestId), result.state.records.records.map (·.phase))) =
      .ok ([some ⟨"adopt"⟩], [.prepared]) := by decide +kernel
  obtain ⟨result, consumed, shape⟩ := map_ok accepted
  obtain ⟨requests, phases⟩ := Prod.mk.inj shape
  obtain ⟨request, returned, -⟩ := map_eq_singleton_iff.mp requests
  obtain ⟨-, -, -, posted⟩ := ledger_is_append_only adoptingKernel_reducesRecords
    (show sampleCore.records.records = [] from rfl) (.nil sampleCore) (.nil sampleCore)
  obtain ⟨row, only, -, -⟩ := posted _ result consumed request (by simp [returned])
  refine ⟨result, row, consumed, by simp [returned], ?_, ?_⟩
  · intro other mem
    rw [returned, mem_singleton] at mem
    rw [mem]
    exact only
  · have listed : row ∈ result.state.records.records := by
      have mem := mem_singleton_self row
      rw [← only] at mem
      exact mem_of_mem_filter mem
    have phase := mem_map_of_mem (f := RequestRecord.phase) listed
    rw [phases] at phase
    exact mem_singleton.mp phase

/-- The second winner of a batch lets records send the first one's request, whose row is then
neither PREPARED nor ended. -/
theorem returned_request_can_be_dispatched :
    ((consume adoptingKernel sampleCore
        (.proposalSubmitted [winnerProposal "a", winnerProposal "b"] 0)).map fun result =>
      (result.requests.map (·.requestId), result.state.records.records.map (·.phase))) =
      .ok ([some ⟨"adopt"⟩], [.dispatched]) := by
  decide +kernel

end VibeServeCore.Kernel
