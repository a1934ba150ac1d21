/- source: _step.py (`register_requests`, `propagate`, `_submitted`)
   digest: Which receipt names which request, and when steps keep them in agreement. -/

import VibeServeCore.Kernel.Outbox

namespace VibeServeCore.Kernel

open Types Proofs Foundation.Ledger List Foundation.Process Registration Records

def claimOf (row : RequestRecord) : RequestId × Option DecisionId :=
  (row.requestId, row.request.decisionId)

def requestClaim (request : Request) : Option (RequestId × Option DecisionId) :=
  request.requestId.map fun requestId => (requestId, request.decisionId)

def Attributed (receipts : List DecisionReceipt) (rows : List RequestRecord) : Prop :=
  ∀ receipt ∈ receipts, ∀ requestId, requestId ∈ receipt.requestIds ↔
    (requestId, some receipt.decisionId) ∈ rows.map claimOf

def Unclaimed (rows : List RequestRecord) (decisionId : DecisionId) : Prop :=
  ∀ row ∈ rows, row.request.decisionId ≠ some decisionId

def receiptNames (receipt : DecisionReceipt) : DecisionId × List RequestId :=
  (receipt.decisionId, receipt.requestIds)

section
variable {receipts later : List DecisionReceipt} {rows next : List RequestRecord}

theorem Attributed.congr (attributed : Attributed receipts rows)
    (names : later.map receiptNames = receipts.map receiptNames)
    (claims : next.map claimOf = rows.map claimOf) : Attributed later next := by
  intro receipt mem requestId
  have listed : receiptNames receipt ∈ receipts.map receiptNames := by
    rw [← names]
    exact mem_map_of_mem mem
  obtain ⟨before, memberBefore, same⟩ := mem_map.mp listed
  have named : before.decisionId = receipt.decisionId := congrArg Prod.fst same
  have ids : before.requestIds = receipt.requestIds := congrArg Prod.snd same
  rw [claims, ← ids, ← named]
  exact attributed before memberBefore requestId

theorem Attributed.add (attributed : Attributed receipts rows) {receipt : DecisionReceipt}
    (unclaimed : Unclaimed rows receipt.decisionId) (empty : receipt.requestIds = []) :
    Attributed (receipts ++ [receipt]) rows := by
  intro other mem requestId
  rcases mem_append.mp mem with mem | mem
  · exact attributed other mem requestId
  · rw [mem_singleton.mp mem, empty]
    refine ⟨fun named => absurd named not_mem_nil, fun claimed => ?_⟩
    obtain ⟨row, listed, same⟩ := mem_map.mp claimed
    exact absurd (congrArg Prod.snd same) (unclaimed row listed)

end

section
variable {digests : Digests}

private theorem registerRequests_claims {state next : CoreState} {requests : List Scheduled}
    {allocated : List Request}
    (registered : registerRequests digests state requests = .ok (next, allocated)) :
    next.records.records.map claimOf =
        state.records.records.map claimOf ++ allocated.filterMap requestClaim ∧
      next.run.receipts = state.run.receipts.map (attributeRequests allocated) := by
  obtain ⟨rows, moved⟩ := registerRequests_state registered
  refine ⟨?_, by rw [moved]⟩
  obtain ⟨added, appends⟩ := registerRequests_appends registered
  have allocates : allocated = [] ++ added.map (·.request) := appends.allocated
  rw [appends.map_eq claimOf fun _ _ => rfl, map_append, allocates, nil_append,
    filterMap_map, ← filterMap_eq_map]
  congr 1
  refine filterMap_congr fun row mem => ?_
  obtain ⟨scheduled, -, requestId, -, rfl⟩ := appends.joins row mem
  rfl

private theorem mem_attributeRequests {allocated : List Request} {receipt : DecisionReceipt}
    {requestId : RequestId} :
    requestId ∈ (attributeRequests allocated receipt).requestIds ↔
      requestId ∈ receipt.requestIds ∨
        (requestId, some receipt.decisionId) ∈ allocated.filterMap requestClaim := by
  have own : requestId ∈ (allocated.filter fun request =>
      request.decisionId = some receipt.decisionId).filterMap (·.requestId) ↔
      (requestId, some receipt.decisionId) ∈ allocated.filterMap requestClaim := by
    simp only [mem_filterMap, mem_filter, decide_eq_true_eq, requestClaim,
      Option.map_eq_some_iff, Prod.mk.injEq]
    constructor
    · rintro ⟨request, ⟨listed, carried⟩, named⟩
      exact ⟨request, listed, requestId, named, rfl, carried⟩
    · rintro ⟨request, listed, _, named, rfl, carried⟩
      exact ⟨request, ⟨listed, carried⟩, named⟩
  unfold attributeRequests
  split_ifs with named
  · rw [withRequests, mem_eraseDups, mem_append, own]
  · refine ⟨.inl, fun held => held.resolve_right fun claimed => named ?_⟩
    obtain ⟨request, listed, -⟩ := mem_filterMap.mp (own.mpr claimed)
    obtain ⟨mem, carried⟩ := mem_filter.mp listed
    exact any_eq_true.mpr ⟨request, mem, carried⟩

private theorem attributeRequests_decisionId (allocated : List Request)
    (receipt : DecisionReceipt) :
    (attributeRequests allocated receipt).decisionId = receipt.decisionId := by
  unfold attributeRequests
  split <;> rfl

end

section
variable {kernel : Kernel} {before after : CoreState}

structure Attributes (requests : List Request) (before after : CoreState) : Prop where
  claims : after.records.records.map claimOf =
    before.records.records.map claimOf ++ requests.filterMap requestClaim
  kept : Attributed before.run.receipts before.records.records →
    Attributed after.run.receipts after.records.records

theorem Attributes.of_same
    (names : after.run.receipts.map receiptNames = before.run.receipts.map receiptNames)
    (claims : after.records.records.map claimOf = before.records.records.map claimOf) :
    Attributes [] before after :=
  ⟨by simpa using claims, fun attributed => attributed.congr names claims⟩

theorem Attributes.append {middle : CoreState} {early later : List Request}
    (left : Attributes early before middle) (right : Attributes later middle after) :
    Attributes (early ++ later) before after :=
  ⟨by rw [right.claims, left.claims, filterMap_append, append_assoc],
    fun attributed => right.kept (left.kept attributed)⟩

private theorem markCompleted_names (decisionId : DecisionId) (status : CompletionStatus)
    (receipts : List DecisionReceipt) :
    (markCompleted decisionId status receipts).map receiptNames = receipts.map receiptNames := by
  unfold markCompleted
  rw [map_map]
  refine map_congr_left fun receipt _ => ?_
  simp only [Function.comp_apply]
  split <;> rfl

private theorem claims_of_identities {rows next : List RequestRecord}
    (same : next.map identityOf = rows.map identityOf) : next.map claimOf = rows.map claimOf := by
  have through : ∀ rows : List RequestRecord, rows.map claimOf =
      (rows.map identityOf).map fun identity => (identity.1, identity.2.1.decisionId) := by
    intro rows
    rw [map_map]
    rfl
  rw [through, same, ← through]

theorem EffectStep.attributes (records : kernel.ReducesRecords) {effect : Effect}
    (sound : SoundRecords before.records.records) (step : EffectStep kernel before effect after) :
    Attributes effect.requests before after := by
  cases effect with
  | complete decisionId status =>
    rcases completeDecision_state step with rfl | rfl
    · exact .of_same rfl rfl
    · exact .of_same (markCompleted_names _ _ _) rfl
  | finish events =>
    obtain ⟨proposal, finishes⟩ := step
    have ended := (finishRunInputs_state finishes.finished).1
    dsimp only at ended
    rw [ended]
    exact .of_same rfl rfl
  | reduce entry change =>
    refine .of_same (by rw [step.installed, withArea_run]) ?_
    rcases Reduces.ledger records.answers step with same | ⟨event, ledger, -, advanced, moved⟩
    · rw [same]
    · have rewrites := (advanceRecord_step sound advanced).rewrites
      rw [moved]
      exact claims_of_identities (rewrites.map_eq identityOf RecordEvolution.identity)
  | register requests allocated =>
    obtain ⟨claims, receipts⟩ := registerRequests_claims step.2
    refine ⟨claims, fun attributed receipt mem requestId => ?_⟩
    rw [receipts] at mem
    obtain ⟨original, listed, rfl⟩ := mem_map.mp mem
    rw [mem_attributeRequests, attributeRequests_decisionId, claims, mem_append,
      attributed original listed]

theorem EffectRun.attributes (records : kernel.ReducesRecords) {effects : List Effect}
    (ledger : SoundLedger kernel.digests before.records)
    (run : EffectRun kernel before effects after) :
    Attributes (effects.flatMap Effect.requests) before after := by
  induction run with
  | nil state => exact .of_same rfl rfl
  | cons head _ ih =>
    obtain ⟨labels, moved⟩ := (EffectStep.posts records.answers head).run
    exact (EffectStep.attributes records ledger.sound head).append (ih (ledger.run moved))

private theorem propagate_attributes (records : kernel.ReducesRecords) {signals : List Signal}
    {cause : Option DecisionId} {result : Transition}
    (ledger : SoundLedger kernel.digests before.records)
    (propagated : propagate kernel before signals cause = .ok result) :
    Attributes result.requests before result.state := by
  obtain ⟨effects, propagates⟩ := propagate_propagates propagated
  rw [propagates.requests]
  exact EffectRun.attributes records ledger propagates.run

end

section
variable (kernel : Kernel) (state : CoreState) (submission : Submission)

def stagedFor : CoreState :=
  stage (addReceipt state (openedReceipt kernel.digests state.run submission)) submission.command

/-- A decision without a receipt finds no request under its name, and every request that its
submission returns carries it. -/
def DecisionOwns (expectedRevision : Nat) : Prop :=
  let decisionId := submission.command.decisionId
  receiptOf state decisionId = none → Unclaimed state.records.records decisionId ∧
    ∀ result, submitted kernel state submission expectedRevision = .ok result →
      ∀ request ∈ result.requests, request.decisionId = some decisionId

def BatchOwns (kernel : Kernel) : CoreState → List Submission → Prop
  | _, [] => True
  | state, submission :: batch => DecisionOwns kernel state submission state.revision ∧
      ∀ result, submitted kernel state submission state.revision = .ok result →
        BatchOwns kernel result.state batch

def EventOwns : CoreEvent → Prop
  | .proposalSubmitted decisions expectedRevision =>
    if expectedRevision = state.revision then BatchOwns kernel state decisions
    else ∀ submission ∈ decisions, receiptOf state submission.command.decisionId = none →
      Unclaimed state.records.records submission.command.decisionId
  | .decisionSubmitted decision expectedRevision =>
    DecisionOwns kernel state decision expectedRevision
  | .runControl input nowAt (some result) => input.action = .stop → ∀ mode ∈ input.mode,
      DecisionOwns kernel (advanceTime state [nowAt])
        (.finish (stopDecision state input mode result)) state.revision
  | .runControl _ _ none | .area _ => True

structure Agreed : Prop where
  ledger : SoundLedger kernel.digests state.records
  attributed : Attributed state.run.receipts state.records.records

end

section
variable {kernel : Kernel} {state : CoreState} {result : Transition}

theorem Agreed.propagate (records : kernel.ReducesRecords) (agreed : Agreed kernel state)
    {signals : List Signal} {cause : Option DecisionId}
    (propagated : Kernel.propagate kernel state signals cause = .ok result) :
    Agreed kernel result.state := by
  obtain ⟨labels, moved⟩ := (propagate_posts records.answers propagated).run
  exact ⟨agreed.ledger.run moved,
    (propagate_attributes records agreed.ledger propagated).kept agreed.attributed⟩

variable {submission : Submission}

theorem Agreed.accepted (records : kernel.ReducesRecords) (agreed : Agreed kernel state)
    {inner : Transition} (fresh : receiptOf state submission.command.decisionId = none)
    (unclaimed : Unclaimed state.records.records submission.command.decisionId)
    (carried : ∀ request ∈ inner.requests,
      request.decisionId = some submission.command.decisionId)
    (propagated : propagateDecision kernel state submission = .ok inner) :
    Agreed kernel (accept (openedReceipt kernel.digests state.run submission) inner).state := by
  obtain ⟨earlier, own, receipts, keys, key, accepted⟩ := accept_state fresh propagated
  obtain ⟨signal, -, propagated⟩ := bind_ok propagated
  have named : own.decisionId = submission.command.decisionId := congrArg Prod.fst key
  have opened : Agreed kernel (stagedFor kernel state submission) := by
    refine ⟨?_, ?_⟩
    · rw [stagedFor, stage_records]
      exact agreed.ledger
    · rw [stagedFor, stage_records, stage_receipts]
      exact agreed.attributed.add unclaimed rfl
  have reached : Agreed kernel inner.state := opened.propagate records propagated
  have attributes : Attributes inner.requests (stagedFor kernel state submission) inner.state :=
    propagate_attributes records opened.ledger propagated
  rw [accepted]
  refine ⟨reached.ledger, fun receipt mem requestId => ?_⟩
  have before := reached.attributed
  rw [receipts] at before
  rcases mem_append.mp mem with mem | mem
  · exact before receipt (mem_append_left _ mem) requestId
  -- The decision's own receipt: every claim on it was allocated by its propagation.
  rw [mem_singleton.mp mem]
  have claims : inner.state.records.records.map claimOf =
      state.records.records.map claimOf ++ inner.requests.filterMap requestClaim := by
    rw [attributes.claims, stagedFor, stage_records]
    rfl
  have absent : (requestId, some submission.command.decisionId) ∉
      state.records.records.map claimOf := by
    intro claimed
    obtain ⟨row, listed, same⟩ := mem_map.mp claimed
    exact unclaimed row listed (congrArg Prod.snd same)
  simp only [CoreState.withReceipts, named, claims, mem_append, absent, false_or,
    mem_filterMap, requestClaim, Option.map_eq_some_iff, Prod.mk.injEq]
  constructor
  · rintro ⟨request, listed, allocated⟩
    exact ⟨request, listed, requestId, allocated, rfl, carried request listed⟩
  · rintro ⟨request, listed, _, allocated, rfl, -⟩
    exact ⟨request, listed, allocated⟩

theorem Agreed.refused (agreed : Agreed kernel state) {receipt : DecisionReceipt}
    (unclaimed : Unclaimed state.records.records receipt.decisionId)
    (unasked : receipt.requestIds = []) : Agreed kernel (addReceipt state receipt) :=
  ⟨agreed.ledger, agreed.attributed.add unclaimed unasked⟩

theorem Agreed.submitted (records : kernel.ReducesRecords) (agreed : Agreed kernel state)
    {expectedRevision : Nat} (owns : DecisionOwns kernel state submission expectedRevision)
    (done : Kernel.submitted kernel state submission expectedRevision = .ok result) :
    Agreed kernel result.state := by
  cases submitted_outcome done with
  | receipted previous found =>
    split <;> exact agreed
  | refused receipt rejection fresh named payload commandless unasked =>
    refine agreed.refused ?_ unasked
    rw [named]
    exact (owns fresh).1
  | accepted inner fresh valid propagated =>
    obtain ⟨unclaimed, carried⟩ := owns fresh
    have own := carried _ done
    exact agreed.accepted records fresh unclaimed own propagated

theorem Agreed.batch (records : kernel.ReducesRecords) {batch : List Submission}
    {done final : Transition} (agreed : Agreed kernel done.state)
    (owns : BatchOwns kernel done.state batch)
    (ran : Foundation.Process.sequence (submitNext kernel) done batch = .ok final) :
    Agreed kernel final.state := by
  refine (sequence_induction (fun rest (current : Transition) =>
    Agreed kernel current.state ∧ BatchOwns kernel current.state rest) ?_ ⟨agreed, owns⟩ ran).1
  rintro submission rest current next ⟨held, first, later⟩ turned
  obtain ⟨transition, submits, rfl⟩ := map_ok turned
  have reached : Agreed kernel transition.state := held.submitted records first submits
  exact ⟨reached, later transition submits⟩

private theorem receiptOf_refused {decisionId : DecisionId} (receipt : DecisionReceipt)
    (unanswered : receiptOf (addReceipt state receipt) decisionId = none) :
    receiptOf state decisionId = none := by
  unfold receiptOf addReceipt CoreState.withReceipts at unanswered
  rw [find?_append, Option.or_eq_none_iff] at unanswered
  exact unanswered.1

theorem Agreed.stale {batch : List Submission} (agreed : Agreed kernel state)
    (unclaimed : ∀ submission ∈ batch, receiptOf state submission.command.decisionId = none →
      Unclaimed state.records.records submission.command.decisionId) :
    Agreed kernel (batch.foldl (Kernel.refuseStale kernel) { state := state }).state := by
  refine (Foundation.Process.foldl_induction (fun rest (current : Transition) =>
    Agreed kernel current.state ∧ ∀ submission ∈ rest,
      receiptOf current.state submission.command.decisionId = none →
        Unclaimed current.state.records.records submission.command.decisionId) ?_
    ⟨agreed, unclaimed⟩).1
  rintro submission rest current ⟨held, listed⟩
  have rest_ := fun later mem => listed later (mem_cons_of_mem submission mem)
  obtain ⟨next, outcome, declined, same⟩ := refuseStale_submitted kernel current submission
  rw [same]
  cases outcome with
  | receipted previous found => split <;> exact ⟨held, rest_⟩
  | refused receipt rejection fresh named payload commandless unasked =>
    refine ⟨held.refused (named ▸ listed submission mem_cons_self fresh) unasked, ?_⟩
    exact fun later mem unanswered => rest_ later mem (receiptOf_refused receipt unanswered)
  | accepted inner fresh valid propagated => simp [accept, announcesAcceptance] at declined

theorem Agreed.control (records : kernel.ReducesRecords) (agreed : Agreed kernel state)
    {input : ControlInput} {nowAt : Seconds} {proposed : Option RunResultProposal}
    (owns : EventOwns kernel state (.runControl input nowAt proposed))
    (done : Kernel.control kernel state input nowAt proposed = .ok result) :
    Agreed kernel result.state := by
  cases control_outcome done with
  | unchanged => exact agreed
  | noted unrecorded | steered unrecorded steers => exact ⟨agreed.ledger, agreed.attributed⟩
  | switched choice inner unrecorded taken running unclosed unstaged ran =>
    have turned : Agreed kernel (controlled state input nowAt) :=
      ⟨agreed.ledger, agreed.attributed⟩
    have reached : Agreed kernel inner.state := turned.propagate records ran
    exact reached
  | stopped mode final inner stops asked named unanswered submits =>
    subst asked
    have timed : Agreed kernel (advanceTime state [nowAt]) := ⟨agreed.ledger, agreed.attributed⟩
    have reached := timed.submitted records (owns stops mode named) submits
    split_ifs
    · exact reached
    · exact ⟨reached.ledger, reached.attributed⟩

theorem Agreed.area (records : kernel.ReducesRecords) (agreed : Agreed kernel state)
    {signal : Signal} (done : consumeArea kernel state signal = .ok result) :
    Agreed kernel result.state := by
  obtain ⟨opened, opens, done⟩ := bind_ok done
  obtain ⟨cause, -, propagated⟩ := bind_ok done
  have epoch : PhaseStep kernel state (.openEpoch signal) opened := liftCore_eq_ok.mp opens
  obtain ⟨labels, moved⟩ := (PhaseStep.posts records.answers epoch).run
  have held : Agreed kernel opened := by
    refine ⟨agreed.ledger.run moved, ?_⟩
    have opens := liftCore_eq_ok.mp opens
    unfold openEpoch at opens
    split at opens
    · obtain ⟨rows, hosts, opens⟩ := bind_ok opens
      cases opens
      have same := (openHostEpoch_still hosts).map_eq identityOf fun _ _ still => still.1
      exact agreed.attributed.congr rfl (claims_of_identities same)
    · cases opens
      exact agreed.attributed
  have timed : Agreed kernel (advanceTime opened (suppliedTimes signal)) :=
    ⟨held.ledger, held.attributed⟩
  exact timed.propagate records propagated

theorem Agreed.consume (records : kernel.ReducesRecords) (agreed : Agreed kernel state)
    {event : CoreEvent} (owns : EventOwns kernel state event)
    (consumed : Kernel.consume kernel state event = .ok result) : Agreed kernel result.state := by
  obtain ⟨handled, taken, -, rfl⟩ := consume_handled consumed
  suffices held : Agreed kernel handled.state from ⟨held.ledger, held.attributed⟩
  unfold handle at taken
  split at taken
  · cases taken
  · cases taken
  · rename_i decisions expectedRevision
    unfold proposal at taken
    unfold EventOwns at owns
    by_cases current : expectedRevision = state.revision
    · simp only [current, ne_eq, not_true_eq_false, if_false, if_true] at taken owns
      exact Agreed.batch records agreed owns taken
    · simp only [current, ne_eq, not_false_eq_true, if_false, if_true] at taken owns
      cases taken
      exact agreed.stale owns
  · exact agreed.submitted records owns taken
  · exact agreed.control records owns taken
  · exact agreed.area records taken

end

def movedAttempt (target : AttemptRef) (phase : AttemptPhase) (admissionId : DecisionId)
    (state : AttemptsState) : AreaState :=
  .attempts { attempts := state.attempts.map fun row =>
    if row.ref = target then { row with phase, admissionId := some admissionId }
    else row }

def briefAttempts (state : AttemptsState) : AttemptsEvent → AreaChange AreaState
  | .attemptRegistered request workspace budget _ =>
    { state := .attempts { attempts := state.attempts ++ [{
        attemptId := request.attemptId, itemId := request.itemId, generation := request.generation
        phase := .queued, workspace, budget
        charges := [⟨⟨"admission"⟩, .admission, none, none, request.admissionCharge, 0, none⟩] }] } }
  | .attemptAdmitted admissionId request workspace _ _ =>
    let target : AttemptRef := ⟨request.attemptId, request.generation⟩
    { state := movedAttempt target .active admissionId state
      requests := [within
        { requestId := some ⟨"workspace:" ++ request.attemptId.root⟩, scope := target.scope
          body := .ensureWorkspace target workspace } 10] }
  | .retireRequested target _ _ admissionId _ =>
    { state := movedAttempt target .terminal admissionId state
      signals := [.scheduling (.slotReleased target admissionId)] }
  | _ => { state := .attempts state }

def signalDigests : Digests :=
  { kernelDigests with
    signal := fun
      | .registerAttempt request => "register:" ++ request.decisionId.root
      | .admitAttempt request => "admit:" ++ request.decisionId.root
      | .scheduling (.slotReleased _ admissionId) => "release:" ++ admissionId.root
      | .attempts (.attemptRegistered request ..) => "registered:" ++ request.decisionId.root
      | .attempts (.attemptAdmitted admissionId ..) => "admitted:" ++ admissionId.root
      | .attempts (.workspaceObserved ..) => "workspace"
      | _ => "" }

def briefKernel : Kernel where
  digests := signalDigests
  dispatch state signal :=
    match signal with
    | .scheduling event => reduceScheduling signalDigests state event
    | .records event => reduceRecords signalDigests state event
    | .attempts event => .ok (briefAttempts state.attempts event)
    | _ => idleDispatch state signal
  recursionLimit := 2

def narrowCore : CoreState :=
  { sampleCore with run := { sampleRun with limits := { sampleRun.limits with maxParallel := 1 } } }

def startProposal (name attempt : String) : Submission :=
  .wait ⟨⟨name⟩, sampleScope, .startAttempt ⟨attempt⟩ ⟨"item"⟩
    ⟨.isolatedChild, sampleRun.baseline, none⟩ ⟨1, 1, 0⟩ []⟩ { limit := 10 }

def cancelProposal (name attempt : String) : Submission :=
  .wait ⟨⟨name⟩, sampleScope, .withdraw (.attempt ⟨⟨attempt⟩, 0⟩) .cancel⟩ { limit := 10 }

end VibeServeCore.Kernel
