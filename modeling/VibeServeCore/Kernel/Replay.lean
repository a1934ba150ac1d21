/- source: _step.py (`_decision_replay`, `_submitted`, `_proposal`, `consume`)
   digest: A receipted decision is answered from its receipt, whatever path receipted it. -/

import VibeServeCore.Kernel.Phases

namespace VibeServeCore.Kernel

open Types Proofs List Foundation.Process
open Records (sampleRun sampleScope)

def receiptPayloads (state : CoreState) : List (DecisionId × String) :=
  state.run.receipts.map fun receipt => (receipt.decisionId, receipt.payloadDigest)

def firstPayload (entries : List (DecisionId × String)) (decisionId : DecisionId) :
    Option String :=
  (entries.find? fun entry => entry.1 = decisionId).map Prod.snd

def submissionPayload (digests : Digests) (submission : Submission) : DecisionId × String :=
  (submission.command.decisionId, commandDigest digests submission.command)

def enter (entries : List (DecisionId × String)) (entry : DecisionId × String) :
    List (DecisionId × String) :=
  if (firstPayload entries entry.1).isSome then entries else entries ++ [entry]

private theorem firstPayload_append (entries later : List (DecisionId × String))
    (decisionId : DecisionId) :
    firstPayload (entries ++ later) decisionId =
      (firstPayload entries decisionId).or (firstPayload later decisionId) := by
  unfold firstPayload
  rw [find?_append]
  cases entries.find? fun entry => entry.1 = decisionId <;> rfl

private theorem firstPayload_enter (entries later : List (DecisionId × String))
    (decisionId : DecisionId) :
    firstPayload (later.foldl enter entries) decisionId =
      firstPayload (entries ++ later) decisionId := by
  induction later generalizing entries with
  | nil => rw [foldl_nil, append_nil]
  | cons entry later ih =>
    rw [foldl_cons, ih, append_cons, firstPayload_append, firstPayload_append]
    congr 1
    unfold enter
    split_ifs with held
    · rw [firstPayload_append]
      by_cases named : entry.1 = decisionId
      · subst named
        obtain ⟨payload, found⟩ := Option.isSome_iff_exists.mp held
        rw [found]
        rfl
      · have other : firstPayload [entry] decisionId = none := by
          simp [firstPayload, named]
        rw [other, Option.or_none]
    · rfl

private theorem receiptOf_payload (state : CoreState) (decisionId : DecisionId) :
    (receiptOf state decisionId).map (·.payloadDigest) =
      firstPayload (receiptPayloads state) decisionId := by
  unfold receiptOf firstPayload receiptPayloads
  rw [find?_map, Option.map_map]
  rfl

private theorem receiptPayloads_keys (state : CoreState) :
    receiptPayloads state =
      (state.run.receipts.map receiptKey).map fun key => (key.1, key.2.1) := by
  simp [receiptPayloads, receiptKey]

private theorem receiptPayloads_addReceipt (state : CoreState) (receipt : DecisionReceipt) :
    receiptPayloads (addReceipt state receipt) =
      receiptPayloads state ++ [(receipt.decisionId, receipt.payloadDigest)] := by
  simp [receiptPayloads, addReceipt, CoreState.withReceipts]

section
variable {kernel : Kernel} {state : CoreState} {result : Transition}

theorem stage_receipts (state : CoreState) (decision : Command) :
    (stage state decision).run.receipts = state.run.receipts := by
  cases decision <;> rfl

variable {submission : Submission}

theorem propagateDecision_receipts {View : Type} {view : DecisionReceipt → View}
    (lasting : Lasting view)
    (propagated : propagateDecision kernel state submission = .ok result) :
    result.state.run.receipts.map view = state.run.receipts.map view ++
      [view (openedReceipt kernel.digests state.run submission)] := by
  obtain ⟨signal, -, propagated⟩ := bind_ok propagated
  obtain ⟨effects, propagates⟩ := propagate_propagates propagated
  rw [EffectRun.receipts_view lasting propagates.run, stage_receipts]
  simp [addReceipt, CoreState.withReceipts]

def acceptance (decisionId : DecisionId) (requests : List Request) : DecisionFeedback :=
  .accepted
    { decisionId, allocatedIds := (requests.filterMap (·.requestId)).map (·.root)
      requestIds := requests.filterMap (·.requestId) }

theorem accept_state (fresh : receiptOf state submission.command.decisionId = none)
    (propagated : propagateDecision kernel state submission = .ok result) :
    ∃ earlier own, result.state.run.receipts = earlier ++ [own] ∧
      earlier.map receiptKey = state.run.receipts.map receiptKey ∧
      receiptKey own = receiptKey (openedReceipt kernel.digests state.run submission) ∧
      (accept (openedReceipt kernel.digests state.run submission) result).state =
        result.state.withReceipts (earlier ++
          [{ own with
            feedback := acceptance submission.command.decisionId result.requests
            requestIds := result.requests.filterMap (·.requestId) }]) := by
  obtain ⟨earlier, rest, receipts, keys, last⟩ :=
    map_eq_append_iff.mp (propagateDecision_receipts receiptKey_lasting propagated)
  obtain ⟨own, rfl, ownKey⟩ := map_eq_singleton_iff.mp last
  refine ⟨earlier, own, receipts, keys, ownKey, ?_⟩
  have named : own.decisionId = submission.command.decisionId := congrArg Prod.fst ownKey
  have others : earlier.find? (fun receipt =>
      receipt.decisionId = submission.command.decisionId) = none := by
    -- An earlier receipt of the decision would already have been there to answer a replay.
    refine find?_eq_none.mpr fun receipt mem => ?_
    have key : receiptKey receipt ∈ state.run.receipts.map receiptKey := by
      rw [← keys]
      exact mem_map_of_mem mem
    obtain ⟨before, held, same⟩ := mem_map.mp key
    have absent := find?_eq_none.mp fresh before held
    have ids : before.decisionId = receipt.decisionId := congrArg Prod.fst same
    rwa [ids] at absent
  have lookup : receiptOf result.state submission.command.decisionId = some own := by
    unfold receiptOf
    rw [receipts, find?_append, others]
    simp [named]
  have opened : (openedReceipt kernel.digests state.run submission).decisionId =
      submission.command.decisionId := rfl
  unfold accept acceptance
  simp only [opened, lookup, receipts, dropLast_concat, Option.getD_some]

private theorem accept_payloads (fresh : receiptOf state submission.command.decisionId = none)
    (propagated : propagateDecision kernel state submission = .ok result) :
    receiptPayloads (accept (openedReceipt kernel.digests state.run submission) result).state =
      receiptPayloads state ++ [submissionPayload kernel.digests submission] := by
  obtain ⟨earlier, own, -, keys, ownKey, accepted⟩ := accept_state fresh propagated
  rw [accepted, receiptPayloads_keys, receiptPayloads_keys, ← keys]
  have payload : (own.decisionId, own.payloadDigest) =
      submissionPayload kernel.digests submission := by
    have ids := congrArg Prod.fst ownKey
    have digests := congrArg (fun key => key.2.1) ownKey
    exact Prod.ext ids digests
  simp only [CoreState.withReceipts, map_append, map_cons, map_nil]
  rw [← payload]
  rfl

theorem Submitted.payloads (outcome : Submitted kernel state submission result) :
    receiptPayloads result.state =
      enter (receiptPayloads state) (submissionPayload kernel.digests submission) := by
  have entered : firstPayload (receiptPayloads state)
      (submissionPayload kernel.digests submission).1 =
      (receiptOf state submission.command.decisionId).map (·.payloadDigest) :=
    (receiptOf_payload state _).symm
  unfold enter
  rw [entered]
  cases outcome with
  | receipted previous found =>
    simp only [found, Option.map_some, Option.isSome_some, if_true]
    split <;> rfl
  | refused receipt rejection fresh named payload commandless unasked =>
    simp only [fresh, Option.map_none, Option.isSome_none, Bool.false_eq_true, if_false]
    rw [receiptPayloads_addReceipt, named, payload]
    rfl
  | accepted inner fresh valid propagated =>
    simp only [fresh, Option.map_none, Option.isSome_none, Bool.false_eq_true, if_false]
    exact accept_payloads fresh propagated

/-- After a batch, every decision's first payload is the one that came first. -/
theorem proposal_payloads {decisions : List Submission} {expectedRevision : Nat}
    (done : proposal kernel state decisions expectedRevision = .ok result) :
    receiptPayloads result.state =
      (decisions.map (submissionPayload kernel.digests)).foldl enter (receiptPayloads state) := by
  refine proposal_induction
    (fun rest (current : Transition) =>
      (rest.map (submissionPayload kernel.digests)).foldl enter (receiptPayloads current.state) =
        (decisions.map (submissionPayload kernel.digests)).foldl enter (receiptPayloads state))
    ?_ rfl done
  intro submission rest current next held outcome
  rw [← held, map_cons, foldl_cons, ← outcome.payloads]
  rfl

end

def Receipted (digests : Digests) (state : CoreState) (submission : Submission) : Prop :=
  firstPayload (receiptPayloads state) submission.command.decisionId =
    some (commandDigest digests submission.command)

/-- Another payload has the decision's receipt. -/
def Conflicts (digests : Digests) (state : CoreState) (submission : Submission) : Prop :=
  ∃ payload, firstPayload (receiptPayloads state) submission.command.decisionId = some payload ∧
    payload ≠ commandDigest digests submission.command

section
variable {kernel : Kernel} {state : CoreState} {submission : Submission}

private theorem decisionReplay_receipted (receipted : Receipted kernel.digests state submission) :
    decisionReplay kernel.digests state submission.command = some { state := state } := by
  unfold Receipted at receipted
  rw [← receiptOf_payload] at receipted
  obtain ⟨previous, found, same⟩ := Option.map_eq_some_iff.mp receipted
  simp [decisionReplay, found, same]

private theorem decisionReplay_conflicts (conflicts : Conflicts kernel.digests state submission) :
    decisionReplay kernel.digests state submission.command = some
      { state, events := [.feedback (.rejected (identityConflict submission.command))] } := by
  obtain ⟨payload, held, differs⟩ := conflicts
  rw [← receiptOf_payload] at held
  obtain ⟨previous, found, rfl⟩ := Option.map_eq_some_iff.mp held
  simp [decisionReplay, found, differs]

private theorem submitted_receipted (receipted : Receipted kernel.digests state submission)
    (expectedRevision : Nat) :
    submitted kernel state submission expectedRevision = .ok { state := state } := by
  simp only [submitted, decisionReplay_receipted receipted]

private theorem proposal_receipted {decisions : List Submission}
    (receipted : ∀ submission ∈ decisions, Receipted kernel.digests state submission)
    (expectedRevision : Nat) :
    proposal kernel state decisions expectedRevision = .ok { state := state } := by
  unfold proposal
  split_ifs
  · congr 1
    induction decisions with
    | nil => rfl
    | cons submission decisions ih =>
      rw [foldl_cons]
      have first : refuseStale kernel { state := state } submission = { state := state } := by
        simp only [refuseStale, decisionReplay_receipted (receipted submission (by simp))]
        rfl
      rw [first]
      exact ih fun later mem => receipted later (mem_cons_of_mem _ mem)
  · induction decisions with
    | nil => rfl
    | cons submission decisions ih =>
      have first : submitNext kernel { state := state } submission =
          .ok ({ state := state } : Transition) := by
        simp only [submitNext, submitted_receipted (receipted submission (by simp))]
        rfl
      simp only [Foundation.Process.sequence, first, bind, Except.bind]
      exact ih fun later mem => receipted later (mem_cons_of_mem _ mem)

end

/-- No waiter has two different waits. -/
def WaitsAgree (state : CoreState) : Prop :=
  ∀ first ∈ recordedWaits state, ∀ second ∈ recordedWaits state,
    first.1 = second.1 → first.2 = second.2

instance (state : CoreState) : Decidable (WaitsAgree state) :=
  inferInstanceAs (Decidable (∀ first ∈ recordedWaits state, ∀ second ∈ recordedWaits state,
    first.1 = second.1 → first.2 = second.2))

private theorem namedWait_of_agree {named : NamedWaits} {row : WaitSubject × WaitOn}
    (agree : ∀ other ∈ named, row.1 = other.1 → row.2 = other.2) (mem : row ∈ named) :
    namedWait named row.1 = some row.2 := by
  unfold namedWait
  cases found : named.reverse.find? fun other => other.1 = row.1 with
  | none =>
    have absent := find?_eq_none.mp found row (mem_reverse.mpr mem)
    simp at absent
  | some other =>
    have subject := find?_some found
    have listed := mem_reverse.mp (mem_of_find?_eq_some found)
    rw [Option.map_some, agree other listed (by simpa using Eq.symm (by simpa using subject))]

private theorem changedWaits_self {state : CoreState} (agree : WaitsAgree state) :
    changedWaits state state = [] := by
  refine filter_eq_nil_iff.mpr fun row mem => ?_
  simp [namedWait_of_agree (agree row mem) mem]

private theorem unwaitedSessions_self (sessions : SessionsState) :
    unwaitedSessions sessions sessions = [] := by
  unfold unwaitedSessions
  rw [filter_eq_nil_iff.mpr fun session mem => by simp [mem],
    filter_eq_nil_iff.mpr fun turn mem => by simp [mem]]
  rfl

private theorem unnamedCheckpointWaits_self (sessions : SessionsState) :
    unnamedCheckpointWaits sessions sessions = [] := by
  have draining : ∀ claim ∈ sessions.interrupts,
      drainingWithoutCancel sessions claim.invocation →
        (sessions.invocations.find? fun row => row.invocation = claim.invocation).any
          sessions.invocations.contains := by
    -- A draining interruption has a turn, and the turn is one of the invocations.
    intro claim _ drains
    unfold drainingWithoutCancel at drains
    cases found : sessions.invocations.find? fun row => row.invocation = claim.invocation with
    | none => simp [found] at drains
    | some turn => simpa using mem_of_find?_eq_some found
  unfold unnamedCheckpointWaits
  rw [filter_eq_nil_iff.mpr fun turn mem => by simp [mem],
    filter_eq_nil_iff.mpr fun claim mem => ?_]
  · rfl
  · have claims : sessions.interrupts.contains claim := contains_iff_mem.mpr mem
    by_cases drains : drainingWithoutCancel sessions claim.invocation
    · rw [claims, draining claim mem drains]
      simp
    · simp [drains]

private theorem unmetWaits_self {state : CoreState} (agree : WaitsAgree state)
    (jobs : unwaitedJobs state = []) : unmetWaits state state = [] := by
  simp only [unmetWaits, changedWaits_self agree, jobs, unwaitedSessions_self,
    unnamedCheckpointWaits_self]
  rfl

def submissions? : CoreEvent → Option (List Submission)
  | .proposalSubmitted decisions _ => some decisions
  | .decisionSubmitted decision _ => some [decision]
  | _ => none

/-- The decision is of the batch and first under its identity. -/
structure Resubmits (digests : Digests) (state : CoreState) (batch : List Submission)
    (submission : Submission) : Prop where
  repeated : ∃ original ∈ batch,
    canonicalCommand submission.command = canonicalCommand original.command
  first : firstPayload (receiptPayloads state ++ batch.map (submissionPayload digests))
    submission.command.decisionId = some (commandDigest digests submission.command)

section
variable {kernel : Kernel} {state : CoreState} {batch : List Submission} {expected : Nat}
  {result : Transition}

theorem Resubmits.receipted {submission : Submission}
    (again : Resubmits kernel.digests state batch submission)
    (handled : proposal kernel state batch expected = .ok result) :
    Receipted kernel.digests result.state submission := by
  unfold Receipted
  rw [proposal_payloads handled, firstPayload_enter]
  exact again.first

private theorem consume_unchanged {event : CoreEvent} {events : List StrategyEvent}
    (agree : WaitsAgree state) (jobs : unwaitedJobs state = [])
    (ingress : validateIngress kernel.digests state event = .ok ())
    (handled : handle kernel state event = .ok { state := state, events }) :
    consume kernel state event =
      .ok { state := atRevision state (state.revision + 1), events } := by
  have kept : keepsWaits state state = .ok () := by
    unfold keepsWaits
    rw [unmetWaits_self agree jobs]
  simp only [consume, ingress, handled, kept, liftCore, Except.mapError, bind, Except.bind]
  rfl

private theorem consume_receipted {event : CoreEvent} {decisions : List Submission}
    (submits : submissions? event = some decisions)
    (receipted : ∀ submission ∈ decisions, Receipted kernel.digests state submission)
    (agree : WaitsAgree state) (jobs : unwaitedJobs state = []) :
    consume kernel state event = .ok { state := atRevision state (state.revision + 1) } := by
  cases event with
  | proposalSubmitted batch expected =>
    cases submits
    exact consume_unchanged agree jobs rfl (proposal_receipted receipted expected)
  | decisionSubmitted decision expected =>
    cases submits
    exact consume_unchanged agree jobs rfl
      (submitted_receipted (receipted decision (mem_singleton_self _)) expected)
  | runControl | area => cases submits

private theorem consume_conflicts {submission : Submission}
    (conflicts : Conflicts kernel.digests state submission) (agree : WaitsAgree state)
    (jobs : unwaitedJobs state = []) (expected : Nat) : let answer : Transition :=
      { state := atRevision state (state.revision + 1)
        events := [.feedback (.rejected (identityConflict submission.command))] }
    consume kernel state (.decisionSubmitted submission expected) = .ok answer ∧
      consume kernel state (.proposalSubmitted [submission] expected) = .ok answer := by
  have single : ∀ expected, submitted kernel state submission expected = .ok
      { state, events := [.feedback (.rejected (identityConflict submission.command))] } := by
    intro expected
    simp only [submitted, decisionReplay_conflicts conflicts]
  have batched : proposal kernel state [submission] expected = .ok
      { state, events := [.feedback (.rejected (identityConflict submission.command))] } := by
    unfold proposal
    split_ifs
    · simp only [foldl_cons, foldl_nil, refuseStale,
        decisionReplay_conflicts conflicts]
      rfl
    · simp only [Foundation.Process.sequence, submitNext, single]
      rfl
  exact ⟨consume_unchanged agree jobs rfl (single expected),
    consume_unchanged agree jobs rfl batched⟩

/-- After a batch that leaves no entity with two different waits, events made of its decisions only
advance the revision. -/
theorem resubmission_changes_only_the_revision
    (consumed : consume kernel state (.proposalSubmitted batch expected) = .ok result)
    (agree : WaitsAgree result.state) :
    (∀ events : List CoreEvent,
      (∀ event ∈ events, ∃ again, submissions? event = some again ∧
        ∀ submission ∈ again, Resubmits kernel.digests state batch submission) →
      ∃ labels, execute (consume kernel) Transition.state result.state events =
          .ok (labels, atRevision result.state (result.state.revision + events.length)) ∧
        ∀ label ∈ labels, label.2.requests = [] ∧ label.2.events = []) ∧
    ∀ submission, Conflicts kernel.digests result.state submission → ∀ expected,
      let answer : Transition :=
        { state := atRevision result.state (result.state.revision + 1)
          events := [.feedback (.rejected (identityConflict submission.command))] }
      consume kernel result.state (.decisionSubmitted submission expected) = .ok answer ∧
        consume kernel result.state (.proposalSubmitted [submission] expected) = .ok answer := by
  obtain ⟨handled, taken, unmet, rfl⟩ := consume_handled consumed
  have jobs : unwaitedJobs handled.state = [] := by
    simp only [unmetWaits, append_eq_nil_iff] at unmet
    exact unmet.1.1.2
  refine ⟨fun events resubmitted => ?_, fun submission conflicts expected =>
    consume_conflicts conflicts agree jobs expected⟩
  -- The revision moves from event to event, so the induction is over every revision at once.
  suffices ran : ∀ revision, ∃ labels,
      execute (consume kernel) Transition.state (atRevision handled.state revision) events =
        .ok (labels, atRevision handled.state (revision + events.length)) ∧
      ∀ label ∈ labels, label.2.requests = [] ∧ label.2.events = [] from ran _
  induction events with
  | nil => exact fun revision => ⟨[], rfl, by simp⟩
  | cons event events ih =>
    intro revision
    obtain ⟨again, submits, repeats⟩ := resubmitted event mem_cons_self
    have first : consume kernel (atRevision handled.state revision) event =
        .ok { state := atRevision handled.state (revision + 1) } :=
      consume_receipted submits (fun submission member => (repeats submission member).receipted
        taken) agree jobs
    obtain ⟨labels, later, mute⟩ :=
      ih (fun event member => resubmitted event (mem_cons_of_mem _ member)) (revision + 1)
    refine ⟨(event, { state := atRevision handled.state (revision + 1) }) :: labels, ?_, ?_⟩
    · have length : revision + 1 + events.length = revision + (event :: events).length := by
        rw [length_cons]
        omega
      simp only [execute, first, later, Except.map, length]
    · intro label member
      rcases mem_cons.mp member with rfl | member
      · exact ⟨rfl, rfl⟩
      · exact mute label member

end

/-! ## Sample batches -/

def kernelDigests : Digests where
  request request := (request.requestId.map (·.root)).getD ""
  command
    | .finish stop => stop.result.reason
    | .work request => request.decisionId.root
  selection _ := ""
  signal _ := ""

def sampleCore : CoreState where
  run := sampleRun
  records := { recovery := { phase := .ready } }

def areaSlice (state : CoreState) : Area → AreaState
  | .scheduling => .scheduling state.scheduling
  | .attempts => .attempts state.attempts
  | .sessions => .sessions state.sessions
  | .evaluation => .evaluation state.evaluation
  | .settlement => .settlement state.settlement
  | .records => .records state.records

def idleDispatch : Dispatch := fun state signal =>
  .ok { state := areaSlice state (eventArea signal) }

def idleKernel : Kernel := ⟨kernelDigests, idleDispatch, 2⟩

def winnerProposal (name : String) : Submission :=
  .wait ⟨⟨name⟩, sampleScope, .proposeWinner (.trustedBaseline sampleRun.baseline)⟩
    { limit := 10 }

def finishProposal (name reason : String) : Submission :=
  .finish ⟨⟨name⟩, sampleScope, .drain, ⟨.failure, reason, none⟩⟩

/-- Two winners are accepted; submitting both again, reversed and stale, changes nothing. -/
theorem accepted_winners_replay :
    ∃ result, consume idleKernel sampleCore
        (.proposalSubmitted [winnerProposal "a", winnerProposal "b"] 0) = .ok result ∧
      ∃ labels, execute (consume idleKernel) Transition.state result.state
          [.proposalSubmitted [winnerProposal "b", winnerProposal "a"] 0,
            .decisionSubmitted (winnerProposal "a") 5] =
          .ok (labels, atRevision result.state (result.state.revision + 2)) ∧
        ∀ label ∈ labels, label.2.requests = [] ∧ label.2.events = [] := by
  have accepted : ((consume idleKernel sampleCore
      (.proposalSubmitted [winnerProposal "a", winnerProposal "b"] 0)).map fun result =>
        decide (WaitsAgree result.state)) = .ok true := by decide +kernel
  obtain ⟨result, consumed, agree⟩ := map_ok accepted
  refine ⟨result, consumed, ?_⟩
  refine (resubmission_changes_only_the_revision consumed (of_decide_eq_true agree)).1 _ ?_
  have again : ∀ name ∈ ["a", "b"], Resubmits idleKernel.digests sampleCore
      [winnerProposal "a", winnerProposal "b"] (winnerProposal name) := by
    intro name member
    simp only [mem_cons, not_mem_nil, or_false] at member
    rcases member with rfl | rfl
    · exact ⟨⟨winnerProposal "a", by decide, rfl⟩, by decide +kernel⟩
    · exact ⟨⟨winnerProposal "b", by decide, rfl⟩, by decide +kernel⟩
  intro event member
  simp only [mem_cons, not_mem_nil, or_false] at member
  rcases member with rfl | rfl
  · refine ⟨_, rfl, fun submission member => ?_⟩
    simp only [mem_cons, not_mem_nil, or_false] at member
    rcases member with rfl | rfl
    · exact again "b" (by simp)
    · exact again "a" (by simp)
  · refine ⟨_, rfl, fun submission member => ?_⟩
    rw [mem_singleton.mp member]
    exact again "a" (by simp)

def waitingSession (wait : WaitOn) : SessionView where
  spec := ⟨⟨"session"⟩, ⟨"role"⟩, .readOnly, ⟨""⟩⟩
  scope := sampleScope
  generation := 0
  phase := .acquiring
  wait := some wait

def waitingCore : CoreState :=
  { sampleCore with sessions := { sessions := [waitingSession { requests := [⟨"lost"⟩] }] } }

def doublingKernel : Kernel where
  digests := kernelDigests
  dispatch state signal :=
    match signal with
    | .sessions _ => .ok { state := .sessions { state.sessions with
        sessions := state.sessions.sessions ++ [waitingSession { timer := some 50 }] } }
    | _ => idleDispatch state signal
  recursionLimit := 2

def sampleTurn : TurnSpec :=
  ⟨⟨⟨"session"⟩, ⟨"role"⟩, .readOnly, ⟨""⟩⟩, ⟨"turn"⟩, none, .scope sampleScope, ⟨"reply", 1⟩,
    .free, none, ⟨""⟩⟩

def turnProposal : Submission :=
  .wait ⟨⟨"turn"⟩, sampleScope, .requestTurn sampleTurn⟩ { limit := 10 }

/-- A decision that lost its identity is refused again, and two different waits of one session let
the resubmission fail. -/
theorem resubmission_can_be_refused_or_fail :
    ((consume idleKernel sampleCore
        (.proposalSubmitted [finishProposal "a" "done", finishProposal "a" "lost"] 7)).bind
      fun result => (consume idleKernel result.state
        (.decisionSubmitted (finishProposal "a" "lost") 0)).map (·.events)) =
      .ok [.feedback (.rejected (identityConflict (finishProposal "a" "lost").command))] ∧
    (consume doublingKernel waitingCore (.proposalSubmitted [turnProposal] 0)).isOk ∧
    ((consume doublingKernel waitingCore (.proposalSubmitted [turnProposal] 0)).bind
      fun result => consume doublingKernel result.state (.proposalSubmitted [turnProposal] 0)) =
      .error (.core (.contract ["wait"]
        "a recorded wait breaks its contract: session session waits on lost")) := by
  refine ⟨by decide +kernel, by decide +kernel, by decide +kernel⟩

end VibeServeCore.Kernel
