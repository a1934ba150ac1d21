/- source: _step.py (`_submitted`, `_proposal`, `_control`, `consume`)
   digest: Every step as a run of phases, each of which propagates at most once. -/

import VibeServeCore.Kernel.Effects

namespace VibeServeCore.Kernel

open Types Proofs List Foundation.Process

/-- A submitted decision is receipted already, refused without a command, or accepted. -/
inductive Submitted (kernel : Kernel) (state : CoreState) (submission : Submission) :
    Transition → Prop
  | receipted (previous : DecisionReceipt)
      (found : receiptOf state submission.command.decisionId = some previous) :
      Submitted kernel state submission
        (if previous.payloadDigest = commandDigest kernel.digests submission.command then
          { state := state }
        else
          { state, events := [.feedback (.rejected (identityConflict submission.command))] })
  | refused (receipt : DecisionReceipt) (rejection : Rejected)
      (fresh : receiptOf state submission.command.decisionId = none)
      (named : receipt.decisionId = submission.command.decisionId)
      (payload : receipt.payloadDigest = commandDigest kernel.digests submission.command)
      (commandless : receipt.decision = none) (unasked : receipt.requestIds = [])
      (incomplete : receipt.completion = none) :
      Submitted kernel state submission
        { state := addReceipt state receipt, events := [.feedback (.rejected rejection)] }
  | accepted (inner : Transition)
      (fresh : receiptOf state submission.command.decisionId = none)
      (valid : validateDecision kernel.digests state submission (some state.revision) = none)
      (propagated : propagateDecision kernel state submission = .ok inner) :
      Submitted kernel state submission
        (accept (openedReceipt kernel.digests state.run submission) inner)

variable {state : CoreState} {kernel : Kernel} {result : Transition}

variable {submission : Submission} {expectedRevision : Nat} {decisions : List Submission}
    {event : CoreEvent}

private theorem validateDecision_revision {digests : Digests}
    (valid : validateDecision digests state submission (some expectedRevision) = none) :
    expectedRevision = state.revision := by
  unfold validateDecision at valid
  by_contra stale
  simp [stale] at valid

theorem submitted_outcome (done : submitted kernel state submission expectedRevision = .ok result) :
    Submitted kernel state submission result := by
  unfold submitted at done
  cases found : receiptOf state submission.command.decisionId with
  | some previous =>
    simp only [decisionReplay, found, Option.map_some] at done
    cases done
    exact .receipted previous found
  | none =>
    simp only [decisionReplay, found, Option.map_none] at done
    split at done
    · cases done
      exact .refused _ _ found rfl rfl rfl rfl rfl
    rename_i valid
    unfold conclude at done
    split at done
    · rename_i inner propagated
      cases done
      refine .accepted inner found ?_ propagated
      rwa [validateDecision_revision valid] at valid
    · cases done
      exact .refused _ _ found rfl rfl rfl rfl rfl
    · cases done
      exact .refused _ _ found rfl rfl rfl rfl rfl
    · cases done

theorem refuseStale_submitted (kernel : Kernel) (done : Transition) (submission : Submission) :
    ∃ next, Submitted kernel done.state submission next ∧
      announcesAcceptance next.events = false ∧
      refuseStale kernel done submission = done.andThen next := by
  unfold refuseStale
  cases found : receiptOf done.state submission.command.decisionId with
  | some previous =>
    simp only [decisionReplay, found, Option.map_some]
    refine ⟨_, .receipted previous found, ?_, rfl⟩
    split <;> rfl
  | none =>
    simp only [decisionReplay, found, Option.map_none]
    exact ⟨_, .refused _ _ found rfl rfl rfl rfl rfl, rfl, rfl⟩

/-- The induction over a batch: each decision meets the state the ones before it left. -/
theorem proposal_induction (holds : List Submission → Transition → Prop)
    (step : ∀ submission rest current next, holds (submission :: rest) current →
      Submitted kernel current.state submission next → holds rest (current.andThen next))
    (start : holds decisions { state := state })
    (done : proposal kernel state decisions expectedRevision = .ok result) : holds [] result := by
  unfold proposal at done
  split_ifs at done
  · cases done
    refine Foundation.Process.foldl_induction holds ?_ start
    intro submission rest current held
    obtain ⟨next, outcome, -, same⟩ := refuseStale_submitted kernel current submission
    exact same ▸ step submission rest current next held outcome
  · refine Foundation.Process.sequence_induction holds ?_ start done
    intro submission rest current next held turned
    obtain ⟨transition, submits, rfl⟩ := map_ok turned
    exact step submission rest current transition held (submitted_outcome submits)

def Unrecorded (state : CoreState) (input : ControlInput) : Prop :=
  ∀ previous ∈ state.run.controls, previous.controlId ≠ input.controlId

def controlled (state : CoreState) (input : ControlInput) (nowAt : Seconds) : CoreState :=
  let timed := advanceTime (withControl state input) [nowAt]
  { timed with run := { timed.run with status := controlledStatus state.run input.action } }

inductive ControlOutcome (kernel : Kernel) (state : CoreState) (input : ControlInput)
    (nowAt : Seconds) (proposed : Option RunResultProposal) : Transition → Prop
  | unchanged : ControlOutcome kernel state input nowAt proposed { state := state }
  | noted (unrecorded : Unrecorded state input) :
      ControlOutcome kernel state input nowAt proposed
        { state := advanceTime (withControl state input) [nowAt]
          events := [.controlChanged input] }
  | stopped (mode : StopMode) (final : RunResultProposal) (inner : Transition)
      (stops : input.action = .stop) (asked : proposed = some final)
      (named : input.mode = some mode)
      (unanswered : receiptOf state (stopDecision state input mode final).decisionId = none)
      (submits : submitted kernel (advanceTime state [nowAt])
        (.finish (stopDecision state input mode final)) state.revision = .ok inner) :
      ControlOutcome kernel state input nowAt proposed
        (if !announcesAcceptance inner.events then inner
        else
          { inner with
            state := withControl inner.state input
            events := .controlChanged input :: inner.events })
  | steered (unrecorded : Unrecorded state input) (steers : input.action = .steer) :
      ControlOutcome kernel state input nowAt proposed
        { state := controlled state input nowAt, events := [.controlChanged input] }
  | switched (choice : AdmissionAction) (inner : Transition)
      (unrecorded : Unrecorded state input)
      (taken : input.action = .pause ∧ choice = .pause ∨
        input.action = .resume ∧ choice = .resume)
      (running : state.run.status ≠ .terminal) (unclosed : state.run.status ≠ .closing)
      (unstaged : state.run.result = none)
      (ran : propagate kernel (controlled state input nowAt)
        [.scheduling (.admissionControl choice)] none = .ok inner) :
      ControlOutcome kernel state input nowAt proposed
        { inner with events := inner.events ++ [.controlChanged input] }

section
variable {input : ControlInput} {nowAt : Seconds} {proposed : Option RunResultProposal}

private theorem stopControl_outcome (stops : input.action = .stop)
    (done : stopControl kernel state input nowAt proposed = .ok result) :
    ControlOutcome kernel state input nowAt proposed result := by
  unfold stopControl at done
  split at done
  · have done := liftCore_eq_ok.mp done
    unfold softStop at done
    split_ifs at done with known
    · cases done
      exact .unchanged
    · cases done
      refine .noted fun previous mem same => known ?_
      exact any_eq_true.mpr ⟨previous, mem, decide_eq_true same⟩
  · cases done
  · rename_i final mode named
    dsimp only at done
    split at done
    · split_ifs at done
      cases done
      exact .unchanged
    · rename_i unanswered
      obtain ⟨inner, submits, done⟩ := bind_ok done
      have outcome := ControlOutcome.stopped mode final inner stops rfl named unanswered submits
      split_ifs at done outcome <;> exact Except.ok.inj done ▸ outcome

private theorem newControl_outcome (unrecorded : Unrecorded state input)
    (other : input.action ≠ .stop)
    (done : newControl kernel state input nowAt = .ok result) :
    ControlOutcome kernel state input nowAt proposed result := by
  unfold newControl at done
  split_ifs at done with ended closing
  obtain ⟨inner, propagated, done⟩ := bind_ok done
  cases done
  have steady : input.action = .resume ∨ input.action = .pause →
      state.run.status ≠ .closing ∧ state.run.result = none := by
    rintro (taken | taken) <;>
      · rw [taken] at closing
        refine ⟨fun status => closing (by simp [status]), ?_⟩
        by_contra staged
        exact closing (by simp [Option.isSome_iff_ne_none, staged])
  cases action : input.action with
  | stop => exact absurd action other
  | steer =>
    simp only [action] at propagated
    cases propagated
    exact action ▸ .steered unrecorded action
  | pause =>
    obtain ⟨unclosed, unstaged⟩ := steady (.inr action)
    simp only [action] at propagated
    exact .switched .pause inner unrecorded (.inl ⟨action, rfl⟩) ended unclosed unstaged
      (by unfold controlled; rw [action]; exact propagated)
  | resume =>
    obtain ⟨unclosed, unstaged⟩ := steady (.inl action)
    simp only [action] at propagated
    exact .switched .resume inner unrecorded (.inr ⟨action, rfl⟩) ended unclosed unstaged
      (by unfold controlled; rw [action]; exact propagated)

theorem control_outcome (done : control kernel state input nowAt proposed = .ok result) :
    ControlOutcome kernel state input nowAt proposed result := by
  unfold control at done
  split at done
  · split_ifs at done with _ stops
    · exact stopControl_outcome stops done
    · cases done
      exact .unchanged
  · rename_i unknown
    split_ifs at done with stops
    · exact stopControl_outcome stops done
    · refine newControl_outcome (fun previous mem same => ?_) stops done
      exact absurd (decide_eq_true same) (find?_eq_none.mp unknown previous mem)

end

/-- What a step is made of. -/
inductive Phase
  | refuse (receipt : DecisionReceipt) (rejection : Rejected)
  | conflict (rejection : Rejected)
  | decide (submission : Submission) (inner : Transition)
  | propagate (signals : List Signal) (cause : Option DecisionId) (result : Transition)
  | advance (stamps : List Seconds)
  | record (control : ControlInput)
  | switch (status : RunStatus)
  | openEpoch (signal : Signal)

namespace Phase

def events : Phase → List StrategyEvent
  | .refuse _ rejection | .conflict rejection => [.feedback (.rejected rejection)]
  | .decide submission inner =>
    .feedback (.accepted
      { decisionId := submission.command.decisionId
        allocatedIds := (inner.requests.filterMap (·.requestId)).map (·.root)
        requestIds := inner.requests.filterMap (·.requestId) }) :: inner.events
  | .propagate _ _ result => result.events
  | .record control => [.controlChanged control]
  | .advance _ | .switch _ | .openEpoch _ => []

def requests : Phase → List Request
  | .decide _ inner => inner.requests
  | .propagate _ _ result => result.requests
  | _ => []

end Phase

/-- What each phase does to the core. -/
def PhaseStep (kernel : Kernel) (before : CoreState) (phase : Phase) (after : CoreState) : Prop :=
  match phase with
  | .refuse receipt _ => receiptOf before receipt.decisionId = none ∧ receipt.decision = none ∧
      receipt.requestIds = [] ∧ after = addReceipt before receipt
  | .conflict _ => after = before
  | .decide submission inner =>
    receiptOf before submission.command.decisionId = none ∧
      validateDecision kernel.digests before submission (some before.revision) = none ∧
      propagateDecision kernel before submission = .ok inner ∧
      after = (accept (openedReceipt kernel.digests before.run submission) inner).state
  | .propagate signals cause result =>
    propagate kernel before signals cause = .ok result ∧ after = result.state
  | .advance stamps => after = advanceTime before stamps
  | .record control => after = withControl before control
  | .switch status => (status = .paused ∨ status = .running) ∧ before.run.result = none ∧
      before.run.status ≠ .terminal ∧ before.run.status ≠ .closing ∧
      after = { before with run := { before.run with status } }
  | .openEpoch signal => openEpoch before signal = .ok after

abbrev PhaseRun (kernel : Kernel) := Run (PhaseStep kernel)

/-- The phases give the step's state, events and requests. -/
structure Handles (kernel : Kernel) (state : CoreState) (phases : List Phase)
    (result : Transition) : Prop where
  run : PhaseRun kernel state phases result.state
  events : result.events.Perm (phases.flatMap Phase.events)
  requests : result.requests = phases.flatMap Phase.requests

section
variable {kernel : Kernel} {state : CoreState} {result : Transition}

namespace Handles

private theorem unchanged : Handles kernel state [] { state := state } := ⟨.nil _, .refl _, rfl⟩

private theorem andThen {first second : Transition} {before after : List Phase}
    (left : Handles kernel state before first) (right : Handles kernel first.state after second) :
    Handles kernel state (before ++ after) (first.andThen second) where
  run := left.run.append right.run
  events := by
    rw [flatMap_append]
    exact left.events.append right.events
  requests := by
    rw [flatMap_append, ← left.requests, ← right.requests]
    rfl

private theorem after_silent {middle : CoreState} {phase : Phase} {phases : List Phase}
    (step : PhaseStep kernel state phase middle) (mute : phase.events = [])
    (quiet : phase.requests = []) (handles : Handles kernel middle phases result) :
    Handles kernel state (phase :: phases) result where
  run := .cons step handles.run
  events := by
    rw [flatMap_cons, mute]
    exact handles.events
  requests := by
    rw [flatMap_cons, quiet]
    exact handles.requests

end Handles

theorem Submitted.handles (outcome : Submitted kernel state submission result) :
    ∃ phases, Handles kernel state phases result := by
  cases outcome with
  | receipted previous found =>
    split
    · exact ⟨[], .unchanged⟩
    · exact ⟨[.conflict _], .single rfl, .refl _, rfl⟩
  | refused receipt rejection fresh named payload commandless unasked =>
    exact ⟨[.refuse receipt rejection], .single ⟨named ▸ fresh, commandless, unasked, rfl⟩,
      .refl _, rfl⟩
  | accepted inner fresh valid propagated =>
    refine ⟨[.decide submission inner], .single ⟨fresh, valid, propagated, rfl⟩, ?_, ?_⟩
    · simp [accept, Phase.events, openedReceipt]
    · simp [accept, Phase.requests]

private theorem proposal_handles
    (done : proposal kernel state decisions expectedRevision = .ok result) :
    ∃ phases, Handles kernel state phases result := by
  refine proposal_induction (fun _ current => ∃ phases, Handles kernel state phases current) ?_
    ⟨[], .unchanged⟩ done
  rintro submission rest current next ⟨phases, handles⟩ outcome
  obtain ⟨more, step⟩ := outcome.handles
  exact ⟨phases ++ more, handles.andThen step⟩

private theorem control_handles {input : ControlInput} {nowAt : Seconds}
    {proposed : Option RunResultProposal}
    (done : control kernel state input nowAt proposed = .ok result) :
    ∃ phases, Handles kernel state phases result := by
  cases control_outcome done with
  | unchanged => exact ⟨[], .unchanged⟩
  | noted unrecorded =>
    exact ⟨[.record input, .advance [nowAt]], .cons rfl (.single rfl), .refl _, rfl⟩
  | stopped mode final inner stops asked named unanswered submits =>
    obtain ⟨phases, handles⟩ := (submitted_outcome submits).handles
    have timed : Handles kernel state (.advance [nowAt] :: phases) inner :=
      handles.after_silent rfl rfl rfl
    split_ifs
    · exact ⟨_, timed⟩
    have recorded : PhaseStep kernel inner.state (.record input)
        (withControl inner.state input) := rfl
    refine ⟨(.advance [nowAt] :: phases) ++ [.record input],
      timed.run.append (.single recorded), ?_, ?_⟩
    · rw [flatMap_append]
      exact (timed.events.cons _).trans (perm_append_singleton _ _).symm
    · rw [flatMap_append, ← timed.requests]
      simp [Phase.requests]
  | steered unrecorded steers =>
    have same : controlled state input nowAt = advanceTime (withControl state input) [nowAt] := by
      unfold controlled
      rw [steers]
      rfl
    exact ⟨[.record input, .advance [nowAt]], same ▸ .cons rfl (.single rfl), .refl _, rfl⟩
  | switched choice inner unrecorded taken running unclosed unstaged ran =>
    have status : controlledStatus state.run input.action = .paused ∨
        controlledStatus state.run input.action = .running := by
      rcases taken with ⟨action, -⟩ | ⟨action, -⟩
      · exact .inl (by rw [action]; rfl)
      · exact .inr (by rw [action]; rfl)
    have switch : PhaseStep kernel (advanceTime (withControl state input) [nowAt])
        (.switch (controlledStatus state.run input.action)) (controlled state input nowAt) :=
      ⟨status, unstaged, running, unclosed, rfl⟩
    refine ⟨[.record input, .advance [nowAt], .switch _, .propagate _ none inner],
      .cons rfl (.cons rfl (.cons switch (.single ⟨ran, rfl⟩))), ?_, ?_⟩
    · exact (perm_append_singleton _ _).trans (by simp [Phase.events])
    · simp [Phase.requests]

private theorem consumeArea_handles {signal : Signal}
    (done : consumeArea kernel state signal = .ok result) :
    ∃ phases, Handles kernel state phases result := by
  obtain ⟨opened, opens, done⟩ := bind_ok done
  obtain ⟨cause, -, propagated⟩ := bind_ok done
  have propagates : Handles kernel (advanceTime opened (suppliedTimes signal))
      [.propagate [signal] cause result] result :=
    ⟨.single ⟨propagated, rfl⟩, by simp [Phase.events], by simp [Phase.requests]⟩
  have timed : Handles kernel opened
      [.advance (suppliedTimes signal), .propagate [signal] cause result] result :=
    propagates.after_silent rfl rfl rfl
  have epoch : PhaseStep kernel state (.openEpoch signal) opened := liftCore_eq_ok.mp opens
  exact ⟨_, timed.after_silent epoch rfl rfl⟩

private theorem handle_handles (done : handle kernel state event = .ok result) :
    ∃ phases, Handles kernel state phases result := by
  unfold handle at done
  split at done
  · cases done
  · cases done
  · exact proposal_handles done
  · exact (submitted_outcome done).handles
  · exact control_handles done
  · exact consumeArea_handles done

end

/-! ## Whole steps and runs -/

/-- Runs of `consume`. -/
abbrev ConsumeRun (kernel : Kernel) := Run (Produces (consume kernel) Transition.state)

def atRevision (state : CoreState) (revision : Nat) : CoreState :=
  { state with revision }

theorem consume_handled (consumed : consume kernel state event = .ok result) :
    ∃ handled, handle kernel state event = .ok handled ∧ unmetWaits state handled.state = [] ∧
      result = { handled with state := atRevision handled.state (state.revision + 1) } := by
  obtain ⟨⟨⟩, -, consumed⟩ := bind_ok consumed
  obtain ⟨handled, taken, consumed⟩ := bind_ok consumed
  obtain ⟨⟨⟩, kept, consumed⟩ := bind_ok consumed
  cases consumed
  refine ⟨handled, taken, ?_, rfl⟩
  unfold keepsWaits at kept
  split at kept
  · assumption
  · cases kept

theorem consume_phases (consumed : consume kernel state event = .ok result) :
    ∃ phases handled, Handles kernel state phases handled ∧
      result = { handled with state := atRevision handled.state (state.revision + 1) } := by
  obtain ⟨handled, taken, -, rfl⟩ := consume_handled consumed
  obtain ⟨phases, handles⟩ := handle_handles taken
  exact ⟨phases, handled, handles, rfl⟩

end VibeServeCore.Kernel
