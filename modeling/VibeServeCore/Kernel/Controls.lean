/- source: _step.py (`_stop_control`, `_soft_stop`, `_control`, `consume`)
   digest: Every control is recorded and announced once, but for a stop given twice. -/

import VibeServeCore.Kernel.Attribution

namespace VibeServeCore.Kernel

open Types Proofs List Foundation.Process

def controlsIn (events : List StrategyEvent) : List ControlInput :=
  events.filterMap fun event =>
    match event with
    | .controlChanged control => some control
    | _ => none

private theorem controlsIn_append (first second : List StrategyEvent) :
    controlsIn (first ++ second) = controlsIn first ++ controlsIn second :=
  filterMap_append

private theorem controlsIn_eq_nil {events : List StrategyEvent}
    (silent : ∀ control, .controlChanged control ∉ events) : controlsIn events = [] := by
  refine filterMap_eq_nil_iff.mpr fun event mem => ?_
  split
  · exact absurd mem (silent _)
  · rfl

/-- No reducer announces a control. -/
def Kernel.LeavesControls (kernel : Kernel) : Prop :=
  ∀ state signal change, kernel.dispatch state signal = .ok change →
    ∀ control, .controlChanged control ∉ change.events

structure Notes (state : CoreState) (result : Transition) (controls : List ControlInput) :
    Prop where
  recorded : result.state.run.controls = state.run.controls ++ controls
  announced : controlsIn result.events = controls

abbrev Ignores (state : CoreState) (result : Transition) : Prop := Notes state result []

section
variable {kernel : Kernel} {state : CoreState} {result : Transition}

theorem Ignores.unchanged : Ignores state { state := state } := ⟨by simp, rfl⟩

theorem Ignores.andThen {first second : Transition} (left : Ignores state first)
    (right : Ignores first.state second) : Ignores state (first.andThen second) where
  recorded := by
    rw [Transition.andThen, right.recorded, append_nil, left.recorded]
  announced := by
    rw [Transition.andThen, controlsIn_append, left.announced, right.announced]
    rfl

section
variable (leaves : kernel.LeavesControls)

include leaves

theorem EffectStep.controls {before after : CoreState} {effect : Effect} (step : EffectStep kernel before effect after) :
    after.run.controls = before.run.controls ∧ controlsIn effect.events = [] := by
  cases effect with
  | complete decisionId status =>
    rcases completeDecision_state step with rfl | rfl <;> exact ⟨rfl, rfl⟩
  | finish events =>
    obtain ⟨proposal, finishes⟩ := step
    obtain ⟨ended, receipts, published, named⟩ := finishRunInputs_state finishes.finished
    dsimp only at ended published
    refine ⟨by rw [ended], ?_⟩
    rw [Effect.events, published]
    refine controlsIn_eq_nil fun control mem => ?_
    rcases mem_append.mp mem with receipt | last
    · obtain ⟨receipt, ⟨⟩⟩ := named _ receipt
    · cases mem_singleton.mp last
  | reduce entry change =>
    have installed := step.installed
    subst installed
    exact ⟨by simp, controlsIn_eq_nil (leaves _ _ _ step.answered)⟩
  | register requests allocated =>
    obtain ⟨rows, rfl⟩ := registerRequests_state step.2
    exact ⟨rfl, rfl⟩

private theorem propagate_ignores {signals : List Signal} {cause : Option DecisionId}
    (propagated : propagate kernel state signals cause = .ok result) : Ignores state result := by
  obtain ⟨effects, propagates⟩ := propagate_propagates propagated
  have kept : result.state.run.controls = state.run.controls ∧
      controlsIn (effects.flatMap Effect.events) = [] := by
    refine propagates.run.history (fun effects reached =>
      reached.run.controls = state.run.controls ∧
        controlsIn (effects.flatMap Effect.events) = []) ?_ ⟨rfl, rfl⟩
    rintro done first effect last ⟨same, silent⟩ step
    obtain ⟨next, mute⟩ := step.controls leaves
    refine ⟨next.trans same, ?_⟩
    rw [flatMap_append, controlsIn_append, silent]
    simpa using mute
  have announced : (controlsIn result.events).Perm [] := kept.2 ▸ propagates.events.filterMap _
  exact ⟨by rw [kept.1, append_nil], announced.eq_nil⟩

theorem Submitted.ignores {submission : Submission}
    (outcome : Submitted kernel state submission result) : Ignores state result := by
  cases outcome with
  | receipted previous found => split <;> exact ⟨by simp, rfl⟩
  | refused receipt rejection fresh named payload commandless unasked =>
    exact ⟨by simp [addReceipt, CoreState.withReceipts], rfl⟩
  | accepted inner fresh valid propagated =>
    obtain ⟨signal, -, propagated⟩ := bind_ok propagated
    obtain ⟨recorded, announced⟩ := propagate_ignores leaves propagated
    refine ⟨?_, announced⟩
    have staged : (stage (addReceipt state (openedReceipt kernel.digests state.run submission))
        submission.command).run.controls = state.run.controls := by
      cases submission.command <;> rfl
    rw [append_nil, staged] at recorded
    rw [append_nil]
    exact recorded

private theorem proposal_ignores {decisions : List Submission} {expectedRevision : Nat}
    (done : proposal kernel state decisions expectedRevision = .ok result) :
    Ignores state result := by
  refine proposal_induction (fun _ current => Ignores state current) ?_ .unchanged done
  intro submission rest current next held outcome
  exact held.andThen (outcome.ignores leaves)

private theorem consumeArea_ignores {signal : Signal}
    (done : consumeArea kernel state signal = .ok result) : Ignores state result := by
  obtain ⟨opened, opens, done⟩ := bind_ok done
  obtain ⟨cause, -, propagated⟩ := bind_ok done
  have kept : opened.run = state.run := by
    have opens := liftCore_eq_ok.mp opens
    unfold openEpoch at opens
    split at opens
    · obtain ⟨records, -, opens⟩ := bind_ok opens
      cases opens
      rfl
    · cases opens
      rfl
  obtain ⟨recorded, announced⟩ := propagate_ignores leaves propagated
  exact ⟨by rw [recorded, ← kept]; rfl, announced⟩

end

def repeatsStop (state : CoreState) : CoreEvent → Bool
  | .runControl input _ (some _) =>
    input.action = .stop && state.run.controls.any (·.controlId = input.controlId) &&
      (receiptOf state ⟨"control:" ++ input.controlId.root⟩).isNone
  | _ => false

private theorem control_notes {input : ControlInput} {nowAt : Seconds}
    {proposed : Option RunResultProposal} (leaves : kernel.LeavesControls)
    (proper : repeatsStop state (.runControl input nowAt proposed) = false)
    (done : control kernel state input nowAt proposed = .ok result) :
    Ignores state result ∨ Unrecorded state input ∧ Notes state result [input] := by
  cases control_outcome done with
  | unchanged => exact .inl .unchanged
  | noted unrecorded | steered unrecorded steers => exact .inr ⟨unrecorded, rfl, rfl⟩
  | switched choice inner unrecorded taken running unclosed unstaged ran =>
    obtain ⟨recorded, announced⟩ := propagate_ignores leaves ran
    refine .inr ⟨unrecorded, recorded.trans (append_nil _), ?_⟩
    rw [controlsIn_append, announced]
    rfl
  | stopped mode final inner stops asked named unanswered submits =>
    obtain ⟨recorded, announced⟩ := (submitted_outcome submits).ignores leaves
    rw [append_nil] at recorded
    split_ifs
    · exact .inl ⟨by rw [recorded, append_nil]; rfl, announced⟩
    refine .inr ⟨fun previous mem same => ?_, ?_, congrArg (input :: ·) announced⟩
    · -- Without a receipt the condition says that the identity is new.
      have unanswered : receiptOf state ⟨"control:" ++ input.controlId.root⟩ = none :=
        unanswered
      have known : state.run.controls.any (·.controlId = input.controlId) :=
        any_eq_true.mpr ⟨previous, mem, decide_eq_true same⟩
      simp [repeatsStop, stops, asked, known, unanswered] at proper
    · simp only [withControl, recorded]
      rfl

/-- A step that repeats no stop. -/
def ProperStep (kernel : Kernel) (first : CoreState) (label : CoreEvent × Transition)
    (last : CoreState) : Prop :=
  repeatsStop first label.1 = false ∧ Produces (consume kernel) Transition.state first label last

theorem ProperStep.notes {first last : CoreState} {label : CoreEvent × Transition}
    (leaves : kernel.LeavesControls) (step : ProperStep kernel first label last) :
    last.run.controls = first.run.controls ++ controlsIn label.2.events ∧
      (controlsIn label.2.events = [] ∨ ∃ input, controlsIn label.2.events = [input] ∧
        Unrecorded first input) := by
  obtain ⟨event, transition⟩ := label
  obtain ⟨proper, consumed, rfl⟩ := step
  obtain ⟨handled, taken, -, rfl⟩ := consume_handled consumed
  have noted : Ignores first handled ∨
      ∃ input, Unrecorded first input ∧ Notes first handled [input] := by
    revert proper taken
    unfold handle
    dsimp only
    split <;> intro proper taken
    · cases taken
    · cases taken
    · exact .inl (proposal_ignores leaves taken)
    · exact .inl ((submitted_outcome taken).ignores leaves)
    · exact (control_notes leaves proper taken).imp_right fun noted => ⟨_, noted⟩
    · exact .inl (consumeArea_ignores leaves taken)
  rcases noted with ⟨recorded, announced⟩ | ⟨input, fresh, recorded, announced⟩
  · exact ⟨by rw [announced]; exact recorded, .inl announced⟩
  · exact ⟨by rw [announced]; exact recorded, .inr ⟨input, announced, fresh⟩⟩

/-- In every run whose steps give no recorded stop a result, the recorded controls have distinct
identities and are the announced ones. -/
theorem controls_are_applied_once (leaves : kernel.LeavesControls) {start last : CoreState}
    {labels : List (CoreEvent × Transition)} (fresh : start.run.controls = [])
    (run : Run (ProperStep kernel) start labels last) :
    (last.run.controls.map (·.controlId)).Nodup ∧
      ((controlsIn (labels.flatMap fun label => label.2.events)).map (·.controlId)).Nodup := by
  have kept : (last.run.controls.map (·.controlId)).Nodup ∧
      controlsIn (labels.flatMap fun label => label.2.events) = last.run.controls := by
    refine run.history (fun labels reached => (reached.run.controls.map (·.controlId)).Nodup ∧
      controlsIn (labels.flatMap fun label => label.2.events) = reached.run.controls)
      ?_ ⟨by simp [fresh], by simp [fresh, controlsIn]⟩
    rintro done first label last ⟨distinct, announced⟩ step
    obtain ⟨recorded, single⟩ := step.notes leaves
    have grown : controlsIn ((done ++ [label]).flatMap fun label => label.2.events) =
        last.run.controls := by
      rw [flatMap_append, controlsIn_append, announced, recorded]
      simp
    refine ⟨?_, grown⟩
    rcases single with none | ⟨input, noted, unrecorded⟩
    · rwa [recorded, none, append_nil]
    · rw [recorded, noted]
      exact Foundation.Ledger.Distinct.concat distinct unrecorded
  exact ⟨kept.1, kept.2 ▸ kept.1⟩

end

/-! ## Sample controls -/

def drainInput : ControlInput := ⟨⟨"halt"⟩, .stop, some .drain, none⟩

def pauseInput : ControlInput := ⟨⟨"hold"⟩, .pause, none, none⟩

/-- A pause given twice, and a stop without a result given twice, are each applied once. -/
theorem repeated_controls_are_applied_once :
    ∃ labels last, Run (ProperStep idleKernel) sampleCore labels last ∧
      last.run.controls = [pauseInput, drainInput] ∧
      (controlsIn (labels.flatMap fun label => label.2.events)).map (·.controlId) =
        [⟨"hold"⟩, ⟨"halt"⟩] ∧
      (last.run.controls.map (·.controlId)).Nodup := by
  have played : ((execute (guarded (fun state event => !repeatsStop state event) (.core .recursion)
      (consume idleKernel)) Transition.state sampleCore
      [.runControl pauseInput 1 none, .runControl pauseInput 2 none,
        .runControl drainInput 3 none, .runControl drainInput 4 none]).map fun done =>
      (done.2.run.controls,
        (controlsIn (done.1.flatMap fun label => label.2.events)).map (·.controlId))) =
      .ok ([pauseInput, drainInput], [⟨"hold"⟩, ⟨"halt"⟩]) := by decide +kernel
  obtain ⟨⟨labels, last⟩, ran, same⟩ := map_ok played
  obtain ⟨recorded, announced⟩ := Prod.mk.inj same
  have run : Run (ProperStep idleKernel) sampleCore (labels.map id) last := by
    refine (Run.of_execute ran).map id fun taken => ?_
    obtain ⟨proper, produced⟩ := Produces.of_guarded taken
    exact ⟨by simpa using proper, produced⟩
  rw [map_id] at run
  have leaves : idleKernel.LeavesControls := by
    rintro state signal change ⟨⟩ control member
    cases member
  exact ⟨labels, last, run, recorded, announced, (controls_are_applied_once leaves rfl run).1⟩

def stoppingKernel : Kernel :=
  { briefKernel with
    digests := { signalDigests with
      signal := fun signal =>
        if signal = .runDrained then "drained" else signalDigests.signal signal } }

/-- A stop without a result is recorded; the same stop with one is accepted as a Finish and recorded
and announced again. -/
theorem stop_with_a_result_is_applied_again :
    ((execute (consume stoppingKernel) Transition.state sampleCore
      [.runControl drainInput 1 none,
        .runControl drainInput 2 (some ⟨.failure, "halted", none⟩)]).map fun done =>
      (done.2.run.controls, controlsIn (done.1.flatMap fun label => label.2.events))) =
      .ok ([drainInput, drainInput], [drainInput, drainInput]) := by
  decide +kernel

end VibeServeCore.Kernel
