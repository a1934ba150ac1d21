/- source: _step.py (`propagate`)
   digest: What propagation can do to the core state: runs of four kinds of effects. -/

import VibeServeCore.Kernel.Step
import VibeServeCore.Records.Finality

namespace VibeServeCore.Kernel

open Types Proofs List Foundation.Process
open Registration (registerRequests resolve)

@[simp] theorem liftCore_eq_ok {Value : Type} {value : Except CoreError Value} {result : Value} :
    liftCore value = .ok result ↔ value = .ok result := by
  cases value <;> simp [liftCore, Except.mapError]

/-- What propagation can do to the core. -/
inductive Effect
  | complete (decisionId : DecisionId) (status : CompletionStatus)
  | finish (events : List StrategyEvent)
  | reduce (entry : Pending) (change : AreaChange AreaState)
  | register (requests : List Scheduled) (allocated : List Request)

namespace Effect

def events : Effect → List StrategyEvent
  | .finish events => events
  | .reduce _ change => change.events
  | _ => []

def requests : Effect → List Request
  | .register _ allocated => allocated
  | _ => []

def proposals : Effect → List Request
  | .reduce entry change => change.requests.map fun outbound => (stamp entry outbound).request
  | _ => []

end Effect

def isCompletion : Signal → Bool
  | .decisionCompleted .. => true
  | _ => false

structure Finishes (digests : Digests) (before : CoreState) (events : List StrategyEvent)
    (after : CoreState) (proposal : RunResultProposal) : Prop where
  result : before.run.result = some proposal
  drained : cleanupPending digests before = false
  open_ : before.run.status ≠ .terminal
  finished : finishRunInputs before proposal = .ok { state := after, events }

structure Reduces (kernel : Kernel) (before : CoreState) (entry : Pending)
    (change : AreaChange AreaState) (after : CoreState) : Prop where
  owned : isKernelSignal entry.signal = false
  ordinary : isCompletion entry.signal = false
  answered : kernel.dispatch before entry.signal = .ok change
  area : stateArea change.state = eventArea entry.signal
  valid : validateAreaOutputs after (eventArea entry.signal) change entry.cause = .ok ()
  installed : after = withArea before change.state

/-- What each effect does to the core. -/
def EffectStep (kernel : Kernel) (before : CoreState) (effect : Effect) (after : CoreState) :
    Prop :=
  match effect with
  | .complete decisionId status =>
    completeDecision kernel.digests before decisionId status = .ok after
  | .finish events => ∃ proposal, Finishes kernel.digests before events after proposal
  | .reduce entry change => Reduces kernel before entry change after
  | .register requests allocated =>
    (before.run.status = .terminal → requests = []) ∧
      registerRequests kernel.digests before requests = .ok (after, allocated)

abbrev EffectRun (kernel : Kernel) := Run (EffectStep kernel)

section
variable {kernel : Kernel} {before after : CoreState}

@[simp] theorem withArea_run (state : CoreState) (slice : AreaState) :
    (withArea state slice).run = state.run := by
  cases slice <;> rfl

theorem completeDecision_state {digests : Digests} {decisionId : DecisionId}
    {status : CompletionStatus}
    (completed : completeDecision digests before decisionId status = .ok after) :
    after = before ∨
      after = before.withReceipts (markCompleted decisionId status before.run.receipts) := by
  unfold completeDecision at completed
  split at completed
  · split at completed
    · split_ifs at completed
      cases completed
      exact .inl rfl
    · cases completed
      exact .inr rfl
  · cases completed

theorem finishRunInputs_state {proposal : RunResultProposal} {answer : Answer}
    (finished : finishRunInputs before proposal = .ok answer) :
    answer.state = { before with
      run := { before.run with status := .terminal }
      sessions := { before.sessions with
        inputs := before.sessions.inputs.map (finishInput before.run.nowAt) } } ∧
    ∃ receipts, answer.events = receipts ++ [.runEnded proposal] ∧
      ∀ event ∈ receipts, ∃ receipt, event = .inputReceipt receipt := by
  unfold finishRunInputs at finished
  split_ifs at finished with pending
  · obtain ⟨change, finalized, finished⟩ := bind_ok finished
    obtain ⟨⟨⟩, -, finished⟩ := bind_ok finished
    cases finished
    cases finalized
    refine ⟨rfl, _, rfl, fun event mem => ?_⟩
    obtain ⟨record, -, rfl⟩ := mem_map.mp mem
    exact ⟨_, rfl⟩
  · cases finished
    refine ⟨?_, [], rfl, by simp⟩
    -- Without a pending input the finalization would change nothing.
    have settled : before.sessions.inputs.map (finishInput before.run.nowAt) =
        before.sessions.inputs := by
      have same : ∀ record ∈ before.sessions.inputs,
          finishInput before.run.nowAt record = record := by
        intro record mem
        have kept : inputPending record = false := by
          by_contra waiting
          exact pending (any_eq_true.mpr ⟨record, mem, by simpa using waiting⟩)
        simp [finishInput, kept]
      exact (map_congr_left same).trans (map_id' _)
    rw [settled]

theorem registerRequests_state {digests : Digests} {requests : List Scheduled}
    {allocated : List Request}
    (registered : registerRequests digests before requests = .ok (after, allocated)) :
    ∃ rows, after = { before with
      run := { before.run with
        receipts := before.run.receipts.map (Registration.attributeRequests allocated) }
      records := { before.records with records := rows } } := by
  obtain ⟨done, -, registered⟩ := bind_ok registered
  split_ifs at registered <;> cases registered
  · refine ⟨before.records.records, ?_⟩
    have same : before.run.receipts.map (Registration.attributeRequests []) =
        before.run.receipts :=
      (map_congr_left fun receipt _ => by simp [Registration.attributeRequests]).trans
        (map_id' _)
    rw [same]
  · exact ⟨done.records, rfl⟩

/-- What of a receipt the rest of a step leaves alone: its requests are attributed later, and with a
command stored it can be completed. -/
structure Lasting {View : Type} (view : DecisionReceipt → View) : Prop where
  attributed : ∀ receipt requestIds, view { receipt with requestIds } = view receipt
  completed : ∀ receipt completion, receipt.decision.isSome →
    view { receipt with completion } = view receipt

def receiptKey (receipt : DecisionReceipt) : DecisionId × String × Option Command :=
  (receipt.decisionId, receipt.payloadDigest, receipt.decision)

theorem receiptKey_lasting : Lasting receiptKey := ⟨fun _ _ => rfl, fun _ _ _ => rfl⟩

theorem completeDecision_view {View : Type} {view : DecisionReceipt → View} (lasting : Lasting view)
    {digests : Digests} {decisionId : DecisionId} {status : CompletionStatus}
    (completed : completeDecision digests before decisionId status = .ok after) :
    after.run.receipts.map view = before.run.receipts.map view := by
  unfold completeDecision at completed
  split at completed
  · rename_i proven accepted
    split at completed
    · split_ifs at completed
      cases completed
      rfl
    cases completed
    obtain ⟨only, -, decided, -⟩ := acceptedReceiptFor_eq_proven digests accepted
    simp only [CoreState.withReceipts, markCompleted, map_map]
    refine map_congr_left fun receipt mem => ?_
    simp only [Function.comp_apply]
    split
    · rename_i named
      have same : receipt ∈ [proven] := only ▸ mem_filter.mpr ⟨mem, decide_eq_true named⟩
      exact lasting.completed receipt (some status) (mem_singleton.mp same ▸ decided)
    · rfl
  · cases completed

theorem EffectStep.receipts_view {View : Type} {view : DecisionReceipt → View}
    (lasting : Lasting view) {effect : Effect} (step : EffectStep kernel before effect after) :
    after.run.receipts.map view = before.run.receipts.map view := by
  cases effect with
  | complete decisionId status => exact completeDecision_view lasting step
  | finish events =>
    obtain ⟨proposal, finishes⟩ := step
    have ended := (finishRunInputs_state finishes.finished).1
    dsimp only at ended
    rw [ended]
  | reduce entry change =>
    have installed := step.installed
    subst installed
    simp
  | register requests allocated =>
    obtain ⟨rows, rfl⟩ := registerRequests_state step.2
    simp only [map_map]
    refine map_congr_left fun receipt _ => ?_
    simp only [Function.comp_apply, Registration.attributeRequests]
    split
    · exact lasting.attributed receipt _
    · rfl

theorem EffectRun.receipts_view {View : Type} {view : DecisionReceipt → View}
    (lasting : Lasting view) {effects : List Effect} (run : EffectRun kernel before effects after) :
    after.run.receipts.map view = before.run.receipts.map view := by
  refine Run.invariant
    (fun reached => reached.run.receipts.map view = before.run.receipts.map view) ?_ run rfl
  intro first effect last held step
  rw [step.receipts_view lasting, held]

end

section
variable {kernel : Kernel} {loop next : Propagation} {entry : Pending}

variable {state : CoreState}

private theorem completeLeading_effects {after : CoreState} {queue rest : List Pending}
    (completed : completeLeading kernel.digests state queue = .ok (after, rest)) :
    (∃ effects, EffectRun kernel state effects after ∧
      (∀ effect ∈ effects, effect.events = [] ∧ effect.proposals = [] ∧ effect.requests = [])) ∧
    ∀ entry ∈ rest.head?, isCompletion entry.signal = false := by
  induction queue generalizing state with
  | nil =>
    cases completed
    exact ⟨⟨[], .nil _, by simp⟩, by simp⟩
  | cons entry queue ih =>
    obtain ⟨signal, cause, admission⟩ := entry
    cases signal with
    | decisionCompleted decisionId status =>
      obtain ⟨middle, first, completed⟩ := bind_ok completed
      obtain ⟨⟨effects, run, silent⟩, ordinary⟩ := ih completed
      refine ⟨⟨.complete decisionId status :: effects, .cons first run, ?_⟩, ordinary⟩
      intro effect mem
      rcases mem_cons.mp mem with rfl | mem
      · exact ⟨rfl, rfl, rfl⟩
      · exact silent effect mem
    | _ =>
      cases completed
      exact ⟨⟨[], .nil _, by simp⟩, by simp [isCompletion]⟩

private theorem lapsedCheckWaits_ordinary {signals : List Signal}
    (lapsed : lapsedCheckWaits state = .ok signals) :
    ∀ signal ∈ signals, isCompletion signal = false := by
  unfold lapsedCheckWaits at lapsed
  split_ifs at lapsed
  · cases lapsed
    simp
  · obtain ⟨stuck, -, lapsed⟩ := bind_ok lapsed
    cases lapsed
    simp [isCompletion]

private theorem lapsedJobWaits_ordinary :
    ∀ signal ∈ lapsedJobWaits state, isCompletion signal = false := by
  unfold lapsedJobWaits
  split_ifs
  · simp
  · intro signal mem
    obtain ⟨row, -, mem⟩ := mem_flatMap.mp mem
    obtain ⟨requestId, -, rfl⟩ := mem_map.mp mem
    rfl

private theorem lapsedSessionWaits_ordinary :
    ∀ signal ∈ lapsedSessionWaits state, isCompletion signal = false := by
  unfold lapsedSessionWaits
  split_ifs
  · simp
  · intro signal mem
    obtain ⟨row, -, mem⟩ := mem_flatMap.mp mem
    obtain ⟨requestId, -, rfl⟩ := mem_map.mp mem
    rfl

private theorem stallSignals_ordinary {inFlight : List Request} {signals : List Signal}
    (raised : stallSignals kernel.digests state inFlight = .ok signals) :
    ∀ signal ∈ signals, isCompletion signal = false := by
  obtain ⟨checkpoints, -, raised⟩ := bind_ok raised
  obtain ⟨acquisitions, -, raised⟩ := bind_ok raised
  obtain ⟨blocked, -, raised⟩ := bind_ok raised
  obtain ⟨checks, lapsed, raised⟩ := bind_ok raised
  cases raised
  intro signal mem
  simp only [mem_append, mem_map] at mem
  rcases mem with ((((((⟨_, -, rfl⟩ | ⟨_, -, rfl⟩) | ⟨_, -, rfl⟩) | ⟨_, -, rfl⟩) | job) |
    session) | check) | ⟨_, -, rfl⟩
  · rfl
  · rfl
  · rfl
  · rfl
  · exact lapsedJobWaits_ordinary _ job
  · exact lapsedSessionWaits_ordinary _ session
  · exact lapsedCheckWaits_ordinary lapsed _ check
  · rfl

private theorem stallEntries_ordinary {entries : List Pending}
    (stalled : stallEntries kernel.digests loop = .ok entries) :
    ∀ entry ∈ entries, isCompletion entry.signal = false := by
  unfold stallEntries at stalled
  split_ifs at stalled
  · cases stalled
    simp
  obtain ⟨signals, raised, stalled⟩ := bind_ok stalled
  cases stalled
  intro entry mem
  obtain ⟨signal, listed, rfl⟩ := mem_map.mp mem
  exact stallSignals_ordinary raised _ (mem_filter.mp listed).1

private theorem sortPending_subset (pending : List Pending) : sortPending pending ⊆ pending := by
  intro entry mem
  obtain ⟨area, -, mem⟩ := mem_flatMap.mp mem
  exact (mem_filter.mp mem).1

structure Settles (kernel : Kernel) (loop : Propagation) (effects : List Effect)
    (next : Propagation) : Prop where
  run : EffectRun kernel loop.state effects next.state
  events : next.events = loop.events ++ effects.flatMap Effect.events
  proposals : next.requests.map (·.request) =
    loop.requests.map (·.request) ++ effects.flatMap Effect.proposals
  unregistered : effects.flatMap Effect.requests = []

namespace Settles

private theorem silent {effects : List Effect}
    (run : EffectRun kernel loop.state effects next.state)
    (mute : ∀ effect ∈ effects, effect.events = [] ∧ effect.proposals = [] ∧ effect.requests = [])
    (events : next.events = loop.events) (requests : next.requests = loop.requests) :
    Settles kernel loop effects next where
  run := run
  events := by
    rw [events, flatMap_eq_nil_iff.mpr fun effect mem => (mute effect mem).1,
      append_nil]
  proposals := by
    rw [requests, flatMap_eq_nil_iff.mpr fun effect mem => (mute effect mem).2.1,
      append_nil]
  unregistered := flatMap_eq_nil_iff.mpr fun effect mem => (mute effect mem).2.2

private theorem append {middle : Propagation} {first second : List Effect}
    (left : Settles kernel loop first middle) (right : Settles kernel middle second next) :
    Settles kernel loop (first ++ second) next where
  run := left.run.append right.run
  events := by rw [right.events, left.events, flatMap_append, append_assoc]
  proposals := by rw [right.proposals, left.proposals, flatMap_append, append_assoc]
  unregistered := by rw [flatMap_append, left.unregistered, right.unregistered]; rfl

end Settles

/-- Leading completions are applied; the next entry is the front of the queue or of the stalled. -/
structure Turns (digests : Digests) (loop : Propagation) (entry : Option Pending)
    (next : Propagation) : Prop where
  taken : ∃ queue, completeLeading digests loop.state (sortPending loop.pending) =
      .ok (next.state, queue) ∧
    ((∃ first ∈ queue.head?, entry.map (·.signal) = some first.signal) ∨
      ∃ stalled, stallEntries digests { loop with state := next.state, pending := [] } =
        .ok stalled ∧ entry.map (·.signal) = (sortPending stalled).head?.map (·.signal))
  seen : next.seen = (entry.map fun entry => signalKey digests entry.signal).toList ++ loop.seen
  requests : next.requests = loop.requests
  events : next.events = loop.events

theorem nextEntry_turns {digests : Digests} {entry : Option Pending}
    (entered : nextEntry digests loop = .ok (entry, next)) :
    Turns digests loop entry { next with
      seen := (entry.map fun entry => signalKey digests entry.signal).toList ++ next.seen } := by
  obtain ⟨⟨state, queue⟩, completed, entered⟩ := bind_ok entered
  cases queue with
  | cons first rest =>
    cases entered
    exact ⟨⟨_, completed, .inl ⟨first, rfl, rfl⟩⟩, rfl, rfl, rfl⟩
  | nil =>
    obtain ⟨stalled, raised, entered⟩ := bind_ok entered
    cases sorted : sortPending stalled with
    | nil =>
      rw [sorted] at entered
      cases entered
      exact ⟨⟨[], completed, .inr ⟨stalled, raised, by rw [sorted]; rfl⟩⟩, rfl, rfl, rfl⟩
    | cons first rest =>
      rw [sorted] at entered
      cases entered
      exact ⟨⟨[], completed, .inr ⟨stalled, raised, by rw [sorted]; rfl⟩⟩, rfl, rfl, rfl⟩

theorem nextTurn_turns {digests : Digests} {entry : Option Pending}
    (turned : nextTurn digests loop = .ok (entry, next)) : Turns digests loop entry next := by
  obtain ⟨⟨found, middle⟩, entered, turned⟩ := bind_ok turned
  have turns := nextEntry_turns (liftCore_eq_ok.mp entered)
  cases found with
  | none =>
    cases turned
    exact turns
  | some found =>
    obtain ⟨cause, -, turned⟩ := bind_ok turned
    dsimp only at turned
    split_ifs at turned
    cases turned
    exact ⟨turns.taken, turns.seen, turns.requests, turns.events⟩

theorem nextTurn_settles {entry : Option Pending}
    (turned : nextTurn kernel.digests loop = .ok (entry, next)) :
    (∃ effects, Settles kernel loop effects next) ∧
      ∀ served ∈ entry, isCompletion served.signal = false := by
  have turns := nextTurn_turns turned
  obtain ⟨queue, completed, source⟩ := turns.taken
  obtain ⟨⟨effects, run, mute⟩, ordinary⟩ := completeLeading_effects completed
  refine ⟨⟨effects, .silent run mute turns.events turns.requests⟩, fun served held => ?_⟩
  rw [Option.mem_def.mp held, Option.map_some] at source
  rcases source with ⟨first, front, same⟩ | ⟨stalled, raised, same⟩
  · rw [Option.some.inj same]
    exact ordinary first front
  · obtain ⟨first, front, same⟩ := Option.map_eq_some_iff.mp same.symm
    rw [← same]
    exact stallEntries_ordinary raised first
      (sortPending_subset stalled (mem_of_mem_head? front))

private theorem finishRunInputs_signals {proposal : RunResultProposal} {answer : Answer}
    (finished : finishRunInputs state proposal = .ok answer) : answer.signals = [] := by
  unfold finishRunInputs at finished
  split_ifs at finished
  · obtain ⟨change, -, finished⟩ := bind_ok finished
    obtain ⟨-, -, finished⟩ := bind_ok finished
    cases finished
    rfl
  · cases finished
    rfl

private theorem kernelSignal_cases {digests : Digests} {signal : Signal} {answer : Answer}
    (answered : kernelSignal digests state signal = .ok answer) :
    (answer.state = state ∧ answer.events = []) ∨
      ∃ proposal, Finishes digests state answer.events answer.state proposal := by
  unfold kernelSignal at answered
  split at answered
  · obtain ⟨_, -, rfl⟩ := map_ok answered
    exact .inl ⟨rfl, rfl⟩
  · obtain ⟨_, -, rfl⟩ := map_ok answered
    exact .inl ⟨rfl, rfl⟩
  · split_ifs at answered <;> cases answered
    · exact .inl ⟨rfl, rfl⟩
    · exact .inl ⟨rfl, rfl⟩
  · cases answered
    exact .inl ⟨rfl, rfl⟩
  split at answered
  · cases answered
  rename_i proposal staged
  split_ifs at answered with held
  · cases answered
    exact .inl ⟨rfl, rfl⟩
  · simp only [Bool.or_eq_true, decide_eq_true_eq, not_or, Bool.not_eq_true] at held
    refine .inr ⟨proposal, staged, held.1, held.2, ?_⟩
    rw [answered, ← finishRunInputs_signals answered]

private theorem resolve_request {outbound : Outbound} {cause : Option DecisionId}
    {scheduled : Scheduled}
    (resolved : resolve state outbound cause = .ok scheduled) :
    scheduled.request = outbound.request := by
  unfold resolve at resolved
  split at resolved
  · dsimp only at resolved
    split at resolved
    · cases resolved
    · split at resolved
      · cases resolved
      · split at resolved <;> cases resolved <;> rfl
  all_goals
    cases resolved
    rfl

private theorem resolve_requests {outbounds : List Outbound} {requests : List Scheduled}
    (resolved : outbounds.mapM (fun outbound => resolve state (stamp entry outbound) entry.cause) =
      .ok requests) :
    requests.map (·.request) = outbounds.map fun outbound => (stamp entry outbound).request := by
  induction outbounds generalizing requests with
  | nil =>
    cases resolved
    rfl
  | cons outbound outbounds ih =>
    rw [mapM_cons] at resolved
    obtain ⟨first, resolvedFirst, resolved⟩ := bind_ok resolved
    obtain ⟨rest, resolvedRest, resolved⟩ := bind_ok resolved
    cases resolved
    rw [map_cons, map_cons, resolve_request resolvedFirst, ih resolvedRest]

theorem serve_settles (ordinary : isCompletion entry.signal = false)
    (served : serve kernel loop entry = .ok next) : ∃ effects, Settles kernel loop effects next := by
  unfold serve at served
  split_ifs at served with owned
  · obtain ⟨answer, answered, served⟩ := bind_ok served
    cases served
    rcases kernelSignal_cases (liftCore_eq_ok.mp answered) with ⟨same, mute⟩ | ⟨proposal, ends⟩
    · refine ⟨[], ?_, by simp [mute], by simp, rfl⟩
      rw [same]
      exact .nil _
    · exact ⟨[.finish answer.events], .single ⟨proposal, ends⟩, by simp [Effect.events],
        by simp [Effect.proposals], rfl⟩
  · obtain ⟨change, answered, served⟩ := bind_ok served
    dsimp only at served
    split_ifs at served with area
    obtain ⟨⟨⟩, valid, served⟩ := bind_ok served
    obtain ⟨requests, resolved, served⟩ := bind_ok served
    cases served
    have stamped := resolve_requests (liftCore_eq_ok.mp resolved)
    refine ⟨[.reduce entry change], .single ⟨?_, ordinary, answered, ?_, valid, rfl⟩,
      by simp [Effect.events], ?_, rfl⟩
    · simpa using owned
    · simpa using area
    · simp [Effect.proposals, stamped]

theorem settle_settles {remaining : Nat} (settled : settle kernel remaining loop = .ok next) :
    ∃ effects, Settles kernel loop effects next := by
  induction remaining generalizing loop with
  | zero =>
    obtain ⟨⟨entry, middle⟩, turned, settled⟩ := bind_ok settled
    cases entry with
    | none =>
      cases settled
      exact (nextTurn_settles turned).1
    | some entry => cases settled
  | succ remaining ih =>
    obtain ⟨⟨entry, middle⟩, turned, settled⟩ := bind_ok settled
    obtain ⟨⟨before, queued⟩, ordinary⟩ := nextTurn_settles turned
    cases entry with
    | none =>
      cases settled
      exact ⟨before, queued⟩
    | some entry =>
      obtain ⟨served, serving, settled⟩ := bind_ok settled
      obtain ⟨effects, step⟩ := serve_settles (ordinary entry rfl) serving
      obtain ⟨later, rest⟩ := ih settled
      exact ⟨_, (queued.append step).append rest⟩

end

/-! ## Whole propagations -/

/-- The effects give the propagation's result. -/
structure Propagates (kernel : Kernel) (state : CoreState) (effects : List Effect)
    (result : Transition) : Prop where
  run : EffectRun kernel state effects result.state
  events : result.events.Perm (effects.flatMap Effect.events)
  requests : result.requests = effects.flatMap Effect.requests
  proposed : ∀ request ∈ result.requests, ∃ proposal ∈ effects.flatMap Effect.proposals,
    ∃ requestId, request = { proposal with requestId := some requestId }

section
variable {kernel : Kernel} {state : CoreState} {result : Transition}

theorem registerRequests_allocated {digests : Digests} {after : CoreState}
    {requests : List Scheduled} {allocated : List Request}
    (registered : registerRequests digests state requests = .ok (after, allocated)) :
    ∀ request ∈ allocated, ∃ proposal ∈ requests.map (·.request),
      ∃ requestId, request = { proposal with requestId := some requestId } := by
  obtain ⟨added, appends⟩ := Records.registerRequests_appends registered
  intro request mem
  have allocates : allocated = [] ++ added.map (·.request) := appends.allocated
  rw [allocates, nil_append] at mem
  obtain ⟨row, listed, rfl⟩ := mem_map.mp mem
  obtain ⟨scheduled, proposed, requestId, -, rfl⟩ := appends.joins row listed
  exact ⟨_, mem_map_of_mem proposed, requestId, rfl⟩

theorem registeredTransition_propagates {loop final : Propagation} {effects : List Effect}
    (settled : Settles kernel loop effects final) (events : loop.events = [])
    (requests : loop.requests = []) (registered : registeredTransition kernel final = .ok result) :
    ∃ effects, Propagates kernel loop.state effects result := by
  unfold registeredTransition at registered
  split_ifs at registered with terminal
  obtain ⟨⟨after, allocated⟩, allocates, transition⟩ := bind_ok registered
  cases transition
  have quiet : final.state.run.status = .terminal → final.requests = [] := by
    intro ended
    simpa [ended] using terminal
  have published : final.events = effects.flatMap Effect.events := by
    rw [settled.events, events, nil_append]
  have proposed : final.requests.map (·.request) = effects.flatMap Effect.proposals := by
    rw [settled.proposals, requests, map_nil, nil_append]
  have step : EffectStep kernel final.state (.register final.requests allocated) after :=
    ⟨quiet, allocates⟩
  refine ⟨effects ++ [.register final.requests allocated], settled.run.append (.single step),
    ?_, ?_, ?_⟩
  · rw [flatMap_append, ← published]
    simp only [flatMap_cons, flatMap_nil, Effect.events, append_nil]
    have split := filter_append_perm registeredTransition.endsRun final.events
    exact perm_append_comm.trans split
  · rw [flatMap_append, settled.unregistered]
    simp [Effect.requests]
  · rw [flatMap_append, ← proposed]
    intro request mem
    obtain ⟨proposal, listed, named⟩ := registerRequests_allocated allocates request mem
    exact ⟨proposal, mem_append_left _ listed, named⟩

theorem Propagates.andThen {first second : Transition} {before after : List Effect}
    (left : Propagates kernel state before first)
    (right : Propagates kernel first.state after second) :
    Propagates kernel state (before ++ after) (first.andThen second) where
  run := left.run.append right.run
  events := by
    rw [flatMap_append]
    exact left.events.append right.events
  requests := by
    rw [flatMap_append, ← left.requests, ← right.requests]
    rfl
  proposed := by
    intro request mem
    rw [flatMap_append]
    rcases mem_append.mp mem with mem | mem
    · obtain ⟨proposal, listed, named⟩ := left.proposed request mem
      exact ⟨proposal, mem_append_left _ listed, named⟩
    · obtain ⟨proposal, listed, named⟩ := right.proposed request mem
      exact ⟨proposal, mem_append_right _ listed, named⟩

private theorem propagateWithin_propagates {depth : Nat} {signals : List Signal}
    {cause : Option DecisionId}
    (propagated : propagateWithin kernel depth state signals cause = .ok result) :
    ∃ effects, Propagates kernel state effects result := by
  induction depth generalizing state signals cause result with
  | zero => cases propagated
  | succ depth ih =>
    obtain ⟨loop, settled, propagated⟩ := bind_ok propagated
    obtain ⟨first, registered, propagated⟩ := bind_ok propagated
    obtain ⟨effects, settles⟩ := settle_settles settled
    obtain ⟨before, left⟩ :=
      registeredTransition_propagates settles rfl rfl (liftCore_eq_ok.mp registered)
    split at propagated
    · cases propagated
      exact ⟨before, left⟩
    · obtain ⟨follow, followed, propagated⟩ := bind_ok propagated
      cases propagated
      obtain ⟨after, right⟩ := ih followed
      exact ⟨before ++ after, left.andThen right⟩

theorem propagate_propagates {signals : List Signal} {cause : Option DecisionId}
    (propagated : propagate kernel state signals cause = .ok result) :
    ∃ effects, Propagates kernel state effects result :=
  propagateWithin_propagates propagated

end

end VibeServeCore.Kernel
