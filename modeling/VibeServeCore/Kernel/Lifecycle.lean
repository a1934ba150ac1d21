/- source: _step.py (`consume`, `_submitted`, `propagate`, `complete_decision`, `_kernel_signal`)
   digest: What a run of the kernel never takes back: its end, its decisions, its settlements. -/

import VibeServeCore.Foundation.WriteOnce
import VibeServeCore.Kernel.Controls
import VibeServeCore.Scheduling.Capacity
import VibeServeCore.Settlements.Once

namespace VibeServeCore.Kernel

open Types Proofs List Foundation.Process Foundation.WriteOnce
open Scheduling (DistinctOwners Seated fits_passes slotOf schedule_spec)
open Settlements (Single settle_progress settlingAttempt settlingChoice)

def endsIn (events : List StrategyEvent) : List RunResultProposal :=
  events.filterMap fun
    | .runEnded result => some result
    | _ => none

/-- Every receipt keeps its place, its payload and command, and its completion once it has one. -/
def Keeps (before after : List DecisionReceipt) : Prop :=
  ∀ (place : Nat) receipt, before[place]? = some receipt → ∃ later, after[place]? = some later ∧
    receiptKey later = receiptKey receipt ∧
    (receipt.completion ≠ none → later.completion = receipt.completion)

/-- A change of the run, with the ends of the run it publishes. -/
inductive RunStep (run : RunState) : List RunResultProposal → RunState → Prop
  | kept : RunStep run [] run
  | receipts {receipts} (keeps : Keeps run.receipts receipts) :
    RunStep run [] { run with receipts }
  | clock {nowAt} (forward : run.nowAt ≤ nowAt) : RunStep run [] { run with nowAt }
  | controls {controls} : RunStep run [] { run with controls }
  | status {status result} (before : run.status ≠ .terminal) (after : status ≠ .terminal) :
    RunStep run [] { run with status, result }
  | ended {result} (staged : run.result = some result)
    (before : run.status ≠ .terminal) : RunStep run [result] { run with status := .terminal }

/-- A move of the kernel, with the ends of the run and the requests it publishes: a reducer's answer
is installed, or the run changes, and neither scheduling nor settlement does. -/
inductive Moves (kernel : Kernel) (before : CoreState) :
    List RunResultProposal × List Request → CoreState → Prop
  | reduce {entry change after} (reduces : Reduces kernel before entry change after) :
    Moves kernel before ([], []) after
  | aside {ends requests after} (run : RunStep before.run ends after.run)
    (same : (after.scheduling, after.settlement) = (before.scheduling, before.settlement))
    (quiet : before.run.status = .terminal → requests = [] := by exact fun _ => rfl) :
    Moves kernel before (ends, requests) after

/-- Moves that publish these events, in some order, and these requests. -/
def Lives (kernel : Kernel) (before : CoreState) (events : List StrategyEvent)
    (requests : List Request) (after : CoreState) : Prop :=
  ∃ marks, Run (Moves kernel) before marks after ∧
    (endsIn events).Perm (marks.flatMap Prod.fst) ∧ requests = marks.flatMap Prod.snd

section
variable {kernel : Kernel} {before middle after : CoreState} {events more : List StrategyEvent}
  {asked further : List Request} {ends : List RunResultProposal}
  {receipts later : List DecisionReceipt} {labels : List (CoreEvent × Transition)}

theorem Lives.single (move : Moves kernel before (endsIn events, asked) after) :
    Lives kernel before events asked after :=
  ⟨[_], .single move, by simp, by simp⟩

theorem Lives.trans (left : Lives kernel before events asked middle)
    (right : Lives kernel middle more further after) :
    Lives kernel before (events ++ more) (asked ++ further) after := by
  obtain ⟨early, run, same, rfl⟩ := left
  obtain ⟨late, next, rest, rfl⟩ := right
  refine ⟨early ++ late, run.append next, ?_, flatMap_append.symm⟩
  rw [endsIn, filterMap_append, flatMap_append]
  exact same.append rest

/-- A run of steps that live lives, with all that its steps publish. -/
theorem Lives.of_run {Label : Type} {step : CoreState → Label → CoreState → Prop}
    (output : Label → List StrategyEvent) (outbox : Label → List Request)
    (each : ∀ {first label last}, step first label last →
      Lives kernel first (output label) (outbox label) last)
    {labels : List Label} (run : Run step before labels after)
    (published : events.Perm (labels.flatMap output)) (sent : asked = labels.flatMap outbox) :
    Lives kernel before events asked after := by
  suffices lives : Lives kernel before (labels.flatMap output) (labels.flatMap outbox) after by
    obtain ⟨marks, moves, same, requests⟩ := lives
    exact ⟨marks, moves, (published.filterMap _).trans same, sent.trans requests⟩
  clear published sent
  induction run with
  | nil state => exact ⟨[], .nil state, .refl _, rfl⟩
  | cons head _ ih => exact (each head).trans ih

def trace (receipt : DecisionReceipt) :
    (DecisionId × String × Option Command) × Option CompletionStatus :=
  (receiptKey receipt, receipt.completion)

theorem Keeps.of_traces (same : receipts.map trace <+: later.map trace) :
    Keeps receipts later := by
  intro place receipt found
  obtain ⟨rest, same⟩ := same
  have there : (later.map trace)[place]? = some (trace receipt) := by
    rw [← same, getElem?_append_left (by simpa using (List.getElem?_eq_some_iff.1 found).1),
      getElem?_map, found]
    rfl
  rw [getElem?_map] at there
  obtain ⟨after, listed, same⟩ := Option.map_eq_some_iff.1 there
  exact ⟨after, listed, congrArg Prod.fst same, fun _ => congrArg Prod.snd same⟩

private theorem completeDecision_lives {digests : Digests} {decisionId : DecisionId}
    {status : CompletionStatus}
    (completed : completeDecision digests before decisionId status = .ok after) :
    Lives kernel before [] [] after := by
  unfold completeDecision at completed
  split at completed
  · rename_i receipt proven
    split at completed
    · split_ifs at completed
      cases completed
      exact .single (.aside .kept rfl)
    · rename_i incomplete
      cases completed
      refine .single (.aside (.receipts fun place row found => ?_) rfl)
      refine ⟨_, by rw [markCompleted, getElem?_map, found]; rfl, ?_⟩
      dsimp only
      split_ifs with named
      · have alone := (acceptedReceiptFor_eq_proven _ proven).1
        have listed : row ∈ [receipt] :=
          alone ▸ mem_filter.2 ⟨mem_of_getElem? found, by simpa using named⟩
        obtain rfl := mem_singleton.1 listed
        exact ⟨rfl, fun done => absurd incomplete done⟩
      · exact ⟨rfl, fun _ => rfl⟩
  · cases completed

private theorem endsIn_validated {cause : Option DecisionId} {events : List StrategyEvent}
    (checked : events.forM (validateEvent cause) = .ok ()) : endsIn events = [] := by
  induction events with
  | nil => rfl
  | cons event events ih =>
    obtain ⟨⟨⟩, first, rest⟩ := bind_ok checked
    cases event with
    | runEnded => cases first
    | _ => exact ih rest

theorem EffectStep.lives {effect : Effect} (step : EffectStep kernel before effect after) :
    Lives kernel before effect.events effect.requests after := by
  cases effect with
  | complete => exact completeDecision_lives step
  | finish events =>
    obtain ⟨proposal, staged, -, running, finished⟩ := step
    obtain ⟨ended, receipts, published, named⟩ := finishRunInputs_state finished
    dsimp only at ended published
    have silent : endsIn receipts = [] := by
      refine filterMap_eq_nil_iff.2 fun event mem => ?_
      obtain ⟨receipt, rfl⟩ := named event mem
      rfl
    have ends : endsIn events = [proposal] := by
      rw [published, endsIn, filterMap_append, ← endsIn, silent]
      rfl
    refine .single ?_
    rw [Effect.events, ends, ended]
    exact .aside (.ended staged running) rfl
  | reduce entry change =>
    obtain ⟨⟨⟩, checked, -⟩ := bind_ok step.valid
    refine .single ?_
    rw [Effect.events, endsIn_validated checked]
    exact .reduce step
  | register requests allocated =>
    obtain ⟨rows, rfl⟩ := registerRequests_state step.2
    refine .single (.aside (.receipts (.of_traces ⟨[], ?_⟩)) rfl fun ended => ?_)
    · rw [append_nil, map_map]
      refine map_congr_left fun receipt _ => ?_
      simp only [Function.comp_apply, Registration.attributeRequests]
      split <;> rfl
    · refine eq_nil_iff_forall_not_mem.2 fun request mem => ?_
      obtain ⟨proposal, proposed, -⟩ := registerRequests_allocated step.2 request mem
      simp [step.1 ended] at proposed

private theorem propagate_lives {signals : List Signal} {cause : Option DecisionId}
    {result : Transition}
    (propagated : propagate kernel before signals cause = .ok result) :
    Lives kernel before result.events result.requests result.state := by
  obtain ⟨effects, run, events, requests, -⟩ := propagate_propagates propagated
  exact .of_run _ _ (fun step => EffectStep.lives step) run events requests

theorem PhaseStep.lives {phase : Phase} (step : PhaseStep kernel before phase after) :
    Lives kernel before phase.events phase.requests after := by
  cases phase with
  | refuse receipt rejection =>
    obtain ⟨-, -, -, rfl⟩ := step
    exact .single (.aside (.receipts (.of_traces ((prefix_append _ _).map _))) rfl)
  | conflict =>
    cases step
    exact .single (.aside .kept rfl)
  | decide submission inner =>
    obtain ⟨fresh, valid, propagated, rfl⟩ := step
    obtain ⟨earlier, own, receipts, -, -, accepted⟩ := accept_state fresh propagated
    obtain ⟨signal, -, propagated⟩ := bind_ok propagated
    set opened := addReceipt before (openedReceipt kernel.digests before.run submission)
    have opens : Lives kernel before [] [] opened :=
      .single (.aside (.receipts (.of_traces ((prefix_append _ _).map _))) rfl)
    have running : opened.run.status ≠ .terminal := by
      intro ended
      have ended : before.run.status = .terminal := ended
      simp [validateDecision, takesCommand, ended] at valid
    have stages : Lives kernel opened [] [] (stage opened submission.command) := by
      cases submission.command with
      | finish stop => exact .single (.aside (.status running (by simp)) rfl)
      | work => exact .single (.aside .kept rfl)
    have whole := (opens.trans stages).trans (propagate_lives propagated)
    rw [accepted, ← append_nil (Phase.events _), ← append_nil (Phase.requests _)]
    refine whole.trans (.single (.aside (.receipts (.of_traces ⟨[], ?_⟩)) rfl))
    simp [receipts, trace, receiptKey]
  | propagate signals cause result =>
    obtain ⟨propagated, rfl⟩ := step
    exact propagate_lives propagated
  | advance stamps =>
    cases step
    exact .single (.aside (.clock (foldl_induction (fun _ now => before.run.nowAt ≤ now)
      (fun held => held.trans (le_max_left _ _)) le_rfl)) rfl)
  | record =>
    cases step
    exact .single (.aside .controls rfl)
  | switch status =>
    obtain ⟨live, -, running, -, rfl⟩ := step
    exact .single (.aside (.status running (by rcases live with rfl | rfl <;> simp)) rfl)
  | openEpoch signal =>
    have opens : openEpoch before signal = .ok after := step
    unfold openEpoch at opens
    split at opens
    · obtain ⟨records, -, opens⟩ := bind_ok opens
      cases opens
      exact .single (.aside .kept rfl)
    · cases opens
      exact .single (.aside .kept rfl)

theorem ConsumeRun.lives (run : ConsumeRun kernel before labels after) :
    Lives kernel before (labels.flatMap (·.2.events)) (labels.flatMap (·.2.requests)) after := by
  refine .of_run _ _ ?_ run (.refl _) rfl
  rintro first label last ⟨consumed, rfl⟩
  obtain ⟨phases, handled, handles, same⟩ := consume_phases consumed
  have moves := (Lives.of_run _ _ (fun step => PhaseStep.lives step) handles.run handles.events
    handles.requests).trans (.single (.aside .kept rfl :
      Moves kernel handled.state (endsIn [], []) (atRevision handled.state (first.revision + 1))))
  rw [append_nil, append_nil] at moves
  rwa [same]

variable {published : List RunResultProposal × List Request}

theorem Moves.run (move : Moves kernel before published after) :
    RunStep before.run published.1 after.run := by
  cases move with
  | aside run => exact run
  | reduce reduces =>
    rw [reduces.installed, withArea_run]
    exact .kept

/-- The register of the run's end: empty while the run goes on, then the result it stored. -/
def endOf (run : RunState) : Option (Option RunResultProposal) :=
  if run.status = .terminal then some run.result else none

theorem RunStep.writes {run next : RunState} (step : RunStep run ends next) :
    Writes (endOf run) (endOf next) (ends.map some) := by
  cases step with
  | status before after => simp [endOf, before, after, Writes]
  | ended staged before => simp [endOf, before, staged, Writes]
  | _ => exact .unchanged _

theorem RunStep.stays {run next : RunState} (step : RunStep run ends next)
    (ended : run.status = .terminal) : next.status = .terminal := by
  cases step with
  | status before | ended _ before => exact absurd ended before
  | _ => exact ended

theorem Moves.silent (move : Moves kernel before published after)
    (ended : before.run.status = .terminal) : published.2 = [] := by
  cases move with
  | aside _ _ quiet => exact quiet ended
  | reduce => rfl

/-- A later state of a run: no decision, completion or moment is taken back. -/
structure Follows (before after : RunState) : Prop where
  keeps : Keeps before.receipts after.receipts
  clock : before.nowAt ≤ after.nowAt
  limits : after.limits = before.limits

theorem Keeps.refl (receipts : List DecisionReceipt) : Keeps receipts receipts :=
  .of_traces (prefix_refl _)

theorem Follows.trans {first second third : RunState} (left : Follows first second)
    (right : Follows second third) : Follows first third where
  keeps place receipt found := by
    obtain ⟨middle, listed, kept⟩ := left.keeps place receipt found
    obtain ⟨later, there, still⟩ := right.keeps place middle listed
    refine ⟨later, there, still.1.trans kept.1, fun done => ?_⟩
    have same := kept.2 done
    rw [still.2 (same ▸ done), same]
  clock := left.clock.trans right.clock
  limits := right.limits.trans left.limits

theorem RunStep.follows {run next : RunState} (step : RunStep run ends next) :
    Follows run next := by
  cases step with
  | receipts keeps => exact ⟨keeps, le_rfl, rfl⟩
  | clock forward => exact ⟨.refl _, forward, rfl⟩
  | _ => exact ⟨.refl _, le_rfl, rfl⟩

def reduceSettlement (digests : Digests) (validJson : String → Bool) (state : CoreState)
    (event : SettlementEvent) : Except StepError (AreaChange AreaState) :=
  answerAs .settlement
    (Settlements.settle digests validJson state.settlement state.settlementContext event)

/-- The settlement area is the production one; the others are any reducers. -/
def Kernel.ReducesSettlement (kernel : Kernel) (validJson : String → Bool) : Prop :=
  ∀ state event, kernel.dispatch state (.settlement event) =
    reduceSettlement kernel.digests validJson state event

def Kernel.ReducesScheduling (kernel : Kernel) : Prop :=
  ∀ state event,
    kernel.dispatch state (.scheduling event) = reduceScheduling kernel.digests state event

/-- A move leaves both areas, or installs what the reducer of one answers to an event of its own. -/
theorem Moves.areas (move : Moves kernel before published after) :
    (after.scheduling, after.settlement) = (before.scheduling, before.settlement) ∨
      (∃ event change own, kernel.dispatch before (.scheduling event) = .ok change ∧
        change.state = .scheduling own ∧ after = { before with scheduling := own }) ∨
      ∃ event change own, kernel.dispatch before (.settlement event) = .ok change ∧
        change.state = .settlement own ∧ after = { before with settlement := own } := by
  cases move with
  | aside _ same => exact .inl same
  | @reduce entry change _ reduces =>
    obtain ⟨owned, -, answered, area, -, rfl⟩ := reduces
    cases signal : entry.signal <;> rw [signal] at owned answered area <;>
      cases slice : change.state <;> rw [slice] at area <;>
      first
        | exact .inl rfl
        | exact .inr (.inl ⟨_, _, _, answered, slice, rfl⟩)
        | exact .inr (.inr ⟨_, _, _, answered, slice, rfl⟩)
        | (cases owned; done)
        | cases area

/-! ## Every run -/

/-- The production scheduling, records and settlement around the brief attempts. -/
def liveKernel : Kernel :=
  { stoppingKernel with
    dispatch := fun state signal =>
      match signal with
      | .scheduling event => reduceScheduling stoppingKernel.digests state event
      | .settlement event =>
        reduceSettlement stoppingKernel.digests (fun _ => true) state event
      | _ => briefKernel.dispatch state signal }

def liveAssessment : CoreEvent := .area (.settlement (.assessmentSubmitted settlingChoice))

/-- A released attempt is settled, and of two starts the first was withdrawn for the second. -/
def liveCore : CoreState :=
  outcome (consume liveKernel) Transition.state
    { narrowCore with attempts := ⟨[settlingAttempt .terminal []]⟩ }
    [liveAssessment, .proposalSubmitted
      [startProposal "s1" "a1", startProposal "s2" "a2", cancelProposal "w1" "a1"] 1]

/-- The assessment comes again, the second start is withdrawn, and a stop is given twice. -/
def liveEvents : List CoreEvent :=
  let stop nowAt := .runControl drainInput nowAt (some ⟨.failure, "halted", none⟩)
  [liveAssessment, .decisionSubmitted (cancelProposal "w2" "a2") 3, stop 2, stop 3]

def liveEnd : CoreState := outcome (consume liveKernel) Transition.state liveCore liveEvents

private theorem live_run : ∃ labels, ConsumeRun liveKernel liveCore labels liveEnd := by
  have takes : (execute (consume liveKernel) Transition.state liveCore liveEvents).isOk := by
    decide +kernel
  exact Run.of_outcome takes

/-- A run that ends stores its result and publishes it once; one that goes on publishes no end, and
one that had ended publishes none and keeps what it stored. -/
theorem run_ends_once (run : ConsumeRun kernel before labels after) :
    let published := endsIn (labels.flatMap (·.2.events))
    (before.run.status = .terminal → after.run.status = .terminal ∧
      after.run.result = before.run.result ∧ published = []) ∧
    (before.run.status ≠ .terminal → after.run.status = .terminal →
      ∃ result, after.run.result = some result ∧ published = [result]) ∧
    (before.run.status ≠ .terminal → after.run.status ≠ .terminal → published = []) := by
  intro published
  obtain ⟨marks, moves, same, -⟩ := run.lives
  have writes : Writes (endOf before.run) (endOf after.run) (published.map some) := by
    have along := Writes.along (fun state => endOf state.run) (fun mark => mark.1.map some)
      (fun _ => True) (fun _ _ => trivial) (fun _ move => move.run.writes) moves trivial
    refine along.perm ?_
    rw [← map_flatMap]
    exact same.map some
  refine ⟨fun ended => ?_, fun open_ ended => ?_, fun open_ still => ?_⟩
  · simp only [endOf, ended, if_true, Writes] at writes
    obtain ⟨stored, silent⟩ := writes
    split_ifs at stored with stays
    exact ⟨stays, Option.some.inj stored, map_eq_nil_iff.1 silent⟩
  · simp only [endOf, open_, ended, if_true, if_false, Writes, Option.toList_some] at writes
    obtain ⟨result, only, stored⟩ := map_eq_singleton_iff.1 writes
    exact ⟨result, stored.symm, only⟩
  · simp only [endOf, open_, still, if_false, Writes, Option.toList_none] at writes
    exact map_eq_nil_iff.1 writes

theorem live_run_ends_once : ∃ labels, ConsumeRun liveKernel liveCore labels liveEnd ∧
    liveCore.run.status = .running ∧ liveEnd.run.status = .terminal ∧
    liveEnd.run.result = some ⟨.failure, "halted", none⟩ ∧
    endsIn (labels.flatMap (·.2.events)) = [⟨.failure, "halted", none⟩] := by
  obtain ⟨labels, run⟩ := live_run
  have opened : liveCore.run.status = .running := by decide +kernel
  have ended : liveEnd.run.status = .terminal := by decide +kernel
  have stored : liveEnd.run.result = some ⟨.failure, "halted", none⟩ := by decide +kernel
  obtain ⟨result, kept, published⟩ := (run_ends_once run).2.1 (by simp [opened]) ended
  obtain rfl := Option.some.inj (stored.symm.trans kept)
  exact ⟨labels, run, opened, ended, stored, published⟩

/-- No decision, completion or moment of a run is taken back, and its limits stand. -/
theorem run_takes_nothing_back (run : ConsumeRun kernel before labels after) :
    Follows before.run after.run := by
  obtain ⟨marks, moves, -, -⟩ := run.lives
  exact moves.related (fun _ => True) (fun before after => Follows before.run after.run)
    (fun _ => ⟨.refl _, le_rfl, rfl⟩) (fun _ _ _ => .trans) (fun _ _ => trivial)
    (fun _ move => move.run.follows) trivial

theorem live_run_takes_nothing_back :
    liveCore.run.receipts.length = 3 ∧ Follows liveCore.run liveEnd.run := by
  obtain ⟨labels, run⟩ := live_run
  exact ⟨by decide +kernel, run_takes_nothing_back run⟩

/-- A run that has ended stays ended and sends nothing more. -/
theorem ended_run_requests_nothing (ended : before.run.status = .terminal)
    (run : ConsumeRun kernel before labels after) :
    after.run.status = .terminal ∧ ∀ label ∈ labels, label.2.requests = [] := by
  obtain ⟨marks, moves, -, asked⟩ := run.lives
  have kept := moves.history
    (fun marks state => state.run.status = .terminal ∧ marks.flatMap Prod.snd = [])
    (fun ⟨ended, silent⟩ move => ⟨move.run.stays ended, by
      rw [flatMap_append, silent]
      simpa using move.silent ended⟩) ⟨ended, rfl⟩
  exact ⟨kept.1, flatMap_eq_nil_iff.1 (asked.trans kept.2)⟩

/-- After its end the run refuses a start. -/
theorem ended_live_run_requests_nothing : liveEnd.run.status = .terminal ∧ ∃ labels after,
    ConsumeRun liveKernel liveEnd labels after ∧ ∀ label ∈ labels, label.2.requests = [] := by
  have ended : liveEnd.run.status = .terminal := by decide +kernel
  have takes : (execute (consume liveKernel) Transition.state liveEnd
      [.decisionSubmitted (startProposal "s3" "a3") 6]).isOk := by decide +kernel
  obtain ⟨labels, run⟩ := Run.of_outcome takes
  exact ⟨ended, labels, _, run, (ended_run_requests_nothing ended run).2⟩

/-- Whatever the other areas do, an attempt has at most one choice and settlements stay. -/
theorem kernel_settles_attempts_once {validJson : String → Bool}
    (settles : kernel.ReducesSettlement validJson) (single : Single before.settlement)
    (run : ConsumeRun kernel before labels after) : Single after.settlement ∧
      before.settlement.settlements <+: after.settlement.settlements := by
  obtain ⟨marks, moves, -, -⟩ := run.lives
  refine moves.invariant (fun state => Single state.settlement ∧
    before.settlement.settlements <+: state.settlement.settlements) ?_ ⟨single, prefix_refl _⟩
  rintro first ends second ⟨single, kept⟩ move
  rcases move.areas with same | ⟨_, _, _, -, -, rfl⟩ | ⟨event, change, own, answered, slice, rfl⟩
  · rw [(Prod.mk.inj same).2]
    exact ⟨single, kept⟩
  · exact ⟨single, kept⟩
  · obtain ⟨answer, settled, rfl⟩ := answerAs_eq_ok.1 ((settles _ _).symm.trans answered)
    cases slice
    have progress := settle_progress single settled
    exact ⟨progress.single single, kept.trans ⟨_, progress.published.1.symm⟩⟩

theorem live_attempts_settle_once : liveCore.settlement.settlements.length = 1 ∧
    Single liveEnd.settlement := by
  obtain ⟨labels, run⟩ := live_run
  have single : (liveCore.settlement.settlements ++ liveCore.settlement.pending).map
      Settlement.attempt |>.Nodup := by decide +kernel
  exact ⟨by decide +kernel, (kernel_settles_attempts_once (fun _ _ => rfl) single run).1⟩

/-- Slots of different attempts, within the bound and on different pools. -/
structure Within (bound : Nat) (slots : List Slot) : Prop where
  owners : DistinctOwners slots
  bounded : slots.length ≤ bound
  pools : slots.Pairwise fun one other => one.pools.Disjoint other.pools

theorem Within.seated {digests : Digests} {context : SchedulingContext} {slots : List Slot}
    {requests : List AdmissionRequest} (seated : Seated digests context slots requests)
    (within : Within context.run.limits.maxParallel slots) :
    Within context.run.limits.maxParallel (slots ++ requests.map (slotOf context)) := by
  induction seated with
  | nil => simpa using within
  | cons fit _ ih =>
    have passes := fits_passes fit
    have next := ih ⟨within.owners.seat passes, by simpa using Nat.succ_le_of_lt passes.room,
      pairwise_append.2 ⟨within.pools, pairwise_singleton _ _, fun slot mem seat own => by
        rw [mem_singleton.1 own]
        exact passes.pools slot mem⟩⟩
    simpa using next

/-- Whatever the other areas do, the occupied slots stay within the run's parallelism. -/
theorem kernel_slots_stay_within_capacity (schedules : kernel.ReducesScheduling)
    (within : Within before.run.limits.maxParallel before.scheduling.slots)
    (run : ConsumeRun kernel before labels after) :
    Within before.run.limits.maxParallel after.scheduling.slots := by
  obtain ⟨marks, moves, -, -⟩ := run.lives
  refine (moves.invariant (fun state => state.run.limits = before.run.limits ∧
    Within before.run.limits.maxParallel state.scheduling.slots) ?_ ⟨rfl, within⟩).2
  rintro first ends second ⟨limits, within⟩ move
  refine ⟨move.run.follows.limits.trans limits, ?_⟩
  rcases move.areas with same | ⟨event, change, own, answered, slice, rfl⟩ | ⟨_, _, _, -, -, rfl⟩
  · rwa [(Prod.mk.inj same).1]
  · obtain ⟨answer, ran, rfl⟩ := answerAs_eq_ok.1 ((schedules _ _).symm.trans answered)
    cases slice
    obtain ⟨kept, keeps, -, fills⟩ := schedule_spec ran
    rw [← limits] at within ⊢
    rw [fills.slots]
    have fewer := keeps.episodes.length_le
    rw [length_map, length_map] at fewer
    exact .seated fills.seated ⟨within.owners.held keeps.episodes, fewer.trans within.bounded,
      Scheduling.pairwise_held keeps.episodes (fun _ _ => Iff.rfl) within.pools⟩
  · exact within

theorem live_slots_stay_within_capacity :
    liveCore.scheduling.slots.map (·.attempt.attemptId) = [⟨"a2"⟩] ∧
      Within 1 liveEnd.scheduling.slots := by
  obtain ⟨labels, run⟩ := live_run
  have full : Within 1 liveCore.scheduling.slots := by
    have slots : liveCore.scheduling.slots.length = 1 := by decide +kernel
    obtain ⟨slot, only⟩ := length_eq_one_iff.1 slots
    rw [only]
    exact ⟨nodup_singleton _, le_rfl, pairwise_singleton _ _⟩
  exact ⟨by decide +kernel, kernel_slots_stay_within_capacity (fun _ _ => rfl) full run⟩

end

end VibeServeCore.Kernel
