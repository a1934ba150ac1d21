/- source: _session_inputs.py
   digest: Every input occurrence is kept once and consumed by exactly one receipt. -/

import VibeServeCore.Foundation.WriteOnce
import VibeServeCore.Kernel.Step
import VibeServeCore.Records.Finality
import VibeServeCore.Sessions.Inputs

namespace VibeServeCore.Sessions

open Types Proofs List Foundation.Ledger Foundation.Process Foundation.WriteOnce
open Records (sampleRun sampleDigests sampleScope)
open Kernel (finishRun finishInput inputPending terminalReceipt)

abbrev receiptOf (records : List InputRecord) (identity : InputId) : Option InputReceipt :=
  register InputRecord.inputId InputRecord.receipt records identity

abbrev receiptsAbout (receipts : List InputReceipt) (identity : InputId) : List InputReceipt :=
  about InputReceipt.inputId receipts identity

/-- A settled record is final; an open one gains a receipt or changes hands through being free. -/
structure InputTurned (old : InputRecord) (turned : TurnedInput) : Prop where
  input : turned.1.input = old.input
  settled : old.receipt.isSome → turned.1 = old
  writes : Writes old.receipt turned.1.receipt turned.2.toList
  named : ∀ receipt ∈ turned.2, receipt.inputId = old.inputId
  delivered : ∀ identity ref observation, turned.2 = some (.delivered identity ref observation) →
    old.reservedTo = some ref
  handed : ∀ holder next, old.reservedTo = some holder → turned.1.reservedTo = some next →
    next = holder

structure Arrives (record : InputRecord) : Prop where
  free : record.reservedTo = none
  named : ∀ receipt ∈ record.receipt, receipt.inputId = record.inputId
  undelivered : ∀ identity ref observation,
    record.receipt ≠ some (.delivered identity ref observation)

structure LedgerMove (before after : List InputRecord) (published : List InputReceipt)
    (turned : List TurnedInput) (added : List InputRecord) : Prop where
  rewrites : List.Forall₂ InputTurned before turned
  rows : after = turned.map Prod.fst ++ added
  receipts : published = turned.filterMap Prod.snd ++ added.filterMap InputRecord.receipt
  arrives : ∀ record ∈ added, Arrives record
  distinct : Distinct InputRecord.inputId before → Distinct InputRecord.inputId after

def Moves (before after : List InputRecord) (published : List InputReceipt) : Prop :=
  ∃ turned added, LedgerMove before after published turned added

theorem InputTurned.kept (record : InputRecord) : InputTurned record (record, none) where
  input := rfl
  settled _ := rfl
  writes := .unchanged _
  named _ said := by cases said
  delivered _ _ _ said := by cases said
  handed _ _ held holds := by
    rw [held] at holds
    exact (Option.some.inj holds).symm

variable {old record : InputRecord} {turned : List TurnedInput} {added : List InputRecord}
    {ref : InvocationRef} {observation : Observation} {digests : Digests}

theorem InputTurned.toTurned {turned : TurnedInput} (turn : InputTurned old turned) :
    Turned InputRecord.inputId InputRecord.receipt InputReceipt.inputId old turned where
  sameKey := congrArg SessionInput.inputId turn.input
  writes := turn.writes
  named := turn.named

variable {before : List InputRecord} {state : SessionsState}

private theorem map_input_rewritten (each : List.Forall₂ InputTurned before turned) :
    (turned.map Prod.fst).map InputRecord.input = before.map InputRecord.input := by
  induction each with
  | nil => rfl
  | cons head _ ih => simp only [map_cons, ih, head.input]

private theorem map_inputId (records : List InputRecord) :
    records.map InputRecord.inputId =
      (records.map InputRecord.input).map SessionInput.inputId := by
  rw [map_map]
  rfl

theorem Moves.rewrite (each : List.Forall₂ InputTurned before turned) :
    Moves before (turned.map Prod.fst) (turned.filterMap Prod.snd) := by
  refine ⟨turned, [], each, by simp, by simp, by simp, fun distinct => ?_⟩
  rwa [Distinct, map_inputId, map_input_rewritten each, ← map_inputId]

theorem Moves.add (arrives : ∀ record ∈ added, Arrives record)
    (distinct : Distinct InputRecord.inputId before → Distinct InputRecord.inputId (before ++
      added)) : Moves before (before ++ added) (added.filterMap InputRecord.receipt) := by
  refine ⟨before.map fun record => (record, none), added, ?_, ?_, ?_, arrives, distinct⟩
  · rw [forall₂_map_right_iff, forall₂_same]
    exact fun record _ => .kept record
  · simp [Function.comp_def]
  · simp

theorem Moves.unchanged (records : List InputRecord) : Moves records records [] := by
  have silent : ∀ record ∈ ([] : List InputRecord), Arrives record := by simp
  have moved : Moves records (records ++ []) _ := .add silent (by simp)
  simpa using moved

section
variable {before after : List InputRecord} {published : List InputReceipt}

section
variable (moves : Moves before after published)

include moves

theorem Moves.occurrences : before.map InputRecord.input <+: after.map InputRecord.input := by
  obtain ⟨turned, added, move⟩ := moves
  rw [move.rows, map_append, map_input_rewritten move.rewrites]
  exact prefix_append _ _

theorem Moves.distinct
    (distinct : Distinct InputRecord.inputId before) : Distinct InputRecord.inputId after := by
  obtain ⟨turned, added, move⟩ := moves
  exact move.distinct distinct

theorem Moves.settled (mem : record ∈ before)
    (settled : record.receipt.isSome) : record ∈ after := by
  obtain ⟨turned, added, move⟩ := moves
  obtain ⟨entry, listed, turn⟩ := Foundation.WriteOnce.forall₂_target move.rewrites mem
  rw [move.rows, ← turn.settled settled]
  exact mem_append_left _ (mem_map_of_mem listed)

theorem Moves.writes (distinct : Distinct InputRecord.inputId before) (identity : InputId) :
    Writes (receiptOf before identity) (receiptOf after identity)
      (receiptsAbout published identity) := by
  obtain ⟨turned, added, move⟩ := moves
  have distinctAfter := move.distinct distinct
  rw [move.rows] at distinctAfter
  have first := register_turned (move.rewrites.imp fun _ _ turn => turn.toTurned) distinct identity
  have second : Writes (receiptOf (turned.map Prod.fst) identity)
      (receiptOf (turned.map Prod.fst ++ added) identity)
      (receiptsAbout (added.filterMap InputRecord.receipt) identity) :=
    register_append distinctAfter (fun record mem => (move.arrives record mem).named) identity
  rw [move.rows, move.receipts, receiptsAbout, about_append]
  exact first.trans second

theorem Moves.delivered {identity : InputId}
    (said : .delivered identity ref observation ∈ published) :
    ∃ record ∈ before, record.inputId = identity ∧ record.receipt = none ∧
      record.reservedTo = some ref := by
  obtain ⟨turned, added, move⟩ := moves
  rw [move.receipts, mem_append] at said
  rcases said with rewritten | arrived
  · obtain ⟨entry, listed, spoken⟩ := mem_filterMap.mp rewritten
    obtain ⟨record, mem, turn⟩ := Foundation.WriteOnce.forall₂_source move.rewrites listed
    have own : identity = record.inputId := turn.named _ spoken
    have open_ : record.receipt = none := by
      have writes := turn.writes
      cases stored : record.receipt with
      | none => rfl
      | some receipt =>
        rw [stored, spoken] at writes
        cases writes.2
    exact ⟨record, mem, own.symm, open_, turn.delivered _ _ _ spoken⟩
  · obtain ⟨record, mem, stored⟩ := mem_filterMap.mp arrived
    exact absurd stored ((move.arrives record mem).undelivered _ _ _)

theorem Moves.handed
    (distinct : Distinct InputRecord.inputId before) {new : InputRecord} (was : old ∈ before)
    (is : new ∈ after) (same : new.inputId = old.inputId) {holder next : InvocationRef}
    (held : old.reservedTo = some holder) (holds : new.reservedTo = some next) : next = holder := by
  obtain ⟨turned, added, move⟩ := moves
  have distinctAfter := move.distinct distinct
  obtain ⟨entry, listed, turn⟩ := Foundation.WriteOnce.forall₂_target move.rewrites was
  have stays : entry.1 ∈ after := by
    rw [move.rows]
    exact mem_append_left _ (mem_map_of_mem listed)
  have equal : new = entry.1 := by
    refine distinctAfter.eq_of_key is stays (same.trans ?_)
    exact (congrArg SessionInput.inputId turn.input).symm
  exact turn.handed holder next held (equal ▸ holds)

end

end

section
variable {state : SessionsState} {context : SessionsContext} {change : Change}

def Consumes (state : SessionsState) (change : Change) : Prop :=
  ∃ receipts, change.events = receipts.map .inputReceipt ∧
    Moves state.inputs change.state.inputs receipts

theorem Consumes.unchanged {next : SessionsState} (same : next.inputs = state.inputs)
    (inputs : change.state = next) (silent : change.events = []) : Consumes state change := by
  refine ⟨[], by simp [silent], ?_⟩
  rw [inputs, same]
  exact .unchanged _

variable {record : InputRecord}

private theorem drop_turned (pending : record.receipt = none) (reason : InputDropReason)
    (at_ : Seconds) :
    InputTurned record (drop record reason at_) where
  input := rfl
  settled settled := by simp [pending] at settled
  writes := by
    rw [pending]
    rfl
  named receipt said := by
    cases said
    rfl
  delivered _ _ _ said := by cases said
  handed _ _ held holds := by
    rw [show (drop record reason at_).1.reservedTo = record.reservedTo from rfl, held] at holds
    exact (Option.some.inj holds).symm

private theorem returned_turned (pending : record.receipt = none) :
    InputTurned record ({ record with reservedTo := none }, none) where
  input := rfl
  settled settled := by simp [pending] at settled
  writes := .unchanged _
  named _ said := by cases said
  delivered _ _ _ said := by cases said
  handed _ _ _ holds := by cases holds

private theorem releaseRecord_turned (pending : record.receipt = none) (invocation : Invocation)
    (at_ : Seconds) : InputTurned record (releaseRecord record context invocation at_) := by
  unfold releaseRecord
  split
  · exact drop_turned pending _ _
  split
  · exact returned_turned pending
  split
  · exact returned_turned pending
  · split
    · exact returned_turned pending
    · exact drop_turned pending _ _
    · exact drop_turned pending _ _

private theorem deliver_turned {entry : TurnedInput} (held : heldBy ref record)
    (delivered : deliver record ref observation = .ok entry) : InputTurned record entry := by
  obtain ⟨pending, reserved⟩ : record.receipt = none ∧ record.reservedTo = some ref := by
    simpa [heldBy] using held
  unfold deliver at delivered
  split_ifs at delivered
  cases delivered
  exact {
    input := rfl
    settled := fun settled => by simp [pending] at settled
    writes := by
      rw [pending]
      rfl
    named := fun receipt said => by
      cases said
      rfl
    delivered := fun _ _ _ said => by
      cases said
      exact reserved
    handed := fun holder next was holds => by
      rw [was] at holds
      exact (Option.some.inj holds).symm }

private theorem rewriteInputs_consumes {turn : InputRecord → Except CoreError TurnedInput}
    (each : ∀ record entry, turn record = .ok entry → InputTurned record entry)
    (rewritten : rewriteInputs state turn = .ok change) : Consumes state change := by
  obtain ⟨turned, ran, done⟩ := bind_ok rewritten
  cases done
  exact ⟨_, rfl, .rewrite (Foundation.WriteOnce.forall₂_of_mapM each ran)⟩

structure Joins (state : SessionsState) (change : Change) (added : List InputRecord) : Prop where
  rows : change.state.inputs = state.inputs ++ added
  events : change.events = (added.filterMap InputRecord.receipt).map .inputReceipt
  arrives : ∀ record ∈ added, Arrives record
  distinct : Distinct InputRecord.inputId state.inputs →
    Distinct InputRecord.inputId change.state.inputs

theorem Joins.consumes (joins : Joins state change added) : Consumes state change := by
  refine ⟨_, joins.events, ?_⟩
  rw [joins.rows]
  exact .add joins.arrives (joins.rows ▸ joins.distinct)

theorem Joins.concat (arrives : Arrives record)
    (fresh : ∀ row ∈ state.inputs, row.inputId ≠ record.inputId)
    (rows : change.state.inputs = state.inputs ++ [record])
    (events : change.events = record.receipt.toList.map .inputReceipt) :
    Joins state change [record] where
  rows := rows
  events := by
    rw [events]
    cases written : record.receipt <;> simp [written]
  arrives other mem := by
    rw [mem_singleton.mp mem]
    exact arrives
  distinct distinct := by
    rw [rows]
    exact distinct.concat fresh

private theorem received_joins {input : SessionInput}
    (taken : received state context input = .ok change) :
    ∃ added, Joins state change added ∧ input ∈ change.state.inputs.map InputRecord.input := by
  unfold received at taken
  split at taken
  · rename_i existing found
    split_ifs at taken with conflict
    cases taken
    refine ⟨[], ⟨by simp, rfl, by simp, fun distinct => by simpa using distinct⟩, ?_⟩
    rw [← not_not.mp conflict]
    exact mem_map_of_mem (mem_of_find?_eq_some found)
  · rename_i missing
    have fresh : ∀ row ∈ state.inputs, row.inputId ≠ input.inputId := by
      simpa [InputRecord.inputId] using missing
    split_ifs at taken
    · cases taken
      have arrives : Arrives (drop { input := input } .runTerminal context.run.nowAt).1 := by
        refine ⟨rfl, fun receipt said => ?_, fun _ _ _ said => ?_⟩
        · cases said
          rfl
        · cases said
      exact ⟨_, .concat arrives fresh rfl rfl, by simp⟩
    · cases taken
      have arrives : Arrives { input := input } :=
        ⟨rfl, fun _ said => (by cases said), fun _ _ _ said => (by cases said)⟩
      exact ⟨_, .concat arrives fresh rfl rfl, by simp⟩

private theorem steer_joins {inputs : List SessionInput}
    (taken : steer context state inputs = .ok change) :
    ∃ added, Joins state change added ∧
      ∀ input ∈ inputs, input ∈ change.state.inputs.map InputRecord.input := by
  induction inputs generalizing state change with
  | nil =>
    cases taken
    exact ⟨[], ⟨by simp, rfl, by simp, fun distinct => by simpa using distinct⟩, by simp⟩
  | cons input rest ih =>
    obtain ⟨first, arrived, taken⟩ := bind_ok taken
    obtain ⟨later, steered, done⟩ := bind_ok taken
    cases done
    obtain ⟨added, joins, listed⟩ := received_joins arrived
    obtain ⟨others, joinsLater, listedLater⟩ := ih steered
    refine ⟨added ++ others, ⟨?_, ?_, ?_, fun distinct =>
      joinsLater.distinct (joins.distinct distinct)⟩, ?_⟩
    · rw [joinsLater.rows, joins.rows, append_assoc]
    · rw [joins.events, joinsLater.events, filterMap_append, map_append]
    · intro record mem
      rcases mem_append.mp mem with early | late
      · exact joins.arrives record early
      · exact joinsLater.arrives record late
    · intro other mem
      rcases mem_cons.mp mem with rfl | late
      · rw [joinsLater.rows, map_append]
        exact mem_append_left _ listed
      · exact listedLater other late

private theorem reserveInput_turned (invocation : Invocation) (ref : InvocationRef)
    (record : InputRecord) :
    InputTurned record (reserveInput context invocation ref record, none) := by
  unfold reserveInput
  split_ifs with eligible
  · obtain ⟨⟨pending, unheld⟩, -⟩ : (record.receipt = none ∧ record.reservedTo = none) ∧ _ := by
      simpa [free] using eligible
    exact {
      input := rfl
      settled := fun settled => by simp [pending] at settled
      writes := .unchanged _
      named := fun _ said => by cases said
      delivered := fun _ _ _ said => by cases said
      handed := fun _ _ held => by
        rw [unheld] at held
        cases held }
  · exact .kept record

private theorem reserve_consumes (ref : InvocationRef) : Consumes state
    (reserve state context ref) := by
  unfold reserve
  split
  · exact .unchanged rfl rfl rfl
  rename_i invocation _
  split_ifs
  · exact .unchanged rfl rfl rfl
  have turned : List.Forall₂ InputTurned state.inputs
      (state.inputs.map fun record => (reserveInput context invocation ref record, none)) := by
    rw [forall₂_map_right_iff, forall₂_same]
    exact fun record _ => reserveInput_turned invocation ref record
  refine ⟨[], rfl, ?_⟩
  simpa [Function.comp_def] using Moves.rewrite turned

private theorem inspection_consumes {invocation : Invocation}
    (asked : inspection state context invocation = .ok change) : Consumes state change := by
  obtain ⟨next, waiting, done⟩ := bind_ok asked
  cases done
  exact .unchanged (awaitingCheckpoint_inputs waiting) rfl rfl

private theorem acceptance_consumes {kind : AcceptanceKind}
    (taken : acceptance digests state context kind ref observation = .ok change) :
    Consumes state change := by
  unfold acceptance at taken
  split at taken
  · cases taken
    exact .unchanged rfl rfl rfl
  split at taken
  · exact inspection_consumes taken
  dsimp only at taken
  split at taken
  · split at taken
    · refine rewriteInputs_consumes (fun record entry turned => ?_) taken
      split_ifs at turned with reserved
      · exact deliver_turned (Bool.and_eq_true_iff.mp reserved).1 turned
      · cases turned
        exact .kept record
    · cases taken
      exact .unchanged rfl rfl rfl
  · split at taken
    · refine rewriteInputs_consumes (fun record entry turned => ?_) taken
      cases turned
      split_ifs with reserved
      · obtain ⟨pending, -⟩ : record.receipt = none ∧ record.reservedTo = some ref := by
          simpa [heldBy] using (Bool.and_eq_true_iff.mp reserved).1
        exact releaseRecord_turned pending _ _
      · exact .kept record
    · cases taken
      exact .unchanged rfl rfl rfl

private theorem drain_consumes {attempt : AttemptRef} {authority : RequestId}
    {disposition : ClosureDisposition}
    (taken : drain state context attempt authority disposition = .ok change) :
    Consumes state change := by
  unfold drain at taken
  split at taken
  · cases taken
    exact .unchanged rfl rfl rfl
  split at taken
  · cases taken
    exact .unchanged rfl rfl rfl
  split at taken
  · cases taken
    exact .unchanged rfl rfl rfl
  refine rewriteInputs_consumes (fun record entry turned => ?_) taken
  cases turned
  split
  · rename_i eligible
    obtain ⟨pending, -⟩ : record.receipt = none ∧ record.reservedTo = none := by
      simpa [free] using (Bool.and_eq_true_iff.mp eligible).2
    exact drop_turned pending _ _
  · exact .kept record

private theorem advance_consumes {event : InputEvent}
    (taken : advance digests state context event = .ok change) : Consumes state change := by
  cases event with
  | sessionInputReceived input =>
    obtain ⟨added, joins, -⟩ := received_joins taken
    exact joins.consumes
  | steerReceived ref inputs =>
    obtain ⟨added, joins, -⟩ := steer_joins taken
    exact joins.consumes
  | inputReservationRequested ref =>
    cases taken
    exact reserve_consumes ref
  | inputAcceptanceObserved ref observation =>
    have accepted : acceptance digests state context .accepted ref observation = .ok change := taken
    exact acceptance_consumes accepted
  | inputReservationReleased ref observation =>
    have released : acceptance digests state context .released ref observation = .ok change := taken
    exact acceptance_consumes released
  | sessionDrainRequested attempt authority disposition => exact drain_consumes taken

end

def finishTurn (nowAt : Seconds) (record : InputRecord) : TurnedInput :=
  (finishInput nowAt record,
    if inputPending record then some (terminalReceipt record.input nowAt) else none)

private theorem finishTurn_turned (nowAt : Seconds) (record : InputRecord) :
    InputTurned record (finishTurn nowAt record) := by
  unfold finishTurn finishInput
  split_ifs with pending
  · exact drop_turned (Option.isNone_iff_eq_none.mp pending) .runTerminal nowAt
  · exact .kept record

private theorem finishRun_consumes {run : RunState} {ended : Change}
    (finished : finishRun state run = .ok ended) :
    Consumes state ended ∧ (∀ record ∈ ended.state.inputs, record.receipt.isSome) ∧
      ended.state.inputs.map InputRecord.input = state.inputs.map InputRecord.input := by
  unfold finishRun at finished
  split_ifs at finished
  cases finished
  have turned : List.Forall₂ InputTurned state.inputs
      (state.inputs.map (finishTurn run.nowAt)) := by
    rw [forall₂_map_right_iff, forall₂_same]
    exact fun record _ => finishTurn_turned run.nowAt record
  have rows : (state.inputs.map (finishTurn run.nowAt)).map Prod.fst =
      state.inputs.map (finishInput run.nowAt) := by
    rw [map_map]
    rfl
  have receipts : (state.inputs.map (finishTurn run.nowAt)).filterMap Prod.snd =
      (state.inputs.filter inputPending).map fun record =>
        terminalReceipt record.input run.nowAt := by
    induction state.inputs with
    | nil => rfl
    | cons record records ih =>
      by_cases pending : inputPending record
      · simp [finishTurn, pending, ih]
      · simp [finishTurn, pending, ih]
  have moved := Moves.rewrite turned
  rw [rows, receipts] at moved
  refine ⟨⟨_, ?_, moved⟩, ?_, ?_⟩
  · rw [map_map]
    rfl
  · intro record mem
    obtain ⟨old, -, rfl⟩ := mem_map.mp mem
    by_cases pending : inputPending old
    · simp [finishInput, pending]
    · rw [show finishInput run.nowAt old = old from if_neg pending]
      simpa [inputPending, Option.isSome_iff_ne_none] using pending
  · rw [← rows]
    exact map_input_rewritten turned

inductive InputMove
  | input (context : SessionsContext) (event : InputEvent)
  | turns (next : SessionsState)

def moveInputs (digests : Digests) (state : SessionsState) : InputMove → Except CoreError Change
  | .input context event => advance digests state context event
  | .turns next =>
    if next.inputs = state.inputs then .ok { state := next }
    else .error (.contract ["sessions", "inputs"] "owned by the inputs leaf")

/-- Runs of the session inputs. -/
abbrev InputRun (digests : Digests) := Run (Produces (moveInputs digests) AreaChange.state)

def receiptsIn (events : List StrategyEvent) : List InputReceipt :=
  events.filterMap fun
    | .inputReceipt receipt => some receipt
    | _ => none

private theorem receiptsIn_map (receipts : List InputReceipt) :
    receiptsIn (receipts.map .inputReceipt) = receipts := by
  simp [receiptsIn]

private theorem receiptsIn_append (first second : List StrategyEvent) :
    receiptsIn (first ++ second) = receiptsIn first ++ receiptsIn second :=
  filterMap_append

def publishedBy (labels : List (InputMove × Change)) : List StrategyEvent :=
  labels.flatMap fun label => label.2.events

section
variable {digests : Digests} {first last state : SessionsState} {move : InputMove}
  {change : Change} {labels : List (InputMove × Change)}

private theorem moveInputs_consumes (moved : moveInputs digests state move = .ok change) :
    Consumes state change := by
  cases move with
  | input context event => exact advance_consumes moved
  | turns next =>
    simp only [moveInputs] at moved
    split_ifs at moved with same
    cases moved
    exact .unchanged same rfl rfl

theorem Consumes.moves (consumes : Consumes state change) :
    change.events = (receiptsIn change.events).map .inputReceipt ∧
      Moves state.inputs change.state.inputs (receiptsIn change.events) := by
  obtain ⟨receipts, published, moved⟩ := consumes
  rw [published, receiptsIn_map]
  exact ⟨rfl, moved⟩

private theorem step_moves {label : InputMove × Change}
    (step : Produces (moveInputs digests) AreaChange.state first label last) :
    Moves first.inputs last.inputs (receiptsIn label.2.events) := by
  obtain ⟨moved, rfl⟩ := step
  exact (moveInputs_consumes moved).moves.2

section
variable (run : InputRun digests first labels last)

include run

theorem InputRun.distinct (distinct : Distinct InputRecord.inputId first.inputs) :
    Distinct InputRecord.inputId last.inputs :=
  run.invariant (fun state => Distinct InputRecord.inputId state.inputs)
    (fun held step => (step_moves step).distinct held) distinct

theorem InputRun.occurrences :
    first.inputs.map InputRecord.input <+: last.inputs.map InputRecord.input := by
  induction run with
  | nil state => exact prefix_rfl
  | cons head _ ih => exact (step_moves head).occurrences.trans ih

theorem InputRun.settled
    (mem : record ∈ first.inputs) (settled : record.receipt.isSome) : record ∈ last.inputs :=
  run.invariant (fun state => record ∈ state.inputs)
    (fun held step => (step_moves step).settled held settled) mem

theorem InputRun.writes
    (distinct : Distinct InputRecord.inputId first.inputs) (identity : InputId) :
    Writes (receiptOf first.inputs identity) (receiptOf last.inputs identity)
      (receiptsAbout (receiptsIn (publishedBy labels)) identity) := by
  have whole := Writes.along (fun state : SessionsState => receiptOf state.inputs identity)
    (fun label => receiptsAbout (receiptsIn label.2.events) identity)
    (fun state => Distinct InputRecord.inputId state.inputs)
    (fun held step => (step_moves step).distinct held)
    (fun held step => (step_moves step).writes held identity) run distinct
  have joined : receiptsAbout (receiptsIn (publishedBy labels)) identity =
      labels.flatMap fun label => receiptsAbout (receiptsIn label.2.events) identity := by
    clear whole run
    induction labels with
    | nil => rfl
    | cons label labels ih =>
      rw [publishedBy, flatMap_cons, flatMap_cons, receiptsIn_append, receiptsAbout,
        about_append]
      exact congrArg _ ih
  rw [joined]
  exact whole

end

/-- What one move may consume and publish. -/
structure ConsumesOnce (state : SessionsState) (move : InputMove) (change : Change) : Prop where
  /-- Only receipts are published. -/
  receipts : change.events = (receiptsIn change.events).map .inputReceipt
  /-- An occurrence with a receipt keeps it; one without publishes exactly the one it is given. -/
  published : ∀ identity,
    Writes (receiptOf state.inputs identity) (receiptOf change.state.inputs identity)
      (receiptsAbout (receiptsIn change.events) identity)
  /-- Only the invocation an open occurrence is reserved to is delivered it. -/
  delivered : ∀ identity ref observation,
    .inputReceipt (.delivered identity ref observation) ∈ change.events →
      ∃ record ∈ state.inputs, record.inputId = identity ∧ record.receipt = none ∧
        record.reservedTo = some ref
  /-- A reserved occurrence is not handed to another invocation. -/
  handed : ∀ old ∈ state.inputs, ∀ new ∈ change.state.inputs, new.inputId = old.inputId →
    ∀ holder next, old.reservedTo = some holder → new.reservedTo = some next → next = holder
  /-- A received occurrence is in the ledger. -/
  arrived : ∀ context input, move = .input context (.sessionInputReceived input) →
    input ∈ change.state.inputs.map InputRecord.input
  steered : ∀ context ref inputs, move = .input context (.steerReceived ref inputs) →
    ∀ input ∈ inputs, input ∈ change.state.inputs.map InputRecord.input

private theorem moveInputs_consumesOnce (distinct : Distinct InputRecord.inputId state.inputs)
    (moved : moveInputs digests state move = .ok change) : ConsumesOnce state move change := by
  obtain ⟨receipts, moves⟩ := (moveInputs_consumes moved).moves
  refine ⟨receipts, moves.writes distinct, ?_, ?_, ?_, ?_⟩
  · intro identity ref observation published
    have listed : .delivered identity ref observation ∈ receiptsIn change.events := by
      rw [receipts] at published
      obtain ⟨receipt, listed, same⟩ := mem_map.mp published
      cases same
      exact listed
    exact moves.delivered listed
  · intro old was new is same holder next held holds
    exact moves.handed distinct was is same held holds
  · rintro context input rfl
    obtain ⟨added, -, listed⟩ := received_joins moved
    exact listed
  · rintro context ref inputs rfl
    obtain ⟨added, -, listed⟩ := steer_joins moved
    exact listed

end

def receiptsHeld (state : SessionsState) (identity : InputId) : List InputReceipt :=
  (state.inputs.filter fun record => record.inputId = identity).filterMap InputRecord.receipt

private theorem receiptsHeld_of_mem (distinct : Distinct InputRecord.inputId state.inputs)
    (mem : record ∈ state.inputs) : receiptsHeld state record.inputId = record.receipt.toList := by
  rw [receiptsHeld, distinct.filter_key mem]
  cases written : record.receipt <;> simp [written]

private theorem receiptsHeld_length_le (distinct : Distinct InputRecord.inputId state.inputs)
    (identity : InputId) : (receiptsHeld state identity).length ≤ 1 := by
  by_cases known : ∃ record ∈ state.inputs, record.inputId = identity
  · obtain ⟨record, mem, rfl⟩ := known
    rw [receiptsHeld_of_mem distinct mem]
    cases record.receipt <;> simp
  · have absent : state.inputs.filter (fun record => decide (record.inputId = identity)) = [] := by
      simpa using known
    simp [receiptsHeld, absent]

/-- No occurrence is lost, rewritten or duplicated, and after `finish_run` each has exactly one
receipt, published once. -/
theorem inputs_are_consumed_once {digests : Digests} {first middle last : SessionsState}
    {earlier later : List (InputMove × Change)} {run : RunState} {ended : Change}
    (distinct : Distinct InputRecord.inputId first.inputs)
    (reached : InputRun digests first earlier middle)
    (continued : InputRun digests middle later last) (finished : finishRun last run = .ok ended) :
    (∀ move change, moveInputs digests middle move = .ok change →
        ConsumesOnce middle move change) ∧
      (Distinct InputRecord.inputId middle.inputs ∧
        first.inputs.map InputRecord.input <+: middle.inputs.map InputRecord.input ∧
        middle.inputs.map InputRecord.input <+: last.inputs.map InputRecord.input ∧
        ended.state.inputs.map InputRecord.input = last.inputs.map InputRecord.input) ∧
      ((∀ identity, (receiptsHeld middle identity).length ≤ 1) ∧
        ∀ record ∈ middle.inputs, record.receipt.isSome →
          record ∈ last.inputs ∧ record ∈ ended.state.inputs) ∧
      (∀ input ∈ ended.state.inputs.map InputRecord.input,
        (receiptsHeld ended.state input.inputId).length = 1) ∧
      (∀ identity, Writes (receiptOf last.inputs identity) (receiptOf ended.state.inputs identity)
        (receiptsAbout (receiptsIn ended.events) identity)) ∧
      ∀ identity, Writes (receiptOf first.inputs identity) (receiptOf ended.state.inputs identity)
        (receiptsAbout (receiptsIn (publishedBy (earlier ++ later) ++ ended.events))
          identity) := by
  have distinctMiddle := InputRun.distinct reached distinct
  have distinctLast := InputRun.distinct continued distinctMiddle
  obtain ⟨consumes, complete, same⟩ := finishRun_consumes finished
  have closing := consumes.moves.2
  have ending := closing.writes distinctLast
  refine ⟨fun move change moved => moveInputs_consumesOnce distinctMiddle moved,
    ⟨distinctMiddle, InputRun.occurrences reached, InputRun.occurrences continued, same⟩,
    ⟨receiptsHeld_length_le distinctMiddle, fun record member settled => ?_⟩, ?_, ending, ?_⟩
  · have stays := InputRun.settled continued member settled
    exact ⟨stays, closing.settled stays settled⟩
  · intro input listed
    obtain ⟨record, member, rfl⟩ := mem_map.mp listed
    have one := receiptsHeld_of_mem (closing.distinct distinctLast) member
    rw [InputRecord.inputId] at one
    rw [one]
    obtain ⟨receipt, written⟩ := Option.isSome_iff_exists.mp (complete record member)
    rw [written]
    rfl
  · intro identity
    rw [receiptsIn_append, receiptsAbout, about_append]
    exact (InputRun.writes (reached.append continued) distinct identity).trans (ending identity)

/-! ### A steered turn -/

def steeredRef : InvocationRef := ⟨⟨"session"⟩, ⟨"turn"⟩, 0⟩

def steeredTurn : TurnSpec where
  session := ⟨⟨"session"⟩, ⟨"role"⟩, .readOnly, ⟨""⟩⟩
  invocationId := ⟨"turn"⟩
  continuationId := none
  workspace := .scope sampleScope
  outputSchema := ⟨"reply", 1⟩
  chargeClass := .free
  predecessor := none
  content := ⟨""⟩

def steeredInvocation : Invocation where
  invocation := steeredRef
  scope := sampleScope
  turn := steeredTurn
  phase := .acquiring
  until_ := { at_ := 100 }

def steeredSessions : SessionsState where
  sessions :=
    [{ spec := steeredTurn.session, scope := sampleScope, generation := 0, phase := .executing
       invocation := some ⟨"turn"⟩ }]
  invocations := [steeredInvocation]

def note : SessionInput where
  inputId := ⟨"note"⟩
  target := .scope sampleScope
  artifact := ⟨"a"⟩
  receivedAt := 0
  sequence := 0

def nudge : SessionInput where
  inputId := ⟨"nudge"⟩
  target := .invocation steeredRef
  artifact := ⟨"b"⟩
  receivedAt := 0
  sequence := 1

def steeredDispatch : Request :=
  { requestId := some ⟨"dispatch"⟩, scope := sampleScope
    body := .dispatchTurn steeredTurn [note, nudge] }

def steeredAnswer : Observation where
  eventId := ⟨"answer"⟩
  requestId := ⟨"dispatch"⟩
  scope := sampleScope
  sequence := 1
  observedAt := 2
  status := .succeeded
  accepted := true
  terminal := true

def steeredContext : SessionsContext where
  run := sampleRun
  attempts := {}
  evaluation := {}
  records :=
    { records :=
        [{ requestId := ⟨"dispatch"⟩, request := steeredDispatch, payloadDigest := "dispatch"
           lifecycle := .sessionTurn, phase := .dispatched, until_ := { at_ := 100 } }] }

def answeredSessions (inputs : List InputRecord) : SessionsState :=
  { steeredSessions with
    inputs := inputs
    invocations := [{ steeredInvocation with
      phase := .terminal, observation := some steeredAnswer, inputIds := [⟨"note"⟩, ⟨"nudge"⟩] }] }

def reservingMoves : List InputMove :=
  [.input steeredContext (.sessionInputReceived note),
    .input steeredContext (.steerReceived steeredRef [nudge]),
    .input steeredContext (.inputReservationRequested steeredRef)]

def reservedSessions : SessionsState :=
  outcome (moveInputs sampleDigests) AreaChange.state steeredSessions reservingMoves

def acceptingMoves : List InputMove :=
  [.turns (answeredSessions reservedSessions.inputs),
    .input steeredContext (.inputAcceptanceObserved steeredRef steeredAnswer)]

def acceptedSessions : SessionsState :=
  outcome (moveInputs sampleDigests) AreaChange.state reservedSessions acceptingMoves

theorem steered_turn_takes_both_inputs :
    ∃ earlier later ended,
      InputRun sampleDigests steeredSessions earlier reservedSessions ∧
      InputRun sampleDigests reservedSessions later acceptedSessions ∧
      finishRun acceptedSessions { sampleRun with status := .terminal } = .ok ended ∧
      acceptedSessions.inputs.map InputRecord.receipt =
        [some (.delivered ⟨"note"⟩ steeredRef steeredAnswer),
          some (.delivered ⟨"nudge"⟩ steeredRef steeredAnswer)] ∧
      ∀ input ∈ ended.state.inputs.map InputRecord.input,
        (receiptsHeld ended.state input.inputId).length = 1 := by
  have reserves : (execute (moveInputs sampleDigests) AreaChange.state steeredSessions
      reservingMoves).isOk := by decide +kernel
  have accepts : (execute (moveInputs sampleDigests) AreaChange.state reservedSessions
      acceptingMoves).isOk := by decide +kernel
  obtain ⟨earlier, reached⟩ := Run.of_outcome reserves
  obtain ⟨later, continued⟩ := Run.of_outcome accepts
  have distinct : Distinct InputRecord.inputId steeredSessions.inputs := nodup_nil
  have finished : finishRun acceptedSessions { sampleRun with status := .terminal } = .ok _ := rfl
  have once := inputs_are_consumed_once distinct reached continued finished
  exact ⟨earlier, later, _, reached, continued, finished, by decide +kernel, once.2.2.2.1⟩

end VibeServeCore.Sessions
