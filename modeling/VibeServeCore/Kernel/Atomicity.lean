/- source: _step.py (`_LeafRejectionError`, `propagate`, `_submitted`, `_proposal`)
   digest: A batch does what its accepted decisions alone would do. -/

import VibeServeCore.Kernel.Refusals
import VibeServeCore.Kernel.Replay

namespace VibeServeCore.Kernel

open Types Proofs Episode List Foundation.Process
open Registration (registerRequests resolve attributeRequests)
open Watches (watchDeadlines)
open Records (sampleRun adoptionRequest adoptionAnswer)

section
variable {digests : Digests} {ids : List DecisionId} {state : CoreState}

section
variable (refusals : Refusals ids state.run.receipts)

include refusals

end

/-- What the rest of a batch leaves of a refusal. -/
def refusalView (receipt : DecisionReceipt) :
    DecisionId × Option Command × Option CompletionStatus :=
  (receipt.decisionId, receipt.decision,
    if receipt.decision.isSome then none else receipt.completion)

private theorem refusalView_lasting : Lasting refusalView where
  attributed := fun _ _ => rfl
  completed := fun receipt completion decided => by simp [refusalView, decided]

theorem Refusals.of_views {receipts later : List DecisionReceipt} (refusals : Refusals ids receipts)
    (views : later.map refusalView = receipts.map refusalView) : Refusals ids later := by
  have source : ∀ receipt ∈ later, receipt.decisionId ∈ ids → ∃ before ∈ receipts,
      before.decisionId ∈ ids ∧ refusalView before = refusalView receipt := by
    intro receipt mem refused
    have viewed : refusalView receipt ∈ receipts.map refusalView := by
      rw [← views]
      exact mem_map_of_mem mem
    obtain ⟨before, listed, same⟩ := mem_map.mp viewed
    have named : before.decisionId = receipt.decisionId := congrArg Prod.fst same
    exact ⟨before, listed, named ▸ refused, same⟩
  have commandless : ∀ receipt ∈ later, receipt.decisionId ∈ ids → receipt.decision = none := by
    intro receipt mem refused
    obtain ⟨before, listed, known, same⟩ := source receipt mem refused
    exact (congrArg (fun view => view.2.1) same).symm.trans
      (refusals.commandless before listed known)
  refine ⟨commandless, fun receipt mem refused => ?_, fun decisionId refused => ?_⟩
  · obtain ⟨before, listed, known, same⟩ := source receipt mem refused
    have completion := congrArg (fun view => view.2.2) same
    simp only [refusalView, commandless receipt mem refused,
      refusals.commandless before listed known] at completion
    exact completion.symm.trans (refusals.incomplete before listed known)
  · have counted : ∀ rows : List DecisionReceipt,
        (rows.filter fun receipt => receipt.decisionId = decisionId).length =
          ((rows.map refusalView).filter fun view => view.1 = decisionId).length := by
      intro rows
      rw [filter_map, length_map]
      rfl
    rw [counted, views, ← counted]
    exact refusals.single decisionId refused

private theorem completeLeading_views {after : CoreState} {queue rest : List Pending}
    (completed : completeLeading digests state queue = .ok (after, rest)) :
    after.run.receipts.map refusalView = state.run.receipts.map refusalView := by
  induction queue generalizing state with
  | nil =>
    cases completed
    rfl
  | cons entry queue ih =>
    obtain ⟨signal, cause, admission⟩ := entry
    cases signal with
    | decisionCompleted decisionId status =>
      obtain ⟨middle, first, completed⟩ := bind_ok completed
      rw [ih completed, completeDecision_view refusalView_lasting first]
    | _ =>
      cases completed
      rfl

def Propagation.without (ids : List DecisionId) (loop : Propagation) : Propagation :=
  { loop with state := Kernel.without ids loop.state }

variable {loop : Propagation}

theorem Turns.views {next : Propagation} {entry : Option Pending}
    (turns : Turns digests loop entry next) :
    next.state.run.receipts.map refusalView = loop.state.run.receipts.map refusalView := by
  obtain ⟨queue, completed, -⟩ := turns.taken
  exact completeLeading_views completed

def lostLimit : CoreError :=
  .contract ["until"] "an inherited until needs its accepted decision"

end

section
variable {kernel : Kernel} {ids : List DecisionId} {state : CoreState}

/-- The value expected, or a lost limit. -/
def Agrees {Value : Type} (alone : Except StepError Value) (expected : Value) : Prop :=
  alone = .ok expected ∨ alone = .error (.core lostLimit)

def Transition.without (ids : List DecisionId) (result : Transition) : Transition :=
  { result with state := Kernel.without ids result.state }

end

section
variable {kernel : Kernel} {ids : List DecisionId} {state : CoreState}

theorem Refusals.addReceipt {receipt : DecisionReceipt} (refusals : Refusals ids state.run.receipts)
    (other : receipt.decisionId ∉ ids) :
    Refusals ids (Kernel.addReceipt state receipt).run.receipts where
  commandless := by
    intro row mem refused
    rcases mem_append.mp mem with mem | mem
    · exact refusals.commandless row mem refused
    · rw [mem_singleton.mp mem] at refused
      exact absurd refused other
  incomplete := by
    intro row mem refused
    rcases mem_append.mp mem with mem | mem
    · exact refusals.incomplete row mem refused
    · rw [mem_singleton.mp mem] at refused
      exact absurd refused other
  single := by
    intro decisionId refused
    have differs : receipt.decisionId ≠ decisionId := fun same => other (same ▸ refused)
    simpa [Kernel.addReceipt, CoreState.withReceipts, filter_append, differs]
      using refusals.single decisionId refused

end

structure Taken where
  submission : Submission
  before : CoreState
  result : Transition

namespace Taken

def accepted (step : Taken) : Bool := announcesAcceptance step.result.events

def refused (step : Taken) : Bool :=
  (receiptOf step.before step.submission.command.decisionId).isNone && !step.accepted

/-- A decision not accepted changes no area and requests nothing; a refusal adds one receipt. -/
structure Declined (step : Taken) : Prop where
  refusal : step.refused → ∃ receipt rejection,
    receipt.decisionId = step.submission.command.decisionId ∧ receipt.decision = none ∧
      receipt.completion = none ∧ step.result =
        { state := addReceipt step.before receipt, events := [.feedback (.rejected rejection)] }
  receipted : step.refused = false → step.result = { state := step.before } ∨
    step.result =
      { state := step.before
        events := [.feedback (.rejected (identityConflict step.submission.command))] }

end Taken

/-- The batch, one submission after another. -/
def take (kernel : Kernel) : CoreState → List Submission → Except StepError (List Taken)
  | _, [] => .ok []
  | state, submission :: batch => do
    let result ← submitted kernel state submission state.revision
    let later ← take kernel result.state batch
    return ⟨submission, state, result⟩ :: later

def acceptedOf (steps : List Taken) : List Taken := steps.filter Taken.accepted

def refusedIds (steps : List Taken) : List DecisionId :=
  (steps.filter Taken.refused).map fun step => step.submission.command.decisionId

section
variable {kernel : Kernel} {ids : List DecisionId} {state : CoreState} {submission : Submission}
  {result : Transition}

theorem Refusals.not_mem_of_fresh {decisionId : DecisionId}
    (refusals : Refusals ids state.run.receipts)
    (fresh : receiptOf state decisionId = none) : decisionId ∉ ids := by
  intro refused
  have one := refusals.single decisionId refused
  have none_ : state.run.receipts.filter (fun receipt => receipt.decisionId = decisionId) = [] :=
    filter_eq_nil_iff.mpr fun receipt mem => find?_eq_none.mp fresh receipt mem
  rw [none_] at one
  cases one

theorem Refusals.accepted {inner : Transition} (refusals : Refusals ids state.run.receipts)
    (fresh : receiptOf state submission.command.decisionId = none)
    (propagated : propagateDecision kernel state submission = .ok inner) :
    Refusals ids (accept (openedReceipt kernel.digests state.run submission)
      inner).state.run.receipts := by
  have other := refusals.not_mem_of_fresh fresh
  obtain ⟨earlier, own, receipts, -, -, accepted⟩ := accept_state fresh propagated
  have added : Refusals ids (Kernel.addReceipt state
      (openedReceipt kernel.digests state.run submission)).run.receipts :=
    refusals.addReceipt other
  have views := propagateDecision_receipts refusalView_lasting propagated
  rw [accepted]
  refine added.of_views ?_
  rw [receipts] at views
  simp only [CoreState.withReceipts, Kernel.addReceipt, map_append, map_cons, map_nil] at views ⊢
  exact views

theorem Refusals.refused {receipt : DecisionReceipt} (refusals : Refusals ids state.run.receipts)
    (fresh : receiptOf state receipt.decisionId = none) (commandless : receipt.decision = none)
    (incomplete : receipt.completion = none) :
    Refusals (ids ++ [receipt.decisionId]) (Kernel.addReceipt state receipt).run.receipts ∧
      without (ids ++ [receipt.decisionId]) (Kernel.addReceipt state receipt) =
        without ids state := by
  have other := refusals.not_mem_of_fresh fresh
  have absent : ∀ row ∈ state.run.receipts, row.decisionId ≠ receipt.decisionId := by
    intro row mem named
    exact find?_eq_none.mp fresh row mem (decide_eq_true named)
  have added := refusals.addReceipt other
  refine ⟨⟨fun row mem refused => ?_, fun row mem refused => ?_, fun decisionId refused => ?_⟩, ?_⟩
  · rcases mem_append.mp refused with refused | refused
    · exact added.commandless row mem refused
    · rcases mem_append.mp mem with mem | mem
      · exact absurd (mem_singleton.mp refused) (absent row mem)
      · rw [mem_singleton.mp mem]
        exact commandless
  · rcases mem_append.mp refused with refused | refused
    · exact added.incomplete row mem refused
    · rcases mem_append.mp mem with mem | mem
      · exact absurd (mem_singleton.mp refused) (absent row mem)
      · rw [mem_singleton.mp mem]
        exact incomplete
  · rcases mem_append.mp refused with refused | refused
    · exact added.single decisionId refused
    rw [mem_singleton.mp refused]
    have before : state.run.receipts.filter
        (fun row => row.decisionId = receipt.decisionId) = [] :=
      filter_eq_nil_iff.mpr fun row mem => by simp [absent row mem]
    simp [Kernel.addReceipt, CoreState.withReceipts, filter_append, before]
  · have same : otherReceipts (ids ++ [receipt.decisionId]) (state.run.receipts ++ [receipt]) =
        otherReceipts ids state.run.receipts := by
      unfold otherReceipts
      rw [filter_append]
      have rest : state.run.receipts.filter
          (fun row => row.decisionId ∉ ids ++ [receipt.decisionId]) =
          state.run.receipts.filter fun row => row.decisionId ∉ ids :=
        filter_congr fun row mem => by simp [absent row mem]
      rw [rest]
      simp
    simp only [without, Kernel.addReceipt, CoreState.withReceipts, same]

structure Splits (kernel : Kernel) (ids : List DecisionId) (done lone : Transition)
    (batch : List Submission) (final : Transition) (steps : List Taken) : Prop where
  taken : take kernel done.state batch = .ok steps
  requests : final.requests =
    done.requests ++ (acceptedOf steps).flatMap fun step => step.result.requests
  events : final.events = done.events ++ steps.flatMap fun step => step.result.events
  declined : ∀ step ∈ steps, step.accepted = false → step.Declined
  refusals : Refusals (ids ++ refusedIds steps) final.state.run.receipts
  alone : Agrees (Foundation.Process.sequence (submitNext kernel) lone
      ((acceptedOf steps).map (·.submission)))
    { state := without (ids ++ refusedIds steps) final.state
      requests := lone.requests ++ (acceptedOf steps).flatMap fun step => step.result.requests
      events := lone.events ++ (acceptedOf steps).flatMap fun step => step.result.events }

namespace Splits

variable {done lone final : Transition} {batch : List Submission} {steps : List Taken}

section
variable (submits : submitted kernel done.state submission done.state.revision = .ok result)

include submits

private theorem taken_cons (taken : take kernel (done.andThen result).state batch = .ok steps) :
    take kernel done.state (submission :: batch) =
      .ok (⟨submission, done.state, result⟩ :: steps) := by
  have later : take kernel result.state batch = .ok steps := taken
  simp only [take, submits, later, bind, Except.bind]
  rfl

private theorem accept (accepted : announcesAcceptance result.events) (alone : Agrees (submitted
      kernel lone.state submission lone.state.revision) (Transition.without ids result))
    (splits : Splits kernel ids (done.andThen result) (lone.andThen (Transition.without ids result))
      batch final steps) :
    Splits kernel ids done lone (submission :: batch) final
      (⟨submission, done.state, result⟩ :: steps) := by
  have kept : acceptedOf (⟨submission, done.state, result⟩ :: steps) =
      ⟨submission, done.state, result⟩ :: acceptedOf steps :=
    filter_cons_of_pos accepted
  have unrefused : refusedIds (⟨submission, done.state, result⟩ :: steps) = refusedIds steps := by
    simp [refusedIds, Taken.refused, Taken.accepted, accepted]
  refine ⟨taken_cons submits splits.taken, ?_, ?_, ?_, ?_, ?_⟩
  · rw [splits.requests, kept, flatMap_cons, ← append_assoc]
    rfl
  · rw [splits.events, flatMap_cons, ← append_assoc]
    rfl
  · intro step mem declined
    rcases mem_cons.mp mem with rfl | mem
    · exact absurd declined (by simp [Taken.accepted, accepted])
    · exact splits.declined step mem declined
  · rw [unrefused]
    exact splits.refusals
  · rw [kept, unrefused, map_cons, flatMap_cons, flatMap_cons]
    simp only [Foundation.Process.sequence, submitNext]
    rcases alone with again | fails
    · rw [again]
      have rest := splits.alone
      simp only [Transition.andThen, append_assoc] at rest
      exact rest
    · right
      rw [fails]
      rfl

end

end Splits

end

/-! ## Sample batches with refusals -/

end VibeServeCore.Kernel
