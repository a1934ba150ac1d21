/- source: _request_recovery.py (_deadline), _watches.py
   digest: When a passed limit or a fired watch ends the open record it is raised for. -/

import VibeServeCore.Records.Finality
import VibeServeCore.RequestRecovery.Identity

/-! A deadline leaves an open record BLOCKED, unless recovery resolves it as terminal already, as
an executor brings about by reporting a success it did not accept. -/

namespace VibeServeCore.Records

open Types Proofs Foundation.Ledger Foundation.Process RequestRecovery Clock Watches List

def watchReason : FailureReason → Bool
  | .workspaceClosed | .ownerGone => true
  | _ => false

/-- A watch fired, or the time of the record has come. -/
def DeadlinePassed (state : RecordsState) (context : RecordsContext) (record : RequestRecord)
    (nowAt : Seconds) (reason : FailureReason) : Prop :=
  watchReason reason ∨
    (reason = .timedOut ∧
      (recordBound record context.evaluation context.run state.hosts).at_ ≤
        max context.run.nowAt nowAt ∧
      ∀ until_, awaitingReport state record = some until_ → until_ ≤ max context.run.nowAt nowAt)

def deadlineCancels (digests : Digests) (state : RecordsState) (context : RecordsContext)
    (record : RequestRecord) : List Request :=
  (deadlineResources digests state context record (resolution digests record context)).map
    (deadlineCancel record state.recovery.epoch)

/-- When a deadline event ends the record. -/
structure EndsAtDeadline (digests : Digests) (state : RecordsState) (context : RecordsContext)
    (record : RequestRecord) (reason : FailureReason) : Prop where
  /-- The record is not resolved as terminal with nothing left to release. -/
  unresolved : ¬(resolution digests record context = .terminal ∧
    unresolvedChildren digests state record = false)
  /-- A watch reason names a watch the record has. -/
  watch : watchReason reason → (firedWatch record reason).isSome
  /-- The descendants recorded are well formed. -/
  children : (validateChildren state).isOk
  /-- No other request took the identity of the block, a cancel or the last inspection. -/
  block : (previousBlock state record).isOk
  cancels : (pendingCancellations state (deadlineCancels digests state context record)).isOk
  barrier : (gatedBarrier digests state context record).isOk
  /-- The turn a sent dispatch runs is known, unless it was already cancelled. -/
  turn : (previousBlock state record).map Option.isNone = .ok true → record.phase ≠ .prepared →
    (RequestForward.turnOf context record).isOk

section
variable {digests : Digests} {state : RecordsState} {context : RecordsContext}
  {record : RequestRecord} {nowAt : Seconds} {reason : FailureReason}

instance : Decidable (EndsAtDeadline digests state context record reason) :=
  decidable_of_iff
    (¬(resolution digests record context = .terminal ∧
        unresolvedChildren digests state record = false) ∧
      (watchReason reason → (firedWatch record reason).isSome) ∧ (validateChildren state).isOk ∧
      (previousBlock state record).isOk ∧
      (pendingCancellations state (deadlineCancels digests state context record)).isOk ∧
      (gatedBarrier digests state context record).isOk ∧
      ((previousBlock state record).map Option.isNone = .ok true → record.phase ≠ .prepared →
        (RequestForward.turnOf context record).isOk))
    ⟨fun ⟨unresolved, watch, children, block, cancels, barrier, turn⟩ =>
      ⟨unresolved, watch, children, block, cancels, barrier, turn⟩,
    fun ends => ⟨ends.unresolved, ends.watch, ends.children, ends.block, ends.cancels,
      ends.barrier, ends.turn⟩⟩

private theorem isOk_iff {Error Value : Type*} {result : Except Error Value} :
    result.isOk ↔ ∃ value, result = .ok value := by
  cases result <;> simp [Except.isOk, Except.toBool]

private theorem deadlineTarget_canonical (found : state.record record.requestId = some record)
    (opened : record.isOpen) (fuel : Nat) :
    deadlineTarget state (fuel + 1) [] record.requestId = .ok record := by
  have canonical : record.request.body.commandTarget? = none := by
    simpa [RequestRecord.isOpen, RequestRecord.isCanonical] using
      (Bool.and_eq_true_iff.mp opened).1
  simp [deadlineTarget, found, canonical]

private theorem deadlineWaits_iff (opened : record.isOpen)
    (passed : DeadlinePassed state context record nowAt reason) :
    deadlineWaits digests state context record (max context.run.nowAt nowAt) reason ↔
      resolution digests record context = .terminal ∧
        unresolvedChildren digests state record = false := by
  unfold deadlineWaits
  rcases passed with fired | ⟨rfl, bound, awaited⟩
  · have untimed : reason ≠ .timedOut := by
      rintro rfl
      cases fired
    simp [untimed]
  · generalize max context.run.nowAt nowAt = now at bound awaited ⊢
    have reported : ((awaitingReport state record).any fun until_ => decide (now < until_)) =
        false := by
      cases asked : awaitingReport state record with
      | none => rfl
      | some until_ => simpa using awaited until_ asked
    simp [not_lt.mpr bound, reported, opened]

private theorem failure_isOk (passed : DeadlinePassed state context record nowAt reason)
    (bound : Bound) (limitAt : Seconds) :
    (RequestRecovery.failure record (deadlineReason reason bound) limitAt).isOk ↔
      (watchReason reason → (firedWatch record reason).isSome) := by
  rcases passed with fired | ⟨rfl, -, -⟩
  · cases reason <;> cases fired <;>
      simp [RequestRecovery.failure, buildFailed, deadlineReason, limitReason, watchReason, Except.isOk,
        Except.toBool] <;> split_ifs <;> simp_all
  have timedOut : firedWatch record .timedOut = none := by simp [firedWatch]
  have queueSpent : firedWatch record .queueBudgetSpent = none := by simp [firedWatch]
  by_cases queued : bound.by_ = .queueBudget
  · simp [RequestRecovery.failure, buildFailed, deadlineReason, queued, limitReason, watchReason,
      queueSpent, Except.isOk, Except.toBool]
  · simp [RequestRecovery.failure, buildFailed, deadlineReason, queued, limitReason, watchReason,
      timedOut, Except.isOk, Except.toBool]

/-! ## Ending the record -/

private theorem sameEpoch_blocked (found : state.record record.requestId = some record)
    (failed : Failed)
    (lost first : Bool) : SameEpoch state (endOpenRecord state record failed lost first).1 := by
  unfold endOpenRecord
  split_ifs
  · exact .refl state
  · exact ⟨.replaceRecord found rfl, rfl, Iff.rfl, rfl⟩

private theorem lostTurn_isOk {first : Bool} (opened : record.isOpen) :
    (lostTurn context record first).isOk ↔
      (first → record.phase ≠ .prepared →
        (RequestForward.turnOf context record).isOk) := by
  unfold lostTurn
  cases first
  · simp [Except.isOk, Except.toBool]
  by_cases prepared : record.phase = .prepared
  · simp [prepared, Except.isOk, Except.toBool]
  · simp only [opened, prepared, Bool.not_true, Bool.false_or, decide_false, Bool.false_eq_true,
      if_false, ne_eq, not_false_eq_true, forall_const]
    cases RequestForward.turnOf context record <;> simp [Except.isOk, Except.toBool, Except.map]

private theorem endAtDeadline_isOk (found : state.record record.requestId = some record)
    (opened : record.isOpen) (passed : DeadlinePassed state context record nowAt reason) :
    (endAtDeadline digests state context record reason).isOk ↔
      (previousBlock state record).isOk ∧
      ((previousBlock state record).map Option.isNone = .ok true → record.phase ≠ .prepared →
        (RequestForward.turnOf context record).isOk) ∧
      (watchReason reason → (firedWatch record reason).isSome) ∧
      (pendingCancellations state (deadlineCancels digests state context record)).isOk ∧
      (gatedBarrier digests state context record).isOk := by
  constructor
  · intro succeeds
    obtain ⟨change, ended⟩ := isOk_iff.mp succeeds
    dsimp only [endAtDeadline] at ended
    obtain ⟨recorded, block, ended⟩ := bind_ok ended
    obtain ⟨lost, turn, ended⟩ := bind_ok ended
    obtain ⟨failed, built, ended⟩ := bind_ok ended
    obtain ⟨cancels, cancelled, ended⟩ := bind_ok ended
    obtain ⟨barrier, gated, -⟩ := bind_ok ended
    have same := sameEpoch_blocked found failed (!lost.isEmpty) recorded.isNone
    rw [same.deadlineResources, same.pendingCancellations] at cancelled
    refine ⟨isOk_iff.mpr ⟨_, block⟩, fun isFirst sent => ?_,
      (failure_isOk passed _ _).mp (isOk_iff.mpr ⟨_, built⟩), isOk_iff.mpr ⟨_, cancelled⟩, ?_⟩
    · rw [block] at isFirst
      exact (lostTurn_isOk opened).mp (isOk_iff.mpr ⟨_, turn⟩) (by simpa [Except.map] using isFirst)
        sent
    · rw [← same.gatedBarrier]
      exact isOk_iff.mpr ⟨_, gated⟩
  · rintro ⟨block, turn, watch, cancels, barrier⟩
    obtain ⟨recorded, block⟩ := isOk_iff.mp block
    obtain ⟨lost, cancelledTurn⟩ : ∃ lost, lostTurn context record recorded.isNone = .ok lost := by
      refine isOk_iff.mp ((lostTurn_isOk opened).mpr fun isFirst => turn ?_)
      rw [block, ← isFirst]
      rfl
    let bound := recordBound record context.evaluation context.run state.hosts
    obtain ⟨failed, built⟩ := isOk_iff.mp ((failure_isOk passed bound bound.at_).mpr watch)
    have same := sameEpoch_blocked found failed (!lost.isEmpty) recorded.isNone
    obtain ⟨pending, cancelled⟩ := isOk_iff.mp cancels
    rw [deadlineCancels, ← same.deadlineResources, ← same.pendingCancellations] at cancelled
    rw [← same.gatedBarrier] at barrier
    obtain ⟨gate, gated⟩ := isOk_iff.mp barrier
    dsimp only [endAtDeadline, bind, Except.bind]
    rw [block]
    dsimp only
    rw [cancelledTurn]
    rw [built]
    dsimp only
    rw [cancelled]
    rw [gated]
    rfl

private theorem endAtDeadline_blocks {change : Change} (opened : record.isOpen)
    (ended : endAtDeadline digests state context record reason = .ok change) :
    ∃ failed lost,
      change.state.records = (replaceRecord state (blockedRecord record failed lost)).records := by
  dsimp only [endAtDeadline] at ended
  obtain ⟨recorded, -, ended⟩ := bind_ok ended
  obtain ⟨lost, -, ended⟩ := bind_ok ended
  obtain ⟨failed, -, ended⟩ := bind_ok ended
  obtain ⟨cancels, -, ended⟩ := bind_ok ended
  obtain ⟨⟨barrier, inspections⟩, -, ended⟩ := bind_ok ended
  cases ended
  exact ⟨failed, !lost.isEmpty, by simp [endOpenRecord, opened]⟩

section
variable (found : state.record record.requestId = some record)

include found

theorem deadline_ends
    (opened : record.isOpen) (passed : DeadlinePassed state context record nowAt reason)
    (conditions : EndsAtDeadline digests state context record reason) :
    ∃ change, deadline digests state context record.requestId nowAt reason = .ok change ∧
      ∃ failed lost,
        change.state.records = (replaceRecord state (blockedRecord record failed lost)).records := by
  have target := deadlineTarget_canonical found opened state.records.length
  obtain ⟨change, ended⟩ := isOk_iff.mp ((endAtDeadline_isOk found opened passed).mpr
    ⟨conditions.block, conditions.turn, conditions.watch, conditions.cancels, conditions.barrier⟩)
  obtain ⟨_, validated⟩ := isOk_iff.mp conditions.children
  refine ⟨change, ?_, endAtDeadline_blocks opened ended⟩
  unfold deadline
  simp only [bind, Except.bind, target, validated]
  rw [if_neg fun waiting => conditions.unresolved ((deadlineWaits_iff opened passed).mp waiting)]
  exact ended

end

end

end VibeServeCore.Records
