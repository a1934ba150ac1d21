/- source: _step.py (`propagate`, `_end_fired_watches`), _watches.py
   digest: When the deadlines of fired watches end their records, and propagation with them. -/

import VibeServeCore.Kernel.Quiescence
import VibeServeCore.Records.Deadlines

/-! A propagation serves the deadline of every fired watch, and `_end_fired_watches` propagates again
for the requests that were registered after the loop. Each pass therefore leaves only what it
registered itself, as long as every deadline ends its record. -/

namespace VibeServeCore.Kernel

open Types Proofs Foundation.Ledger Foundation.Process Records List
open Registration (registerRequests)
open Watches (firedReason watchDeadlines)

def watchDeadline : Signal → Option RequestId
  | .records (.reconciliationDeadline requestId _ reason) =>
    if watchReason reason then some requestId else none
  | _ => none

/-- A served deadline of a watch ends the record it names, if that is open. -/
def deadlineEnds (digests : Digests) (state : CoreState) : Signal → Bool
  | .records (.reconciliationDeadline requestId _ reason) =>
    !watchReason reason || (state.records.record requestId).all fun record => !record.isOpen ||
      EndsAtDeadline digests state.records state.recordsContext record reason
  | _ => true

/-- Every open record was open before: no turn takes one back out of its end. -/
def noneReopened (before after : RecordsState) : Bool :=
  after.records.all fun row => !row.isOpen ||
    before.records.any fun old => old.requestId = row.requestId && old.isOpen

def watchesHold (digests : Digests) (turn : CoreState × Signal × CoreState) : Bool :=
  deadlineEnds digests turn.1 turn.2.1 && noneReopened turn.1.records turn.2.2.records

/-- The signal digests tell the watch deadlines of one record from all other signals. -/
def Kernel.TellsDeadlines (kernel : Kernel) : Prop :=
  ∀ report signal, (watchDeadline report).isSome →
    signalKey kernel.digests signal = signalKey kernel.digests report →
    watchDeadline signal = watchDeadline report

def Ended (ledger : RecordsState) (requestId : RequestId) : Prop :=
  ∀ row ∈ ledger.records, row.requestId = requestId → row.isOpen = false

section
variable {kernel : Kernel} {loop next : Propagation} {entry : Pending} {requestId : RequestId}

theorem Ended.kept {before after : RecordsState} (ended : Ended before requestId)
    (none : noneReopened before after) : Ended after requestId := by
  intro row mem named
  by_contra opened
  rw [Bool.not_eq_false] at opened
  obtain ⟨old, listed, same⟩ := any_eq_true.mp
    ((Bool.or_eq_true_iff.mp (all_eq_true.mp none row mem)).resolve_left (by simp [opened]))
  obtain ⟨same, stood⟩ := Bool.and_eq_true_iff.mp same
  rw [ended old listed ((of_decide_eq_true same).trans named)] at stood
  cases stood

private theorem serve_ends (records : kernel.ReducesRecords)
    (ledger : SoundLedger kernel.digests loop.state.records)
    (report : watchDeadline entry.signal = some requestId)
    (served : serve kernel loop entry = .ok next)
    (holds : watchesHold kernel.digests (loop.state, entry.signal, next.state)) :
    Ended next.state.records requestId := by
  obtain ⟨ends, none⟩ := Bool.and_eq_true_iff.mp holds
  unfold watchDeadline at report
  split at report
  on_goal 2 => cases report
  rename_i named nowAt reason signal
  split_ifs at report with watched
  cases report
  by_cases opened : ∃ record ∈ loop.state.records.records,
      record.requestId = requestId ∧ record.isOpen
  · obtain ⟨record, mem, rfl, opened⟩ := opened
    have found : loop.state.records.record record.requestId = some record :=
      ledger.sound.distinct.find? mem
    simp only [deadlineEnds, signal, watched, found, opened, Option.all_some, Bool.not_true,
      Bool.false_or, decide_eq_true_eq] at ends
    obtain ⟨change, taken, stored⟩ := serve_records records signal (by rw [signal]; rfl) served
    have passed : DeadlinePassed loop.state.records loop.state.recordsContext record nowAt reason :=
      .inl watched
    obtain ⟨own, ended, failed, lost, rows⟩ := deadline_ends found opened passed ends
    have same : own = change := Except.ok.inj (ended.symm.trans taken)
    intro row listed named
    rw [stored, ← same, rows] at listed
    rcases mem_overwrite listed with ⟨rfl, -⟩ | ⟨-, other⟩
    · simp [RequestRecord.isOpen, RequestRecord.inFlight, RequestRecovery.blockedRecord]
    · exact absurd named other
  · refine Ended.kept (fun row mem named => ?_) none
    by_contra stood
    exact opened ⟨row, mem, named, by simpa using stood⟩

/-- Every record with a watch deadline served so far is ended. -/
structure Answered (kernel : Kernel) (loop : Propagation) : Prop where
  ledger : SoundLedger kernel.digests loop.state.records
  ended : ∀ report requestId, watchDeadline report = some requestId →
    signalKey kernel.digests report ∈ loop.seen → Ended loop.state.records requestId

theorem Answered.quiet (answered : Answered kernel loop)
    (turned : nextTurn kernel.digests loop = .ok (none, next)) : Answered kernel next := by
  have seen : next.seen = loop.seen := (nextTurn_turns turned).seen
  refine ⟨nextTurn_records turned ▸ answered.ledger, fun report requestId told listed => ?_⟩
  rw [nextTurn_records turned]
  exact answered.ended report requestId told (seen ▸ listed)

theorem Answered.serve (records : kernel.ReducesRecords) (tells : kernel.TellsDeadlines)
    (answered : Answered kernel loop) {turned : Propagation}
    (turn : nextTurn kernel.digests loop = .ok (some entry, turned))
    (served : Kernel.serve kernel turned entry = .ok next)
    (holds : watchesHold kernel.digests (turned.state, entry.signal, next.state)) :
    Answered kernel next := by
  have ledger : SoundLedger kernel.digests turned.state.records :=
    nextTurn_records turn ▸ answered.ledger
  obtain ⟨effects, serves⟩ := serve_settles ((nextTurn_settles turn).2 entry rfl) served
  refine ⟨EffectRun.ledger records ledger serves.run, fun report requestId told listed => ?_⟩
  rw [serve_seen served, (nextTurn_turns turn).seen] at listed
  rcases mem_cons.mp listed with key | listed
  · have same := tells report entry.signal (Option.isSome_of_eq_some told) key.symm
    exact serve_ends records ledger (same.trans told) served holds
  · refine Ended.kept ?_ (Bool.and_eq_true_iff.mp holds).2
    rw [nextTurn_records turn]
    exact answered.ended report requestId told listed

theorem Answered.settle (records : kernel.ReducesRecords) (tells : kernel.TellsDeadlines)
    {remaining : Nat} (answered : Answered kernel loop)
    (holds : (loopTurns kernel remaining loop).all (watchesHold kernel.digests))
    (settled : Kernel.settle kernel remaining loop = .ok next) :
    Answered kernel next ∧ ∃ last, nextTurn kernel.digests last = .ok (none, next) := by
  induction remaining generalizing loop with
  | zero =>
    obtain ⟨⟨entry, turned⟩, turn, settled⟩ := bind_ok settled
    cases entry with
    | none =>
      cases settled
      exact ⟨answered.quiet turn, loop, turn⟩
    | some entry => cases settled
  | succ remaining ih =>
    obtain ⟨⟨entry, turned⟩, turn, settled⟩ := bind_ok settled
    cases entry with
    | none =>
      cases settled
      exact ⟨answered.quiet turn, loop, turn⟩
    | some entry =>
      obtain ⟨middle, served, settled⟩ := bind_ok settled
      simp only [loopTurns, turn, served, all_cons, Bool.and_eq_true] at holds
      exact ih (answered.serve records tells turn served holds.1) holds.2 settled

end

end VibeServeCore.Kernel
