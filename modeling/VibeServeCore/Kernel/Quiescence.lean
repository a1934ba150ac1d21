/- source: _step.py (`propagate`, `_stall_entries`, `_registered_transition`)
   digest: The turns of a propagation loop, when it ends, and what registration adds to it. -/

import VibeServeCore.Kernel.Outbox

namespace VibeServeCore.Kernel

open Types Proofs List Foundation.Process Records
open Registration (registerRequests)
open Watches (watchDeadlines)

/-- What a loop serves: the state a signal is served in, the signal, and the state after it. -/
def loopTurns (kernel : Kernel) : Nat → Propagation → List (CoreState × Signal × CoreState)
  | 0, _ => []
  | remaining + 1, loop =>
    match nextTurn kernel.digests loop with
    | .ok (some entry, turned) =>
      match serve kernel turned entry with
      | .ok next => (turned.state, entry.signal, next.state) :: loopTurns kernel remaining next
      | .error _ => []
    | _ => []

section
variable {kernel : Kernel} {loop next : Propagation} {entry : Pending}

theorem EffectRun.ledger (records : kernel.ReducesRecords) {before after : CoreState}
    {effects : List Effect} (ledger : SoundLedger kernel.digests before.records)
    (run : EffectRun kernel before effects after) :
    SoundLedger kernel.digests after.records := by
  obtain ⟨labels, moved⟩ := (EffectRun.posts records.answers run).run
  exact ledger.run moved

private theorem completeLeading_records {digests : Digests} {state after : CoreState}
    {queue rest : List Pending}
    (completed : completeLeading digests state queue = .ok (after, rest)) :
    after.records = state.records := by
  induction queue generalizing state with
  | nil =>
    cases completed
    rfl
  | cons entry queue ih =>
    obtain ⟨signal, cause, admission⟩ := entry
    cases signal with
    | decisionCompleted decisionId status =>
      obtain ⟨middle, first, completed⟩ := bind_ok completed
      rw [ih completed]
      rcases completeDecision_state first with rfl | rfl <;> rfl
    | _ =>
      cases completed
      rfl

theorem nextTurn_records {entry : Option Pending}
    (turned : nextTurn kernel.digests loop = .ok (entry, next)) :
    next.state.records = loop.state.records := by
  obtain ⟨queue, completed, -⟩ := (nextTurn_turns turned).taken
  exact completeLeading_records completed

theorem serve_seen (served : serve kernel loop entry = .ok next) : next.seen = loop.seen := by
  unfold serve at served
  split_ifs at served
  · obtain ⟨answer, -, served⟩ := bind_ok served
    cases served
    rfl
  obtain ⟨change, -, served⟩ := bind_ok served
  dsimp only at served
  split_ifs at served
  obtain ⟨⟨⟩, -, served⟩ := bind_ok served
  obtain ⟨requests, -, served⟩ := bind_ok served
  cases served
  rfl

theorem serve_records (records : kernel.ReducesRecords) {event : RecordsEvent}
    (report : entry.signal = .records event) (owned : isKernelSignal entry.signal = false)
    (served : serve kernel loop entry = .ok next) :
    ∃ change, advanceRecord kernel.digests loop.state.records loop.state.recordsContext event =
        .ok change ∧ next.state.records = change.state := by
  unfold serve at served
  rw [owned] at served
  obtain ⟨change, answered, served⟩ := bind_ok served
  dsimp only at served
  split_ifs at served
  obtain ⟨⟨⟩, -, served⟩ := bind_ok served
  obtain ⟨requests, -, served⟩ := bind_ok served
  cases served
  rw [report, records] at answered
  obtain ⟨own, advanced, rfl⟩ := answerAs_eq_ok.mp answered
  exact ⟨own, advanced, rfl⟩

end

def unaddressed (row : RequestRecord) : RequestRecord := { row with addressedBy := [] }

end VibeServeCore.Kernel
