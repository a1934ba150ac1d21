/- source: _settlement.py, settlement.py
   digest: An attempt gets one settlement, once its owner is released, published once. -/

import VibeServeCore.Records.Finality
import VibeServeCore.Settlements.Rounds

namespace VibeServeCore.Settlements

open Types List
open Proofs (Digests)
open Foundation.Ledger Foundation.Process
open Records (sampleRun sampleDigests)

def settledIn (events : List StrategyEvent) : List Settlement :=
  events.filterMap fun
    | .attemptSettled settlement => some settlement
    | _ => none

private theorem settledIn_append (first second : List StrategyEvent) :
    settledIn (first ++ second) = settledIn first ++ settledIn second :=
  filterMap_append

/-- Why the attempt settles as it does. -/
structure Justified (context : SettlementContext) (final : Settlement) (row : AttemptView) :
    Prop where
  owned : owner context final.attempt = some row
  terminal : row.phase = .terminal
  independent : row.releaseDependencies = []
  quiet : row.pendingRecords = []
  kept : final.retention ≠ .discard → ∃ checkpoint ∈ row.checkpoints,
    some checkpoint.revision = final.candidate ∧ checkpoint.retention = final.retention
  cancelled : ∀ closure ∈ row.closure, closure.disposition = .cancel → final.eligible = false

inductive Progress (state : SettlementState) (context : SettlementContext) (change : Change) : Prop
  /-- No choice moves. -/
  | kept (settlements : change.state.settlements = state.settlements)
      (pending : change.state.pending = state.pending) (silent : settledIn change.events = [])
  /-- An attempt without a choice gets a pending one. -/
  | accepted (choice : Settlement)
      (fresh : choice.attempt ∉ (state.settlements ++ state.pending).map Settlement.attempt)
      (settlements : change.state.settlements = state.settlements)
      (pending : change.state.pending = state.pending ++ [choice])
      (silent : settledIn change.events = [])
  /-- An unsettled attempt is settled, which takes its pending choice away. -/
  | settled (final : Settlement) (row : AttemptView)
      (unsettled : final.attempt ∉ state.settlements.map Settlement.attempt)
      (justified : Justified context final row)
      (settlements : change.state.settlements = state.settlements ++ [final])
      (pending : change.state.pending =
        state.pending.filter fun item => item.attempt ≠ final.attempt)
      (published : settledIn change.events = [final])

theorem Progress.same (state : SettlementState) (context : SettlementContext) :
    Progress state context { state := state } :=
  .kept rfl rfl rfl

section
variable {context : SettlementContext} {settlement : Settlement} {row : AttemptView}

@[simp] theorem normalizeChoice_attempt (row : Option AttemptView) :
    (normalizeChoice settlement row).attempt = settlement.attempt := by
  simp only [normalizeChoice]
  split_ifs <;> rfl

@[simp] theorem acceptedSettlement_attempt (receipt : Option DecisionReceipt) :
    (acceptedSettlement settlement receipt).attempt = settlement.attempt := by
  unfold acceptedSettlement
  split <;> rfl

private theorem normalizeChoice_cancelled {closure : AttemptClosure}
    (closed : row.closure = some closure)
    (cancelled : closure.disposition = .cancel) :
    (normalizeChoice settlement (some row)).eligible = false := by
  simp only [normalizeChoice, Option.bind_some, closed, Option.any_some, cancelled, decide_true,
    Bool.or_true, if_true]
  split_ifs <;> rfl

private theorem eligible_requested {validJson : String → Bool}
    (holds : eligible validJson settlement row context) : settlement.eligible := by
  unfold eligible at holds
  split at holds
  · cases holds
  · simp only [Bool.and_eq_true] at holds
    exact holds.1.1.1.1.1.1

private theorem finalChoice_attempt (validJson : String → Bool) (context : SettlementContext)
    (pending : Settlement) (receipt : Option DecisionReceipt) (row : AttemptView) :
    (finalChoice validJson context pending receipt row).attempt = pending.attempt := by
  show (normalizeChoice _ _).attempt = _
  rw [normalizeChoice_attempt, acceptedSettlement_attempt]

private theorem finalChoice_cancelled (validJson : String → Bool) (receipt : Option DecisionReceipt)
    {closure : AttemptClosure} (closed : row.closure = some closure)
    (cancelled : closure.disposition = .cancel) :
    (finalChoice validJson context settlement receipt row).eligible = false := by
  by_contra wins
  have requested := eligible_requested (Bool.eq_true_of_not_eq_false wins)
  rw [normalizeChoice_cancelled closed cancelled] at requested
  cases requested

private theorem justified_of_released (owned : owner context settlement.attempt = some row)
    (ready : released row settlement) (cancelled : ∀ closure ∈ row.closure, closure.disposition =
      .cancel → settlement.eligible = false) : Justified context settlement row := by
  simp only [released, Bool.and_eq_true, Bool.or_eq_true, decide_eq_true_eq, any_eq_true,
    List.isEmpty_iff] at ready
  obtain ⟨⟨⟨⟨terminal, -⟩, independent⟩, quiet⟩, retained⟩ := ready
  refine ⟨owned, terminal, independent, quiet, fun keeps => ?_, cancelled⟩
  rcases retained with discards | held
  · exact absurd discards keeps
  · exact held

end

section
variable {validJson : String → Bool} {state : SettlementState} {context : SettlementContext}
  {change : Change}

private theorem finalize_progress {pending : Settlement}
    (unsettled : pending.attempt ∉ state.settlements.map Settlement.attempt)
    (done : finalize validJson state context pending = .ok change) :
    Progress state context change := by
  unfold finalize at done
  split at done
  · cases done
    exact .same state context
  rename_i row owned
  obtain ⟨receipt, -, done⟩ := bind_ok done
  dsimp only at done
  split at done
  · cases done
    exact .same state context
  split at done
  · cases done
    exact .same state context
  rename_i ready
  cases done
  have named := finalChoice_attempt validJson context pending receipt row
  have justified : Justified context (finalChoice validJson context pending receipt row)
      row := by
    refine justified_of_released (by rw [named, owned]) (by simpa using ready) ?_
    intro closure closed cancelled
    exact finalChoice_cancelled validJson receipt closed cancelled
  exact .settled _ row (by rwa [named]) justified rfl rfl rfl

variable {proposal : Settlement}

private theorem refuseProposal_progress {code : RejectionCode} {detail : String}
    (done : refuseProposal state context proposal code detail = .ok change) :
    Progress state context change := by
  obtain ⟨receipt, -, done⟩ := bind_ok done
  cases done
  refine .kept rfl rfl ?_
  cases receipt.filter receiptActive <;> rfl

private theorem acceptProposal_progress {row : AttemptView}
    (fresh : proposal.attempt ∉ (state.settlements ++ state.pending).map Settlement.attempt)
    (done : acceptProposal validJson state context proposal row = .ok change) :
    Progress state context change := by
  obtain ⟨receipt, -, done⟩ := bind_ok done
  dsimp only at done
  split at done
  · cases done
    exact .same state context
  have named : (normalizeChoice (acceptedSettlement proposal receipt) (some row)).attempt =
      proposal.attempt := by
    rw [normalizeChoice_attempt, acceptedSettlement_attempt]
  split at done
  · cases done
  split at done
  · refine finalize_progress ?_ done
    rw [named]
    intro settled
    rw [map_append] at fresh
    exact fresh (mem_append_left _ settled)
  · cases done
    exact .accepted _ (by rwa [named]) rfl rfl rfl

private theorem submit_progress (done : submit validJson state context proposal = .ok change) :
    Progress state context change := by
  simp only [submit] at done
  split at done
  · split at done
    · cases done
      exact .same state context
    · exact refuseProposal_progress done
  · rename_i unchosen
    split at done
    · cases done
    split at done
    · exact refuseProposal_progress done
    split at done
    · exact refuseProposal_progress done
    · refine acceptProposal_progress ?_ done
      intro chosen
      obtain ⟨item, listed, same⟩ := mem_map.mp chosen
      exact absurd (find?_eq_none.mp unchosen item listed) (by simp [same])

private theorem cancelledChoice_fresh {attempt : AttemptRef} {choice : Settlement}
    (made : cancelledChoice state context attempt = some choice) :
    choice.attempt ∉ (state.settlements ++ state.pending).map Settlement.attempt := by
  unfold cancelledChoice at made
  split at made
  · cases made
  split at made
  · cases made
  rename_i unchosen
  cases made
  intro chosen
  obtain ⟨item, listed, same⟩ := mem_map.mp chosen
  apply unchosen
  rw [Bool.or_eq_true, any_eq_true]
  exact .inr ⟨item, listed, by simpa using same⟩

end

/-- No attempt has two settlements. -/
def Single (state : SettlementState) : Prop :=
  Distinct Settlement.attempt (state.settlements ++ state.pending)

theorem Single.unsettled {state : SettlementState} (single : Single state) {item : Settlement}
    (listed : item ∈ state.pending) : item.attempt ∉ state.settlements.map Settlement.attempt := by
  intro settled
  rw [Single, Distinct, map_append] at single
  exact disjoint_of_nodup_append single settled (mem_map_of_mem listed)

section
variable {digests : Digests} {validJson : String → Bool} {state : SettlementState}
  {context : SettlementContext} {change : Change}

private theorem finalizeSome_progress {choice : Option Settlement}
    (unsettled : ∀ pending ∈ choice, pending.attempt ∉ state.settlements.map Settlement.attempt)
    (done : finalizeSome validJson state context choice = .ok change) :
    Progress state context change := by
  cases choice with
  | none =>
    cases done
    exact .same state context
  | some pending => exact finalize_progress (unsettled pending rfl) done

variable {event : SettlementEvent}

private theorem advance_progress (single : Single state)
    (done : advance validJson state context event = .ok change) :
    Progress state context change := by
  cases event with
  | assessmentSubmitted proposal => exact submit_progress done
  | ownershipSettled attempt released blocked =>
    simp only [advance] at done
    split at done
    · refine finalizeSome_progress (fun choice made => ?_) done
      -- The choice is the pending one, or was made up for an attempt that has none.
      rcases Option.or_eq_some_iff.mp made with pending | ⟨-, made⟩
      · exact single.unsettled (mem_of_find?_eq_some pending)
      · have fresh := cancelledChoice_fresh made
        rw [map_append, mem_append, not_or] at fresh
        exact fresh.1
    · cases done
      exact .same state context
  | attemptSettled proposal =>
    refine finalizeSome_progress (fun choice made => ?_) done
    exact single.unsettled (mem_of_find?_eq_some made)
  | winnerProposed selection | adoptionObserved observation revision => cases done

theorem Adopts.progress (adopts : Adopts digests state context event change) :
    Progress state context change := by
  cases adopts <;> exact .kept rfl rfl rfl

private theorem announceFenceLift_progress (progress : Progress state context change) :
    Progress state context (announceFenceLift digests state context change) := by
  unfold announceFenceLift
  split_ifs
  · cases progress with
    | kept settlements pending silent => exact .kept settlements pending silent
    | accepted choice fresh settlements pending silent =>
      exact .accepted choice fresh settlements pending silent
    | settled final row unsettled justified settlements pending published =>
      exact .settled final row unsettled justified settlements pending published
  · exact progress

theorem settle_progress (single : Single state)
    (done : settle digests validJson state context event = .ok change) :
    Progress state context change := by
  cases event with
  | winnerProposed selection =>
    obtain ⟨answered, proposed, rfl⟩ := map_ok done
    exact announceFenceLift_progress (propose_adopts proposed).progress
  | adoptionObserved observation revision =>
    cases done
    exact announceFenceLift_progress (observe_adopts observation revision).progress
  | assessmentSubmitted proposal =>
    have taken : advance validJson state context (.assessmentSubmitted proposal) = .ok change := done
    exact advance_progress single taken
  | ownershipSettled attempt released blocked =>
    have taken : advance validJson state context (.ownershipSettled attempt released blocked) =
      .ok change := done
    exact advance_progress single taken
  | attemptSettled proposal =>
    have taken : advance validJson state context (.attemptSettled proposal) = .ok change := done
    exact advance_progress single taken

theorem Progress.single (progress : Progress state context change) (single : Single state) :
    Single change.state := by
  unfold Single at single ⊢
  cases progress with
  | kept settlements pending silent => rwa [settlements, pending]
  | accepted choice fresh settlements pending silent =>
    rw [settlements, pending, ← append_assoc, Distinct, map_append, map_singleton,
      nodup_append]
    refine ⟨single, nodup_singleton _, ?_⟩
    rintro chosen listed _ own rfl
    rw [mem_singleton.mp own] at listed
    exact fresh listed
  | settled final row unsettled justified settlements pending published =>
    -- The pending choice of the attempt goes as its settlement comes.
    rw [Distinct, map_append] at single
    obtain ⟨distinctSettled, distinctPending, apart⟩ := nodup_append.mp single
    have left : (state.pending.filter fun item => item.attempt ≠ final.attempt).map
        Settlement.attempt |>.Sublist (state.pending.map Settlement.attempt) :=
      filter_sublist.map _
    rw [settlements, pending, Distinct, append_assoc, singleton_append, map_append,
      map_cons, nodup_append]
    refine ⟨distinctSettled, nodup_cons.mpr ⟨?_, left.nodup distinctPending⟩, ?_⟩
    · intro listed
      obtain ⟨item, kept, same⟩ := mem_map.mp listed
      have other := (mem_filter.mp kept).2
      simp [same] at other
    · intro attempt settled other listed
      rcases mem_cons.mp listed with rfl | listed
      · exact fun same => unsettled (same ▸ settled)
      · exact apart attempt settled other (left.subset listed)

theorem Progress.published (progress : Progress state context change) :
    change.state.settlements = state.settlements ++ settledIn change.events ∧
      (settledIn change.events).length ≤ 1 := by
  cases progress with
  | kept settlements pending silent
  | accepted choice fresh settlements pending silent => simp [settlements, silent]
  | settled final row unsettled justified settlements pending published =>
    simp [settlements, published]

theorem Progress.justified (progress : Progress state context change) :
    ∀ final ∈ settledIn change.events, ∃ row, Justified context final row := by
  intro final announced
  cases progress with
  | kept settlements pending silent | accepted choice fresh settlements pending silent =>
    rw [silent] at announced
    cases announced
  | settled settled row unsettled justified settlements pending published =>
    rw [published, mem_singleton] at announced
    exact ⟨row, announced ▸ justified⟩

abbrev SettlementMove := SettlementContext × SettlementEvent

def settleMove (digests : Digests) (validJson : String → Bool) (state : SettlementState)
    (move : SettlementMove) : Except CoreError Change :=
  settle digests validJson state move.1 move.2

/-- Runs of the settlement area. -/
abbrev SettlementRun (digests : Digests) (validJson : String → Bool) :=
  Run (Produces (settleMove digests validJson) AreaChange.state)

def settledBy (labels : List (SettlementMove × Change)) : List Settlement :=
  settledIn (labels.flatMap fun label => label.2.events)

theorem SettlementRun.single {first last : SettlementState}
    {labels : List (SettlementMove × Change)}
    (run : SettlementRun digests validJson first labels last) (single : Single first) :
    Single last := by
  refine run.invariant Single (fun holds step => ?_) single
  obtain ⟨settled, rfl⟩ := step
  exact (settle_progress holds settled).single holds

theorem SettlementRun.published {first last : SettlementState}
    {labels : List (SettlementMove × Change)}
    (run : SettlementRun digests validJson first labels last) (single : Single first) :
    last.settlements = first.settlements ++ settledBy labels := by
  induction run with
  | nil state => rw [settledBy, flatMap_nil, settledIn, filterMap_nil, append_nil]
  | cons head tail ih =>
    obtain ⟨settled, rfl⟩ := head
    have progress := settle_progress single settled
    rw [ih (progress.single single), progress.published.1, append_assoc]
    congr 1
    rw [settledBy, ← settledIn_append, settledBy, flatMap_cons]

/-- No attempt ever has two choices, and settlements only grow at the end by exactly what is
announced, each event at most one. -/
theorem attempts_settle_once {first last : SettlementState}
    {labels : List (SettlementMove × Change)} (single : Single first)
    (run : SettlementRun digests validJson first labels last) :
    Single last ∧ last.settlements = first.settlements ++ settledBy labels ∧
      ∀ context event change, settle digests validJson last context event = .ok change →
        Single change.state ∧
          change.state.settlements = last.settlements ++ settledIn change.events ∧
          (settledIn change.events).length ≤ 1 ∧
          ∀ final ∈ settledIn change.events, ∃ row, Justified context final row := by
  have reached := SettlementRun.single run single
  refine ⟨reached, SettlementRun.published run single, fun context event change settled => ?_⟩
  have progress := settle_progress reached settled
  exact ⟨progress.single reached, progress.published.1, progress.published.2, progress.justified⟩

end

/-! ### An attempt settled when its owner is released -/

def settlingRef : AttemptRef := ⟨⟨"attempt"⟩, 0⟩

def settlingAttempt (phase : AttemptPhase) (pending : List RequestId) : AttemptView where
  attemptId := ⟨"attempt"⟩
  itemId := ⟨"item"⟩
  generation := 0
  phase := phase
  workspace := ⟨.exclusiveRoot, sampleRun.baseline, none⟩
  budget := ⟨1, 1, 0⟩
  admissionId := some ⟨"admission"⟩
  closure := some ⟨.settle, 0, ⟨"closing"⟩, ⟨"admission"⟩, false, false⟩
  checkpoints := [⟨none, ⟨"checkpoint"⟩, ⟨⟨"work"⟩, "sha"⟩, .wip⟩]
  pendingRecords := pending

def settlingContext (row : AttemptView) : SettlementContext :=
  ⟨sampleRun, ⟨[row]⟩, {}, {}, {}⟩

def settlingChoice : Settlement where
  settlementId := ⟨"choice"⟩
  attempt := settlingRef
  candidate := some ⟨⟨"work"⟩, "sha"⟩
  assessments := []
  eligible := true
  retention := .wip
  outcome := .failed

def settlingMoves : List SettlementMove :=
  let busy := settlingContext (settlingAttempt .closing [⟨"cleanup"⟩])
  let gone := settlingContext (settlingAttempt .terminal [])
  [(busy, .assessmentSubmitted settlingChoice), (busy, .assessmentSubmitted settlingChoice),
    (busy, .ownershipSettled settlingRef true false),
    (gone, .ownershipSettled settlingRef true false),
    (gone, .ownershipSettled settlingRef true false)]

def settlingOutcome : SettlementState :=
  outcome (settleMove sampleDigests fun _ => true) AreaChange.state {} settlingMoves

theorem settling_attempt_settles_once :
    ∃ labels, SettlementRun sampleDigests (fun _ => true) {} labels settlingOutcome ∧
      Single settlingOutcome ∧ settledBy labels = [{ settlingChoice with eligible := false }] ∧
      settlingOutcome.pending = [] := by
  have takes : (execute (settleMove sampleDigests fun _ => true) AreaChange.state {}
      settlingMoves).isOk := by decide +kernel
  obtain ⟨labels, run⟩ := Run.of_outcome takes
  have single : Single {} := nodup_nil
  have once := attempts_settle_once single run
  have settled : settlingOutcome.settlements = [{ settlingChoice with eligible := false }] := by
    decide +kernel
  refine ⟨labels, run, once.1, ?_, by decide +kernel⟩
  have announced : settlingOutcome.settlements = [] ++ settledBy labels := once.2.1
  rw [← settled, announced, nil_append]

end VibeServeCore.Settlements
