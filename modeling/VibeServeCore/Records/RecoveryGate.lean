/- source: _request_recovery.py (`_start`, `_observe`, `_recheck`, `_finish`)
   digest: The recovery barrier under every sequence of recovery events. -/

import VibeServeCore.Foundation.WriteOnce
import VibeServeCore.Records.Finality

namespace VibeServeCore.Records

open Types Proofs Foundation.Ledger Foundation.Process List Foundation.WriteOnce RequestRecovery

structure SoundBarrier (barrier : RecoveryBarrier) : Prop where
  distinct : Distinct (·.target) barrier.checks
  ready : barrier.phase = .ready →
    ∀ check ∈ barrier.checks, check.resolution ≠ .pending ∧ check.resolution ≠ .blocked
  recovering : barrier.phase = .recovering → ∀ check ∈ barrier.checks, check.resolution ≠ .blocked
  required : barrier.phase = .required → barrier.checks = []

def Rechecked (check later : RecoveryCheck) : Prop :=
  later.target = check.target ∧ (check.resolution = .blocked → later.resolution ≠ .pending)

def Reopened (check later : RecoveryCheck) : Prop :=
  later.target = check.target ∧ (check.resolution = .blocked → later.resolution = .blocked)

def announced (signals : List Signal) : List Nat :=
  signals.filterMap fun signal =>
    match signal with
    | .records (.recoveryReady epoch) => some epoch
    | _ => none

/-- Recovery of this epoch becomes ready. -/
def entersReady (before after : RecoveryBarrier) : Bool :=
  after.phase = .ready && (before.phase ≠ .ready || before.epoch ≠ after.epoch)

structure Guards (before : RecoveryBarrier) (change : Change) : Prop where
  sound : SoundBarrier change.state.recovery
  epoch : before.epoch ≤ change.state.recovery.epoch
  checks : change.state.recovery.epoch = before.epoch →
    Evolves Rechecked before.checks change.state.recovery.checks
  signals : announced change.signals =
    if entersReady before change.state.recovery then [change.state.recovery.epoch] else []

private theorem announced_append (first second : List Signal) :
    announced (first ++ second) = announced first ++ announced second :=
  filterMap_append

private theorem announced_outward {signals : List Signal} (outward : Outward signals) :
    announced signals = [] := by
  refine filterMap_eq_nil_iff.mpr fun signal mem => ?_
  split
  · exact absurd rfl ((outward _ mem).1 _)
  · rfl

section
variable {digests : Digests} {context : RecordsContext} {state : RecordsState} {change : Change}
  {barrier : RecoveryBarrier} {record : RequestRecord}

theorem Rechecked.refl (check : RecoveryCheck) : Rechecked check check :=
  ⟨rfl, fun blocked => by rw [blocked]; decide⟩

theorem Guards.unchanged (sound : SoundBarrier barrier) (same : change.state.recovery = barrier)
    (mute : announced change.signals = []) : Guards barrier change := by
  subst same
  refine ⟨sound, le_rfl, fun _ => .refl Rechecked.refl _, ?_⟩
  have stays : entersReady change.state.recovery change.state.recovery = false := by
    simp [entersReady]
  rw [mute, stays]
  rfl

variable {sent asked : List Outbound} {epoch : Nat} {later : List RecoveryCheck} {nowAt : Seconds}
    {reason : FailureReason} {requestId : RequestId}

private theorem finish_guards (distinct : Distinct (·.target) barrier.checks)
    (epoch : state.recovery.epoch ≤ barrier.epoch) (checks : barrier.epoch = state.recovery.epoch →
      Evolves Rechecked state.recovery.checks barrier.checks)
    (finished : finish state barrier context sent = .ok change) : Guards state.recovery change := by
  obtain ⟨waiting, named, finished⟩ := bind_ok finished
  cases finished
  have same : Rewrites (fun check later : RecoveryCheck => later.target = check.target ∧
      later.resolution = check.resolution) barrier.checks waiting := by
    refine .of_forall₂ (forall₂_of_mapM (fun check later waits => ?_) named)
    obtain ⟨wait, -, rfl⟩ := map_ok waits
    exact ⟨rfl, rfl⟩
  refine ⟨⟨?_, ?_, ?_, ?_⟩, epoch, fun within position check found => ?_, ?_⟩
  · exact distinct.rewrites same fun _ _ kept => kept.1
  · intro phase check mem
    simp only [barrierPhase] at phase
    split_ifs at phase with settled
    simpa using all_eq_true.mp settled check mem
  · intro phase check mem blocked
    simp only [barrierPhase] at phase
    split_ifs at phase with settled stuck
    exact stuck (any_eq_true.mpr ⟨check, mem, by simpa using blocked⟩)
  · intro phase
    simp only [barrierPhase] at phase
    split_ifs at phase
  · obtain ⟨next, foundNext, target, kept⟩ := checks within position check found
    obtain ⟨last, foundLast, targetLast, resolution⟩ := same.evolves position next foundNext
    exact ⟨last, foundLast, targetLast.trans target, fun blocked => resolution ▸ kept blocked⟩
  · unfold entersReady
    split_ifs <;> rfl

private theorem finish_rewritten (sound : SoundBarrier state.recovery)
    (finished : finish state barrier context sent = .ok change)
    (epoch : barrier.epoch = state.recovery.epoch)
    (rewrites : Rewrites Rechecked state.recovery.checks barrier.checks) :
    Guards state.recovery change :=
  finish_guards (sound.distinct.rewrites rewrites fun _ _ kept => kept.1) epoch.ge
    (fun _ => rewrites.evolves) finished

private theorem withResolution_rechecks (check : RecoveryCheck) (resolution : Resolution) :
    Rechecked check (withResolution check resolution) := by
  unfold withResolution
  split_ifs with stays
  · exact .refl check
  · refine ⟨rfl, fun blocked pending => stays ?_⟩
    simp only [blocked, decide_true, Bool.true_and, decide_eq_true_eq]
    exact pending

private theorem observeCheck_rechecks (digests : Digests) (context : RecordsContext)
    (before after : RecordsState) (event : RequestObserved) (epoch : Nat) (check : RecoveryCheck) :
    Rechecked check (observeCheck digests before after context event epoch check) := by
  unfold observeCheck
  split
  · exact .refl check
  · dsimp only
    split_ifs <;> exact withResolution_rechecks check _

private theorem reopenCheck_reopens {checks : List RecoveryCheck}
    (distinct : Distinct (·.target) checks)
    (reopened : reopenCheck digests state context epoch record checks = .ok (later, asked)) :
    Distinct (·.target) later ∧ Evolves Reopened checks later := by
  have stable : ∀ check, Reopened check check := fun check => ⟨rfl, id⟩
  dsimp only [reopenCheck] at reopened
  split at reopened
  · rename_i missing
    obtain ⟨inspection, rfl⟩ : ∃ inspection, later = checks ++
        [{ target := record.requestId, inspection, wait := none }] := by
      split_ifs at reopened <;>
        · obtain ⟨own, -, reopened⟩ := bind_ok reopened
          cases reopened
          exact ⟨_, rfl⟩
    refine ⟨distinct.concat fun old mem same => ?_, .append stable _ _⟩
    exact find?_eq_none.mp missing old mem (decide_eq_true same)
  · rename_i check found
    by_cases held : check.resolution = .pending ∨ check.resolution = .blocked
    · rw [if_pos (by simpa using held)] at reopened
      cases reopened
      exact ⟨distinct, .refl stable _⟩
    rw [if_neg (by simpa using held)] at reopened
    obtain ⟨inspection, rfl⟩ : ∃ inspection, later = checks.replace check
        { check with resolution := .pending, inspection } := by
      split_ifs at reopened <;>
        · obtain ⟨own, -, reopened⟩ := bind_ok reopened
          cases reopened
          exact ⟨_, rfl⟩
    have rewrites := Rewrites.replace stable
      (show Reopened check { check with resolution := .pending, inspection } from
        ⟨rfl, fun blocked => absurd (.inr blocked) held⟩) checks
    exact ⟨distinct.rewrites rewrites fun _ _ kept => kept.1, rewrites.evolves⟩

private theorem pendingProbes_reopens (distinct : Distinct (·.target) barrier.checks)
    (probed : pendingProbes digests state context barrier = .ok (later, asked)) :
    Distinct (·.target) later ∧ Evolves Reopened barrier.checks later := by
  refine sequence_induction (fun _ (current : List RecoveryCheck × List Outbound) =>
    Distinct (·.target) current.1 ∧ Evolves Reopened barrier.checks current.1) ?_
    ⟨distinct, .refl (fun check => ⟨rfl, id⟩) _⟩ probed
  rintro record rest current next ⟨held, grown⟩ turned
  dsimp only [probeRecord] at turned
  split_ifs at turned
  · cases turned
    exact ⟨held, grown⟩
  obtain ⟨⟨checks, own⟩, reopened, turned⟩ := bind_ok turned
  obtain ⟨probes, -, turned⟩ := bind_ok turned
  cases turned
  obtain ⟨kept, step⟩ := reopenCheck_reopens held reopened
  refine ⟨kept, grown.trans (fun first second third left right => ?_) step⟩
  exact ⟨right.1.trans left.1, fun blocked => right.2 (left.2 blocked)⟩

private theorem observe_guards {event : RequestObserved} (sound : SoundBarrier state.recovery)
    (ran : observe digests state context event = .ok change) : Guards state.recovery change := by
  obtain ⟨observed, took, ran⟩ := bind_ok ran
  dsimp only at ran
  obtain ⟨updated, transferred, ran⟩ := bind_ok ran
  have kept : updated.recovery = state.recovery := by
    rw [transferChildren_frame transferred, observeChildren_frame took]
  have mute := announced_outward (childReleaseSignals_outward digests context state observed)
  split_ifs at ran
  · cases ran
    exact .unchanged sound kept mute
  obtain ⟨⟨checks, requests⟩, probed, ran⟩ := bind_ok ran
  split_ifs at ran
  · cases ran
    exact .unchanged sound kept mute
  obtain ⟨stored, finished, ran⟩ := bind_ok ran
  cases ran
  obtain ⟨distinct, reopens⟩ := pendingProbes_reopens sound.distinct probed
  have guards : Guards updated.recovery stored := by
    refine finish_guards ?_ (by rw [kept]) (fun _ => ?_) finished
    · unfold Distinct
      rw [map_map]
      exact (map_congr_left fun check _ =>
        (observeCheck_rechecks digests context state updated event _ check).1) ▸ distinct
    · rw [kept]
      intro position check found
      obtain ⟨next, foundNext, target, still⟩ := reopens position check found
      have last := observeCheck_rechecks digests context state updated event
        state.recovery.epoch next
      refine ⟨_, ?_, last.1.trans target, fun blocked => last.2 (still blocked)⟩
      rw [getElem?_map, foundNext, Option.map_some]
  rw [kept] at guards
  refine ⟨guards.sound, guards.epoch, guards.checks, ?_⟩
  rw [announced_append, mute]
  exact guards.signals

private theorem recheck_guards {target : RequestId} (sound : SoundBarrier state.recovery)
    (ran : recheck digests state context target = .ok change) : Guards state.recovery change := by
  dsimp only [recheck] at ran
  split_ifs at ran
  · cases ran
    exact .unchanged sound rfl rfl
  refine finish_rewritten sound ran rfl (.map _ _ fun check _ => ?_)
  split_ifs
  · split
    · exact withResolution_rechecks check _
    · exact .refl check
  · exact .refl check

private theorem opensEpoch_le (opens : opensEpoch barrier epoch) :
    barrier.epoch ≤ epoch ∧ (epoch = barrier.epoch → barrier.phase = .required) := by
  simp only [opensEpoch, gt_iff_lt, Bool.or_eq_true, decide_eq_true_eq, Bool.and_eq_true] at opens
  rcases opens with later | ⟨same, required⟩
  · exact ⟨later.le, fun same => absurd same later.ne'⟩
  · exact ⟨same.ge, fun _ => required⟩

private theorem startRecords_recovery (context : RecordsContext) (initial : RecordsState)
    (epoch : Nat)
    (nowAt : Seconds) (started : Started) (rows : List RequestRecord) :
    (rows.foldl (startRecord digests context initial epoch nowAt) started).state.recovery =
      started.state.recovery := by
  refine foldl_induction (fun _ (current : Started) =>
    current.state.recovery = started.state.recovery) (fun same => ?_) rfl
  rw [← same]
  unfold startRecord restartCommand requeueLostInspection
  dsimp only
  split_ifs <;> rfl

section
variable (sound : SoundBarrier state.recovery)

include sound

private theorem start_guards (ran : start digests state context epoch nowAt = .ok change) :
    Guards state.recovery change := by
  obtain ⟨_, -, ran⟩ := bind_ok ran
  by_cases opens : opensEpoch state.recovery epoch
  · rw [if_neg (by simpa using opens)] at ran
    obtain ⟨later, first⟩ := opensEpoch_le opens
    have unchecked : ∀ checks, epoch = state.recovery.epoch →
        Evolves Rechecked state.recovery.checks checks := by
      intro checks again position check found
      rw [sound.required (first again)] at found
      cases found
    split_ifs at ran
    · refine finish_guards ?_ later (unchecked _) ran
      exact nodup_nil
    obtain ⟨observed, recorded, ran⟩ := bind_ok ran
    obtain ⟨_, -, ran⟩ := bind_ok ran
    obtain ⟨transferred, moved, ran⟩ := bind_ok ran
    dsimp only at ran
    split_ifs at ran with repeated
    obtain ⟨stored, finished, ran⟩ := bind_ok ran
    cases ran
    have kept : (state.records.foldl (startRecord digests context state epoch nowAt)
        { state := transferred }).state.recovery = state.recovery := by
      rw [startRecords_recovery]
      rw [transferChildren_frame moved, observeRecorded_frame recorded]
    have guards : Guards _ stored :=
      finish_guards (by simpa [Distinct] using repeated) (by rw [kept]; exact later)
        (by rw [kept]; exact unchecked _) finished
    rw [kept] at guards
    exact ⟨guards.sound, guards.epoch, guards.checks, guards.signals⟩
  · rw [if_pos (by simpa using opens)] at ran
    cases ran
    exact .unchanged sound rfl rfl

private theorem endAtDeadline_guards
    (ran : endAtDeadline digests state context record reason = .ok change) :
    Guards state.recovery change := by
  dsimp only [endAtDeadline] at ran
  obtain ⟨recorded, -, ran⟩ := bind_ok ran
  obtain ⟨lost, cancelled, ran⟩ := bind_ok ran
  obtain ⟨failed, -, ran⟩ := bind_ok ran
  obtain ⟨cancels, -, ran⟩ := bind_ok ran
  obtain ⟨⟨barrier, inspections⟩, gated, ran⟩ := bind_ok ran
  cases ran
  have kept : (endOpenRecord state record failed (!lost.isEmpty)
      recorded.isNone).1.recovery = state.recovery := by
    unfold endOpenRecord
    split_ifs <;> rfl
  have mute : ∀ ended told, announced (lost ++ orphanedJobs ended context record told) = [] := by
    intro ended told
    rw [announced_append, announced_outward (lostTurn_outward cancelled),
      announced_outward (orphanedJobs_outward ended context record told)]
    rfl
  rcases gatedBarrier_cases gated with same | ⟨gating, check, checks, target, blocked, rfl, listed⟩
  · exact .unchanged sound (same.trans kept) (mute _ _)
  rw [kept] at listed gating
  have moved : Distinct (·.target) checks ∧ Evolves Rechecked state.recovery.checks checks := by
    rcases listed with ⟨missing, rfl⟩ | ⟨old, same, rfl⟩
    · exact ⟨sound.distinct.concat missing, .append Rechecked.refl _ _⟩
    · have rewrites : Rewrites Rechecked state.recovery.checks _ :=
        .replace Rechecked.refl ⟨same.symm, fun _ => by rw [blocked]; decide⟩ _
      exact ⟨sound.distinct.rewrites rewrites fun _ _ kept => kept.1, rewrites.evolves⟩
  refine ⟨⟨moved.1, nofun, nofun, nofun⟩, by rw [kept], fun _ => moved.2, ?_⟩
  rw [mute]
  rfl

private theorem deadline_guards
    (ran : deadline digests state context requestId nowAt reason = .ok change) :
    Guards state.recovery change := by
  obtain ⟨record, -, ran⟩ := bind_ok ran
  obtain ⟨_, -, ran⟩ := bind_ok ran
  split_ifs at ran
  · cases ran
    exact .unchanged sound rfl rfl
  · exact endAtDeadline_guards sound ran

private theorem lapseCommand_guards
    (ran : lapseCommand state context requestId nowAt = .ok change) :
    Guards state.recovery change := by
  obtain ⟨_, -, ran⟩ := bind_ok ran
  split at ran
  · cases ran
    exact .unchanged sound rfl rfl
  · split_ifs at ran <;>
      · cases ran
        exact .unchanged sound rfl rfl

private theorem advance_guards {event : RecordsEvent}
    (ran : advance digests state context event = .ok change) : Guards state.recovery change := by
  unfold advance at ran
  split at ran
  · exact start_guards sound ran
  · exact observe_guards sound ran
  · exact deadline_guards sound ran
  · exact lapseCommand_guards sound ran
  · exact recheck_guards sound ran
  · split_ifs at ran
    cases ran
    exact .unchanged sound rfl rfl
  · cases ran

end

end

structure Recovery where
  state : RecordsState
  context : RecordsContext
  event : RecordsEvent
  change : Change

/-- Recovery takes an event; only the barrier passes from one event to the next. -/
def GateStep (digests : Digests) (before : RecoveryBarrier) (taken : Recovery)
    (after : RecoveryBarrier) : Prop :=
  taken.state.recovery = before ∧
    advance digests taken.state taken.context taken.event = .ok taken.change ∧
    after = taken.change.state.recovery

/-- The target's check is blocked. -/
def Stuck (barrier : RecoveryBarrier) (target : RequestId) : Prop :=
  ∃ check ∈ barrier.checks, check.target = target ∧ check.resolution = .blocked

/-- The target's check is settled. -/
def Resolves (barrier : RecoveryBarrier) (target : RequestId) : Prop :=
  ∃ check ∈ barrier.checks,
    check.target = target ∧ check.resolution ≠ .pending ∧ check.resolution ≠ .blocked

structure Guarded (first : RecoveryBarrier) (labels : List Recovery) (last : RecoveryBarrier) :
    Prop where
  sound : SoundBarrier last
  epoch : first.epoch ≤ last.epoch
  steps : ∀ taken ∈ labels, Guards taken.state.recovery taken.change
  stuck : last.epoch = first.epoch → ∀ target, Stuck first target →
    Stuck last target ∨ ∃ taken ∈ labels, Resolves taken.change.state.recovery target

section
variable {digests : Digests} {first middle last : RecoveryBarrier} {before labels : List Recovery}

theorem Guarded.next {taken : Recovery} (guarded : Guarded first labels middle)
    (step : GateStep digests middle taken last) : Guarded first (labels ++ [taken]) last := by
  obtain ⟨rfl, ran, rfl⟩ := step
  have guards := advance_guards guarded.sound ran
  refine ⟨guards.sound, guarded.epoch.trans guards.epoch, fun other mem => ?_,
    fun within target stuck => ?_⟩
  · rcases mem_append.mp mem with mem | mem
    · exact guarded.steps other mem
    · rw [mem_singleton.mp mem]
      exact guards
  · have same := le_antisymm (guards.epoch.trans within.le) guarded.epoch
    rcases guarded.stuck same target stuck with ⟨old, listed, named, blocked⟩ | ⟨earlier, passed, held⟩
    · obtain ⟨later, listed, target, unpending⟩ :=
        (guards.checks (within.trans same.symm)).mem listed
      by_cases still : later.resolution = .blocked
      · exact .inl ⟨later, listed, target.trans named, still⟩
      · exact .inr ⟨taken, by simp, later, listed, target.trans named, unpending blocked, still⟩
    · exact .inr ⟨earlier, mem_append_left _ passed, held⟩

private theorem guarded_of_run (sound : SoundBarrier first)
    (run : Run (GateStep digests) first labels last) : Guarded first labels last :=
  run.history (Guarded first) Guarded.next
    ⟨sound, le_rfl, by simp, fun _ _ stuck => .inl stuck⟩

/-- Under every sequence of recovery events the barrier is ready only without open checks, announced
once, and never back. -/
theorem recovery_barrier_is_kept (required : first.phase = .required)
    (unchecked : first.checks = []) (past : Run (GateStep digests) first before middle)
    (future : Run (GateStep digests) middle labels last) :
    (last.checks.map (·.target)).Nodup ∧
    (last.phase = .ready →
      ∀ check ∈ last.checks, check.resolution ≠ .pending ∧ check.resolution ≠ .blocked) ∧
    (last.phase ≠ .ready → last.phase ≠ .required →
      (∃ check ∈ last.checks, check.resolution = .blocked) → last.phase = .blocked) ∧
    middle.epoch ≤ last.epoch ∧
    (∀ taken ∈ labels, announced taken.change.signals =
      if entersReady taken.state.recovery taken.change.state.recovery then
        [taken.change.state.recovery.epoch]
      else []) ∧
    (last.epoch = middle.epoch → ∀ target, Stuck middle target →
      Stuck last target ∨ ∃ taken ∈ labels, Resolves taken.change.state.recovery target) := by
  have initial : SoundBarrier first :=
    ⟨by simp [Distinct, unchecked], by simp [required], by simp [required], fun _ => unchecked⟩
  have guarded : Guarded middle labels last :=
    guarded_of_run (guarded_of_run initial past).sound future
  have sound := guarded.sound
  refine ⟨sound.distinct, sound.ready, fun unready opened stuck => ?_, guarded.epoch,
    fun taken member => (guarded.steps taken member).signals, guarded.stuck⟩
  obtain ⟨check, member, blocked⟩ := stuck
  cases phase : last.phase with
  | ready => exact absurd phase unready
  | required => exact absurd phase opened
  | recovering => exact absurd blocked (sound.recovering phase check member)
  | blocked => rfl

end

/-! ## A blocked check that is resolved and reopened -/

def blockedAdoption : List LedgerMove :=
  adoptionSent ++ [.event sampleContext (.recoveryStarted 1 0),
    .event sampleContext (.reconciliationDeadline ⟨"adopt"⟩ 500 .timedOut)]

def adoptionInspection : Request :=
  { adoptionRequest with
    requestId := some ⟨"recovery:1:adopt"⟩, body := .inspectRequest ⟨"adopt"⟩ none }

def inspectedAdoption : List LedgerMove :=
  blockedAdoption ++
    [.register { run := sampleRun } [⟨adoptionInspection, ⟨100, []⟩, none⟩],
      .event sampleContext (.dispatchAuthorized ⟨"recovery:1:adopt"⟩ none),
      .event sampleContext (.requestObserved
        { observation := { adoptionAnswer 1 .succeeded true true with
            requestId := ⟨"recovery:1:adopt"⟩ }
          target := some { observation := adoptionAnswer 1 .succeeded true false } })]

def parentAdoption : List LedgerMove :=
  inspectedAdoption ++
    [answered { adoptionAnswer 2 .succeeded true true with children := [⟨"child"⟩] }]

def gateTaken (moves : List LedgerMove) (event : RecordsEvent) : Recovery where
  state := ledgerAfter moves
  context := sampleContext
  event := event
  change := ((advance sampleDigests (ledgerAfter moves) sampleContext event).toOption).getD
    { state := {} }

/-- Nothing the blocked check waits on settles it: asked again, it stays blocked. -/
theorem lapsed_wait_leaves_the_check_blocked :
    let lapse := gateTaken blockedAdoption (.recoveryCheckWaitLapsed ⟨"adopt"⟩)
    (∃ before, Run (GateStep sampleDigests) {} before (ledgerAfter blockedAdoption).recovery) ∧
      Run (GateStep sampleDigests) (ledgerAfter blockedAdoption).recovery [lapse]
        lapse.change.state.recovery ∧
      lapse.change.state.recovery.phase = .blocked := by
  intro lapse
  have past : Run (GateStep sampleDigests) {} [gateTaken [] (.recoveryStarted 0 0),
      gateTaken adoptionSent (.recoveryStarted 1 0),
      gateTaken (adoptionSent ++ [.event sampleContext (.recoveryStarted 1 0)])
        (.reconciliationDeadline ⟨"adopt"⟩ 500 .timedOut)]
      (ledgerAfter blockedAdoption).recovery :=
    .cons ⟨rfl, by decide +kernel, rfl⟩ (.cons ⟨by decide +kernel, by decide +kernel, rfl⟩
      (.single ⟨by decide +kernel, by decide +kernel, by decide +kernel⟩))
  have future : Run (GateStep sampleDigests) (ledgerAfter blockedAdoption).recovery [lapse]
      lapse.change.state.recovery := .single ⟨rfl, by decide +kernel, rfl⟩
  obtain ⟨-, -, stuck, -⟩ := recovery_barrier_is_kept rfl rfl past future
  exact ⟨⟨_, past⟩, future, stuck (by decide +kernel) (by decide +kernel) (by decide +kernel)⟩

/-- Within one epoch the adoption's check is blocked, then resolved by its inspection, and pending
again once a later answer names a child. -/
theorem resolved_check_is_reopened :
    let check := fun moves => (ledgerAfter moves).recovery.checks.map fun check =>
      ((ledgerAfter moves).recovery.epoch, check.target.root, check.resolution)
    (∃ history, LedgerRun sampleDigests {} history (ledgerAfter parentAdoption)) ∧
      check blockedAdoption = [(1, "adopt", .blocked)] ∧
      check inspectedAdoption = [(1, "adopt", .terminal)] ∧
      check parentAdoption = [(1, "adopt", .pending)] := by
  have reached : ∃ history, LedgerRun sampleDigests {} history (ledgerAfter parentAdoption) :=
    Run.of_outcome (by decide +kernel)
  refine ⟨reached, ?_, ?_, ?_⟩ <;> decide +kernel

end VibeServeCore.Records
