/- source: _request_ledger.py (_observed, _apply, _refine, _reissue)
   digest: When a redelivered answer is inert, and how sending a record out again breaks it. -/

import VibeServeCore.Records.Finality

/-! An answer is a duplicate while its record holds it or a later one, which only the two writers
that send a record out again undo: they erase the observation with its sequence. -/

namespace VibeServeCore.Records

open Types Proofs Foundation.Ledger Foundation.Process
open RequestLedger (unique replace refine provesMore provenObservation applyFacts advancePhase
  advancedRecord exhausted cascade releasesTurn lostDispatch waitingCancels)

/-- A row already has the answer or a later one. -/
def HoldsAnswer (state : RecordsState) (observation : Observation) : Prop :=
  ∃ row ∈ state.records, Correlated row observation ∧ Superseded row observation

variable {row root : RequestRecord} {observation : Observation} {allowed : Allowance}
    {facts : Facts} {event : RequestObserved}

theorem Superseded.kept {next : RequestRecord} (superseded : Superseded row observation)
    (kept : AnswerKept row next) : Superseded next observation := by
  obtain ⟨held, stored, order⟩ := superseded
  obtain ⟨later, storedLater, after⟩ := kept held stored
  refine ⟨later, storedLater, ?_⟩
  rcases after with rfl | after
  · exact order
  · rcases order with rfl | order
    · exact .inr after
    · exact .inr (order.trans after)

theorem HoldsAnswer.evolves {reissued : RequestId → Prop} {before after : RecordsState}
    (holds : HoldsAnswer before observation)
    (evolves : Evolves (RecordEvolution reissued) before.records after.records)
    (kept : ¬reissued observation.requestId) : HoldsAnswer after observation := by
  obtain ⟨row, mem, correlated, superseded⟩ := holds
  obtain ⟨next, memberNext, evolved⟩ := evolves.mem mem
  rw [correlated.named] at kept
  exact ⟨next, memberNext, correlated.congr evolved.requestId evolved.request,
    superseded.kept (evolved.answer kept)⟩

section
variable {digests : Digests} {context : RecordsContext} {state : RecordsState}

/-- The record takes the answer in as it is: fresh, and news to a closed record. -/
structure StoresVerbatim (record : RequestRecord) (observation : Observation) : Prop where
  fresh : (freshObservation record.observation observation).isProven
  closed : record.phase = .completed → ∃ previous, record.observation = some previous ∧
    provesMore previous observation ∧ provenObservation previous observation = observation

variable {ends : RecordsState → RequestRecord → Except CoreError Change} {record : RequestRecord}
  {change : Change} {observation : Observation}

private theorem advancePhase_follows (cascades : Cascades allowed ends) {answer : Facts}
    {updated : RequestRecord}
    (written : advancedRecord context record (exhausted context record answer) = updated)
    (sound : SoundRecords (replace state updated).records)
    (advanced : advancePhase digests context ends state record answer = .ok change) :
    Rewrites (RecordEvolution allowed.reissued) (replace state updated).records
      change.state.records := by
  obtain ⟨signals, -, ⟨-, rfl⟩ | ⟨-, fenced, completion, events, blocked, -, ended⟩⟩ :=
    advancePhase_eq_ok rfl written advanced
  · exact .refl RecordEvolution.refl _
  · have fencing : LedgerStep allowed (replace state updated) { state := fenced } :=
      blockTarget_step sound blocked
    rcases ended with ⟨-, rfl⟩ | ⟨-, more, cascaded, rfl⟩
    · exact fencing.rewrites
    · exact fencing.rewrites.trans RecordEvolution.trans (cascades fencing.sound cascaded).rewrites

private theorem refine_holds (mem : record ∈ state.records)
    (correlated : Correlated record observation) (closed : record.phase = .completed)
    (stores : StoresVerbatim record observation)
    (refined : refine state record observation = .ok change) :
    HoldsAnswer change.state observation := by
  obtain ⟨previous, stored, more, same⟩ := stores.closed closed
  have acceptance : observation.accepted = previous.accepted := by rw [← same]; rfl
  unfold refine at refined
  simp only [stored, acceptance, more, ne_eq, not_true_eq_false, decide_false, Bool.and_false,
    Bool.false_eq_true, if_false, Bool.not_true] at refined
  split_ifs at refined
  cases refined
  refine ⟨_, mem_overwrite_self mem rfl, correlated.congr rfl rfl, observation, ?_, .inl rfl⟩
  rw [same]

private theorem applyFacts_holds (cascades : Cascades allowed ends) {unsent : Bool}
    (sound : SoundRecords state.records) (mem : record ∈ state.records)
    (stores : StoresVerbatim record facts.observation)
    (kept : ¬allowed.reissued facts.observation.requestId)
    (applied : applyFacts digests context ends state record facts unsent = .ok change) :
    HoldsAnswer change.state facts.observation := by
  obtain ⟨correlated, -, ⟨rfl, superseded⟩ | ⟨fresh, different, taken⟩⟩ := applyFacts_eq_ok applied
  · exact ⟨record, mem, correlated, superseded⟩
  rcases taken with ⟨closed, refined⟩ | ⟨opened, advanced⟩
  · exact refine_holds mem correlated closed stores refined
  obtain ⟨named, scope, admission, -, order⟩ := exhausted_fields context record facts
  have newer := newer_of_fresh (sound.rows record mem) correlated fresh different
  set updated := advancedRecord context record (exhausted context record facts) with written
  obtain ⟨evolved, soundNext⟩ := advancedRecord_sound context allowed.reissued opened
    (correlated.later named scope admission) (exhausted_newer context newer)
  obtain ⟨same, request, -, -, -, stored, -⟩ :=
    advancedRecord_fields context record (exhausted context record facts)
  have soundWritten : SoundRecords (replace state updated).records := sound.overwrite soundNext
  have wrote : HoldsAnswer (replace state updated) facts.observation := by
    refine ⟨updated, mem_overwrite_self mem same.symm, correlated.congr same request,
      _, stored, ?_⟩
    exact order.imp_right fun grown => by omega
  exact wrote.evolves (advancePhase_follows cascades written.symm soundWritten advanced).evolves
    kept

private theorem unique_of_mem (distinct : Distinct RequestRecord.requestId state.records)
    (mem : row ∈ state.records) : unique state row.requestId = .ok (some row) := by
  have listed : row ∈ state.find row.requestId := by simp [RecordsState.find, mem]
  have only : ∀ other ∈ state.find row.requestId, other = row := by
    intro other found
    obtain ⟨memberOther, same⟩ := List.mem_filter.mp found
    exact distinct.eq_of_key memberOther mem (by simpa using same)
  have nodup : (state.find row.requestId).Nodup := (List.Nodup.of_map _ distinct).filter _
  unfold unique
  rcases rows : state.find row.requestId with _ | ⟨first, _ | ⟨second, rest⟩⟩
  · simp [rows] at listed
  · rw [only first (by simp [rows])]
  · rw [rows] at nodup only
    have same : first = second := by rw [only first (by simp), only second (by simp)]
    simp [same] at nodup

private theorem observed_holds (sound : SoundRecords state.records) (mem : record ∈ state.records)
    (named : record.requestId = event.observation.requestId)
    (stores : StoresVerbatim record event.observation)
    (kept : ¬Reissued context state (.requestObserved event) event.observation.requestId)
    (taken : RequestLedger.observed digests context state event = .ok change) :
    HoldsAnswer change.state event.observation := by
  let allowed := allowance digests context state (.requestObserved event)
  have cascades : Cascades allowed (cascade digests context state) := cascade_cascades state
  obtain ⟨found, looked, taken⟩ := bind_ok taken
  rw [← named, unique_of_mem sound.distinct mem] at looked
  cases looked
  obtain ⟨own, applied, taken⟩ := bind_ok taken
  have rooted := applyFacts_told cascades sound mem applied
  have holds : HoldsAnswer own.state event.observation :=
    applyFacts_holds cascades sound mem stores kept applied
  -- Every continuation of the event is a step from here that does not send the record out again.
  split at taken
  · obtain ⟨more, ended, taken⟩ := bind_ok taken
    cases taken
    exact holds.evolves (endReleasedDispatch_step cascades rooted.sound ended).rewrites.evolves kept
  · obtain ⟨more, ended, taken⟩ := bind_ok taken
    cases taken
    exact holds.evolves (endCancelsOfReleasedTurn_step cascades (cancelDependents_spares _)
      rooted.sound ended).rewrites.evolves kept
  · split at taken
    · cases taken
      exact holds
    rename_i target given
    split_ifs at taken with child
    · cases taken
      exact holds
    obtain ⟨more, step, same, -⟩ := observeTarget_told cascades rooted.sound
      (fun reissues => ⟨target, given, by simpa using child, rfl, reissues.before rooted⟩) taken
    rw [same]
    exact holds.evolves step.rewrites.evolves kept

/-- Nothing rides on a repeated answer: no dispatch to end, no cancellation, no new target fact. -/
def RepeatsOnly (context : RecordsContext) (state : RecordsState) (root : RequestRecord)
    (event : RequestObserved) : Prop :=
  match root.request.body with
  | .cancelTurn invocation =>
    releasesTurn root.request invocation event.observation = false ∨
      lostDispatch context state invocation = none
  | .dispatchTurn turn _ =>
    (event.observation.terminal && event.observation.released &&
        event.observation.childrenComplete) = false ∨
      waitingCancels context state root.request.scope turn = []
  | body => ∀ target, event.target = some target → target.targetResource = none →
    (target.reissue.isSome ∧ ∃ row ∈ state.records,
      row.requestId = target.observation.requestId ∧ row.phase = .prepared) ∨
    (target.reissue = none ∧ HoldsAnswer state target.observation ∧
      ∀ invocation dispatch, body = .inspectTurn invocation dispatch →
        successWithoutReply target.observation)

private theorem applyFacts_held (sound : SoundRow record)
    (correlated : Correlated record facts.observation)
    (superseded : Superseded record facts.observation) :
    applyFacts digests context ends state record facts false = .ok { state := state } := by
  obtain ⟨held, stored, order⟩ := superseded
  have proven : observationFor record facts.observation = .proven facts.observation :=
    observationFor_eq_proven.mpr ⟨rfl, correlated⟩
  have sent : record.phase ≠ .prepared := by
    intro prepared
    rw [sound.unsent prepared] at stored
    cases stored
  have judged := freshObservation_correlated (sound.answer held stored).1 correlated
  unfold applyFacts
  rw [proven, stored, judged]
  rcases order with rfl | older
  · simp [sent]
  · simp [sent, older]

theorem HoldsAnswer.unique (holds : HoldsAnswer state observation)
    (sound : SoundRecords state.records) :
    ∃ record ∈ state.records, unique state observation.requestId = .ok (some record) ∧
      Correlated record observation ∧ Superseded record observation := by
  obtain ⟨row, mem, correlated, superseded⟩ := holds
  refine ⟨row, mem, ?_, correlated, superseded⟩
  rw [correlated.named]
  exact unique_of_mem sound.distinct mem

private theorem observeTarget_repeats {target : TargetObservation}
    (sound : SoundRecords state.records)
    (repeats : (target.reissue.isSome ∧ ∃ row ∈ state.records, row.requestId =
      target.observation.requestId ∧ row.phase = .prepared) ∨ (target.reissue = none ∧ HoldsAnswer
      state target.observation ∧ ∀ invocation dispatch, root.request.body = .inspectTurn invocation
      dispatch → successWithoutReply target.observation)) :
    RequestLedger.observeTarget digests context ends { state := state } root target =
      .ok { state := state } := by
  unfold RequestLedger.observeTarget
  rcases repeats with ⟨given, row, mem, named, prepared⟩ | ⟨none_, holds, unstated⟩
  · have found := unique_of_mem sound.distinct mem
    rw [named] at found
    simp [bind, Except.bind, found, given, prepared]
  obtain ⟨record, mem, found, correlated, superseded⟩ := holds.unique sound
  have applied : applyFacts digests context ends state record target.toFacts false =
      .ok { state := state } := applyFacts_held (sound.rows record mem) correlated superseded
  simp only [bind, Except.bind, found, none_, Option.isSome_none, Bool.false_and, Option.any_none,
    Bool.false_eq_true, if_false, applied]
  split
  · rename_i invocation dispatch inspects
    simp [unstated invocation dispatch inspects, AreaChange.merge]
  · simp [AreaChange.merge]

private theorem observed_repeats (sound : SoundRecords state.records)
    (holds : HoldsAnswer state event.observation) (mem : root ∈ state.records)
    (named : root.requestId = event.observation.requestId)
    (repeats : RepeatsOnly context state root event) :
    RequestLedger.observed digests context state event = .ok { state := state } := by
  obtain ⟨record, memberRecord, found, correlated, superseded⟩ := holds.unique sound
  obtain rfl := unique_only found mem named
  have applied : applyFacts digests context (cascade digests context state) state root event.toFacts
      false = .ok { state := state } :=
    applyFacts_held (sound.rows root mem) correlated superseded
  unfold RepeatsOnly at repeats
  split at repeats
  · rename_i invocation body
    simp only [RequestLedger.observed, bind, Except.bind, found, applied, body,
      RequestLedger.endReleasedDispatch]
    rcases repeats with unreleased | ended
    · simp [unreleased, AreaChange.merge]
    · rw [ended]
      split_ifs <;> simp [AreaChange.merge]
  · rename_i turn inputs body
    simp only [RequestLedger.observed, bind, Except.bind, found, applied, body,
      RequestLedger.endCancelsOfReleasedTurn]
    rcases repeats with unreleased | ended
    · simp [unreleased, AreaChange.merge]
    · rw [ended]
      split_ifs <;> simp [Foundation.Process.sequence, AreaChange.merge]
  · simp only [RequestLedger.observed, bind, Except.bind, found, applied]
    split
    · rfl
    · rename_i target given
      split_ifs with child
      · rfl
      · exact observeTarget_repeats sound (repeats target given (by simpa using child))

/-- A step that does not resend the request. -/
def SparingStep (digests : Digests) (identity : RequestId) (first : RecordsState)
    (label : LedgerMove × Change) (last : RecordsState) : Prop :=
  Produces (move digests) AreaChange.state first label last ∧ ¬Resends first identity label.1

private theorem resends_of_reissued {label : LedgerMove} {identity : RequestId}
    (reissued : (moveAllowance digests state label).reissued identity) :
    Resends state identity label := by
  cases label <;> exact reissued

private theorem holds_along {first last : RecordsState} {labels : List (LedgerMove × Change)}
    (run : Run (SparingStep digests observation.requestId) first labels last)
    (sound : SoundRecords first.records) (holds : HoldsAnswer first observation) :
    SoundRecords last.records ∧ HoldsAnswer last observation := by
  refine Run.invariant (fun state => SoundRecords state.records ∧ HoldsAnswer state observation)
    ?_ run ⟨sound, holds⟩
  rintro first label last ⟨soundFirst, held⟩ ⟨⟨moved, rfl⟩, spared⟩
  have step := move_step soundFirst moved
  exact ⟨step.sound, held.evolves step.evolves fun reissued => spared (resends_of_reissued reissued)⟩

/-- An answer its record took in, delivered again before the record is sent out again, changes and
publishes nothing. -/
theorem held_answer_is_inert (digests : Digests) {history : List (LedgerMove × Change)}
    {reached : RecordsState} (past : LedgerRun digests {} history reached) :
    (∀ (context : RecordsContext) (event : RequestObserved) (change : Change)
      (record : RequestRecord),
      move digests reached (.event context (.requestObserved event)) = .ok change →
      RequestLedger.isLate reached event = .ok false →
      record ∈ reached.records → record.requestId = event.observation.requestId →
      StoresVerbatim record event.observation →
      ¬Resends reached event.observation.requestId (.event context (.requestObserved event)) →
      HoldsAnswer change.state event.observation) ∧
    ∀ (observation : Observation) (later : List (LedgerMove × Change)) (last : RecordsState),
      HoldsAnswer reached observation →
      Run (SparingStep digests observation.requestId) reached later last →
      ∀ (context : RecordsContext) (event : RequestObserved) (root : RequestRecord),
        event.observation = observation → root ∈ last.records →
        root.requestId = observation.requestId → RepeatsOnly context last root event →
        RequestLedger.advance digests last context (.requestObserved event) =
          .ok { state := last } := by
  have sound : SoundRecords reached.records := LedgerRun.sound past ⟨List.nodup_nil, by simp⟩
  constructor
  · intro context event change record moved timely member named stores spared
    obtain ⟨late, looked, moved⟩ := bind_ok moved
    obtain rfl : late = false := by
      rw [timely] at looked
      cases looked
      rfl
    obtain ⟨ledger, taken, moved⟩ := bind_ok moved
    obtain ⟨recorded, -, moved⟩ := bind_ok moved
    obtain ⟨recovery, followed, moved⟩ := bind_ok moved
    cases moved
    have holds := observed_holds sound member named stores spared taken
    have first : LedgerTold (allowance digests context reached (.requestObserved event))
        (observedFacts digests context reached event) reached ledger := observed_told sound
      (fun target given root reissues => ⟨target, given, root, rfl, reissues⟩) taken
    have second : LedgerStep ⟨fun _ _ => False, fun _ => False⟩ ledger.state recovery :=
      observe_step first.sound followed
    exact holds.evolves second.rewrites.evolves id
  · rintro observation later last holds run context event root rfl member named repeats
    obtain ⟨soundLast, held⟩ := holds_along run sound holds
    exact observed_repeats soundLast held member named repeats

end

def adoptionFailure : Observation := adoptionAnswer 1 .failed false false

def adoptionFailed : List LedgerMove := adoptionSent ++ [answered adoptionFailure]

/-- The failure, superseded by a later answer before its retry, is inert when it comes again. -/
theorem superseded_failure_is_inert :
    let last := ledgerAfter (adoptionFailed ++ [answered (adoptionAnswer 2 .pending false false)])
    RequestLedger.advance sampleDigests last sampleContext
      (.requestObserved { observation := adoptionFailure }) = .ok { state := last } := by
  intro last
  obtain ⟨history, past⟩ : ∃ history, LedgerRun sampleDigests {} history
      (ledgerAfter adoptionFailed) := Run.of_outcome (by decide +kernel)
  have holds : HoldsAnswer (ledgerAfter adoptionFailed) adoptionFailure := by
    have held : ((ledgerAfter adoptionFailed).records.any fun row =>
        (observationFor row adoptionFailure).isProven &&
          row.observation = some adoptionFailure) := by decide +kernel
    obtain ⟨row, member, held⟩ := List.any_eq_true.mp held
    simp only [Bool.and_eq_true, decide_eq_true_eq] at held
    exact ⟨row, member, observationFor_isProven.mp held.1, _, held.2, .inl rfl⟩
  have moved : (move sampleDigests (ledgerAfter adoptionFailed)
      (answered (adoptionAnswer 2 .pending false false))).map AreaChange.state = .ok last := by
    decide +kernel
  obtain ⟨change, moved, reaches⟩ := map_ok moved
  have future : Run (SparingStep sampleDigests adoptionFailure.requestId)
      (ledgerAfter adoptionFailed) [(_, change)] last :=
    .single ⟨⟨moved, reaches.symm⟩, fun ⟨target, given, _⟩ => by cases given⟩
  have adopts : (last.records.any fun row => row.requestId = ⟨"adopt"⟩ &&
      row.request = adoptionRequest) := by decide +kernel
  obtain ⟨root, member, adopts⟩ := List.any_eq_true.mp adopts
  simp only [Bool.and_eq_true, decide_eq_true_eq] at adopts
  refine (held_answer_is_inert sampleDigests past).2 adoptionFailure _ last holds future sampleContext
    { observation := adoptionFailure } root rfl member adopts.1 ?_
  simp [RepeatsOnly, adopts.2, adoptionRequest]

/-! ## The retry that forgets -/

def adoptionResent : List LedgerMove :=
  adoptionFailed ++ [.event sampleContext (.retryDue ⟨"adopt"⟩ 50)]

def adoptionRedispatched : List LedgerMove :=
  adoptionResent ++ [.event sampleContext (.dispatchAuthorized ⟨"adopt"⟩ none)]

/-- A failure that was retried is not inert when delivered again: the event fails before the second
dispatch and is counted twice after it. -/
theorem retried_failure_is_counted_again :
    (∃ history, LedgerRun sampleDigests {} history (ledgerAfter adoptionRedispatched)) ∧
    ((ledgerAfter adoptionFailed).records.map fun row => (row.observation, row.retryCount)) =
      [(some adoptionFailure, 1)] ∧
    RequestLedger.advance sampleDigests (ledgerAfter adoptionResent) sampleContext
        (.requestObserved { observation := adoptionFailure }) =
      .error (.contract ["observation", "request_id"]
        "observation requires committed dispatch authorization") ∧
    (RequestLedger.advance sampleDigests (ledgerAfter adoptionRedispatched) sampleContext
        (.requestObserved { observation := adoptionFailure })).map
      (fun change => change.state.records.map fun row => row.retryCount) = .ok [2] := by
  refine ⟨Run.of_outcome (by decide +kernel), ?_, ?_, ?_⟩ <;> decide +kernel

end VibeServeCore.Records
