/- source: _request_ledger.py
   digest: Every ledger writer is a ledger step. -/

import VibeServeCore.Records.Evolution

namespace VibeServeCore.Records

open Types Proofs Foundation.Ledger Foundation.Process
open RequestLedger (unique replace refine provenObservation applyFacts advancePhase advancedRecord
  exhausted storeFacts blockTarget complete completionSignal operationResult completionOf cancelOne cancelPrepared cancelDependents unsentCancellation cascade)
open RequestForward (ownerSignals ownerSignal)

variable {state : RecordsState} {identity : RequestId} {row next : RequestRecord}
    {signals : List Signal} {events : List StrategyEvent}

theorem unique_eq_some (found : unique state identity = .ok (some row)) :
    row ∈ state.records ∧ row.requestId = identity := by
  unfold unique at found
  split at found
  · cases found
  · rename_i only rows
    cases found
    have mem : row ∈ state.find identity := by rw [rows]; exact List.mem_singleton_self _
    simpa [RecordsState.find] using mem
  · cases found

theorem unique_only {other : RequestRecord} (found : unique state identity = .ok (some row))
    (mem : other ∈ state.records) (same : other.requestId = identity) : other = row := by
  unfold unique at found
  split at found
  · cases found
  · rename_i only rows
    cases found
    have listed : other ∈ state.find identity := by
      simpa [RecordsState.find] using ⟨mem, same⟩
    rw [rows] at listed
    exact List.mem_singleton.mp listed
  · cases found

theorem unique_record (found : unique state identity = .ok (some row)) :
    state.record identity = some row := by
  have first : state.record identity = (state.find identity).head? := (List.head?_filter ..).symm
  unfold unique at found
  split at found
  · cases found
  · rename_i only rows
    cases found
    rw [first, rows]
    rfl
  · cases found

def Quiet (signals : List Signal) : Prop :=
  ∀ decisionId status, .decisionCompleted decisionId status ∉ signals

variable {context : RecordsContext} {record : RequestRecord} {facts : Facts} {signals : List Signal}

private theorem registered_quiet {operationId : OperationId} {wire : OperationWire}
    (sent : RequestForward.registered context record operationId wire facts = .ok signals) :
    Quiet signals := by
  obtain ⟨descriptor, -, sent⟩ := bind_ok sent
  split_ifs at sent
  · unfold RequestForward.reopened at sent
    split at sent <;> cases sent
    simp [Quiet]
  · cases sent
    simp [Quiet]
  split at sent
  · obtain ⟨turn, -, sent⟩ := bind_ok sent
    cases sent
    simp [Quiet]
  · obtain ⟨_, -, sent⟩ := bind_ok sent
    cases sent
    simp [Quiet]
  all_goals
    cases sent
    simp [Quiet]

private theorem jobObserved_quiet {resourceId : ResourceId}
    (sent : RequestForward.jobObserved resourceId facts = .ok signals) : Quiet signals := by
  obtain ⟨_, -, sent⟩ := bind_ok sent
  cases sent
  simp [Quiet]

private theorem sessionObserved_quiet {sessionId : SessionId}
    (sent : RequestForward.sessionObserved sessionId facts = .ok signals) : Quiet signals := by
  obtain ⟨_, -, sent⟩ := bind_ok sent
  cases sent
  simp [Quiet]

private theorem turnObserved_quiet
    (sent : RequestForward.turnObserved context record facts = .ok signals) : Quiet signals := by
  unfold RequestForward.turnObserved at sent
  split_ifs at sent
  · cases sent
    simp [Quiet]
  · obtain ⟨_, -, sent⟩ := bind_ok sent
    cases sent
    simp [Quiet]

private theorem ownerSignal_quiet (sent : ownerSignal context record facts = .ok signals) :
    Quiet signals := by
  unfold ownerSignal at sent
  split at sent
  case h_1 => exact registered_quiet sent
  case h_8 => exact sessionObserved_quiet sent
  case h_9 => exact sessionObserved_quiet sent
  case h_10 => exact turnObserved_quiet sent
  case h_11 => exact turnObserved_quiet sent
  case h_12 =>
    obtain ⟨_, -, sent⟩ := bind_ok sent
    cases sent
    simp [Quiet]
  case h_14 => exact jobObserved_quiet sent
  case h_15 => exact jobObserved_quiet sent
  case h_16 => exact jobObserved_quiet sent
  case h_17 => exact jobObserved_quiet sent
  all_goals
    cases sent
    simp [Quiet]

private theorem ownerSignals_quiet (sent : ownerSignals context record facts = .ok signals) :
    Quiet signals := by
  obtain ⟨own, made, sent⟩ := bind_ok sent
  cases sent
  intro decisionId status mem
  rcases List.mem_append.mp mem with early | late
  · exact ownerSignal_quiet made decisionId status early
  · unfold RequestForward.releases at late
    split_ifs at late
    · cases late
    · simp at late

section
variable {allowed : Allowance}

variable {state : RecordsState} {row record updated : RequestRecord} {observation : Observation}
  {change : Change} {facts answer : Facts}
  {ends : RecordsState → RequestRecord → Except CoreError Change} {unsent : Bool}

theorem LedgerTold.write {told : RequestId → List RetryFact} (sound : SoundRecords state.records)
    (mem : row ∈ state.records) (evolved : RecordEvolution allowed.reissued row next)
    (soundNext : SoundRow next) (traced : Trace (told row.requestId) row next)
    (others : ∀ identity, identity ≠ row.requestId → told identity = [] := by
      exact fun _ _ => rfl) :
    LedgerTold allowed told state { state := replace state next } where
  sound := sound.overwrite soundNext
  rewrites := sound.distinct.rewrites_overwrite (fun row _ => .refl row) mem evolved.requestId evolved
  traces := by
    refine sound.distinct.rewrites_overwrite (fun other differs => ?_) mem evolved.requestId traced
    rw [others _ (evolved.requestId ▸ differs)]
    exact .start other
  completions := by simp
  results := by simp

private theorem enters_replace (mem : row ∈ state.records) (same : next.requestId = row.requestId)
    (opened : row.phase ≠ .completed) (closed : next.phase = .completed) :
    Enters state.records (replace state next).records next :=
  ⟨mem_overwrite_self mem same.symm, closed, row, mem, same.symm, opened⟩

private theorem refines_proven {previous : Observation}
    (newer : previous.sequence ≤ observation.sequence) :
    Refines previous (provenObservation previous observation) where
  status := rfl
  accepted := rfl
  terminal := rfl
  resourceId := rfl
  revision := rfl
  released := fun held => by simp [provenObservation, held]
  childrenComplete := fun held => by simp [provenObservation, held]
  children := List.prefix_append _ _
  sequence := newer

theorem newer_of_fresh {incoming : Observation} (sound : SoundRow record)
    (correlated : Correlated record incoming)
    (fresh : (freshObservation record.observation incoming).isProven)
    (different : some incoming ≠ record.observation) :
    ∀ held, record.observation = some held → held.sequence < incoming.sequence := by
  intro held stored
  obtain ⟨value, proven⟩ := Verdict.isProven_iff.mp fresh
  rw [stored] at proven different
  obtain ⟨newer, same⟩ :=
    freshObservation_eq_proven (sound.answer held stored).1 correlated proven
  refine lt_of_le_of_ne newer fun equal => different ?_
  rw [same equal.symm]

private theorem refine_eq_ok (refined : refine state record observation = .ok change) :
    change = { state := state } ∨ ∃ previous, record.observation = some previous ∧
      change = { state := replace state { record with
        observation := some (provenObservation previous observation)
        sequence := some observation.sequence } } := by
  unfold refine at refined
  split at refined
  · cases refined
  rename_i previous stored
  split_ifs at refined
  · cases refined
    exact .inl rfl
  · cases refined
    exact .inl rfl
  · cases refined
    exact .inr ⟨previous, stored, rfl⟩

private theorem refine_step (sound : SoundRecords state.records) (mem : record ∈ state.records)
    (closed : record.phase = .completed)
    (newer : ∀ held, record.observation = some held → held.sequence < observation.sequence)
    (refined : refine state record observation = .ok change) : LedgerStep allowed state change := by
  obtain rfl | ⟨previous, stored, rfl⟩ := refine_eq_ok refined
  · exact .unchanged sound
  obtain ⟨correlated, numbered⟩ := (sound.rows record mem).answer previous stored
  have later := newer previous stored
  have evolved : RecordEvolution allowed.reissued record
      { record with
        observation := some (provenObservation previous observation)
        sequence := some observation.sequence } := by
    refine ⟨rfl, rfl, rfl, rfl, fun _ => ?_, fun _ held found => ?_⟩
    · refine ⟨closed, fun seen found => ?_, fun number found => ?_, rfl, rfl, rfl, rfl, rfl⟩
      · have same : seen = previous := Option.some.inj (found.symm.trans stored)
        rw [same]
        exact ⟨_, rfl, refines_proven later.le⟩
      · have same : number = previous.sequence := Option.some.inj (found.symm.trans numbered)
        rw [same]
        exact ⟨_, rfl, later.le⟩
    · have same : held = previous := Option.some.inj (found.symm.trans stored)
      rw [same]
      exact ⟨_, rfl, .inr later⟩
  refine .write sound mem evolved ⟨?_, fun prepared => ?_, fun _ => rfl⟩
    (evolved.traced rfl (.inr rfl))
  · intro seen found
    cases found
    have kept : Correlated record (provenObservation previous observation) :=
      correlated.later rfl rfl rfl
    exact ⟨kept.congr rfl rfl, rfl⟩
  · rw [closed] at prepared
    cases prepared

theorem exhausted_fields (context : RecordsContext) (record : RequestRecord) (facts : Facts) :
    let last := (exhausted context record facts).observation
    last.requestId = facts.observation.requestId ∧ last.scope = facts.observation.scope ∧
      last.admissionId = facts.observation.admissionId ∧
      last.status = facts.observation.status ∧
      (last = facts.observation ∨ last.sequence = facts.observation.sequence + 1) := by
  simp only [exhausted]
  split_ifs
  · exact ⟨rfl, rfl, rfl, rfl, .inl rfl⟩
  · exact ⟨rfl, rfl, rfl, rfl, .inr rfl⟩

theorem exhausted_newer (context : RecordsContext)
    (newer : ∀ held, record.observation = some held → held.sequence < facts.observation.sequence) :
    ∀ held, record.observation = some held →
      held.sequence < (exhausted context record facts).observation.sequence := by
  intro held stored
  have base := newer held stored
  rcases (exhausted_fields context record facts).2.2.2.2 with same | grown
  · rw [same]
    exact base
  · omega

private theorem nextPhase_sent (record : RequestRecord) (observation : Observation) :
    (RequestLedger.nextPhase record observation).1 ≠ .prepared := by
  unfold RequestLedger.nextPhase
  split_ifs <;> rintro ⟨⟩

private theorem storeFacts_fields (record : RequestRecord) (facts : Facts) (phase : RequestPhase)
    (retries : Nat) (retryAt : Option Seconds) :
    let next := storeFacts record facts phase retries retryAt
    next.requestId = record.requestId ∧ next.request = record.request ∧
      next.payloadDigest = record.payloadDigest ∧ next.lifecycle = record.lifecycle ∧
      next.phase = phase ∧ next.observation = some facts.observation ∧
      next.sequence = some facts.observation.sequence := by
  simp only [storeFacts]
  split <;> exact ⟨rfl, rfl, rfl, rfl, rfl, rfl, rfl⟩

theorem advancedRecord_fields (context : RecordsContext) (record : RequestRecord) (facts : Facts) :
    let next := advancedRecord context record facts
    next.requestId = record.requestId ∧ next.request = record.request ∧
      next.payloadDigest = record.payloadDigest ∧ next.lifecycle = record.lifecycle ∧
      next.phase ≠ .prepared ∧ next.observation = some facts.observation ∧
      next.sequence = some facts.observation.sequence := by
  obtain ⟨h1, h2, h3, h4, h5, h6, h7⟩ := storeFacts_fields record facts
    (RequestLedger.nextPhase record facts.observation).1
    (RequestLedger.nextPhase record facts.observation).2
    (if (RequestLedger.nextPhase record facts.observation).1 = .dispatched &&
        facts.observation.retryable then
      some (context.run.nowAt + context.run.limits.requestRetries.delay
        (RequestLedger.nextPhase record facts.observation).2)
    else none)
  exact ⟨h1, h2, h3, h4, fun unsent => nextPhase_sent record _ (h5.symm.trans unsent), h6, h7⟩

theorem advancedRecord_sound (context : RecordsContext) (reissued : RequestId → Prop)
    (opened : record.phase ≠ .completed) (correlated : Correlated record facts.observation)
    (newer : ∀ held, record.observation = some held → held.sequence < facts.observation.sequence) :
    RecordEvolution reissued record (advancedRecord context record facts) ∧
      SoundRow (advancedRecord context record facts) := by
  obtain ⟨same, request, digest, lifecycle, sent, stored, numbered⟩ :=
    advancedRecord_fields context record facts
  refine ⟨.of_open opened same request digest lifecycle fun _ held found => ?_, fun seen found => ?_,
    fun unsent => absurd unsent sent, fun _ => ?_⟩
  · exact ⟨facts.observation, stored, .inr (newer held found)⟩
  · have answer : seen = facts.observation := Option.some.inj (found.symm.trans stored)
    rw [answer]
    exact ⟨correlated.congr same request, numbered⟩
  · rw [stored]
    rfl

/-- The fact an answer tells of the row that judges it: accepted are the retryable answers that are
newer than the stored one, while the record is open. -/
def answerFacts (context : RecordsContext) (row : RequestRecord) (answer : Observation) :
    List RetryFact :=
  if row.phase = .completed || !answer.retryable ||
      row.observation.any fun held => answer.sequence ≤ held.sequence then []
  else if row.retryCount + 1 ≤ RequestLedger.retryLimit context row then
    [.counted context.run.nowAt context.run.limits.requestRetries answer]
  else [.ended context.run.limits.requestRetries answer]

/-- Facts about one record. -/
def only (identity : RequestId) (facts : List RetryFact) (other : RequestId) : List RetryFact :=
  if other = identity then facts else []

theorem only_nil (identity : RequestId) : only identity [] = fun _ => [] := by
  funext other
  simp [only]

theorem only_self (identity : RequestId) (facts : List RetryFact) :
    only identity facts identity = facts := if_pos rfl

private theorem answerFacts_terminal (context : RecordsContext) (row : RequestRecord)
    (terminal : observation.retryable = false) : answerFacts context row observation = [] := by
  simp [answerFacts, terminal]

theorem retryable_terminal (terminal : observation.terminal) : observation.retryable = false := by
  simp [Observation.retryable, terminal]

private theorem answerFacts_closed (context : RecordsContext) (observation : Observation)
    (closed : record.phase = .completed) : answerFacts context record observation = [] := by
  simp [answerFacts, closed]

private theorem advancedRecord_retries (context : RecordsContext) (record : RequestRecord)
    (facts : Facts) :
    let next := advancedRecord context record facts
    let planned := RequestLedger.nextPhase record facts.observation
    next.phase = planned.1 ∧ next.retryCount = planned.2 ∧
      next.observation = some facts.observation ∧
      next.retryAt = if planned.1 = .dispatched && facts.observation.retryable then
        some (context.run.nowAt + context.run.limits.requestRetries.delay planned.2) else none := by
  simp only [advancedRecord, storeFacts]
  split <;> exact ⟨rfl, rfl, rfl, rfl⟩

private theorem nextPhase_retryable (record : RequestRecord) (retryable : observation.retryable) :
    RequestLedger.nextPhase record observation = (.dispatched, record.retryCount + 1) := by
  simp only [Observation.retryable, Bool.and_eq_true, Bool.not_eq_true'] at retryable
  obtain ⟨open_, failed⟩ := retryable
  have known : observation.status ≠ .unknown := by
    intro unknown
    rw [unknown] at failed
    cases failed
  simp [RequestLedger.nextPhase, RequestLedger.conclusive, Observation.retryable, open_, known,
    failed]

private theorem nextPhase_exhausted (context : RecordsContext) (record : RequestRecord)
    (retryable : answer.observation.retryable)
    (spent : RequestLedger.retryLimit context record < record.retryCount + 1) :
    let last := (exhausted context record answer).observation
    RequestLedger.nextPhase record last = (.completed, record.retryCount) ∧
      last.status = answer.observation.status ∧ last.accepted = false ∧ last.released := by
  have over_ : exhausted context record answer = _ := if_neg (by simpa [retryable] using spent)
  simp only [over_, and_self, and_true]
  simp only [Observation.retryable, Bool.and_eq_true] at retryable
  have failed := retryable.2
  cases status : answer.observation.status with
  | failed | rejected | cancelled => rfl
  | _ => rw [status] at failed; cases failed

private theorem advancedRecord_traced {context : RecordsContext} {reissued : RequestId → Prop}
    (opened : record.phase ≠ .completed) (newer : ∀ held, record.observation = some held →
      held.sequence < answer.observation.sequence) (evolved : RecordEvolution reissued record
      (advancedRecord context record (exhausted context record answer))) :
    Trace (answerFacts context record answer.observation) record
      (advancedRecord context record (exhausted context record answer)) := by
  have evolves : RecordEvolution (fun _ => True) record
      (advancedRecord context record (exhausted context record answer)) :=
    evolved.mono fun _ _ => trivial
  obtain ⟨phase, count, stored, retryAt⟩ :=
    advancedRecord_retries context record (exhausted context record answer)
  have fresh : (record.observation.any fun held => answer.observation.sequence ≤ held.sequence) =
      false := by
    rw [Option.any_eq_false]
    exact fun held found => by simpa using newer held found
  by_cases retryable : answer.observation.retryable
  · simp only [answerFacts, opened, retryable, fresh, decide_false, Bool.not_true, Bool.or_self,
      Bool.false_eq_true, if_false]
    by_cases within : record.retryCount + 1 ≤ RequestLedger.retryLimit context record
    · have same : exhausted context record answer = answer := by simp [exhausted, within]
      rw [same] at evolves phase count stored retryAt ⊢
      simp only [nextPhase_retryable record retryable, retryable] at count retryAt
      rw [if_pos within]
      refine (Trace.start record).fact evolves ⟨opened, retryable, within, count, ?_, stored⟩
      rw [count]
      exact retryAt
    · obtain ⟨planned, status, accepted, released⟩ :=
        nextPhase_exhausted context record retryable (not_le.mp within)
      simp only [planned] at phase count retryAt
      rw [if_neg within]
      exact (Trace.start record).fact evolves ⟨opened, retryable, not_le.mp within, count, retryAt,
        phase, _, stored, status, accepted, released⟩
  · have same : exhausted context record answer = answer := by simp [exhausted, retryable]
    rw [answerFacts_terminal context record (by simpa using retryable)]
    rw [same] at evolved phase count retryAt ⊢
    refine evolved.traced ?_ (.inl (by simpa [retryable] using retryAt))
    rw [count]
    unfold RequestLedger.nextPhase
    split_ifs <;> rfl

private theorem blockTarget_eq_ok {next : RecordsState}
    (fenced : blockTarget state record = .ok next) :
    next = state ∨ ∃ target ∈ state.records, target.phase ≠ .completed ∧
      next = replace state { target with phase := .blocked } := by
  unfold blockTarget at fenced
  split at fenced
  · split_ifs at fenced
    · obtain ⟨found, looked, fenced⟩ := bind_ok fenced
      split at fenced
      · cases fenced
        exact .inl rfl
      split_ifs at fenced with closed
      · cases fenced
        exact .inl rfl
      · cases fenced
        exact .inr ⟨_, (unique_eq_some looked).1, closed, rfl⟩
    · cases fenced
      exact .inl rfl
  · cases fenced
    exact .inl rfl

theorem blockTarget_step {next : RecordsState} (sound : SoundRecords state.records)
    (fenced : blockTarget state record = .ok next) :
    LedgerStep allowed state { state := next } := by
  obtain rfl | ⟨target, mem, opened, rfl⟩ := blockTarget_eq_ok fenced
  · exact .unchanged sound
  have evolved : RecordEvolution allowed.reissued target { target with phase := .blocked } :=
    .of_open opened rfl rfl rfl rfl fun _ => .same rfl
  exact .write sound mem evolved
    ((sound.rows target mem).congr rfl rfl rfl rfl (by rintro ⟨⟩) (by rintro ⟨⟩))
    (evolved.traced rfl (.inr rfl))

variable {digests : Digests} {context : RecordsContext}

theorem mem_completionSignal {decisionId completed : DecisionId} {status reported : CompletionStatus}
    (mem : .decisionCompleted completed reported ∈
      completionSignal digests context decisionId status) :
    completed = decisionId ∧ reported = status := by
  unfold completionSignal at mem
  split at mem
  · rename_i receipt proven
    split_ifs at mem
    · cases mem
    · obtain ⟨rfl, rfl⟩ : completed = receipt.decisionId ∧ reported = status := by
        simpa using mem
      exact ⟨(acceptedReceiptFor_eq_proven digests proven).2.1, rfl⟩
  · cases mem

private theorem mem_operationResult {result : OperationResult}
    (mem : .operationResult result ∈ operationResult record facts) :
    result.observation = facts.observation := by
  unfold operationResult at mem
  split at mem
  · split_ifs at mem
    · obtain rfl : result = _ := by simpa using mem
      rfl
    · cases mem
  · cases mem

private theorem complete_publishes
    (done : complete digests context record facts = .ok (signals, events)) :
    (∀ decisionId status, .decisionCompleted decisionId status ∈ signals →
      record.request.decisionId = some decisionId ∧
        status = completionOf facts.observation.status) ∧
    ∀ result, .operationResult result ∈ events → result.observation = facts.observation := by
  obtain ⟨owned, -, done⟩ := bind_ok done
  split at done
  · rename_i decisionId decided
    obtain ⟨rfl, rfl⟩ : signals = _ ∧ events = _ := by simpa [eq_comm] using done
    refine ⟨fun completed status mem => ?_, fun result mem => mem_operationResult mem⟩
    obtain ⟨rfl, rfl⟩ := mem_completionSignal mem
    exact ⟨decided, rfl⟩
  · obtain ⟨rfl, rfl⟩ : signals = [] ∧ events = [] := by simpa [eq_comm] using done
    simp

def Cascades (allowed : Allowance)
    (ends : RecordsState → RequestRecord → Except CoreError Change) : Prop :=
  ∀ ⦃state failed change⦄, SoundRecords state.records → ends state failed = .ok change →
    LedgerStep allowed state change

def closingChange (fenced : RecordsState) (signals completion : List Signal)
    (events : List StrategyEvent) : Change :=
  { state := fenced, signals := (signals ++ completion).eraseDups, events }

theorem advancePhase_eq_ok (taken : exhausted context record answer = facts)
    (row : advancedRecord context record facts = updated)
    (advanced : advancePhase digests context ends state record answer = .ok change) :
    ∃ signals, ownerSignals context updated facts = .ok signals ∧
      ((updated.phase ≠ .completed ∧
          change = { state := replace state updated, signals }) ∨
        (updated.phase = .completed ∧ ∃ fenced completion events,
          blockTarget (replace state updated) updated = .ok fenced ∧
          complete digests context updated facts = .ok (completion, events) ∧
          ((facts.observation.status = .succeeded ∧
              change = closingChange fenced signals completion events) ∨
            (facts.observation.status ≠ .succeeded ∧ ∃ more, ends fenced updated = .ok more ∧
              change = (closingChange fenced signals completion events).merge more)))) := by
  unfold advancePhase at advanced
  simp only [taken, row] at advanced
  obtain ⟨signals, sent, advanced⟩ := bind_ok advanced
  refine ⟨signals, sent, ?_⟩
  split_ifs at advanced with closed failed
  · obtain ⟨fenced, blocked, advanced⟩ := bind_ok advanced
    obtain ⟨⟨completion, events⟩, done, advanced⟩ := bind_ok advanced
    obtain ⟨more, cascaded, advanced⟩ := bind_ok advanced
    cases advanced
    exact .inr ⟨closed, fenced, completion, events, blocked, done, .inr ⟨failed, more, cascaded, rfl⟩⟩
  · obtain ⟨fenced, blocked, advanced⟩ := bind_ok advanced
    obtain ⟨⟨completion, events⟩, done, advanced⟩ := bind_ok advanced
    cases advanced
    exact .inr ⟨closed, fenced, completion, events, blocked, done, .inl ⟨not_not.mp failed, rfl⟩⟩
  · cases advanced
    exact .inl ⟨closed, rfl⟩

private theorem closingChange_told {retried : List RetryFact} {fenced : RecordsState}
    {completion : List Signal}
    (sound : SoundRecords state.records) (mem : record ∈ state.records)
    (opened : record.phase ≠ .completed) (evolved : RecordEvolution allowed.reissued record updated)
    (soundNext : SoundRow updated) (traced : Trace retried record updated)
    (stored : updated.observation = some facts.observation) (closed : updated.phase = .completed)
    (quiet : Quiet signals) (blocked : blockTarget (replace state updated) updated = .ok fenced)
    (done : complete digests context updated facts = .ok (completion, events)) :
    LedgerTold allowed (only record.requestId retried) state
      (closingChange fenced signals completion events) := by
  have written : LedgerTold allowed (only record.requestId retried) state
      { state := replace state updated } :=
    .write sound mem evolved soundNext (by rwa [only_self]) fun _ other => if_neg other
  have fencing : LedgerStep allowed (replace state updated) { state := fenced } :=
    blockTarget_step written.sound blocked
  have entered := enters_replace mem evolved.requestId opened closed
  obtain ⟨last, enteredLast, evolvedLast⟩ := entered.after fencing.rewrites
  obtain ⟨later, storedLater, refines⟩ :=
    (evolvedLast.closed closed).observation facts.observation stored
  obtain ⟨completions, results⟩ := complete_publishes done
  have fencedRows : LedgerTold allowed (only record.requestId retried) state { state := fenced } :=
    written.followed fencing rfl (by simp) (by simp)
  refine ⟨fencing.sound, fencedRows.rewrites, fencedRows.traces, ?_, ?_⟩
  · intro decisionId status published
    refine .inr ?_
    have own : .decisionCompleted decisionId status ∈ completion := by
      have either : .decisionCompleted decisionId status ∈ signals ++ completion := by
        simpa [closingChange] using published
      exact (List.mem_append.mp either).resolve_left (quiet decisionId status)
    obtain ⟨decided, reported⟩ := completions decisionId status own
    refine ⟨last, later, enteredLast, ?_, storedLater, ?_⟩
    · rw [evolvedLast.request, decided]
    · rw [reported, refines.status]
  · intro result published
    have answer := results result published
    refine ⟨last, later, enteredLast, ?_, storedLater, by rw [answer]; exact refines⟩
    rw [evolvedLast.requestId, answer]
    exact (soundNext.answer _ stored).1.named.symm

private theorem advancePhase_told (cascades : Cascades allowed ends)
    (sound : SoundRecords state.records)
    (mem : record ∈ state.records) (opened : record.phase ≠ .completed)
    (correlated : Correlated record answer.observation)
    (newer : ∀ held, record.observation = some held → held.sequence < answer.observation.sequence)
    (advanced : advancePhase digests context ends state record answer = .ok change) :
    LedgerTold allowed (only record.requestId (answerFacts context record answer.observation)) state
      change := by
  obtain ⟨named, scope, admission, -⟩ := exhausted_fields context record answer
  obtain ⟨evolved, soundNext⟩ := advancedRecord_sound context allowed.reissued opened
    (correlated.later named scope admission) (exhausted_newer context newer)
  have traced := advancedRecord_traced opened newer evolved
  have stored := (advancedRecord_fields context record (exhausted context record answer)).2.2.2.2.2.1
  obtain ⟨signals, sent, ⟨-, rfl⟩ | ⟨closed, fenced, completion, events, blocked, done, ended⟩⟩ :=
    advancePhase_eq_ok rfl rfl advanced
  · have written : LedgerTold allowed
        (only record.requestId (answerFacts context record answer.observation)) state
        { state := replace state (advancedRecord context record (exhausted context record answer)) } :=
      .write sound mem evolved soundNext (by rwa [only_self]) fun _ other => if_neg other
    exact ⟨written.sound, written.rewrites, written.traces,
      fun decisionId status mem => absurd mem (ownerSignals_quiet sent decisionId status),
      by simp⟩
  · have closing : LedgerTold allowed
        (only record.requestId (answerFacts context record answer.observation)) state
        (closingChange fenced signals completion events) :=
      closingChange_told sound mem opened evolved soundNext traced stored closed
        (ownerSignals_quiet sent) blocked done
    rcases ended with ⟨-, rfl⟩ | ⟨-, more, cascaded, rfl⟩
    · exact closing
    · exact closing.merge (cascades closing.sound cascaded)

def Superseded (record : RequestRecord) (observation : Observation) : Prop :=
  ∃ held, record.observation = some held ∧
    (held = observation ∨ observation.sequence < held.sequence)

theorem applyFacts_eq_ok
    (applied : applyFacts digests context ends state record facts unsent = .ok change) :
    Correlated record facts.observation ∧
      (record.phase = .prepared → unsent) ∧
      ((change = { state := state } ∧ Superseded record facts.observation) ∨
        ((freshObservation record.observation facts.observation).isProven ∧
          some facts.observation ≠ record.observation ∧
          ((record.phase = .completed ∧ refine state record facts.observation = .ok change) ∨
            (record.phase ≠ .completed ∧
              advancePhase digests context ends state record facts = .ok change)))) := by
  unfold applyFacts at applied
  split at applied
  · cases applied
  · cases applied
  rename_i value proven
  refine ⟨(observationFor_eq_proven.mp proven).2, ?_⟩
  split at applied
  · cases applied
  rename_i unsentOnly
  have sent : record.phase = .prepared → unsent := by
    intro prepared
    simpa [prepared] using unsentOnly
  refine ⟨sent, ?_⟩
  split at applied
  · split at applied
    · rename_i older
      cases applied
      obtain ⟨present, older⟩ := (Option.any_eq_true_iff_get _ _).mp older
      exact .inl ⟨rfl, _, (Option.some_get present).symm, .inr (by simpa using older)⟩
    · cases applied
  · cases applied
  · cases applied
  · rename_i value fresh
    split_ifs at applied with repeated closed
    · cases applied
      exact .inl ⟨rfl, _, repeated.symm, .inl rfl⟩
    · exact .inr ⟨by rw [fresh]; rfl, repeated, .inl ⟨closed, applied⟩⟩
    · exact .inr ⟨by rw [fresh]; rfl, repeated, .inr ⟨closed, applied⟩⟩

private theorem answerFacts_superseded (context : RecordsContext)
    (superseded : Superseded record observation) : answerFacts context record observation = [] := by
  obtain ⟨held, stored, order⟩ := superseded
  have older : observation.sequence ≤ held.sequence := by
    rcases order with rfl | order
    · exact le_rfl
    · exact order.le
  simp [answerFacts, stored, older]

theorem applyFacts_told (cascades : Cascades allowed ends) (sound : SoundRecords state.records)
    (mem : record ∈ state.records)
    (applied : applyFacts digests context ends state record facts unsent = .ok change) :
    LedgerTold allowed (only record.requestId (answerFacts context record facts.observation)) state
      change := by
  obtain ⟨correlated, -, ⟨rfl, superseded⟩ | ⟨fresh, different, taken⟩⟩ := applyFacts_eq_ok applied
  · rw [answerFacts_superseded context superseded, only_nil]
    exact .unchanged sound
  · have newer := newer_of_fresh (sound.rows record mem) correlated fresh different
    rcases taken with ⟨closed, refined⟩ | ⟨opened, advanced⟩
    · rw [answerFacts_closed context _ closed, only_nil]
      exact refine_step sound mem closed newer refined
    · exact advancePhase_told cascades sound mem opened correlated newer advanced

/-- Facts that cannot be retried tell nothing. -/
theorem applyFacts_step (cascades : Cascades allowed ends) (sound : SoundRecords state.records)
    (mem : record ∈ state.records) (terminal : facts.observation.retryable = false)
    (applied : applyFacts digests context ends state record facts unsent = .ok change) :
    LedgerStep allowed state change := by
  have told := applyFacts_told cascades sound mem applied
  rwa [answerFacts_terminal context record terminal, only_nil] at told

private theorem cancelOne_step (cascades : Cascades allowed ends) {before : RecordsState}
    {current next : Change} (reached : LedgerStep allowed before current)
    (cancelled : cancelOne digests context ends current record = .ok next) :
    LedgerStep allowed before next := by
  obtain ⟨found, looked, cancelled⟩ := bind_ok cancelled
  split at cancelled
  · cases cancelled
    exact reached
  split_ifs at cancelled
  · cases cancelled
    exact reached
  · obtain ⟨more, applied, cancelled⟩ := bind_ok cancelled
    cases cancelled
    have mem := (unique_eq_some looked).1
    exact reached.merge (applyFacts_step cascades reached.sound mem rfl applied)

theorem cancelPrepared_step (cascades : Cascades allowed ends) {doomed : List RequestRecord}
    (sound : SoundRecords state.records)
    (cancelled : cancelPrepared digests context ends state doomed = .ok change) :
    LedgerStep allowed state change :=
  sequence_induction (fun _ current => LedgerStep allowed state current)
    (cancelOne_step cascades) (.unchanged sound) cancelled

private theorem cancelDependents_cascades (fuel : Nat) :
    Cascades allowed (cancelDependents digests context fuel) := by
  induction fuel with
  | zero =>
    intro state record change _ cancelled
    cases cancelled
  | succ fuel ih =>
    intro state record change sound cancelled
    exact cancelPrepared_step ih sound cancelled

theorem cascade_cascades (state : RecordsState) :
    Cascades allowed (cascade digests context state) :=
  cancelDependents_cascades _

/-! ### What a failing answer leaves in place -/

def KeepsSent (identity : RequestId) (before after : RecordsState) : Prop :=
  ∀ row ∈ before.records, row.requestId ≠ identity → row.phase ≠ .prepared → row ∈ after.records

theorem KeepsSent.refl (identity : RequestId) (state : RecordsState) :
    KeepsSent identity state state := fun _ mem _ _ => mem

def SparesSent (ends : RecordsState → RequestRecord → Except CoreError Change) : Prop :=
  ∀ ⦃state failed change⦄, ends state failed = .ok change →
    ∀ row ∈ state.records, row.phase ≠ .prepared → row ∈ change.state.records

private theorem blockTarget_failed (stored : record.observation = some observation)
    (failed : observation.status ≠ .succeeded) : blockTarget state record = .ok state := by
  unfold blockTarget
  split
  · simp [stored, failed]
  · rfl

private theorem keepsSent_replace {updated : RequestRecord} (state : RecordsState)
    (same : updated.requestId = record.requestId) :
    KeepsSent record.requestId state (replace state updated) := by
  intro row mem other _
  rw [← same] at other
  exact mem_overwrite_of_ne mem other

theorem applyFacts_keepsSent (spares : SparesSent ends)
    (failed : facts.observation.status ≠ .succeeded)
    (applied : applyFacts digests context ends state record facts unsent = .ok change) :
    KeepsSent record.requestId state change.state := by
  obtain ⟨-, -, ⟨rfl, -⟩ | ⟨-, -, ⟨-, refined⟩ | ⟨-, advanced⟩⟩⟩ := applyFacts_eq_ok applied
  · exact .refl _ _
  · obtain rfl | ⟨previous, -, rfl⟩ := refine_eq_ok refined
    · exact .refl _ _
    · exact keepsSent_replace state rfl
  obtain ⟨same, -, -, -, -, stored, -⟩ :=
    advancedRecord_fields context record (exhausted context record facts)
  have failedLater : (exhausted context record facts).observation.status ≠ .succeeded := by
    rw [(exhausted_fields context record facts).2.2.2.1]
    exact failed
  have written := keepsSent_replace state same
  obtain ⟨signals, -, ⟨-, rfl⟩ | ⟨-, fenced, completion, events, blocked, -, ended⟩⟩ :=
    advancePhase_eq_ok rfl rfl advanced
  · exact written
  · rw [blockTarget_failed stored failedLater] at blocked
    cases blocked
    rcases ended with ⟨-, rfl⟩ | ⟨-, more, cascaded, rfl⟩
    · exact written
    · intro row mem other sent
      exact spares cascaded row (written row mem other sent) sent

theorem cancelDependents_spares (fuel : Nat) :
    SparesSent (cancelDependents digests context fuel) := by
  induction fuel with
  | zero =>
    intro state failed change cancelled
    cases cancelled
  | succ fuel ih =>
    intro state failed change cancelled row mem sent
    refine sequence_induction (fun _ (current : Change) => row ∈ current.state.records)
      (fun kept cancelled => ?_) mem cancelled
    obtain ⟨found, looked, cancelled⟩ := bind_ok cancelled
    split at cancelled
    · cases cancelled
      exact kept
    rename_i current
    split_ifs at cancelled with unsent
    · cases cancelled
      exact kept
    obtain ⟨more, applied, cancelled⟩ := bind_ok cancelled
    cases cancelled
    have prepared : current.phase = .prepared := not_not.mp unsent
    have failed : (unsentCancellation context current).observation.status ≠ .succeeded := by
      rintro ⟨⟩
    -- The cancelled row is prepared, so it is not the one followed here.
    refine applyFacts_keepsSent ih failed applied row kept (fun same => sent ?_) sent
    rw [unique_only looked kept (same.trans (unique_eq_some looked).2), prepared]

end

end VibeServeCore.Records
