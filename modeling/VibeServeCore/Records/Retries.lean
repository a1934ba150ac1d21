/- source: _request_ledger.py (retry_delay, _next_phase, _exhausted, _retry)
   digest: A request is retried within its limit, and never before its backoff. -/

import VibeServeCore.Records.Finality

/-! The labels of a run tell each record's story: the answers its rows accepted and the retries that
came due. The story leads from the unanswered registration to what the row is now, and its books
balance. -/

namespace VibeServeCore.Records

open Types Proofs Foundation.Ledger Foundation.Process Registration List

def RetryFact.isCounted : RetryFact → Bool
  | .counted .. => true
  | _ => false

def RetryFact.isResent : RetryFact → Bool
  | .resent _ => true
  | _ => false

def RetryFact.Under (retries : RequestRetries) : RetryFact → Prop
  | .counted _ declared _ | .ended declared _ => declared = retries
  | _ => True

/-- The facts account for every retry of the row. -/
structure Accounts (retries : RequestRetries) (facts : List RetryFact) (row : RequestRecord) :
    Prop where
  count : row.retryCount = facts.countP RetryFact.isCounted
  within : row.retryCount ≤ limitOf retries row
  resends : facts.countP RetryFact.isResent ≤ facts.countP RetryFact.isCounted
  /-- A due retry answers the retryable answer just before it, after that answer's backoff. -/
  spaced : ∀ before at_, before ++ [.resent at_] <+: facts →
    ∃ early since answer, before = early ++ [.counted since retries answer] ∧
      since + retries.delay (before.countP RetryFact.isCounted) ≤ at_
  /-- The answer past the limit closes the record with its own status. -/
  ended : ∀ before answer, before ++ [.ended retries answer] <+: facts →
    before.countP RetryFact.isCounted = limitOf retries row ∧ row.phase = .completed ∧
      ∃ last, row.observation = some last ∧ last.status = answer.status ∧
        last.accepted = false ∧ last.released
  /-- A time to retry at is that of the last fact, and no due retry has answered it. -/
  waiting : ∀ due, row.retryAt = some due →
    facts.countP RetryFact.isResent < facts.countP RetryFact.isCounted ∧
      ∃ early since answer, facts = early ++ [.counted since retries answer] ∧
        due = since + retries.delay (facts.countP RetryFact.isCounted)

section
variable {retries : RequestRetries} {facts : List RetryFact} {row next : RequestRecord}

theorem Fresh.accounts (fresh : Fresh row) : Accounts retries [] row where
  count := fresh.retryCount
  within := by rw [fresh.retryCount]; exact Nat.zero_le _
  resends := le_rfl
  spaced := fun before at_ found => by simp at found
  ended := fun before answer found => by simp at found
  waiting := fun due held => by rw [fresh.retryAt] at held; cases held

private theorem limitOf_congr (same : next.request = row.request) :
    limitOf retries next = limitOf retries row := by
  simp only [limitOf, same]

theorem Accounts.ended_evolves (books : Accounts retries facts row)
    (evolved : RecordEvolution (fun _ => True) row next) {before : List RetryFact}
    {answer : Observation} (told : before ++ [.ended retries answer] <+: facts) :
    before.countP RetryFact.isCounted = limitOf retries next ∧ next.phase = .completed ∧
      ∃ last, next.observation = some last ∧ last.status = answer.status ∧
        last.accepted = false ∧ last.released := by
  obtain ⟨spent, closed, last, stored, status, accepted, released⟩ := books.ended before answer told
  have settled := evolved.closed closed
  obtain ⟨later, storedLater, refined⟩ := settled.observation last stored
  exact ⟨spent.trans (limitOf_congr evolved.request).symm, settled.phase, later, storedLater,
    refined.status.trans status, refined.accepted.trans accepted, refined.released released⟩

theorem Accounts.quiet (books : Accounts retries facts row)
    (evolved : RecordEvolution (fun _ => True) row next) (count : next.retryCount = row.retryCount)
    (retryAt : next.retryAt = none ∨ next.retryAt = row.retryAt) : Accounts retries facts next where
  count := count.trans books.count
  within := by rw [count, limitOf_congr evolved.request]; exact books.within
  resends := books.resends
  spaced := books.spaced
  ended := fun _ _ told => books.ended_evolves evolved told
  waiting := by
    intro due held
    rcases retryAt with cleared | kept
    · rw [cleared] at held
      cases held
    · exact books.waiting due (kept.symm.trans held)

private theorem retryAt_of_waiting {due : Seconds} (waiting : row.retryWaitUntil = some due) :
    row.retryAt = some due := by
  unfold RequestRecord.retryWaitUntil at waiting
  split at waiting
  · split_ifs at waiting
    exact waiting
  · cases waiting

theorem Accounts.concat (books : Accounts retries facts row) {fact : RetryFact}
    (evolved : RecordEvolution (fun _ => True) row next)
    (count : next.retryCount = (facts ++ [fact]).countP RetryFact.isCounted)
    (within : next.retryCount ≤ limitOf retries next)
    (resends : (facts ++ [fact]).countP RetryFact.isResent ≤ next.retryCount)
    (spaced : ∀ at_, fact = .resent at_ → ∃ early since answer, facts = early ++ [.counted since
      retries answer] ∧ since + retries.delay (facts.countP RetryFact.isCounted) ≤ at_)
    (ended : ∀ answer, fact = .ended retries answer → facts.countP RetryFact.isCounted = limitOf
      retries next ∧ next.phase = .completed ∧ ∃ last, next.observation = some last ∧ last.status =
      answer.status ∧ last.accepted = false ∧ last.released) (waiting : ∀ due, next.retryAt =
      some due → (facts ++ [fact]).countP RetryFact.isResent < next.retryCount ∧ ∃ since answer,
      fact = .counted since retries answer ∧ due = since + retries.delay next.retryCount) :
    Accounts retries (facts ++ [fact]) next where
  count := count
  within := within
  resends := count ▸ resends
  spaced := by
    intro before at_ told
    rcases prefix_concat_iff.mp told with same | earlier
    · obtain ⟨rfl, last⟩ := append_inj' same rfl
      exact spaced at_ (singleton_inj.mp last).symm
    · exact books.spaced before at_ earlier
  ended := by
    intro before answer told
    rcases prefix_concat_iff.mp told with same | earlier
    · obtain ⟨rfl, last⟩ := append_inj' same rfl
      exact ended answer (singleton_inj.mp last).symm
    · exact books.ended_evolves evolved earlier
  waiting := by
    intro due held
    obtain ⟨fewer, since, answer, rfl, spacing⟩ := waiting due held
    rw [← count]
    exact ⟨fewer, facts, since, answer, rfl, spacing⟩

theorem Accounts.fact (books : Accounts retries facts row) {fact : RetryFact}
    (evolved : RecordEvolution (fun _ => True) row next) (under : fact.Under retries)
    (tells : fact.Tells row next) : Accounts retries (facts ++ [fact]) next := by
  have limit : limitOf retries next = limitOf retries row := limitOf_congr evolved.request
  have balance := books.count
  have bound := books.within
  have resends := books.resends
  cases fact with
  | counted at_ declared answer =>
    obtain rfl : declared = retries := under
    obtain ⟨-, -, within, count, retryAt, -⟩ := tells
    have fewer : (facts ++ [RetryFact.counted at_ declared answer]).countP RetryFact.isResent <
        next.retryCount := by
      simp only [countP_append, countP_singleton, RetryFact.isResent, Bool.false_eq_true,
        if_false]
      omega
    refine books.concat evolved ?_ (by omega) fewer.le (by rintro _ ⟨⟩) (by rintro _ ⟨⟩)
      fun due held => ⟨fewer, at_, answer, rfl, Option.some.inj (held.symm.trans retryAt)⟩
    simp [RetryFact.isCounted, count, balance]
  | ended declared answer =>
    obtain rfl : declared = retries := under
    obtain ⟨-, -, spent, count, retryAt, closed, last, stored, status, ends⟩ := tells
    refine books.concat evolved ?_ (by omega) ?_ (by rintro _ ⟨⟩) ?_ fun due held => ?_
    · simp [RetryFact.isCounted, count, balance]
    · simpa [RetryFact.isResent, count, balance] using resends
    · rintro _ ⟨⟩
      exact ⟨by omega, closed, last, stored, status, ends⟩
    · rw [retryAt] at held
      cases held
  | resent at_ =>
    obtain ⟨⟨due, waits, early⟩, -, count, retryAt⟩ := tells
    obtain ⟨fewer, before, since, answer, split, spacing⟩ :=
      books.waiting due (retryAt_of_waiting waits)
    refine books.concat evolved ?_ (by omega) ?_ ?_ (by rintro _ ⟨⟩) fun due held => ?_
    · simp [RetryFact.isCounted, count, balance]
    · simpa [RetryFact.isResent, count, balance, Nat.succ_le_iff] using fewer
    · rintro _ ⟨⟩
      exact ⟨before, since, answer, split, spacing ▸ early⟩
    · rw [retryAt] at held
      cases held

theorem Trace.accounts (trace : Trace facts row next) (fresh : Fresh row)
    (under : ∀ fact ∈ facts, fact.Under retries) : Accounts retries facts next := by
  induction trace with
  | start => exact fresh.accounts
  | quiet _ evolved count retryAt ih => exact (ih fresh under).quiet evolved count retryAt
  | fact _ evolved tells ih =>
    exact (ih fresh fun fact mem => under fact (mem_append_left _ mem)).fact evolved
      (under _ (by simp)) tells

/-! ## Stories of a run -/

theorem Trace.retryCount_le (trace : Trace facts row next) : row.retryCount ≤ next.retryCount := by
  induction trace with
  | start => exact le_rfl
  | quiet _ _ count _ ih => exact ih.trans count.ge
  | @fact _ _ _ _ fact _ _ tells ih =>
    cases fact with
    | counted => exact ih.trans (tells.2.2.2.1 ▸ Nat.le_succ _)
    | ended => exact ih.trans tells.2.2.2.1.ge
    | resent => exact ih.trans tells.2.2.1.ge

theorem Named.traced ⦃row next : RequestRecord⦄ (named : Named row next) : Trace [] row next := by
  have evolved : RecordEvolution (fun _ => True) row next := named.evolution
  obtain ⟨commands, rfl⟩ := named
  exact evolved.traced rfl (.inr rfl)

end

/-- The limits are fixed along a run. -/
def UnderRetries (retries : RequestRetries) : LedgerMove → Prop
  | .event context _ => context.run.limits.requestRetries = retries
  | _ => True

/-- One more move of a run: the ledger it leaves, and what it told of a record that was there. -/
def tell (digests : Digests) (identity : RequestId) (told : RecordsState × List RetryFact)
    (entry : LedgerMove × Change) : RecordsState × List RetryFact :=
  (entry.2.state,
    told.2 ++ if (told.1.record identity).isSome then moveFacts digests told.1 entry.1 identity else [])

/-- The story of a record, told by the labels of a run from the empty ledger. -/
def storyOf (digests : Digests) (history : List (LedgerMove × Change)) (identity : RequestId) :
    List RetryFact :=
  (history.foldl (tell digests identity) ({}, [])).2

section
variable {digests : Digests} {state : RecordsState} {context : RecordsContext}
  {retries : RequestRetries} {identity : RequestId} {label : LedgerMove} {change : Change}
  {row : RequestRecord} {fact : RetryFact}

private theorem answerFacts_under {answer : Observation}
    (mem : fact ∈ answerFacts context row answer) :
    fact.Under context.run.limits.requestRetries := by
  unfold answerFacts at mem
  split_ifs at mem
  · cases mem
  all_goals
    rw [mem_singleton.mp mem]
    rfl

private theorem of_mem_only {facts : List RetryFact} {other : RequestId}
    (mem : fact ∈ only identity facts other) : fact ∈ facts := by
  unfold only at mem
  split_ifs at mem
  · exact mem
  · cases mem

private theorem targetFacts_under {target : TargetObservation}
    (mem : fact ∈ targetFacts context state target identity) :
    fact.Under context.run.limits.requestRetries := by
  have judged := of_mem_only mem
  split at judged
  · cases judged
  · split_ifs at judged
    · cases judged
    · exact answerFacts_under judged

private theorem observedFacts_under {event : RequestObserved}
    (mem : fact ∈ observedFacts digests context state event identity) :
    fact.Under context.run.limits.requestRetries := by
  unfold observedFacts at mem
  split at mem
  · cases mem
  rcases mem_append.mp mem with own | heard
  · exact answerFacts_under (of_mem_only own)
  · split at heard
    · exact targetFacts_under heard
    · cases heard

private theorem moveFacts_under (fixed : UnderRetries retries label)
    (mem : fact ∈ moveFacts digests state label identity) : fact.Under retries := by
  cases label with
  | event context event =>
    obtain rfl : context.run.limits.requestRetries = retries := fixed
    cases event with
    | requestObserved event =>
      dsimp only [moveFacts, eventFacts] at mem
      match late : RequestLedger.isLate state event with
      | .ok false =>
        rw [late] at mem
        exact observedFacts_under mem
      | .ok true | .error _ =>
        rw [late] at mem
        cases mem
    | retryDue requestId nowAt =>
      have due := of_mem_only mem
      split_ifs at due
      · rw [mem_singleton.mp due]
        trivial
      · cases due
    | _ => cases mem
  | _ => cases mem

private theorem move_traces (sound : SoundRecords state.records)
    (moved : move digests state label = .ok change) :
    Evolves (fun row next => Trace (moveFacts digests state label row.requestId) row next)
        state.records change.state.records ∧
      ∀ row ∈ change.state.records,
        Fresh row ∨ ∃ first ∈ state.records, first.requestId = row.requestId := by
  cases label with
  | event context event =>
    have step := (advanceRecord_step sound moved).traces
    refine ⟨step.evolves, fun row mem => ?_⟩
    obtain ⟨first, memberFirst, trace⟩ := step.source mem
    exact .inr ⟨first, memberFirst, trace.requestId.symm⟩
  | hostEpoch run epoch nowAt =>
    obtain ⟨next, opened, rfl⟩ := map_ok moved
    have step : LedgerStep (moveAllowance digests state (.hostEpoch run epoch nowAt)) state _ :=
      openHostEpoch_step sound opened
    refine ⟨step.traces.evolves, fun row mem => ?_⟩
    obtain ⟨first, memberFirst, trace⟩ := step.traces.source mem
    exact .inr ⟨first, memberFirst, trace.requestId.symm⟩
  | register core requests =>
    obtain ⟨⟨next, allocated⟩, registered, rfl⟩ := map_ok moved
    obtain ⟨-, grown⟩ := registerRequests_step sound registered
    refine ⟨grown.evolves.mono Named.traced, fun row mem => ?_⟩
    refine (grown.sources row mem).imp_right fun ⟨first, memberFirst, named⟩ => ?_
    exact ⟨first, memberFirst, named.traced.requestId.symm⟩

/-- The story so far is about the ledger reached, leads to its rows, and of no other record. -/
structure Stories (digests : Digests) (history : List (LedgerMove × Change))
    (state : RecordsState) : Prop where
  sound : SoundRecords state.records
  reached : ∀ identity, (history.foldl (tell digests identity) ({}, [])).1 = state
  rows : ∀ row ∈ state.records, ∃ first, Fresh first ∧
    Trace (storyOf digests history row.requestId) first row
  unknown : ∀ identity, state.record identity = none → storyOf digests history identity = []

private theorem record_none (missing : state.record identity = none) :
    ∀ row ∈ state.records, row.requestId ≠ identity := by
  intro row mem same
  exact find?_eq_none.mp missing row mem (by simpa using same)

theorem Stories.step {history : List (LedgerMove × Change)} (stories : Stories digests history state)
    (moved : move digests state label = .ok change) :
    Stories digests (history ++ [(label, change)]) change.state := by
  obtain ⟨traces, sources⟩ := move_traces stories.sound moved
  have sound := (move_step stories.sound moved).sound
  have continued : ∀ identity, storyOf digests (history ++ [(label, change)]) identity =
      storyOf digests history identity ++
        if (state.record identity).isSome then moveFacts digests state label identity else [] := by
    intro identity
    simp only [storyOf, foldl_append, foldl_cons, foldl_nil, tell, stories.reached identity]
  refine ⟨sound, fun identity => by simp [tell], fun row mem => ?_, fun identity missing => ?_⟩
  · rw [continued]
    cases known : state.record row.requestId with
    | none =>
      -- A row of a new identity has just been registered.
      have fresh : Fresh row := (sources row mem).resolve_right fun ⟨first, memberFirst, same⟩ =>
        record_none known first memberFirst same
      rw [stories.unknown _ known]
      exact ⟨row, fresh, .start row⟩
    | some before =>
      obtain ⟨memberBefore, named⟩ := record_eq_some known
      obtain ⟨next, memberNext, trace⟩ := traces.mem memberBefore
      obtain rfl : next = row :=
        sound.distinct.eq_of_key memberNext mem (trace.requestId.trans named)
      obtain ⟨first, fresh, story⟩ := stories.rows before memberBefore
      rw [named] at story trace
      exact ⟨first, fresh, story.trans trace⟩
  · have absent : state.record identity = none := by
      rw [Option.eq_none_iff_forall_ne_some]
      intro row known
      obtain ⟨member, named⟩ := record_eq_some known
      obtain ⟨next, memberNext, trace⟩ := traces.mem member
      exact record_none missing next memberNext (trace.requestId.trans named)
    rw [continued, stories.unknown identity absent, absent]
    rfl

theorem LedgerRun.stories {history : List (LedgerMove × Change)} {reached : RecordsState}
    (past : LedgerRun digests {} history reached) : Stories digests history reached := by
  refine Run.history (fun labels state => Stories digests labels state) ?_ past
    ⟨⟨nodup_nil, by simp⟩, fun _ => rfl, by simp, fun _ _ => rfl⟩
  rintro labels first ⟨label, change⟩ last stories ⟨moved, rfl⟩
  exact stories.step moved

private theorem storyOf_under {history : List (LedgerMove × Change)}
    (fixed : ∀ label ∈ history, UnderRetries retries label.1) (identity : RequestId) :
    ∀ fact ∈ storyOf digests history identity, fact.Under retries := by
  refine foldl_induction (fun rest (told : RecordsState × List RetryFact) =>
    (∀ label ∈ rest, UnderRetries retries label.1) ∧ ∀ fact ∈ told.2, fact.Under retries)
    ?_ ⟨fixed, by simp⟩ |>.2
  rintro entry rest told ⟨fixed, under⟩
  refine ⟨fun label mem => fixed label (mem_cons_of_mem _ mem), fun fact mem => ?_⟩
  rcases mem_append.mp mem with earlier | now
  · exact under fact earlier
  · split_ifs at now
    · exact moveFacts_under (fixed entry mem_cons_self) now
    · cases now

theorem LedgerRun.retryCount_le {first last : RecordsState} {labels : List (LedgerMove × Change)}
    (run : LedgerRun digests first labels last) (sound : SoundRecords first.records) :
    Evolves (fun row next => next.requestId = row.requestId ∧ row.retryCount ≤ next.retryCount)
      first.records last.records := by
  refine Run.related (fun state => SoundRecords state.records)
    (fun first last => Evolves (fun row next => next.requestId = row.requestId ∧
      row.retryCount ≤ next.retryCount) first.records last.records)
    (fun state => .refl (fun _ => ⟨rfl, le_rfl⟩) _)
    (fun _ _ _ => .trans fun _ _ _ left right => ⟨right.1.trans left.1, left.2.trans right.2⟩)
    ?_ ?_ run sound
  · rintro first label last sound ⟨moved, rfl⟩
    exact (move_step sound moved).sound
  · rintro first label last sound ⟨moved, rfl⟩
    exact (move_traces sound moved).1.mono fun _ _ trace => ⟨trace.requestId, trace.retryCount_le⟩

/-- A due retry that changes its record tells so. -/
theorem retryDue_tells {nowAt : Seconds}
    (moved : move digests state (.event context (.retryDue identity nowAt)) = .ok change)
    (changed : change.state ≠ state) :
    moveFacts digests state (.event context (.retryDue identity nowAt)) identity =
      [.resent (max context.run.nowAt nowAt)] := by
  obtain ⟨rfl, -⟩ | ⟨record, due, -, -, -, -, -, told⟩ := retry_cases moved
  · exact absurd rfl changed
  · exact (congrFun told identity).trans (only_self identity _)

/-- The retry count is the number of retryable answers that left a record open, at most its limit,
each sent again no earlier than its backoff. -/
theorem retries_are_bounded (digests : Digests) (retries : RequestRetries)
    {history : List (LedgerMove × Change)} {reached : RecordsState}
    (past : LedgerRun digests {} history reached)
    (fixed : ∀ label ∈ history, UnderRetries retries label.1) (position : Nat)
    (row : RequestRecord) (found : reached.records[position]? = some row) :
    (Accounts retries (storyOf digests history row.requestId) row ∧
      (storyOf digests history row.requestId).countP RetryFact.isResent ≤ limitOf retries row) ∧
    (∀ (context : RecordsContext) (nowAt : Seconds) (change : Change),
      move digests reached (.event context (.retryDue row.requestId nowAt)) = .ok change →
      change.state ≠ reached →
        moveFacts digests reached (.event context (.retryDue row.requestId nowAt)) row.requestId =
          [.resent (max context.run.nowAt nowAt)]) ∧
    ∀ (later : List (LedgerMove × Change)) (last : RecordsState),
      LedgerRun digests reached later last →
        ∃ next, last.records[position]? = some next ∧ next.requestId = row.requestId ∧
          row.retryCount ≤ next.retryCount := by
  have stories := LedgerRun.stories past
  refine ⟨?_, fun context nowAt change => retryDue_tells, fun later last future => ?_⟩
  · obtain ⟨first, fresh, trace⟩ := stories.rows row (mem_of_getElem? found)
    have books := trace.accounts fresh (storyOf_under fixed row.requestId)
    exact ⟨books, books.resends.trans (books.count ▸ books.within)⟩
  · exact LedgerRun.retryCount_le future stories.sound position row found

end

def adoptionRetried : List LedgerMove :=
  adoptionSent ++ [answered (adoptionAnswer 1 .failed false false),
    .event sampleContext (.retryDue ⟨"adopt"⟩ 1)]

theorem retried_adoption_is_accounted :
    let reached := ledgerAfter adoptionRetried
    ∃ history row, LedgerRun sampleDigests {} history reached ∧
      reached.records[0]? = some row ∧ row.phase = .prepared ∧ row.retryCount = 1 ∧
      Accounts ⟨2, 1, 8⟩ (storyOf sampleDigests history row.requestId) row := by
  intro reached
  obtain ⟨history, inputs, past⟩ : ∃ history, history.map Prod.fst = adoptionRetried ∧
      LedgerRun sampleDigests {} history reached := Run.of_inputs (by decide +kernel)
  have fixed : ∀ label ∈ history, UnderRetries ⟨2, 1, 8⟩ label.1 := by
    intro label member
    have listed : label.1 ∈ adoptionRetried := inputs ▸ mem_map_of_mem member
    simp only [adoptionRetried, adoptionSent, cons_append, nil_append, mem_cons,
      not_mem_nil, or_false] at listed
    rcases listed with same | same | same | same | same <;> rw [same] <;> trivial
  obtain ⟨row, found, phase, count⟩ : ∃ row, reached.records[0]? = some row ∧
      row.phase = .prepared ∧ row.retryCount = 1 := by
    have present : (reached.records[0]?.any fun row => row.phase = .prepared ∧ row.retryCount = 1) =
        true := by decide +kernel
    obtain ⟨some_, held⟩ := (Option.any_eq_true_iff_get _ _).mp present
    exact ⟨_, (Option.some_get some_).symm, by simpa using held⟩
  obtain ⟨⟨books, -⟩, -⟩ := retries_are_bounded sampleDigests ⟨2, 1, 8⟩ past fixed 0 row found
  exact ⟨history, row, past, found, phase, count, books⟩

end VibeServeCore.Records
