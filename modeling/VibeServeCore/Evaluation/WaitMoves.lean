/- source: _continuations.py
   digest: Every continuations step is a run of a few moves of single waits. -/

import VibeServeCore.Evaluation.Continuations

namespace VibeServeCore.Evaluation

open Types List Foundation.Ledger Foundation.Process
open Clock (Bound cleanup)

variable {state : EvaluationState} {context : EvaluationContext} {continuation : Continuation}
  {change : Change} {identity : ContinuationId}

theorem require_eq_ok {condition : Bool} {path : List String} {detail : String} :
    require condition path detail = .ok () ↔ condition := by
  unfold require refuse
  split_ifs with holds <;> simp [holds]

theorem jobsOf_eq_ok {jobs : List OwnedJob} (named : jobsOf state continuation = .ok jobs) :
    ∀ job ∈ jobs, ∃ resource ∈ continuation.jobs, job.resourceId = some resource ∧
      holdingJobs state resource = [job] := by
  unfold jobsOf at named
  generalize continuation.jobs = resources at named
  induction resources generalizing jobs with
  | nil =>
    cases named
    simp
  | cons resource rest ih =>
    rw [mapM_cons] at named
    obtain ⟨job, owned, named⟩ := bind_ok named
    obtain ⟨others, restNamed, same⟩ := bind_ok named
    cases same
    have holds : holdingJobs state resource = [job] := by
      unfold ownedJob at owned
      split at owned
      · rename_i mine only
        cases owned
        exact only
      · cases owned
    intro other mem
    rcases mem_cons.mp mem with rfl | mem
    · have held : other ∈ holdingJobs state resource := by
        rw [holds]
        exact mem_singleton_self _
      have mine := (mem_filter.mp held).2
      exact ⟨resource, mem_cons_self, by simpa using mine, holds⟩
    · obtain ⟨found, foundIn, owns⟩ := ih restNamed other mem
      exact ⟨found, mem_cons_of_mem _ foundIn, owns⟩

theorem jobOwnership_eq_ok {context : EvaluationContext}
    (owned : jobOwnership state context continuation = .ok ()) :
    ∃ turn jobs, waitingTurn context continuation = .ok turn ∧
      jobsOf state continuation = .ok jobs ∧ ∀ job ∈ jobs, job.scope = turn.scope := by
  obtain ⟨-, -, owned⟩ := bind_ok owned
  obtain ⟨turn, waits, owned⟩ := bind_ok owned
  obtain ⟨jobs, named, owned⟩ := bind_ok owned
  refine ⟨turn, jobs, waits, named, fun job mem => ?_⟩
  have inside := all_eq_true.mp (require_eq_ok.mp owned) job mem
  simpa using inside

private theorem continuationOf_id (found : continuationOf state identity = some continuation) :
    continuation.continuationId = identity := by
  simpa using find?_some found

theorem continuationOf_store {row : Continuation}
    (found : continuationOf state identity = some continuation)
    (named : row.continuationId = identity) :
    continuationOf (store state row) identity = some row := by
  subst named
  exact find?_overwrite_self found

structure Authorizable (state : EvaluationState) (context : EvaluationContext)
    (continuation : Continuation) (reopened : Bool) : Prop where
  owned : jobOwnership state context continuation = .ok ()
  waiting : continuation.phase = .waiting
  ready : ready state continuation = .ok true
  settled : ∃ turn, waitingTurn context continuation = .ok turn ∧
    active context turn.scope ∧ attemptSettled turn.scope state context.records
  successor : successor context continuation = .ok ()
  released : reopened → releasedDependencies state context continuation = .ok ()

theorem authorize_cases {reopened : Bool}
    (ran : authorize state context continuation reopened = .ok change) :
    change = { state := state } ∨
      Authorizable state context continuation reopened ∧
        ((continuation.authorizationReceipt.isSome ∧
            change = { state := store state { continuation with phase := .authorized } }) ∨
          (continuation.authorizationReceipt = none ∧ ∃ evidence history,
            authorizedEvidence state continuation = .ok evidence ∧
              change = publish state continuation evidence history)) := by
  obtain ⟨⟨⟩, owned, ran⟩ := bind_ok ran
  split at ran
  · exact .inl (Except.ok.inj ran).symm
  rename_i waiting
  obtain ⟨isReady, read, ran⟩ := bind_ok ran
  split at ran
  · exact .inl (Except.ok.inj ran).symm
  rename_i ended
  obtain ⟨⟨⟩, -, ran⟩ := bind_ok ran
  obtain ⟨turn, waits, ran⟩ := bind_ok ran
  split at ran
  · exact .inl (Except.ok.inj ran).symm
  rename_i running
  split at ran
  · exact .inl (Except.ok.inj ran).symm
  rename_i settled
  obtain ⟨⟨⟩, next, ran⟩ := bind_ok ran
  obtain ⟨⟨⟩, -, ran⟩ := bind_ok ran
  obtain ⟨⟨⟩, released, ran⟩ := bind_ok ran
  obtain ⟨evidence, gathered, ran⟩ := bind_ok ran
  refine .inr ⟨⟨owned, not_not.mp waiting, ?_, ⟨turn, waits, ?_, ?_⟩, next, ?_⟩, ?_⟩
  · simpa [show isReady = true by simpa using ended] using read
  · simpa using running
  · simpa using settled
  · intro again
    simpa [again] using released
  split at ran
  · rename_i published
    exact .inl ⟨published, (Except.ok.inj ran).symm⟩
  · rename_i unpublished
    obtain ⟨history, -, ran⟩ := bind_ok ran
    exact .inr ⟨by simpa using unpublished, evidence, history, gathered,
      (Except.ok.inj ran).symm⟩

variable {row : Continuation}

def Counting (row : Continuation) : Prop :=
  (row.phase = .waiting ∨ row.phase = .parked) ∧ row.timeout = none

def Undone (state : EvaluationState) (row : Continuation) : Prop :=
  row.spent ≠ [] ∨ ∃ jobs, jobsOf state row = .ok jobs ∧ ∃ job ∈ jobs, settled job = false

structure Bare (row : Continuation) : Prop where
  waiting : row.phase = .waiting
  timeout : row.timeout = none
  spent : row.spent = []
  receipt : row.authorizationReceipt = none

inductive RowMove (context : EvaluationContext) (state : EvaluationState) (row : Continuation) :
    List StrategyEvent → Continuation → Prop
  | spends (counting : Counting row) (undone : Undone state row) (spent : List JobTimeout) :
    RowMove context state row [] { row with spent }
  | freezes (counting : Counting row) (undone : Undone state row) (spent : List JobTimeout)
      (timeout : TimedOut) (evidence : List EvidenceRef) :
    RowMove context state row []
      { row with spent, timeout := some timeout, evidence }
  | publishes {reopened : Bool} (able : Authorizable state context row reopened)
      (unpublished : row.authorizationReceipt = none) (evidence : List EvidenceRef)
      (cursor : Option EvaluationHistoryCursor) :
    RowMove context state row
      [.resumeAuthorized
        ⟨row.continuationId, row.nextInvocation, evidence, row.timeout, cursor⟩]
      { row with
        phase := .authorized
        evidence := evidence
        authorizationReceipt := some
          ⟨row.continuationId, row.nextInvocation, evidence, cursor, row.timeout, none⟩ }
  | repeats {reopened : Bool} (able : Authorizable state context row reopened)
      (published : row.authorizationReceipt.isSome) :
    RowMove context state row [] { row with phase := .authorized }
  | retires {phase : ContinuationPhase} (unfinished : row.phase ≠ .cancelled ∧ row.phase ≠ .resumed)
      (authority : Option RequestId)
      (leaves : phase = .cancelled ∨
        phase = .parked ∧ parkProof context row authority = .ok ()) :
    RowMove context state row []
      { row with
        phase, parkAuthority := authority, reopenAuthority := none, cancelledResolutions := [] }
  | reopens (parked : row.phase = .parked) (authority : Option RequestId)
      (resolutions : List ResourceId) :
    RowMove context state row []
      { row with
        phase := .reopening, reopenAuthority := authority, cancelledResolutions := resolutions }
  | returns (reopening : row.phase = .reopening) :
    RowMove context state row [] { row with phase := .waiting }

variable {events : List StrategyEvent} {observation : Observation} {next : Continuation}
  {nowAt : Seconds} {resource : ResourceId} {before after : EvaluationState}

theorem RowMove.sameId (move : RowMove context state row events next) :
    next.continuationId = row.continuationId := by
  cases move <;> rfl

inductive WaitMove (context : EvaluationContext) :
    EvaluationState → List StrategyEvent → EvaluationState → Prop
  | moved {state : EvaluationState} {row next : Continuation} {events : List StrategyEvent}
      (held : continuationOf state row.continuationId = some row)
      (move : RowMove context state row events next) :
    WaitMove context state events (store state next)
  | recorded {state : EvaluationState} {asked : Continuation} {turn : Invocation}
      (fresh : continuationOf state asked.continuationId = none)
      (valid : validateNew state context asked = .ok turn)
      (preceding : Option EvaluationHistoryCursor) :
    WaitMove context state
      [.turnSuspended { asked with precedingSubmission := preceding }]
      (recordWait state { asked with precedingSubmission := preceding })

def asksOnly : RequestBody → Bool
  | .observeOwnedJob _ | .inspectOwnedJob _ | .inspectTurn .. | .inspectRequest .. => true
  | _ => false

structure WaitChange (context : EvaluationContext) (state : EvaluationState) (change : Change) :
    Prop where
  moves : ∃ labels, Run (WaitMove context) state labels change.state ∧
    labels.flatten = change.events
  asks : ∀ outbound ∈ change.requests, asksOnly outbound.request.body

namespace WaitChange

private theorem still (same : change.state = state) (silent : change.events = [])
    (asks : ∀ outbound ∈ change.requests, asksOnly outbound.request.body) :
    WaitChange context state change :=
  ⟨⟨[], by rw [same]; exact .nil state, by rw [silent]; rfl⟩, asks⟩

private theorem nothing (state : EvaluationState) : WaitChange context state { state := state } :=
  still rfl rfl (by simp)

private theorem single {events : List StrategyEvent}
    (move : WaitMove context state events change.state)
    (published : events = change.events)
    (asks : ∀ outbound ∈ change.requests, asksOnly outbound.request.body) :
    WaitChange context state change :=
  ⟨⟨[events], .single move, by simpa using published⟩, asks⟩

private theorem andThen {second : Change} (first : WaitChange context state change)
    (next : WaitChange context change.state second) :
    WaitChange context state (Evaluation.andThen change second) := by
  obtain ⟨⟨before, ranBefore, same⟩, asks⟩ := first
  obtain ⟨⟨after, ranAfter, sameAfter⟩, asksAfter⟩ := next
  refine ⟨⟨before ++ after, ranBefore.append ranAfter, ?_⟩, fun outbound mem => ?_⟩
  · rw [flatten_append, same, sameAfter]
    rfl
  · rcases mem_append.mp mem with earlier | later
    · exact asks outbound earlier
    · exact asksAfter outbound later

private theorem signalling (made : WaitChange context state change) (signals : List Signal) :
    WaitChange context state { change with signals } :=
  ⟨made.moves, made.asks⟩

end WaitChange

theorem RowMove.stored (move : RowMove context state row events next)
    (held : continuationOf state row.continuationId = some row) :
    continuationOf (store state next) next.continuationId = some next := by
  rw [move.sameId]
  exact continuationOf_store held move.sameId

theorem continuationOf_of_mem (distinct : Distinct (·.continuationId) state.continuations)
    (mem : row ∈ state.continuations) : continuationOf state row.continuationId = some row :=
  distinct.find? mem

private theorem publish_waits {reopened : Bool} {evidence : List EvidenceRef}
    {history : Option (AttemptRef × AttemptEvaluationHistory)}
    (held : continuationOf state row.continuationId = some row)
    (able : Authorizable state context row reopened)
    (unpublished : row.authorizationReceipt = none) :
    WaitChange context state (publish state row evidence history) :=
  .single (.moved held (.publishes able unpublished evidence _)) rfl (by simp [publish])

private theorem authorize_waits {reopened : Bool}
    (held : continuationOf state row.continuationId = some row)
    (ran : authorize state context row reopened = .ok change) :
    WaitChange context state change := by
  rcases authorize_cases ran with rfl | ⟨able, ⟨published, rfl⟩ | ⟨unpublished, _, _, -, rfl⟩⟩
  · exact .nothing state
  · exact .single (.moved held (.repeats able published)) rfl (by simp)
  · exact publish_waits held able unpublished

private theorem boundedJobs_undone {bounded : List (ResourceId × OwnedJob × Bound)}
    (ran : boundedJobs state context row = .ok bounded) (some_ : bounded ≠ []) :
    Undone state row := by
  obtain ⟨live, living, ran⟩ := bind_ok ran
  obtain ⟨resources, -, ran⟩ := bind_ok ran
  obtain ⟨bounds, -, ran⟩ := bind_ok ran
  obtain ⟨jobs, named, same⟩ := bind_ok living
  cases ran
  cases same
  obtain ⟨first, mem⟩ := exists_mem_of_ne_nil _ some_
  have listed := (of_mem_zip (of_mem_zip mem).2).1
  obtain ⟨inJobs, unsettled⟩ := mem_filter.mp listed
  simp only [Bool.and_eq_true, Bool.not_eq_true'] at unsettled
  exact .inr ⟨jobs, named, first.2.1, inJobs, unsettled.1⟩

private theorem freeze_waits {deadline : Bound} {spent : List JobTimeout} {still : List OwnedJob}
    (held : continuationOf state row.continuationId = some row) (counting : Counting row)
    (undone : Undone state row)
    (ran : freeze state context row nowAt deadline spent still = .ok change) :
    WaitChange context state change := by
  obtain ⟨jobs, -, ran⟩ := bind_ok ran
  obtain ⟨unfinished, -, ran⟩ := bind_ok ran
  obtain ⟨evidence, -, ran⟩ := bind_ok ran
  have frozen : RowMove context state row [] _ := .freezes counting undone spent
    ⟨deadline.at_, nowAt, deadline.by_, unfinished⟩ evidence
  obtain ⟨⟨labels, moves, published⟩, asks⟩ :=
    authorize_waits (frozen.stored held) ran
  exact ⟨⟨[] :: labels, .cons (.moved held frozen) moves, published⟩, asks⟩

private theorem reachDeadline_waits (held : continuationOf state row.continuationId = some row)
    (ran : reachDeadline state context row nowAt = .ok change) :
    WaitChange context state change := by
  unfold reachDeadline at ran
  split at ran
  · cases ran
    exact .nothing state
  rename_i inside
  have counting : Counting row := by
    obtain ⟨early, unfrozen⟩ := Bool.or_eq_false_iff.mp (Bool.eq_false_of_not_eq_true inside)
    exact ⟨or_iff_not_imp_left.mpr (by simpa using early), by simpa using unfrozen⟩
  obtain ⟨⟨⟩, -, ran⟩ := bind_ok ran
  obtain ⟨bounded, found, ran⟩ := bind_ok ran
  simp only at ran
  split at ran
  · rename_i deadline ends
    obtain ⟨frozen, froze, ran⟩ := bind_ok ran
    cases ran
    have undone : Undone state row := by
      by_cases some_ : bounded = []
      · -- Without a live job only a budget that ran out before can end the wait.
        left
        intro unspent
        simp [some_, unspent, endingBound] at ends
      · exact boundedJobs_undone found some_
    exact (freeze_waits held counting undone froze).signalling _
  · split at ran
    · cases ran
      exact .nothing state
    rename_i spends
    cases ran
    have some_ : bounded ≠ [] := by
      rintro rfl
      simp at spends
    exact .single (.moved held (.spends counting (boundedJobs_undone found some_) _)) rfl
      (by simp)

theorem reachDeadlines_waits (ran : reachDeadlines state context = .ok change) :
    WaitChange context state change := by
  refine sequence_induction (fun _ change => WaitChange context state change)
    (fun {identity rest current next} made stepped => ?_) (.nothing state) ran
  split at stepped
  · cases stepped
    exact made
  rename_i row held
  split at stepped
  · cases stepped
    exact made
  obtain ⟨after, reached, rfl⟩ := map_ok stepped
  have found : continuationOf current.state row.continuationId = some row := by
    rw [continuationOf_id held]
    exact held
  exact made.andThen (reachDeadline_waits found reached)

private theorem authorize_state {reopened : Bool}
    (ran : authorize state context row reopened = .ok change) :
    change.state = state ∨ ∃ next, next.continuationId = row.continuationId ∧
      change.state = store state next := by
  rcases authorize_cases ran with rfl | ⟨-, ⟨-, rfl⟩ | ⟨-, evidence, history, -, rfl⟩⟩
  · exact .inl rfl
  · exact .inr ⟨{ row with phase := .authorized }, rfl, rfl⟩
  · refine .inr ⟨_, ?_, rfl⟩
    rfl

private theorem wake_waits {current : Change} (made : WaitChange context state current)
    (held : continuationOf current.state row.continuationId = some row)
    (ran : wake context resource observation current row = .ok change) :
    WaitChange context state change ∧
      (change.state = current.state ∨ ∃ next, next.continuationId = row.continuationId ∧
        change.state = store current.state next) := by
  unfold wake at ran
  split at ran
  · cases ran
    exact ⟨made, .inl rfl⟩
  obtain ⟨jobs, -, ran⟩ := bind_ok ran
  split at ran
  · cases ran
    exact ⟨made, .inl rfl⟩
  split at ran
  · cases ran
    exact ⟨made, .inl rfl⟩
  obtain ⟨⟨⟩, -, ran⟩ := bind_ok ran
  obtain ⟨⟨⟩, -, ran⟩ := bind_ok ran
  -- Both branches authorize; the first has asked about the job before.
  have authorizes : ∀ {inspections : List Outbound} {authorized : Change},
      (∀ outbound ∈ inspections, asksOnly outbound.request.body) →
      authorize current.state context row false = .ok authorized →
      WaitChange context state
        (Evaluation.andThen { current with requests := current.requests ++ inspections }
          { authorized with requests := [] }) := by
    intro inspections authorized inspects allowed
    have asking : WaitChange context state
        { current with requests := current.requests ++ inspections } :=
      ⟨made.moves, fun outbound mem =>
        (mem_append.mp mem).elim (made.asks outbound) (inspects outbound)⟩
    exact asking.andThen ⟨(authorize_waits held allowed).moves, by simp⟩
  split at ran
  · obtain ⟨outbound, waits, ran⟩ := bind_ok ran
    obtain ⟨deadline, -, same⟩ := bind_ok waits
    cases same
    obtain ⟨inspections, asked, ran⟩ := bind_ok ran
    cases asked
    obtain ⟨authorized, allowed, ran⟩ := bind_ok ran
    cases ran
    have only := authorize_state allowed
    exact ⟨authorizes (by simp [within, awaitedInspection, asksOnly]) allowed, only⟩
  · obtain ⟨inspections, asked, ran⟩ := bind_ok ran
    cases asked
    obtain ⟨authorized, allowed, ran⟩ := bind_ok ran
    cases ran
    have only := authorize_state allowed
    exact ⟨authorizes (by simp) allowed, only⟩

private theorem jobsChanged_waits (distinct : Distinct (·.continuationId) state.continuations)
    (ran : jobsChanged state context resource observation = .ok change) :
    WaitChange context state change := by
  -- The rows still to be woken are as they were: each wake moves its own row alone.
  have done := sequence_induction (fun rest current => WaitChange context state current ∧
      Distinct (·.continuationId) current.state.continuations ∧
      (∀ row ∈ rest, row ∈ current.state.continuations) ∧ Distinct (·.continuationId) rest)
    (fun {row rest current next} loop stepped => ?_)
    ⟨.nothing state, distinct, fun _ mem => mem, distinct⟩ ran
  · exact done.1
  · obtain ⟨made, apart, listed, restApart⟩ := loop
    have held := continuationOf_of_mem apart (listed row mem_cons_self)
    obtain ⟨woken, only⟩ := wake_waits made held stepped
    obtain ⟨fresh, restApart⟩ := nodup_cons.mp restApart
    refine ⟨woken, ?_, fun other mem => ?_, restApart⟩
    · rcases only with same | ⟨stored, -, same⟩
      · rw [same]
        exact apart
      · rw [same]
        exact apart.overwrite stored
    · have inside := listed other (mem_cons_of_mem _ mem)
      rcases only with same | ⟨stored, named, same⟩
      · rw [same]
        exact inside
      · rw [same]
        exact mem_overwrite_of_ne inside fun equal =>
          fresh (mem_map.mpr ⟨other, mem, equal.trans named⟩)

section
variable (held : continuationOf state row.continuationId = some row)

include held

private theorem retire_waits {disposition : ContinuationDisposition} {authority : Option RequestId}
    (ran : retire state context row disposition authority = .ok change) :
    WaitChange context state change := by
  unfold retire at ran
  split at ran
  · cases ran
    exact .nothing state
  rename_i unfinished
  obtain ⟨⟨⟩, proof, ran⟩ := bind_ok ran
  obtain ⟨⟨⟩, -, ran⟩ := bind_ok ran
  have open_ : row.phase ≠ .cancelled ∧ row.phase ≠ .resumed := by simpa using unfinished
  have leaves : (if disposition = .park then ContinuationPhase.parked else .cancelled) = .cancelled ∨
      (if disposition = .park then ContinuationPhase.parked else .cancelled) = .parked ∧
        parkProof context row authority = .ok () := by
    by_cases park : disposition = .park
    · rw [if_pos park] at proof
      exact .inr ⟨if_pos park, proof⟩
    · exact .inl (if_neg park)
  generalize (if disposition = .park then ContinuationPhase.parked else .cancelled) = phase
    at ran leaves
  simp only at ran
  split at ran
  · cases ran
    exact .nothing state
  · obtain ⟨jobs, -, ran⟩ := bind_ok ran
    obtain ⟨resources, -, ran⟩ := bind_ok ran
    cases ran
    exact .single (.moved held (.retires open_ authority leaves)) rfl (by simp)

private theorem reopen_waits {request : Request} {normalization : ScopeReopenNormalization}
    (ran : reopen state context row request normalization = .ok change) :
    WaitChange context state change := by
  unfold reopen at ran
  split at ran
  · cases ran
  obtain ⟨⟨⟩, -, ran⟩ := bind_ok ran
  obtain ⟨⟨⟩, -, ran⟩ := bind_ok ran
  split at ran
  · obtain ⟨⟨⟩, -, ran⟩ := bind_ok ran
    cases ran
    exact .nothing state
  obtain ⟨⟨⟩, -, ran⟩ := bind_ok ran
  obtain ⟨⟨⟩, -, ran⟩ := bind_ok ran
  obtain ⟨turn, -, ran⟩ := bind_ok ran
  obtain ⟨⟨⟩, parked, ran⟩ := bind_ok ran
  obtain ⟨_, -, ran⟩ := bind_ok ran
  obtain ⟨⟨⟩, -, ran⟩ := bind_ok ran
  obtain ⟨_, -, ran⟩ := bind_ok ran
  obtain ⟨⟨⟩, -, ran⟩ := bind_ok ran
  obtain ⟨⟨⟩, -, ran⟩ := bind_ok ran
  cases ran
  have owned := require_eq_ok.mp parked
  simp only [parkedOwnership, Bool.and_eq_true, decide_eq_true_eq] at owned
  exact .single (.moved held (.reopens owned.1.1.1.1.1 _ _)) rfl (by simp)

private theorem reopened_waits {authority : RequestId}
    (ran : reopened state context row authority observation = .ok change) :
    WaitChange context state change := by
  unfold reopened at ran
  split at ran
  · cases ran
    exact .nothing state
  rename_i reopening
  obtain ⟨turn, -, ran⟩ := bind_ok ran
  split at ran
  · split at ran
    · cases ran
      exact .nothing state
    split at ran
    · cases ran
      exact .nothing state
    split at ran
    · cases ran
      exact .still rfl rfl (by simp [cleanup, asksOnly])
    split at ran
    · cases ran
      exact .nothing state
    have phase : row.phase = .reopening := by
      simp only [Bool.or_eq_true, decide_eq_true_eq, not_or, not_not] at reopening
      exact reopening.1
    have back : RowMove context state row [] _ := .returns phase
    obtain ⟨⟨labels, moves, published⟩, asks⟩ :=
      authorize_waits (back.stored held) ran
    exact ⟨⟨[] :: labels, .cons (.moved held back) moves, published⟩, asks⟩
  · cases ran
    exact .nothing state

end

theorem validateNew_bare {turn : Invocation} (valid : validateNew state context row = .ok turn) :
    Bare row := by
  obtain ⟨⟨⟩, bare, -⟩ := bind_ok valid
  have fields := require_eq_ok.mp bare
  simp only [Bool.and_eq_true, decide_eq_true_eq, Option.isNone_iff_eq_none,
    List.isEmpty_iff] at fields
  obtain ⟨⟨⟨⟨⟨⟨⟨⟨⟨phase, timeout⟩, spent⟩, -⟩, -⟩, -⟩, -⟩, -⟩, receipt⟩, -⟩ := fields
  exact ⟨phase, timeout, spent, receipt⟩

private theorem firstPolls_ask {polls : List Outbound}
    (ran : firstPolls state context row = .ok polls) :
    ∀ outbound ∈ polls, asksOnly outbound.request.body := by
  obtain ⟨jobs, -, polled⟩ := bind_ok ran
  clear ran
  generalize (jobs.filter fun job => !settled job) = unsettled at polled
  induction unsettled generalizing polls with
  | nil =>
    cases polled
    simp
  | cons job rest ih =>
    rw [mapM_cons] at polled
    obtain ⟨first, asked, polled⟩ := bind_ok polled
    obtain ⟨others, restAsked, same⟩ := bind_ok polled
    cases same
    obtain ⟨resource, -, asked⟩ := bind_ok asked
    obtain ⟨deadline, -, same⟩ := bind_ok asked
    cases same
    intro outbound mem
    rcases mem_cons.mp mem with rfl | later
    · by_cases unknown : job.status = .unknown <;> simp [within, asksOnly, unknown]
    · exact ih restAsked outbound later

private theorem continuationOf_recordWait (fresh : continuationOf state row.continuationId = none) :
    continuationOf (recordWait state row) row.continuationId = some row := by
  have absent : ∀ other ∈ state.continuations, other.continuationId ≠ row.continuationId := by
    intro other mem
    simpa using find?_eq_none.mp fresh other mem
  unfold continuationOf recordWait
  rw [find?_append, find?_eq_none.mpr, Option.none_or]
  · simp
  · intro other mem
    obtain ⟨old, listed, rfl⟩ := mem_map.mp mem
    have differs := absent old listed
    split <;> simpa using differs

private theorem suspend_waits {asked : Continuation}
    (ran : suspend state context asked = .ok change) :
    WaitChange context state change := by
  unfold suspend at ran
  generalize boundedWait context.run asked = bounded at ran
  simp only at ran
  split at ran
  · obtain ⟨⟨⟩, -, ran⟩ := bind_ok ran
    cases ran
    exact .nothing state
  rename_i fresh
  obtain ⟨turn, valid, ran⟩ := bind_ok ran
  split at ran
  · obtain ⟨⟨⟩, -, ran⟩ := bind_ok ran
    cases ran
    exact .still rfl rfl (by simp [cleanup, asksOnly])
  generalize previousPublication state context turn = preceding at ran
  have recorded : WaitMove context state _ _ := .recorded fresh valid preceding
  have held : continuationOf state
      { bounded with precedingSubmission := preceding }.continuationId = none := fresh
  have stored := continuationOf_recordWait held
  generalize { bounded with precedingSubmission := preceding } = waiting
    at ran recorded stored
  obtain ⟨⟨⟩, -, ran⟩ := bind_ok ran
  obtain ⟨⟨⟩, -, ran⟩ := bind_ok ran
  obtain ⟨isReady, -, ran⟩ := bind_ok ran
  split at ran
  · obtain ⟨authorized, allowed, ran⟩ := bind_ok ran
    cases ran
    obtain ⟨⟨labels, moves, published⟩, asks⟩ := authorize_waits stored allowed
    refine ⟨⟨[.turnSuspended waiting] :: labels, .cons recorded moves, ?_⟩, asks⟩
    rw [flatten_cons, published]
    rfl
  · obtain ⟨polls, asked, ran⟩ := bind_ok ran
    cases ran
    exact .single recorded rfl (firstPolls_ask asked)

structure SameWork (before after : EvaluationState) : Prop where
  jobs : after.jobs = before.jobs
  registeredJobs : after.registeredJobs = before.registeredJobs
  evidence : after.evidence = before.evidence
  submissionBudgets : after.submissionBudgets = before.submissionBudgets
  agentCalls : after.agentCalls = before.agentCalls

theorem SameWork.refl (state : EvaluationState) : SameWork state state := ⟨rfl, rfl, rfl, rfl, rfl⟩

theorem SameWork.symm (same : SameWork before after) : SameWork after before :=
  ⟨same.jobs.symm, same.registeredJobs.symm, same.evidence.symm, same.submissionBudgets.symm,
    same.agentCalls.symm⟩

theorem SameWork.trans {first second third : EvaluationState} (left : SameWork first second)
    (right : SameWork second third) : SameWork first third :=
  ⟨right.jobs.trans left.jobs, right.registeredJobs.trans left.registeredJobs,
    right.evidence.trans left.evidence, right.submissionBudgets.trans left.submissionBudgets,
    right.agentCalls.trans left.agentCalls⟩

theorem SameWork.allJobs (same : SameWork before after) : after.allJobs = before.allJobs := by
  unfold EvaluationState.allJobs
  rw [same.jobs, same.registeredJobs]

theorem WaitMove.sameWork (move : WaitMove context state events after) : SameWork state after := by
  cases move <;> exact ⟨rfl, rfl, rfl, rfl, rfl⟩

theorem WaitMove.distinct (move : WaitMove context state events after)
    (distinct : Distinct (·.continuationId) state.continuations) :
    Distinct (·.continuationId) after.continuations := by
  cases move with
  | moved held move => exact distinct.overwrite _
  | @recorded asked turn fresh valid preceding =>
    have keys : (recordWait state { asked with
        precedingSubmission := preceding }).continuations.map (·.continuationId) =
          state.continuations.map (·.continuationId) ++ [asked.continuationId] := by
      simp only [recordWait, map_append, map_map, map_cons, map_nil]
      congr 1
      refine map_congr_left fun row _ => ?_
      simp only [Function.comp]
      split <;> rfl
    unfold Distinct
    rw [keys, nodup_append]
    refine ⟨distinct, nodup_singleton _, fun identity mem other single => ?_⟩
    obtain ⟨row, listed, rfl⟩ := mem_map.mp mem
    rw [mem_singleton.mp single]
    simpa using find?_eq_none.mp fresh row listed

namespace WaitChange

theorem sameWork (made : WaitChange context state change) : SameWork state change.state := by
  obtain ⟨labels, moves, -⟩ := made.moves
  exact moves.related (fun _ => True) SameWork .refl (fun _ _ _ => .trans)
    (fun _ _ => trivial) (fun _ move => move.sameWork) trivial

theorem distinct (made : WaitChange context state change)
    (distinct : Distinct (·.continuationId) state.continuations) :
    Distinct (·.continuationId) change.state.continuations := by
  obtain ⟨labels, moves, -⟩ := made.moves
  exact moves.invariant (fun state => Distinct (·.continuationId) state.continuations)
    (fun held move => move.distinct held) distinct

theorem notices (made : WaitChange context state change) :
    ∀ event ∈ change.events, (∃ waiting, event = .turnSuspended waiting) ∨
      ∃ resume, event = .resumeAuthorized resume := by
  obtain ⟨labels, moves, published⟩ := made.moves
  rw [← published]
  have each := moves.history (fun labels _ => ∀ event ∈ labels.flatten,
      (∃ waiting, event = .turnSuspended waiting) ∨ ∃ resume, event = .resumeAuthorized resume)
    (fun {labels first label last} held move event mem => ?_) (by simp)
  · exact each
  · rw [flatten_append, flatten_singleton] at mem
    rcases mem_append.mp mem with earlier | later
    · exact held event earlier
    cases move with
    | recorded fresh valid preceding => exact .inl ⟨_, mem_singleton.mp later⟩
    | moved held move =>
      cases move with
      | publishes able unpublished evidence cursor =>
        exact .inr ⟨_, mem_singleton.mp later⟩
      | _ => cases later

end WaitChange

/-! ## The subarea -/

theorem advanceContinuations_waits {event : EvaluationEvent}
    (distinct : Distinct (·.continuationId) state.continuations)
    (ran : advanceContinuations state context event = .ok change) :
    WaitChange context state change := by
  have named : ∀ {identity : ContinuationId} {found : Continuation},
      continuationOf state identity = some found →
        continuationOf state found.continuationId = some found := by
    intro identity found held
    rw [continuationOf_id held]
    exact held
  unfold advanceContinuations at ran
  split at ran
  · exact suspend_waits ran
  · exact jobsChanged_waits distinct ran
  · split at ran
    · cases ran
      exact .nothing state
    · rename_i held
      exact reachDeadline_waits (named held) ran
  · split at ran
    · cases ran
      exact .nothing state
    · rename_i held
      exact retire_waits (named held) ran
  · split at ran
    · cases ran
    · rename_i held
      exact reopen_waits (named held) ran
  · split at ran
    · cases ran
      exact .nothing state
    · rename_i held
      exact reopened_waits (named held) ran
  · cases ran

end VibeServeCore.Evaluation
