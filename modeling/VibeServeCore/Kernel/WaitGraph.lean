/- source: _waits.py (`MAY_WAIT_ON`, `_live`, `_open`), _step.py (`consume`)
   digest: The wait contract of every step keeps the recorded waits free of circles. -/

import VibeServeCore.Kernel.Replay

namespace VibeServeCore.Kernel

open Types List Foundation.Process

def Permitted (named : NamedWaits) : Prop :=
  ∀ row ∈ named, ∀ entity ∈ row.2.subjects, entity.kind ∈ mayWaitOn row.1.kind

/-- The waiter's recorded wait names the entity. -/
def Names (state : CoreState) (waiter entity : WaitSubject) : Prop :=
  ∃ wait, namedWait (recordedWaits state) waiter = some wait ∧ entity ∈ wait.subjects

section
variable {named : NamedWaits} {subject : WaitSubject} {wait : WaitOn} {records : RecordsState}

private theorem mayWaitOn_ends {waiter entity : WaitKind} (allowed : entity ∈ mayWaitOn waiter) :
    mayWaitOn entity = [] := by
  cases waiter <;> simp only [mayWaitOn, mem_cons, not_mem_nil, or_false] at allowed
  · rcases allowed with rfl | rfl <;> rfl
  · rw [allowed]
    rfl

private theorem namedWait_mem (found : namedWait named subject = some wait) :
    (subject, wait) ∈ named := by
  obtain ⟨row, listed, rfl⟩ := Option.map_eq_some_iff.mp found
  have same : row.1 = subject := by simpa using find?_some listed
  rw [← same]
  exact mem_reverse.mp (mem_of_find?_eq_some listed)

theorem Permitted.leaf (permitted : Permitted named) (last : mayWaitOn subject.kind = [])
    (found : namedWait named subject = some wait) : wait.subjects = [] := by
  refine eq_nil_iff_forall_not_mem.mpr fun entity listed => ?_
  have allowed := permitted _ (namedWait_mem found) entity listed
  rw [last] at allowed
  cases allowed

theorem Permitted.live (permitted : Permitted named)
    (last : ∀ subject ∈ wait.subjects, mayWaitOn subject.kind = []) (sent queued : List RequestId) :
    ∃ producers, ∀ depth, live records named sent (depth + 2) queued wait = .ok producers := by
  simp only [Kernel.live]
  -- The fold over the named entities, from whatever was found before.
  generalize (⟨_, _, _⟩ : Producers) = found
  generalize wait.subjects = subjects at last ⊢
  induction subjects generalizing found with
  | nil => exact ⟨found, fun _ => rfl⟩
  | cons subject rest ih =>
    obtain ⟨own, later⟩ := forall_mem_cons.mp last
    cases entity : namedWait named subject with
    | none =>
      obtain ⟨producers, total⟩ := ih found later
      exact ⟨producers, fun depth => by simpa [foldlM_cons, entity] using total depth⟩
    | some entity =>
      have leaf := permitted.leaf own ‹_›
      obtain ⟨producers, total⟩ := ih _ later
      refine ⟨producers, fun depth => ?_⟩
      rw [foldlM_cons]
      simp only [‹namedWait named subject = _›, leaf, foldlM_nil]
      exact total depth

theorem Permitted.acyclic {state : CoreState} (permitted : Permitted (recordedWaits state))
    (subject : WaitSubject) : ¬Relation.TransGen (Names state) subject subject := by
  have allowed : ∀ {waiter entity}, Names state waiter entity →
      entity.kind ∈ mayWaitOn waiter.kind := by
    rintro waiter entity ⟨wait, found, listed⟩
    exact permitted _ (namedWait_mem found) entity listed
  -- A waiter that is named itself names nothing.
  intro circle
  obtain ⟨first, leaves, -⟩ := Relation.TransGen.head'_iff.mp circle
  obtain ⟨last, -, enters⟩ := Relation.TransGen.tail'_iff.mp circle
  have next := allowed leaves
  rw [mayWaitOn_ends (allowed enters)] at next
  cases next

variable {kernel : Kernel} {before after : CoreState}

private theorem consume_permitted {event : CoreEvent} {result : Transition}
    (permitted : Permitted (recordedWaits before))
    (consumed : consume kernel before event = .ok result) :
    Permitted (recordedWaits result.state) := by
  obtain ⟨handled, -, met, rfl⟩ := consume_handled consumed
  intro row listed entity entered
  by_cases kept : namedWait (recordedWaits before) row.1 = some row.2
  · exact permitted row (namedWait_mem kept) entity entered
  have changed : row ∈ changedWaits before handled.state :=
    mem_filter.mpr ⟨listed, by simpa using kept⟩
  simp only [unmetWaits, append_eq_nil_iff] at met
  have named := flatMap_eq_nil_iff.mp met.1.1.1.2 row changed
  have fits := filter_eq_nil_iff.mp (map_eq_nil_iff.mp named) entity entered
  simp only [Bool.or_eq_true, Bool.not_eq_true', not_or, Bool.not_eq_false,
    contains_iff_mem] at fits
  exact fits.1

/-! ## Commands about commands -/

/-- One level of `_open` over any answer below it. -/
def openLevel (records : RecordsState) (again : List RequestId → RequestId → Bool)
    (seen : List RequestId) (requestId : RequestId) : Bool :=
  match records.record requestId with
  | none => false
  | some record =>
    if seen.contains requestId then false
    else if record.inFlight && !dispatchedByDeadHost records record then true
    else if !record.inFlight && record.isCanonical then false
    else record.addressedBy.any fun command =>
      (record.inFlight && answeredInThisEpoch records command) || again (requestId :: seen) command

def unseen (records : RecordsState) (seen : List RequestId) : Nat :=
  (records.records.filter fun row => row.requestId ∉ seen).length

private theorem unseen_lt {record : RequestRecord} {requestId : RequestId} {seen : List RequestId}
    (found : records.record requestId = some record) (fresh : requestId ∉ seen) :
    unseen records (requestId :: seen) < unseen records seen := by
  have named : record.requestId = requestId := by simpa using find?_some found
  have fewer : (records.records.filter fun row => row.requestId ∉ requestId :: seen) =
      (records.records.filter fun row => row.requestId ∉ seen).filter
        fun row => row.requestId ≠ requestId := by
    rw [filter_filter]
    exact filter_congr fun row _ => by simp
  unfold unseen
  rw [fewer, length_filter_lt_length_iff_exists]
  refine ⟨record, mem_filter.mpr ⟨mem_of_find?_eq_some found, ?_⟩, by simp [named]⟩
  simpa [named] using fresh

private theorem openLevel_iterate (bottom : List RequestId → RequestId → Bool) {levels depth : Nat}
    {seen : List RequestId} (requestId : RequestId) (deep : unseen records seen < levels)
    (enough : unseen records seen < depth) :
    (openLevel records)^[levels] bottom seen requestId =
      requestOpen records depth seen requestId := by
  induction levels generalizing depth seen requestId with
  | zero => cases deep
  | succ levels ih =>
    cases depth with
    | zero => cases enough
    | succ depth =>
      rw [Function.iterate_succ_apply', openLevel, requestOpen]
      cases found : records.record requestId with
      | none => rfl
      | some record =>
        by_cases fresh : requestId ∈ seen
        · simp [fresh]
        have fewer := unseen_lt found fresh
        have same : ∀ command, (openLevel records)^[levels] bottom (requestId :: seen) command =
            requestOpen records depth (requestId :: seen) command := fun command =>
          ih command (by omega) (by omega)
        simp only [same]

end

/-- Whatever the reducers do, following recorded waits ends and never comes back to its start. -/
theorem wait_graphs_stay_acyclic (kernel : Kernel) {start last : CoreState}
    {labels : List (CoreEvent × Transition)} (unrecorded : recordedWaits start = [])
    (run : ConsumeRun kernel start labels last) :
    (∀ row ∈ recordedWaits last, ∀ entity ∈ row.2.subjects,
      entity.kind ∈ mayWaitOn row.1.kind) ∧
    (∀ subject, ¬Relation.TransGen (Names last) subject subject) ∧
    (∀ row ∈ recordedWaits last, ∀ (named : NamedWaits) (records : RecordsState)
      (sent queued : List RequestId), named ⊆ recordedWaits last →
      ∃ producers, ∀ depth, live records named sent (depth + 2) queued row.2 = .ok producers) ∧
    ∀ (records : RecordsState) (bottom : List RequestId → RequestId → Bool)
      (requestId : RequestId), (openLevel records)^[records.records.length + 1] bottom []
        requestId = openRequest records requestId := by
  have initial : Permitted (recordedWaits start) := by simp [Permitted, unrecorded]
  have permitted : Permitted (recordedWaits last) := by
    refine run.invariant (fun state => Permitted (recordedWaits state)) ?_ initial
    rintro before label after permitted ⟨consumed, rfl⟩
    exact consume_permitted permitted consumed
  refine ⟨permitted, permitted.acyclic, fun row listed named records sent queued within => ?_,
    fun records bottom requestId => ?_⟩
  · have part : Permitted named := fun other member => permitted other (within member)
    exact part.live (fun entity entered => mayWaitOn_ends (permitted row listed entity entered))
      sent queued
  · have all : unseen records [] < records.records.length + 1 :=
      Nat.lt_succ_of_le (length_filter_le _ _)
    exact openLevel_iterate bottom requestId all all

def acquiringTurn : Invocation where
  invocation := ⟨⟨"session"⟩, ⟨"turn"⟩, 0⟩
  scope := Records.sampleScope
  turn := sampleTurn
  phase := .acquiring
  until_ := { at_ := 10 }
  wait := some { subjects := [⟨.session, "session"⟩] }

def acquiringKernel : Kernel where
  digests := kernelDigests
  dispatch state signal :=
    match signal with
    | .sessions _ => .ok { state := .sessions { state.sessions with
        sessions := [waitingSession { timer := some 50 }], invocations := [acquiringTurn] } }
    | _ => idleDispatch state signal
  recursionLimit := 2

/-- A turn waits on its session, which waits on a timer: the two recorded waits run in no circle. -/
theorem session_wait_is_acyclic :
    ∃ result, consume acquiringKernel sampleCore (.proposalSubmitted [turnProposal] 0) = .ok result ∧
      recordedWaits result.state = [(⟨.session, "session"⟩, { timer := some 50 }),
        (⟨.turnAcquisition, "turn"⟩, { subjects := [⟨.session, "session"⟩] })] ∧
      Names result.state ⟨.turnAcquisition, "turn"⟩ ⟨.session, "session"⟩ ∧
      ∀ subject, ¬Relation.TransGen (Names result.state) subject subject := by
  have waits : ((consume acquiringKernel sampleCore (.proposalSubmitted [turnProposal] 0)).map
      fun result => recordedWaits result.state) = .ok
        [(⟨.session, "session"⟩, { timer := some 50 }),
          (⟨.turnAcquisition, "turn"⟩, { subjects := [⟨.session, "session"⟩] })] := by
    decide +kernel
  obtain ⟨result, consumed, recorded⟩ := map_ok waits
  have unrecorded : recordedWaits sampleCore = [] := by decide +kernel
  have run : ConsumeRun acquiringKernel sampleCore [(_, result)] result.state :=
    .single ⟨consumed, rfl⟩
  refine ⟨result, consumed, recorded, ⟨{ subjects := [⟨.session, "session"⟩] }, ?_, mem_singleton_self _⟩,
    (wait_graphs_stay_acyclic acquiringKernel unrecorded run).2.1⟩
  rw [recorded]
  rfl

end VibeServeCore.Kernel
