/- source: scheduling.py
   digest: What one scheduling call does to the queue and to the occupied slots. -/

import VibeServeCore.Records.Finality
import VibeServeCore.Scheduling.Reducer

namespace VibeServeCore.Scheduling

open Types Proofs List Foundation.Process
open Records (sampleRun sampleDigests sampleScope)

def admissions (signals : List Signal) : List AdmissionRequest :=
  signals.filterMap fun signal =>
    match signal with
    | .admitAttempt request => some request
    | _ => none

@[simp] theorem admissions_append (first second : List Signal) :
    admissions (first ++ second) = admissions first ++ admissions second := by
  simp [admissions]

@[simp] theorem admissions_admitted (requests : List AdmissionRequest) :
    admissions (requests.map Signal.admitAttempt) = requests := by
  simp [admissions, filterMap_map]

private theorem admissions_eq_nil {signals : List Signal}
    (others : ∀ signal ∈ signals, ∀ request, signal ≠ .admitAttempt request) :
    admissions signals = [] := by
  refine filterMap_eq_nil_iff.mpr fun signal mem => ?_
  cases signal with
  | admitAttempt request => exact absurd rfl (others _ mem request)
  | _ => rfl

def episode (slot : Slot) : Slot := { slot with chargeEndedAt := none }

def chargeEnd (slot : Slot) : SchedulingEvent → Option Seconds
  | .slotChargeEnded attempt admissionId endedAt =>
    if slot.attempt = attempt ∧ slot.admissionId = admissionId then some endedAt else none
  | _ => none

def stamp (event : SchedulingEvent) (slot : Slot) : Slot :=
  { slot with chargeEndedAt := slot.chargeEndedAt.or (chargeEnd slot event) }

def ChronologicalCharge (slot : Slot) : Prop :=
  ∀ ended ∈ slot.chargeEndedAt, slot.admittedAt ≤ ended

def retires : SchedulingEvent → AdmissionRequest → Bool
  | .queueEntryRetired attempt admissionId => retiredEntry attempt admissionId
  | _ => fun _ => false

section
variable (digests : Digests) (context : SchedulingContext)

def arrivals (state : SchedulingState) : SchedulingEvent → List AdmissionRequest
  | .attemptRequested request =>
    if (answer digests state context (.start request)).isNone then [.start request] else []
  | .attemptReopenRequested request =>
    if (answer digests state context (.reopen request)).isNone then [.reopen request] else []
  | _ => []

inductive Seated : List Slot → List AdmissionRequest → Prop
  | nil (slots : List Slot) : Seated slots []
  | cons {slots : List Slot} {head : AdmissionRequest} {rest : List AdmissionRequest}
      (fit : fits digests { slots := slots } context head = .ok true)
      (later : Seated (slots ++ [slotOf context head]) rest) : Seated slots (head :: rest)

structure Fills (state : SchedulingState) (change : Change) : Prop where
  queue : state.queue = admissions change.signals ++ change.state.queue
  slots : change.state.slots = state.slots ++ (admissions change.signals).map (slotOf context)
  released : change.state.releasedSlotSeconds = state.releasedSlotSeconds
  seated : Seated digests context state.slots (admissions change.signals)

variable {queue : List AdmissionRequest} {change : Change} {state : SchedulingState}
  {request : AdmissionRequest}

theorem Fills.idle (same : change.state = state) (silent : change.signals = []) :
    Fills digests context state change where
  queue := by
    rw [silent, same]
    rfl
  slots := by
    rw [silent, same]
    exact (append_nil _).symm
  released := by rw [same]
  seated := by
    rw [silent]
    exact .nil _

variable {digests context}

theorem Fills.signals (fills : Fills digests context state change)
    {signals : List Signal} (same : admissions signals = admissions change.signals) :
    Fills digests context state { change with signals } where
  queue := by
    rw [same]
    exact fills.queue
  slots := by
    rw [same]
    exact fills.slots
  released := fills.released
  seated := by
    rw [same]
    exact fills.seated

theorem Fills.closed {closed : Bool} (fills : Fills digests context
    { state with admissionClosed := closed } change) : Fills digests context state change :=
  ⟨fills.queue, fills.slots, fills.released, fills.seated⟩

variable {registering : Option AttemptRequest} {attempt : AttemptRef} {admissionId : DecisionId}
    {endedAt : Seconds} {cancellations : List Signal} {event : SchedulingEvent}

private theorem admitQueued_spec {filled : SchedulingState} {signals : List Signal}
    (queued : state.queue = queue)
    (ran : admitQueued digests context registering queue state = .ok (filled, signals)) :
    ∃ admitted, signals = admitted.map Signal.admitAttempt ∧ queue = admitted ++ filled.queue ∧
      filled.slots = state.slots ++ admitted.map (slotOf context) ∧
      filled.releasedSlotSeconds = state.releasedSlotSeconds ∧
      Seated digests context state.slots admitted := by
  induction queue generalizing state filled signals with
  | nil =>
    cases ran
    exact ⟨[], rfl, by simp [queued], by simp, rfl, .nil _⟩
  | cons head rest ih =>
    -- Whoever does not pass both gates stops the loop, with everyone behind them.
    have stopped : (filled, signals) = (state, []) →
        ∃ admitted, signals = admitted.map Signal.admitAttempt ∧
          head :: rest = admitted ++ filled.queue ∧
          filled.slots = state.slots ++ admitted.map (slotOf context) ∧
          filled.releasedSlotSeconds = state.releasedSlotSeconds ∧
          Seated digests context state.slots admitted := by
      intro same
      cases same
      exact ⟨[], rfl, by simp [queued], by simp, rfl, .nil _⟩
    unfold admitQueued at ran
    split_ifs at ran with gates
    · obtain ⟨fit, fitted, ran⟩ := bind_ok ran
      cases fit with
      | false => exact stopped (Except.ok.inj ran).symm
      | true =>
        obtain ⟨⟨last, later⟩, continued, same⟩ := bind_ok ran
        cases same
        obtain ⟨admitted, rfl, queueSplit, slots, released, seated⟩ := ih rfl continued
        refine ⟨head :: admitted, rfl, by rw [queueSplit]; rfl, ?_, released,
          .cons fitted seated⟩
        rw [slots]
        simp [admitHead]
    · exact stopped (Except.ok.inj ran).symm

private theorem fill_spec {retireExpired : Bool}
    (ran : fill digests state context registering retireExpired = .ok change) :
    Fills digests context state change := by
  obtain ⟨⟨filled, signals⟩, admitting, same⟩ := bind_ok ran
  cases same
  obtain ⟨admitted, rfl, queue, slots, released, seated⟩ := admitQueued_spec rfl admitting
  have expired : admissions
      (if retireExpired then deadlineRetirements digests state context else []) = [] := by
    refine admissions_eq_nil fun signal mem request => ?_
    split_ifs at mem
    · unfold deadlineRetirements at mem
      dsimp only at mem
      split_ifs at mem
      · cases mem
      · obtain ⟨row, _, rfl⟩ := mem_map.mp mem
        exact Signal.noConfusion
    · cases mem
  have ended : admissions (if drained digests filled context then [Signal.runDrained] else []) = [] := by
    split_ifs <;> rfl
  have all : admissions ((if retireExpired then deadlineRetirements digests state context else []) ++
      admitted.map Signal.admitAttempt ++
      if drained digests filled context then [Signal.runDrained] else []) = admitted := by
    rw [admissions_append, admissions_append, expired, ended, admissions_admitted]
    simp
  exact ⟨by rw [all]; exact queue, by rw [all]; exact slots, released, by rw [all]; exact seated⟩

/-- Nothing changes and nothing is signalled. -/
structure Answers (state : SchedulingState) (change : Change) : Prop where
  same : change.state = state
  silent : change.signals = []

private theorem reject_answers (state : SchedulingState) (request : AdmissionRequest)
    (code : RejectionCode) (detail : String) : Answers state (reject state request code detail) :=
  ⟨rfl, rfl⟩

private theorem validateStart_answers {request : AttemptRequest}
    (answered : validateStart digests state context request = some change) :
    Answers state change := by
  unfold validateStart at answered
  split at answered
  · split at answered
    · cases answered; exact reject_answers ..
    split at answered
    · cases answered; exact reject_answers ..
    · split at answered
      · cases answered
      · split_ifs at answered <;> cases answered <;> exact reject_answers ..
  · cases answered; exact reject_answers ..

private theorem duplicate_answers (answered : duplicate state context request = some change) :
    Answers state change := by
  rcases Option.or_eq_some_iff.mp answered with queued | ⟨_, later⟩
  · obtain ⟨row, _, told⟩ := exists_of_findSome?_eq_some queued
    split_ifs at told <;> cases told
    · exact ⟨rfl, rfl⟩
    · exact reject_answers ..
    · exact reject_answers ..
  · rcases Option.or_eq_some_iff.mp later with occupied | ⟨_, existing⟩
    · obtain ⟨slot, _, told⟩ := Option.map_eq_some_iff.mp occupied
      split_ifs at told <;> cases told
      · exact ⟨rfl, rfl⟩
      · exact reject_answers ..
    · unfold existingDuplicate at existing
      split at existing <;> split_ifs at existing <;> cases existing
      · exact ⟨rfl, rfl⟩
      · exact reject_answers ..

private theorem refused_answers (answered : refused digests state context request = some change) :
    Answers state change := by
  unfold refused at answered
  split_ifs at answered
  · cases answered; exact reject_answers ..
  · split at answered <;> split_ifs at answered <;> cases answered <;> exact reject_answers ..

private theorem answer_answers (answered : answer digests state context request = some change) :
    Answers state change := by
  rcases Option.or_eq_some_iff.mp answered with start | ⟨_, later⟩
  · cases request with
    | start request => exact validateStart_answers start
    | reopen request => cases start
  · rcases Option.or_eq_some_iff.mp later with known | ⟨_, denied⟩
    · exact duplicate_answers known
    · exact refused_answers denied

theorem Answers.fills (answers : Answers state change) : Fills digests context state change :=
  .idle digests context answers.same answers.silent

private theorem enqueue_spec (ran : enqueue digests state context request = .ok change) :
    Fills digests context
      { state with queue := state.queue ++
          if (answer digests state context request).isNone then [request] else [] }
      change := by
  unfold enqueue at ran
  split at ran
  · rename_i told answered
    cases ran
    simpa [answered] using (answer_answers answered).fills
  rename_i unanswered
  unfold append at ran
  split_ifs at ran
  obtain ⟨filled, filling, same⟩ := bind_ok ran
  cases same
  rw [unanswered]
  refine (fill_spec filling).signals ?_
  rw [admissions_append, admissions_eq_nil, nil_append]
  intro signal mem admitted
  obtain ⟨start, _, rfl⟩ := Option.mem_map.mp (Option.mem_toList.mp mem)
  exact Signal.noConfusion

private theorem endSlotCharge_eq_ok {slot ended : Slot}
    (ran : endSlotCharge attempt admissionId endedAt slot = .ok ended) :
    ended = stamp (.slotChargeEnded attempt admissionId endedAt) slot ∧
      (ChronologicalCharge slot → ChronologicalCharge ended) := by
  unfold endSlotCharge at ran
  split_ifs at ran with other early
  · cases ran
    refine ⟨?_, id⟩
    obtain ⟨held, admission, pools, admittedAt, _ | first⟩ := slot
    · have mismatch : ¬ (held = attempt ∧ admission = admissionId) := by
        rintro ⟨rfl, rfl⟩
        simp at other
      simp [stamp, chargeEnd, mismatch]
    · rfl
  · cases ran
    simp only [ne_eq, Bool.or_eq_true, decide_eq_true_eq, not_or, not_not, Bool.not_eq_true,
      Option.isSome_eq_false_iff, Option.isNone_iff_eq_none] at other
    obtain ⟨⟨sameAttempt, sameAdmission⟩, charge⟩ := other
    refine ⟨by simp [stamp, chargeEnd, sameAttempt, sameAdmission, charge], fun _ => ?_⟩
    rintro stated ⟨⟩
    exact not_lt.mp early

theorem endCharge_spec {slots ended : List Slot}
    (ran : slots.mapM (endSlotCharge attempt admissionId endedAt) = .ok ended) :
    ended = slots.map (stamp (.slotChargeEnded attempt admissionId endedAt)) ∧
      ((∀ slot ∈ slots, ChronologicalCharge slot) → ∀ slot ∈ ended, ChronologicalCharge slot) := by
  induction slots generalizing ended with
  | nil =>
    cases ran
    exact ⟨rfl, id⟩
  | cons slot slots ih =>
    rw [mapM_cons] at ran
    obtain ⟨first, stamped, ran⟩ := bind_ok ran
    obtain ⟨rest, continued, same⟩ := bind_ok ran
    cases same
    obtain ⟨rfl, chronological⟩ := endSlotCharge_eq_ok stamped
    obtain ⟨rfl, others⟩ := ih continued
    refine ⟨rfl, fun each => forall_mem_cons.mpr ⟨chronological (each slot ?_), others ?_⟩⟩
    · exact mem_cons_self
    · exact fun other mem => each other (mem_cons_of_mem _ mem)

private theorem closeAndDrain_spec (others : admissions cancellations = [])
    (ran : closeAndDrain digests state context cancellations = .ok change) :
    Fills digests context state change := by
  obtain ⟨filled, filling, same⟩ := bind_ok ran
  cases same
  refine Fills.signals (fill_spec filling).closed ?_
  have drains : admissions (runSessionsDrain digests context) = [] := by
    refine admissions_eq_nil fun signal mem request => ?_
    obtain ⟨stop, _, rfl⟩ := Option.mem_map.mp (Option.mem_toList.mp mem)
    exact Signal.noConfusion
  rw [admissions_append, admissions_append, others, drains]
  rfl

private theorem cancel_others (cancels : cancel digests state context = some cancellations) :
    admissions cancellations = [] := by
  unfold cancel at cancels
  split_ifs at cancels
  split at cancels
  · cases cancels
  split_ifs at cancels
  cases cancels
  refine admissions_eq_nil fun signal mem request => ?_
  rcases mem_cons.mp mem with rfl | retirement
  · exact Signal.noConfusion
  · obtain ⟨held, _, rfl⟩ := mem_map.mp retirement
    exact Signal.noConfusion

private theorem stopReplay_answers (refused : stopReplay state context = some change) :
    Answers state change := by
  unfold stopReplay at refused
  split at refused
  · cases refused
    exact ⟨rfl, rfl⟩
  · cases refused

private theorem control_spec {action : AdmissionAction}
    (ran : control digests state context action = .ok change) :
    Fills digests context state change := by
  -- A control changes the closed flag at most before it fills or answers.
  have idle : ∀ closed : Bool,
      Fills digests context state { state := { state with admissionClosed := closed } } := by
    intro closed
    have still : Fills digests context { state with admissionClosed := closed }
      { state := { state with admissionClosed := closed } } := .idle digests context rfl rfl
    exact still.closed
  cases action with
  | resume =>
    unfold control at ran
    simp only at ran
    split_ifs at ran
    · cases ran
      exact idle _
    · exact (fill_spec ran).closed
  | pause =>
    unfold control at ran
    simp only at ran
    split_ifs at ran
    cases ran
    cases replay : stopReplay state context with
    | none => exact idle _
    | some refusal => exact (stopReplay_answers replay).fills
  | drain =>
    unfold control at ran
    simp only at ran
    split at ran
    · rename_i refusal replay
      cases ran
      exact (stopReplay_answers replay).fills
    · exact closeAndDrain_spec rfl ran
  | cancel =>
    unfold control at ran
    simp only at ran
    split at ran
    · rename_i refusal replay
      cases ran
      exact (stopReplay_answers replay).fills
    split at ran
    · cases ran
      exact idle _
    · rename_i cancels
      exact closeAndDrain_spec (cancel_others cancels) ran

/-- Before capacity is filled an event ends charges, gives up one episode, or leaves the slots. -/
def Keeps (now : Seconds) (state kept : SchedulingState) : SchedulingEvent → Prop
  | .slotChargeEnded attempt admissionId endedAt =>
    state.slots.mapM (endSlotCharge attempt admissionId endedAt) = .ok kept.slots ∧
      kept.releasedSlotSeconds = state.releasedSlotSeconds
  | .slotReleased attempt admissionId =>
    match state.slots.find? fun slot => slot.attempt = attempt && slot.admissionId = admissionId with
    | none => kept = state
    | some slot => kept.slots = state.slots.filter (· ≠ slot) ∧
      kept.releasedSlotSeconds = state.releasedSlotSeconds +
        max 0 (slot.chargeEndedAt.getD now - slot.admittedAt)
  | _ => kept.slots = state.slots ∧ kept.releasedSlotSeconds = state.releasedSlotSeconds

theorem Keeps.episodes {now : Seconds} {kept : SchedulingState}
    (keeps : Keeps now state kept event) :
    (kept.slots.map episode).Sublist (state.slots.map episode) := by
  cases event with
  | slotChargeEnded attempt admissionId endedAt =>
    rw [(endCharge_spec keeps.1).1, map_map]
    exact .refl _
  | slotReleased attempt admissionId =>
    simp only [Keeps] at keeps
    split at keeps
    · rw [keeps]
    · rw [keeps.1]
      exact filter_sublist.map _
  | _ => rw [keeps.1]

/-- Retired rows leave, an unanswered request joins at the end, a front part is seated. -/
theorem schedule_spec (ran : schedule digests state context event = .ok change) :
    ∃ kept, Keeps context.run.nowAt state kept event ∧
      kept.queue = (state.queue.filter fun request => !retires event request) ++
          arrivals digests context state event ∧
      Fills digests context kept change := by
  -- Every event but three leaves the queued rows as they are before capacity is filled.
  have unmoved : retires event = (fun _ => false) → arrivals digests context state event = [] →
      state.queue = (state.queue.filter fun request => !retires event request) ++
        arrivals digests context state event := by
    intro keeps none_arrive
    simp [keeps, none_arrive]
  cases event with
  | attemptRequested request | attemptReopenRequested request =>
    refine ⟨_, ?_, ?_, enqueue_spec ran⟩
    · exact ⟨rfl, rfl⟩
    · simp [retires, arrivals]
  | attemptReady attempt admissionId =>
    cases ran
    exact ⟨state, ⟨rfl, rfl⟩, unmoved rfl rfl, .idle digests context rfl rfl⟩
  | slotReleased attempt admissionId =>
    unfold schedule release at ran
    simp only at ran
    split at ran
    · rename_i absent
      cases ran
      refine ⟨state, ?_, unmoved rfl rfl, .idle digests context rfl rfl⟩
      simp only [Keeps, absent]
    · rename_i found
      refine ⟨_, ?_, ?_, fill_spec ran⟩
      · simp only [Keeps, found, and_self]
      · exact unmoved rfl rfl
  | slotChargeEnded attempt admissionId endedAt =>
    obtain ⟨ended, stamped, same⟩ := bind_ok ran
    cases same
    exact ⟨{ state with slots := ended }, ⟨stamped, rfl⟩, unmoved rfl rfl,
      .idle digests context rfl rfl⟩
  | queueEntryRetired attempt admissionId =>
    refine ⟨_, ?_, ?_, fill_spec ran⟩
    · exact ⟨rfl, rfl⟩
    · simp [retires, arrivals]
  | clockAdvanced nowAt =>
    unfold schedule at ran
    simp only at ran
    split_ifs at ran
    obtain ⟨filled, filling, same⟩ := bind_ok ran
    cases same
    refine ⟨state, ⟨rfl, rfl⟩, unmoved rfl rfl, Fills.signals (fill_spec filling) ?_⟩
    have ticks : admissions (tickSignals context) = [] := by
      refine admissions_eq_nil fun signal mem request => ?_
      rcases mem_cons.mp mem with rfl | raised
      · exact Signal.noConfusion
      · obtain ⟨event, _, rfl⟩ := mem_map.mp raised
        exact Signal.noConfusion
    rw [admissions_append, ticks, append_nil]
  | admissionControl action => exact ⟨state, ⟨rfl, rfl⟩, unmoved rfl rfl, control_spec ran⟩
  | adoptionFenceLifted => exact ⟨state, ⟨rfl, rfl⟩, unmoved rfl rfl, fill_spec ran⟩

end

/-- One call of the scheduler. -/
structure Call where
  before : SchedulingState
  context : SchedulingContext
  event : SchedulingEvent
  change : Change

def Call.Takes (digests : Digests) (first : SchedulingState) (call : Call)
    (last : SchedulingState) : Prop :=
  call.before = first ∧
    schedule digests call.before call.context call.event = .ok call.change ∧
    last = call.change.state

abbrev SchedulingRun (digests : Digests) := Run (Call.Takes digests)

def callsFrom (digests : Digests) : SchedulingState → List (SchedulingContext × SchedulingEvent) →
    Except CoreError (List Call × SchedulingState)
  | state, [] => .ok ([], state)
  | state, (context, event) :: rest => do
    let change ← schedule digests state context event
    let (later, last) ← callsFrom digests change.state rest
    return (⟨state, context, event, change⟩ :: later, last)

theorem SchedulingRun.of_calls {digests : Digests} {first last : SchedulingState}
    {inputs : List (SchedulingContext × SchedulingEvent)} {calls : List Call}
    (made : callsFrom digests first inputs = .ok (calls, last)) :
    SchedulingRun digests first calls last ∧
      calls.map (fun call => (call.context, call.event)) = inputs := by
  induction inputs generalizing first calls with
  | nil =>
    cases made
    exact ⟨.nil _, rfl⟩
  | cons input rest ih =>
    obtain ⟨change, scheduled, made⟩ := bind_ok made
    obtain ⟨⟨later, final⟩, continued, same⟩ := bind_ok made
    cases same
    obtain ⟨run, inputs⟩ := ih continued
    exact ⟨.cons ⟨rfl, scheduled, rfl⟩ run, by rw [map_cons, inputs]⟩

/-! ## A small run -/

def startDecision (name : String) (mode : WorkspaceMode) : Command :=
  .work ⟨⟨name⟩, sampleScope, .startAttempt ⟨name⟩ ⟨name⟩ ⟨mode, sampleRun.baseline, none⟩
    ⟨1, 1, 0⟩ []⟩

def startReceipt (name : String) (mode : WorkspaceMode) : DecisionReceipt where
  decisionId := ⟨name⟩
  decision := some (startDecision name mode)
  payloadDigest := ""
  feedback := .accepted { decisionId := ⟨name⟩ }

def startRequest (name : String) (pools : List PoolId) : AttemptRequest :=
  ⟨⟨name⟩, ⟨name⟩, ⟨name⟩, 0, 1, pools⟩

def startContext : SchedulingContext where
  run := { sampleRun with
    receipts := [startReceipt "a" .exclusiveRoot, startReceipt "b" .isolatedChild,
      startReceipt "c" .isolatedChild] }
  attempts := {}
  records := { recovery := { phase := .ready } }
  sessions := {}
  settlement := {}
  evaluation := {}

def startInputs : List (SchedulingContext × SchedulingEvent) :=
  [(startContext, .attemptRequested (startRequest "a" [])),
    (startContext, .attemptRequested (startRequest "b" [⟨"gpu"⟩])),
    (startContext, .attemptRequested (startRequest "c" [⟨"cpu"⟩]))]

def started : SchedulingState :=
  ((callsFrom sampleDigests {} startInputs).toOption.map Prod.snd).getD {}

theorem startInputs_run : ∃ calls, SchedulingRun sampleDigests {} calls started ∧
    calls.map (fun call => (call.context, call.event)) = startInputs := by
  have made : (callsFrom sampleDigests {} startInputs).isOk := by decide +kernel
  unfold started
  cases ran : callsFrom sampleDigests {} startInputs with
  | error error =>
    rw [ran] at made
    cases made
  | ok result => exact ⟨result.1, SchedulingRun.of_calls ran⟩

end VibeServeCore.Scheduling
