/- source: scheduling.py, _projection.py
   digest: Slots stay within capacity, leave the queue in order, and are charged once. -/

import Mathlib.Algebra.Order.BigOperators.Group.List
import VibeServeCore.Foundation.Fifo
import VibeServeCore.Scheduling.Calls

namespace VibeServeCore.Scheduling

open Types Proofs List Foundation.Process
open Adoption (fencesRootMutation)
open Records (sampleDigests)
open Foundation.Fifo (Move Account)

/-- All contexts give a target the same mode. -/
def StableModes (contexts : SchedulingContext → Prop) : Prop :=
  ∀ first second, contexts first → contexts second → ∀ target admissionId one two,
    mode first target admissionId = .ok one → mode second target admissionId = .ok two →
    one = two

def OwnsRoot (contexts : SchedulingContext → Prop) (slot : Slot) : Prop :=
  ∃ context, contexts context ∧ mode context slot.attempt slot.admissionId = .ok .exclusiveRoot

/-- Slots are bounded and share nothing. -/
structure Occupancy (contexts : SchedulingContext → Prop) (bound : Nat) (slots : List Slot) :
    Prop where
  owners : (slots.map fun slot => slot.attempt.attemptId).Nodup
  bounded : slots.length ≤ bound
  pools : slots.Pairwise fun first second => first.pools.Disjoint second.pools
  root : slots.Pairwise fun first second =>
    ¬ (OwnsRoot contexts first ∧ OwnsRoot contexts second)

structure Passes (digests : Digests) (context : SchedulingContext) (slots : List Slot)
    (request : AdmissionRequest) : Prop where
  owner : ∀ slot ∈ slots, slot.attempt.attemptId ≠ request.target.attemptId
  room : slots.length < context.run.limits.maxParallel
  pools : ∀ slot ∈ slots, slot.pools.Disjoint request.pools
  planned : ∃ wanted, mode context request.target request.decisionId = .ok wanted
  fence : mode context request.target request.decisionId = .ok .exclusiveRoot →
    fencesRootMutation digests context.settlement context.records = false
  root : mode context request.target request.decisionId = .ok .exclusiveRoot →
    ∀ slot ∈ slots, ∃ held, mode context slot.attempt slot.admissionId = .ok held ∧
      held ≠ .exclusiveRoot

variable {context : SchedulingContext} {slots : List Slot} {digests : Digests}
    {request : AdmissionRequest} {requests : List AdmissionRequest} {call : Call}
    {first last : SchedulingState}

private theorem rootHeld_eq_false (free : rootHeld context slots = .ok false) :
    ∀ slot ∈ slots, ∃ held, mode context slot.attempt slot.admissionId = .ok held ∧
      held ≠ .exclusiveRoot := by
  induction slots with
  | nil => simp
  | cons first rest ih =>
    obtain ⟨held, read, continued⟩ := bind_ok free
    by_cases owns : held = .exclusiveRoot
    · rw [if_pos owns] at continued
      cases continued
    rw [if_neg owns] at continued
    intro slot mem
    rcases mem_cons.mp mem with rfl | mem
    · exact ⟨held, read, owns⟩
    · exact ih continued slot mem

theorem fits_passes (fit : fits digests { slots := slots } context request = .ok true) :
    Passes digests context slots request := by
  unfold fits at fit
  simp only at fit
  split at fit
  · cases fit
  rename_i free
  split at fit
  · cases fit
  rename_i room
  split at fit
  · cases fit
  rename_i apart
  obtain ⟨wanted, read, rest⟩ := bind_ok fit
  simp only [any_eq_true, decide_eq_true_eq, not_exists, not_and] at free
  simp only [any_eq_true, contains_iff_mem, not_exists, not_and] at apart
  have rooted : mode context request.target request.decisionId = .ok .exclusiveRoot →
      fencesRootMutation digests context.settlement context.records = false ∧
        rootHeld context slots = .ok false := by
    intro root
    rw [read] at root
    cases root
    rw [if_neg (by simp)] at rest
    split at rest
    · cases rest
    rename_i unfenced
    obtain ⟨held, read, same⟩ := bind_ok rest
    refine ⟨by simpa using unfenced, ?_⟩
    rw [read]
    cases held with
    | false => rfl
    | true => cases same
  exact {
    owner := free, room := by omega
    pools := fun slot mem pool held wants => apart slot mem pool wants held
    planned := ⟨wanted, read⟩, fence := fun root => (rooted root).1
    root := fun root => rootHeld_eq_false (rooted root).2 }

variable {contexts : SchedulingContext → Prop} {bound : Nat}

theorem pairwise_held {related : Slot → Slot → Prop} {held : List Slot}
    (kept : (held.map episode).Sublist (slots.map episode))
    (reads : ∀ first second, related (episode first) (episode second) ↔ related first second)
    (apart : slots.Pairwise related) : held.Pairwise related := by
  have episodes : (slots.map episode).Pairwise related :=
    pairwise_map.mpr (apart.imp fun {first second} => (reads first second).mpr)
  exact (pairwise_map.mp (episodes.sublist kept)).imp
    fun {first second} => (reads first second).mp

def DistinctOwners (slots : List Slot) : Prop :=
  (slots.map fun slot => slot.attempt.attemptId).Nodup

theorem DistinctOwners.held {held : List Slot}
    (kept : (held.map episode).Sublist (slots.map episode)) (owners : DistinctOwners slots) :
    DistinctOwners held := by
  have distinct := (kept.map fun slot => slot.attempt.attemptId).nodup
    (by rw [map_map]; exact owners)
  rw [map_map] at distinct
  exact distinct

theorem DistinctOwners.seat (owners : DistinctOwners slots)
    (passes : Passes digests context slots request) :
    DistinctOwners (slots ++ [slotOf context request]) := by
  unfold DistinctOwners
  rw [map_append, nodup_append]
  refine ⟨owners, by simp, ?_⟩
  rintro identity mem _ (_ | ⟨_, ⟨⟩⟩)
  obtain ⟨slot, held, rfl⟩ := mem_map.mp mem
  exact passes.owner slot held

theorem Occupancy.held {held : List Slot} (kept : (held.map episode).Sublist (slots.map episode))
    (occupancy : Occupancy contexts bound slots) : Occupancy contexts bound held where
  owners := DistinctOwners.held kept occupancy.owners
  bounded := by
    have fewer := kept.length_le
    rw [length_map, length_map] at fewer
    exact fewer.trans occupancy.bounded
  pools := pairwise_held kept (fun _ _ => Iff.rfl) occupancy.pools
  root := pairwise_held kept (fun _ _ => Iff.rfl) occupancy.root

theorem Occupancy.seat (stable : StableModes contexts) (current : contexts context)
    (limit : context.run.limits.maxParallel = bound)
    (passes : Passes digests context slots request) (occupancy : Occupancy contexts bound slots) :
    Occupancy contexts bound (slots ++ [slotOf context request]) where
  owners := DistinctOwners.seat occupancy.owners passes
  bounded := by
    have room := passes.room
    rw [length_append, length_singleton]
    omega
  pools := by
    refine pairwise_append.mpr ⟨occupancy.pools, pairwise_singleton _ _, ?_⟩
    rintro slot mem _ (_ | ⟨_, ⟨⟩⟩)
    exact passes.pools slot mem
  root := by
    refine pairwise_append.mpr ⟨occupancy.root, pairwise_singleton _ _, ?_⟩
    rintro slot mem _ (_ | ⟨_, ⟨⟩⟩) ⟨⟨early, inEarly, slotRoot⟩, ⟨late, inLate, newRoot⟩⟩
    -- Both reads agree with the reads the gate made in this very call.
    obtain ⟨wanted, read⟩ := passes.planned
    have same := stable late context inLate current _ _ _ _ newRoot read
    subst same
    obtain ⟨held, heldRead, notRoot⟩ := passes.root read slot mem
    exact notRoot (stable early context inEarly current _ _ _ _ slotRoot heldRead).symm

theorem Occupancy.seated (stable : StableModes contexts) (current : contexts context)
    (limit : context.run.limits.maxParallel = bound)
    (seated : Seated digests context slots requests) (occupancy : Occupancy contexts bound slots) :
    Occupancy contexts bound (slots ++ requests.map (slotOf context)) := by
  induction seated with
  | nil slots => simpa using occupancy
  | cons fit _ ih =>
    have next := ih (occupancy.seat stable current limit (fits_passes fit))
    simpa using next

theorem DistinctOwners.seated (owners : DistinctOwners slots)
    (seated : Seated digests context slots requests) :
    DistinctOwners (slots ++ requests.map (slotOf context)) := by
  induction seated with
  | nil slots => simpa using owners
  | cons fit _ ih =>
    have next := ih (owners.seat (fits_passes fit))
    simpa using next

theorem Seated.unfenced (seated : Seated digests context slots requests) :
    ∀ request ∈ requests, mode context request.target request.decisionId = .ok .exclusiveRoot →
      fencesRootMutation digests context.settlement context.records = false := by
  induction seated with
  | nil slots => simp
  | cons fit _ ih =>
    intro request mem
    rcases mem_cons.mp mem with rfl | mem
    · exact (fits_passes fit).fence
    · exact ih request mem

private theorem call_occupancy (stable : StableModes contexts) (current : contexts call.context)
    (limit : call.context.run.limits.maxParallel = bound) (taken : call.Takes digests first last)
    (occupancy : Occupancy contexts bound first.slots) : Occupancy contexts bound last.slots := by
  obtain ⟨rfl, ran, rfl⟩ := taken
  obtain ⟨kept, keeps, _, fills⟩ := schedule_spec ran
  rw [fills.slots]
  exact (occupancy.held keeps.episodes).seated stable current limit fills.seated

/-- A call adds one slot per admission it signals, none on the root while it is fenced. -/
def AddsUnfenced (digests : Digests) (call : Call) : Prop :=
  ∃ held, (held.map episode).Sublist (call.before.slots.map episode) ∧
    call.change.state.slots =
      held ++ (admissions call.change.signals).map (slotOf call.context) ∧
    ∀ slot ∈ (admissions call.change.signals).map (slotOf call.context),
      mode call.context slot.attempt slot.admissionId = .ok .exclusiveRoot →
        fencesRootMutation digests call.context.settlement call.context.records = false

private theorem call_adds_unfenced (taken : call.Takes digests first last) :
    AddsUnfenced digests call := by
  obtain ⟨kept, keeps, _, fills⟩ := schedule_spec taken.2.1
  refine ⟨kept.slots, keeps.episodes, fills.slots, fun slot mem => ?_⟩
  obtain ⟨request, admitted, rfl⟩ := mem_map.mp mem
  exact fills.seated.unfenced request admitted

/-- Slots stay within capacity, of distinct attempts, disjoint in pools, at most one on the root,
and none of those added under a fence. -/
theorem occupancy_holds_on_every_run {digests : Digests} {contexts : SchedulingContext → Prop}
    {bound : Nat} {calls : List Call} {state : SchedulingState}
    (limits : ∀ context, contexts context → context.run.limits.maxParallel = bound)
    (stable : StableModes contexts) (within : ∀ call ∈ calls, contexts call.context)
    (run : SchedulingRun digests {} calls state) :
    Occupancy contexts bound state.slots ∧ ∀ call ∈ calls, AddsUnfenced digests call := by
  have empty : Occupancy contexts bound ([] : List Slot) :=
    ⟨nodup_nil, Nat.zero_le _, .nil, .nil⟩
  have history := Run.history
    (fun taken reached => (∀ call ∈ taken, contexts call.context) →
      Occupancy contexts bound reached.slots ∧ ∀ call ∈ taken, AddsUnfenced digests call)
    (fun {taken first call last} held step inside => by
      obtain ⟨occupancy, unfenced⟩ := held fun earlier member =>
        inside earlier (mem_append_left _ member)
      have current := inside call (mem_append_right _ (mem_singleton_self call))
      refine ⟨call_occupancy stable current (limits _ current) step occupancy, ?_⟩
      intro earlier member
      rcases mem_append.mp member with member | member
      · exact unfenced earlier member
      · rw [mem_singleton.mp member]
        exact call_adds_unfenced step)
    run (fun _ => ⟨empty, by simp⟩)
  exact history within

/-- Two slots are occupied, one of them on the root, and the run respects its bounds. -/
theorem two_starts_respect_capacity :
    started.slots.map (fun slot => slot.attempt.attemptId) = [⟨"a"⟩, ⟨"b"⟩] ∧
      Occupancy (· = startContext) 2 started.slots := by
  obtain ⟨calls, run, inputs⟩ := startInputs_run
  refine ⟨by decide +kernel, ?_⟩
  have within : ∀ call ∈ calls, call.context = startContext := by
    intro call member
    have listed : (call.context, call.event) ∈ startInputs := by
      rw [← inputs]
      exact mem_map_of_mem member
    simp only [startInputs, mem_cons, Prod.mk.injEq, not_mem_nil, or_false] at listed
    rcases listed with ⟨same, _⟩ | ⟨same, _⟩ | ⟨same, _⟩ <;> exact same
  have limits : ∀ context, context = startContext → context.run.limits.maxParallel = 2 := by
    rintro _ rfl
    rfl
  have stable : StableModes (· = startContext) := by
    rintro _ _ rfl rfl target admissionId one two first second
    exact Except.ok.inj (first.symm.trans second)
  exact (occupancy_holds_on_every_run limits stable within run).1

def Call.move (digests : Digests) (call : Call) : Move AdmissionRequest where
  retired := retires call.event
  arrived := arrivals digests call.context call.before call.event
  admitted := admissions call.change.signals

theorem Call.move_takes (taken : call.Takes digests first last) :
    (call.move digests).Takes first.queue last.queue := by
  obtain ⟨rfl, ran, rfl⟩ := taken
  obtain ⟨_, _, queue, fills⟩ := schedule_spec ran
  exact queue.symm.trans fills.queue

def Call.SeatsAdmitted (call : Call) : Prop :=
  ∃ held, (held.map episode).Sublist (call.before.slots.map episode) ∧
    call.change.state.slots = held ++ (admissions call.change.signals).map (slotOf call.context)

theorem Call.seats_admitted (taken : call.Takes digests first last) : call.SeatsAdmitted := by
  obtain ⟨kept, keeps, _, fills⟩ := schedule_spec taken.2.1
  exact ⟨kept.slots, keeps.episodes, fills.slots⟩

private theorem retires_iff {event : SchedulingEvent} {request : AdmissionRequest} :
    retires event request ↔
      event = .queueEntryRetired request.target request.decisionId := by
  cases event with
  | queueEntryRetired attempt admissionId =>
    simp only [retires, retiredEntry, Bool.and_eq_true, decide_eq_true_eq,
      SchedulingEvent.queueEntryRetired.injEq]
    constructor <;> rintro ⟨rfl, rfl⟩ <;> exact ⟨rfl, rfl⟩
  | _ => simp [retires]

/-- Every queued request has one fate. -/
structure QueueAccount (digests : Digests) (first : SchedulingState) (calls : List Call)
    (entries : List (AdmissionRequest × Foundation.Fifo.Fate)) (last : SchedulingState) :
    Prop where
  account : Account first.queue (calls.map (Call.move digests)) entries last.queue
  /-- A retired request was named, with its decision, by the retirement of that very turn. -/
  named : ∀ entry ∈ entries, ∀ turn, entry.2 = .retired turn → ∃ call, calls[turn]? = some call ∧
    call.event = .queueEntryRetired entry.1.target entry.1.decisionId
  seated : ∀ call ∈ calls, call.SeatsAdmitted

theorem QueueAccount.extend {middle : SchedulingState} {calls : List Call}
    {entries : List (AdmissionRequest × Foundation.Fifo.Fate)}
    (account : QueueAccount digests first calls entries middle)
    (taken : call.Takes digests middle last) :
    ∃ next, QueueAccount digests first (calls ++ [call]) next last := by
  obtain ⟨next, extended⟩ := account.account.extend (Call.move_takes taken)
  refine ⟨next, ?_, ?_, ?_⟩
  · simpa using extended
  · intro entry mem turn fate
    obtain ⟨move, found, retired⟩ := extended.retired entry mem turn fate
    have mapped : ((calls ++ [call]).map (Call.move digests))[turn]? = some move := by
      simpa using found
    rw [List.getElem?_map] at mapped
    obtain ⟨made, foundCall, rfl⟩ := Option.map_eq_some_iff.mp mapped
    exact ⟨made, foundCall, retires_iff.mp retired⟩
  · intro made mem
    rcases List.mem_append.mp mem with earlier | now
    · exact account.seated made earlier
    · rw [List.mem_singleton.mp now]
      exact Call.seats_admitted taken

/-- Each queued request leaves at most once, by its admission or by a retirement that names it, and
admissions come in the order of the queue. -/
theorem admission_is_first_in_first_out {first last : SchedulingState} {calls : List Call}
    (run : SchedulingRun digests first calls last) :
    ∃ entries, QueueAccount digests first calls entries last := by
  refine Run.history (fun taken reached => ∃ entries,
    QueueAccount digests first taken entries reached) ?_ run ?_
  · rintro taken middle call next ⟨entries, account⟩ step
    exact account.extend step
  · refine ⟨_, .nil first.queue, ?_, by simp⟩
    intro entry member turn fate
    obtain ⟨request, _, rfl⟩ := List.mem_map.mp member
    cases fate

/-- Of three starts the first two are admitted in order and the third waits. -/
theorem three_starts_queue_in_order :
    ∃ calls entries, QueueAccount sampleDigests {} calls entries started ∧
      calls.map (fun call => (call.context, call.event)) = startInputs ∧
      started.queue = [.start (startRequest "c" [⟨"cpu"⟩])] := by
  obtain ⟨calls, run, inputs⟩ := startInputs_run
  obtain ⟨entries, account⟩ := admission_is_first_in_first_out run
  exact ⟨calls, entries, account, inputs, by decide +kernel⟩

structure SchedulingView where
  queue : List AdmissionRequest
  slots : List Slot
  availableTokens : Nat
  charged : Nat
  refunded : Nat
  admissionClosed : Bool
  slotSeconds : Seconds
  activeSlotSeconds : Seconds

def schedulingView (state : SchedulingState) (limits : Limits) (attempts : AttemptsState)
    (nowAt : Seconds) : SchedulingView :=
  let receipts := (attempts.attempts.flatMap (·.charges)).filter fun receipt =>
    receipt.kind = .admission
  let charged := (receipts.map (·.charged)).sum
  let refunded := (receipts.map (·.refunded)).sum
  let remaining := limits.maxAttempts + refunded - charged
  let available := min (limits.maxParallel - state.slots.length) remaining
  { queue := state.queue
    slots := state.slots
    availableTokens := if state.admissionClosed then 0 else available
    charged := charged
    refunded := refunded
    admissionClosed := state.admissionClosed
    slotSeconds := state.releasedSlotSeconds + (state.slots.filterMap fun slot =>
      slot.chargeEndedAt.map fun ended => max 0 (ended - slot.admittedAt)).sum
    activeSlotSeconds := ((state.slots.filter fun slot => slot.chargeEndedAt.isNone).map fun slot =>
      max 0 (nowAt - slot.admittedAt)).sum }

def SchedulingView.occupancySeconds (view : SchedulingView) : Seconds :=
  view.slotSeconds + view.activeSlotSeconds

/-- The time a slot was held. -/
def occupied (nowAt : Seconds) (slot : Slot) : Seconds :=
  max 0 (slot.chargeEndedAt.getD nowAt - slot.admittedAt)

private theorem occupancySeconds_eq (state : SchedulingState) (limits : Limits)
    (attempts : AttemptsState)
    (nowAt : Seconds) : (schedulingView state limits attempts nowAt).occupancySeconds =
      state.releasedSlotSeconds + (state.slots.map (occupied nowAt)).sum := by
  simp only [schedulingView, SchedulingView.occupancySeconds, add_assoc, add_right_inj]
  induction state.slots with
  | nil => simp
  | cons slot slots ih =>
    cases ended : slot.chargeEndedAt with
    | none =>
      simp only [filterMap_cons, filter_cons, ended, Option.map_none, Option.isNone_none,
        if_true, map_cons, sum_cons, ← ih, occupied, Option.getD_none]
      exact add_left_comm _ _ _
    | some first =>
      simp [ended, ← ih, occupied, add_assoc]

def releases (event : SchedulingEvent) (slot : Slot) : Bool :=
  match event with
  | .slotReleased attempt admissionId => slot.attempt = attempt && slot.admissionId = admissionId
  | _ => false

variable {slot : Slot} {event : SchedulingEvent} {now earlier later : Seconds}
  {state kept : SchedulingState} {change : Change}

private theorem releases_eq_decide {attempt : AttemptRef} {admissionId : DecisionId}
    (owners : DistinctOwners slots) (mem : slot ∈ slots)
    (named : releases (.slotReleased attempt admissionId) slot) :
    ∀ other ∈ slots, releases (.slotReleased attempt admissionId) other = decide (other = slot) := by
  intro other held
  by_cases same : other = slot
  · rw [same, named]
    simp
  rw [decide_eq_false same]
  refine Bool.eq_false_iff.mpr fun alsoNamed => same ?_
  simp only [releases, Bool.and_eq_true, decide_eq_true_eq] at named alsoNamed
  exact inj_on_of_nodup_map owners held mem
    (by rw [named.1, alsoNamed.1])

private theorem stamp_eq_self (silent : chargeEnd slot event = none) : stamp event slot = slot := by
  unfold stamp
  rw [silent, Option.or_none]

theorem Keeps.weighs (keeps : Keeps now state kept event) (owners : DistinctOwners state.slots)
    (weight : Slot → Seconds) :
    kept.releasedSlotSeconds + (kept.slots.map weight).sum =
      state.releasedSlotSeconds + (state.slots.map fun slot =>
        if releases event slot then occupied now slot else weight (stamp event slot)).sum := by
  -- Unless it releases a held episode, an event only stamps the slots.
  have stamped : (∀ slot ∈ state.slots, releases event slot = false) →
      kept.slots = state.slots.map (stamp event) →
      kept.releasedSlotSeconds = state.releasedSlotSeconds →
      kept.releasedSlotSeconds + (kept.slots.map weight).sum =
        state.releasedSlotSeconds + (state.slots.map fun slot =>
          if releases event slot then occupied now slot else weight (stamp event slot)).sum := by
    intro holds slots released
    rw [slots, released, map_map]
    congr 2
    refine map_congr_left fun slot mem => ?_
    simp [holds slot mem]
  cases event with
  | slotChargeEnded attempt admissionId endedAt =>
    exact stamped (fun _ _ => rfl) (endCharge_spec keeps.1).1 keeps.2
  | slotReleased attempt admissionId =>
    have untouched : ∀ slot, stamp (.slotReleased attempt admissionId) slot = slot :=
      fun _ => stamp_eq_self rfl
    simp only [Keeps] at keeps
    split at keeps
    · rename_i absent
      refine stamped (fun slot mem => ?_) ?_ (by rw [keeps])
      · exact Bool.eq_false_iff.mpr (find?_eq_none.mp absent slot mem)
      · rw [keeps, map_congr_left fun slot _ => untouched slot, map_id']
    · rename_i slot found
      have mem := mem_of_find?_eq_some found
      have chosen : releases (.slotReleased attempt admissionId) slot :=
        find?_some found
      have named := releases_eq_decide owners mem chosen
      have distinct : state.slots.Nodup := List.Nodup.of_map _ owners
      have split := (perm_cons_erase mem).map fun other =>
        if releases (.slotReleased attempt admissionId) other then occupied now other
        else weight (stamp (.slotReleased attempt admissionId) other)
      have others : (state.slots.erase slot).map (fun other =>
          if releases (.slotReleased attempt admissionId) other then occupied now other
          else weight (stamp (.slotReleased attempt admissionId) other)) =
          (state.slots.erase slot).map weight := by
        refine map_congr_left fun other remains => ?_
        obtain ⟨differs, held⟩ := distinct.mem_erase_iff.mp remains
        rw [named other held, decide_eq_false differs, untouched]
        rfl
      rw [split.sum_eq, map_cons, sum_cons, others, if_pos chosen,
        keeps.1, keeps.2, ← add_assoc, distinct.erase_eq_filter]
      simp only [occupied, ne_eq, decide_not]
      rfl
  | _ =>
    refine stamped (fun _ _ => rfl) ?_ keeps.2
    rw [keeps.1, map_congr_left fun slot _ => stamp_eq_self rfl, map_id']

/-- The time to the first stated end of the charge, else to the release; nothing while held. -/
def chargedTime (slot : Slot) (calls : List Call) : Seconds :=
  match calls.find? fun call => releases call.event slot with
  | none => 0
  | some release =>
    let during := calls.takeWhile fun call => !releases call.event slot
    let firstEnd := slot.chargeEndedAt.or (during.findSome? fun call => chargeEnd slot call.event)
    firstEnd.getD release.context.run.nowAt - slot.admittedAt

def releasedTime : List Call → Seconds
  | [] => 0
  | call :: later =>
    ((admissions call.change.signals).map fun request =>
      chargedTime (slotOf call.context request) later).sum + releasedTime later

private theorem chargedTime_cons (slot : Slot) (call : Call) (later : List Call) :
    chargedTime slot (call :: later) =
      if releases call.event slot then
        slot.chargeEndedAt.getD call.context.run.nowAt - slot.admittedAt
      else chargedTime (stamp call.event slot) later := by
  have released : ∀ event, releases event (stamp call.event slot) = releases event slot :=
    fun _ => rfl
  have ended : ∀ event, chargeEnd (stamp call.event slot) event = chargeEnd slot event :=
    fun _ => rfl
  unfold chargedTime
  cases now : releases call.event slot with
  | true => simp [now]
  | false =>
    simp only [find?_cons, now, takeWhile_cons, released, ended]
    cases charge : chargeEnd slot call.event <;> simp [stamp, charge]

variable {calls : List Call}

structure Intervals (slots : List Slot) (calls : List Call) : Prop where
  owners : DistinctOwners slots
  chronological : ∀ slot ∈ slots, ChronologicalCharge slot
  begun : ∀ slot ∈ slots, ∀ call ∈ calls, slot.admittedAt ≤ call.context.run.nowAt

theorem Intervals.keeps (intervals : Intervals state.slots (call :: calls))
    (keeps : Keeps now state kept event) : Intervals kept.slots calls where
  owners := intervals.owners.held keeps.episodes
  chronological := by
    cases event with
    | slotChargeEnded attempt admissionId endedAt =>
      exact (endCharge_spec keeps.1).2 intervals.chronological
    | slotReleased attempt admissionId =>
      simp only [Keeps] at keeps
      split at keeps
      · rw [keeps]
        exact intervals.chronological
      · rw [keeps.1]
        exact fun slot mem => intervals.chronological slot (mem_of_mem_filter mem)
    | _ =>
      rw [keeps.1]
      exact intervals.chronological
  begun := by
    intro slot mem later after
    obtain ⟨origin, held, same⟩ :=
      mem_map.mp (keeps.episodes.subset (mem_map_of_mem mem))
    have admitted : (episode origin).admittedAt = (episode slot).admittedAt := by rw [same]
    change origin.admittedAt = slot.admittedAt at admitted
    rw [← admitted]
    exact intervals.begun origin held later (mem_cons_of_mem _ after)

theorem Intervals.fills (intervals : Intervals state.slots calls)
    (fills : Fills digests context state change)
    (ahead : ∀ later ∈ calls, context.run.nowAt ≤ later.context.run.nowAt) :
    Intervals change.state.slots calls where
  owners := by
    rw [fills.slots]
    exact intervals.owners.seated fills.seated
  chronological := by
    rw [fills.slots]
    refine forall_mem_append.mpr ⟨intervals.chronological, fun slot mem => ?_⟩
    obtain ⟨request, _, rfl⟩ := mem_map.mp mem
    exact fun ended stated => nomatch stated
  begun := by
    rw [fills.slots]
    refine forall_mem_append.mpr ⟨intervals.begun, fun slot mem => ?_⟩
    obtain ⟨request, _, rfl⟩ := mem_map.mp mem
    exact ahead

theorem Intervals.occupied_eq (intervals : Intervals slots (call :: calls)) (mem : slot ∈ slots) :
    occupied call.context.run.nowAt slot =
      slot.chargeEndedAt.getD call.context.run.nowAt - slot.admittedAt := by
  refine max_eq_right (sub_nonneg.mpr ?_)
  cases ended : slot.chargeEndedAt with
  | none => exact intervals.begun slot mem call mem_cons_self
  | some at_ => exact intervals.chronological slot mem at_ ended

private theorem released_eq (run : SchedulingRun digests first calls last)
    (clock : calls.Pairwise fun before after => before.context.run.nowAt ≤ after.context.run.nowAt)
    (intervals : Intervals first.slots calls) :
    last.releasedSlotSeconds = first.releasedSlotSeconds +
      (first.slots.map fun slot => chargedTime slot calls).sum + releasedTime calls := by
  induction run with
  | nil state => simp [chargedTime, releasedTime]
  | @cons first second last call later taken _ ih =>
    obtain ⟨ahead, clock⟩ := pairwise_cons.mp clock
    obtain ⟨rfl, ran, rfl⟩ := taken
    obtain ⟨kept, keeps, _, fills⟩ := schedule_spec ran
    have weighed := keeps.weighs intervals.owners fun slot => chargedTime slot later
    have charges : (call.before.slots.map fun slot => chargedTime slot (call :: later)) =
        call.before.slots.map fun slot => if releases call.event slot then
          occupied call.context.run.nowAt slot else chargedTime (stamp call.event slot) later := by
      refine map_congr_left fun slot mem => ?_
      rw [chargedTime_cons, intervals.occupied_eq mem]
    rw [ih clock ((intervals.keeps keeps).fills fills ahead), charges, ← weighed, fills.released,
      fills.slots, map_append, sum_append, map_map, releasedTime]
    simp only [add_assoc]
    rfl

private theorem owners_throughout (run : SchedulingRun digests first calls last)
    (owners : DistinctOwners first.slots) : ∀ call ∈ calls, DistinctOwners call.before.slots ∧
      schedule digests call.before call.context call.event = .ok call.change := by
  induction run with
  | nil _ => simp
  | cons taken _ ih =>
    obtain ⟨rfl, ran, rfl⟩ := taken
    obtain ⟨kept, keeps, _, fills⟩ := schedule_spec ran
    refine forall_mem_cons.mpr ⟨⟨owners, ran⟩, ih ?_⟩
    rw [fills.slots]
    exact (owners.held keeps.episodes).seated fills.seated

/-- The event ends a charge before the clock. -/
def EndsBefore (clock : Seconds) (state : SchedulingState) (event : SchedulingEvent) : Prop :=
  ∃ slot ∈ state.slots, slot.chargeEndedAt = none ∧ ∃ ended ∈ chargeEnd slot event, ended < clock

private theorem occupied_le_stamp (forward : earlier ≤ later)
    (timely : slot.chargeEndedAt = none → ∀ ended ∈ chargeEnd slot event, earlier ≤ ended) :
    occupied earlier slot ≤ occupied later (stamp event slot) := by
  have finish : slot.chargeEndedAt.getD earlier ≤
      (slot.chargeEndedAt.or (chargeEnd slot event)).getD later := by
    cases charged : slot.chargeEndedAt with
    | some ended => exact le_rfl
    | none =>
      cases stated : chargeEnd slot event with
      | none => exact forward
      | some ended => exact timely charged ended stated
  exact max_le_max le_rfl (sub_le_sub_right finish _)

private theorem schedule_occupancy (ran : schedule digests state context event = .ok change)
    (owners : DistinctOwners state.slots) (before : earlier ≤ context.run.nowAt)
    (after : context.run.nowAt ≤ later) (timely : ¬ EndsBefore earlier state event) :
    state.releasedSlotSeconds + (state.slots.map (occupied earlier)).sum ≤
      change.state.releasedSlotSeconds + (change.state.slots.map (occupied later)).sum := by
  obtain ⟨kept, keeps, _, fills⟩ := schedule_spec ran
  have admitted : 0 ≤ (((admissions change.signals).map (slotOf context)).map (occupied later)).sum :=
    sum_nonneg fun time mem => by
      obtain ⟨slot, _, rfl⟩ := mem_map.mp mem
      exact le_max_left _ _
  have held : (state.slots.map (occupied earlier)).sum ≤ (state.slots.map fun slot =>
      if releases event slot then occupied context.run.nowAt slot
      else occupied later (stamp event slot)).sum := by
    refine sum_le_sum fun slot mem => ?_
    split_ifs with leaves
    · have same : stamp event slot = slot := stamp_eq_self (by cases event <;> first | rfl | cases leaves)
      have grows := occupied_le_stamp before fun uncharged ended stated =>
        not_lt.mp fun early => timely ⟨slot, mem, uncharged, ended, stated, early⟩
      rwa [same] at grows
    · exact occupied_le_stamp (before.trans after) fun uncharged ended stated =>
        not_lt.mp fun early => timely ⟨slot, mem, uncharged, ended, stated, early⟩
  calc state.releasedSlotSeconds + (state.slots.map (occupied earlier)).sum
      ≤ kept.releasedSlotSeconds + (kept.slots.map (occupied later)).sum := by
        rw [keeps.weighs owners]
        exact add_le_add_right held _
    _ ≤ change.state.releasedSlotSeconds + (change.state.slots.map (occupied later)).sum := by
        rw [fills.released, fills.slots, map_append, sum_append]
        exact add_le_add_right (le_add_of_nonneg_right admitted) _

/-- Released time is what each episode is charged once, and the charged time never falls, unless a
charge's end is stated for an earlier time. -/
theorem slot_time_is_charged_once {digests : Digests} {calls : List Call} {last : SchedulingState}
    (run : SchedulingRun digests {} calls last) (clock : calls.Pairwise fun before after =>
      before.context.run.nowAt ≤ after.context.run.nowAt) :
    last.releasedSlotSeconds = releasedTime calls ∧
      ∀ call ∈ calls, ∀ (earlier later : Seconds) (limits limits' : Limits)
        (attempts attempts' : AttemptsState), earlier ≤ call.context.run.nowAt →
        call.context.run.nowAt ≤ later → ¬ EndsBefore earlier call.before call.event →
        (schedulingView call.before limits attempts earlier).occupancySeconds ≤
          (schedulingView call.change.state limits' attempts' later).occupancySeconds := by
  have empty : DistinctOwners ({} : SchedulingState).slots := nodup_nil
  refine ⟨?_, fun call member earlier later limits limits' attempts attempts' before after timely => ?_⟩
  · have settled := released_eq run clock ⟨empty, by simp, by simp⟩
    simpa using settled
  · rw [occupancySeconds_eq, occupancySeconds_eq]
    obtain ⟨owners, ran⟩ := owners_throughout run empty call member
    exact schedule_occupancy ran owners before after timely

/-! ## A charge end stated for an earlier time -/

def backdatedInputs : List (SchedulingContext × SchedulingEvent) :=
  let attempt := (AdmissionRequest.start (startRequest "a" [])).target
  let context := fun nowAt => { startContext with run := { startContext.run with nowAt } }
  [(context 0, .attemptRequested (startRequest "a" [])),
    (context 10, .slotChargeEnded attempt ⟨"a"⟩ 5), (context 12, .slotChargeEnded attempt ⟨"a"⟩ 12),
    (context 20, .slotReleased attempt ⟨"a"⟩), (context 20, .slotReleased attempt ⟨"a"⟩)]

def backdatedCalls : List Call × SchedulingState :=
  ((callsFrom sampleDigests {} backdatedInputs).toOption).getD ([], {})

private theorem backdatedInputs_run :
    SchedulingRun sampleDigests {} backdatedCalls.1 backdatedCalls.2 ∧
      backdatedCalls.1.Pairwise fun before after =>
        before.context.run.nowAt ≤ after.context.run.nowAt := by
  have made : (callsFrom sampleDigests {} backdatedInputs).isOk := by decide +kernel
  refine ⟨?_, by decide +kernel⟩
  unfold backdatedCalls
  cases ran : callsFrom sampleDigests {} backdatedInputs with
  | error error =>
    rw [ran] at made
    cases made
  | ok result => exact (SchedulingRun.of_calls ran).1

/-- The episode is released after 20 seconds and charged 5, once. -/
theorem backdated_episode_is_charged_once :
    backdatedCalls.2.releasedSlotSeconds = 5 ∧
      backdatedCalls.2.releasedSlotSeconds = releasedTime backdatedCalls.1 :=
  ⟨by decide +kernel, (slot_time_is_charged_once backdatedInputs_run.1 backdatedInputs_run.2).1⟩

/-- The charge end for an earlier time takes 5 of the 10 seconds accounted for before it. -/
theorem backdated_end_lowers_occupancy :
    SchedulingRun sampleDigests {} backdatedCalls.1 backdatedCalls.2 ∧
      (backdatedCalls.1.Pairwise fun before after =>
        before.context.run.nowAt ≤ after.context.run.nowAt) ∧
      ∃ call ∈ backdatedCalls.1, call.context.run.nowAt = 10 ∧
        (schedulingView call.before call.context.run.limits {} 10).occupancySeconds = 10 ∧
        (schedulingView call.change.state call.context.run.limits {} 10).occupancySeconds = 5 :=
  ⟨backdatedInputs_run.1, backdatedInputs_run.2, by decide +kernel⟩

end VibeServeCore.Scheduling
