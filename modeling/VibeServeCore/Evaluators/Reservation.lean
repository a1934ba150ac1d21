/- source: resources/evaluators (the models of queue, stack and priority-queue)
   digest: How strict the reservation-aware check of a bounded structure is. -/

import Mathlib.Data.List.Perm.Subperm
import VibeServeCore.Foundation.Linearizability

namespace VibeServeCore.Evaluators.Bounded

open Foundation.Linearizability List

inductive Kind
  | enqueue | dequeue | unknown
  deriving DecidableEq

structure QueueInput where
  kind : Kind
  value : Option UInt64 := none
  priority : Option UInt64 := none

structure QueueOutput where
  enqueueOK : Option Bool := none
  dequeueNone : Bool := false
  dequeueVal : Option UInt64 := none

abbrev QueueOperation := Operation QueueInput QueueOutput

structure Discipline (Item : Type) where
  item : QueueInput → Option Item
  insert : List Item → Item → List Item
  take : List Item → UInt64 → Option (List Item)
  length_insert : ∀ held item, (insert held item).length = held.length + 1
  length_take : ∀ {held value rest}, take held value = some rest → rest.length + 1 = held.length

def fifo : Discipline UInt64 where
  item input := input.value
  insert held value := held ++ [value]
  take held value :=
    match held with
    | [] => none
    | first :: rest => if first = value then some rest else none
  length_insert held value := by simp
  length_take := by
    intro held value rest taken
    split at taken
    · cases taken
    · split_ifs at taken
      cases taken
      rfl

def stack : Discipline UInt64 where
  item input := input.value
  insert held value := held ++ [value]
  take held value :=
    match held.getLast? with
    | none => none
    | some last => if last = value then some held.dropLast else none
  length_insert held value := by simp
  length_take := by
    intro held value rest taken
    split at taken
    · cases taken
    rename_i last found
    split_ifs at taken
    cases taken
    have nonempty : held ≠ [] := fun empty => by simp [empty] at found
    rw [List.length_dropLast]
    exact Nat.sub_add_cancel (List.length_pos_of_ne_nil nonempty)

structure PriorityItem where
  value : UInt64
  priority : UInt64
  deriving DecidableEq

def PriorityItem.le (first second : PriorityItem) : Bool :=
  first.priority < second.priority ||
    (first.priority = second.priority && first.value ≤ second.value)

def priorityQueue : Discipline PriorityItem where
  item input :=
    match input.value, input.priority with
    | some value, some priority => some ⟨value, priority⟩
    | _, _ => none
  insert held item := (held ++ [item]).insertionSort (PriorityItem.le · ·)
  take held value :=
    match held.head? with
    | none => none
    | some first =>
      (held.findIdx? fun item => item.priority = first.priority && item.value = value).map
        held.eraseIdx
  length_insert held item := by simp
  length_take := by
    intro held value rest taken
    split at taken
    · cases taken
    · obtain ⟨index, found, rfl⟩ := Option.map_eq_some_iff.mp taken
      have inside := (List.findIdx?_eq_some_iff_getElem.mp found).1
      rw [List.length_eraseIdx_of_lt inside]
      omega

section
variable {Item : Type} (discipline : Discipline Item) (capacity : Nat)

def exactStep (held : List Item) (input : QueueInput) (out : QueueOutput) : Option (List Item) :=
  match input.kind with
  | .enqueue =>
    match discipline.item input, out.enqueueOK with
    | some item, some ok =>
      let expected : Bool := held.length < capacity
      if ok ≠ expected then none
      else if !expected then some held
      else some (discipline.insert held item)
    | _, _ => none
  | .dequeue =>
    if held.isEmpty then
      if out.dequeueNone && out.dequeueVal.isNone then some held else none
    else if out.dequeueNone then none
    else out.dequeueVal.bind (discipline.take held)
  | .unknown => none

def exactModel : Model (List Item) QueueInput QueueOutput where
  init := []
  step := exactStep discipline capacity

inductive Event (Item : Type)
  | reserve (reservationId : Nat) (item : Item)
  | publish (reservationId : Nat) (item : Item)
  | full
  | dequeue (value : UInt64)
  | empty
  deriving DecidableEq

abbrev EventOperation (Item : Type) := Operation (Event Item) Unit

structure ReservationState (Item : Type) where
  reserved : List (Nat × Item) := []
  published : List Item := []

def reservationStep [DecidableEq Item] (current : ReservationState Item) (event : Event Item)
    (_ : Unit) : Option (ReservationState Item) :=
  match event with
  | .reserve reservationId item =>
    if current.reserved.length + current.published.length ≥ capacity then none
    else if current.reserved.any (·.1 = reservationId) then none
    else some { current with reserved := current.reserved ++ [(reservationId, item)] }
  | .publish reservationId item =>
    match current.reserved.find? (·.1 = reservationId) with
    | none => none
    | some (_, reserved) =>
      if reserved ≠ item then none
      else some
        { reserved := current.reserved.filter (·.1 ≠ reservationId)
          published := discipline.insert current.published reserved }
  | .full =>
    if current.reserved.length + current.published.length = capacity then some current else none
  | .dequeue value =>
    (discipline.take current.published value).map fun rest => { current with published := rest }
  | .empty => if current.published.isEmpty then some current else none

def reservationModel [DecidableEq Item] : Model (ReservationState Item) (Event Item) Unit where
  init := {}
  step := reservationStep discipline capacity

inductive Answer (Item : Type)
  | enqueued (item : Item)
  | full
  | dequeued (value : UInt64)
  | empty

def answerOf (op : QueueOperation) : Option (Answer Item) :=
  match op.input.kind with
  | .enqueue =>
    match discipline.item op.input, op.output.enqueueOK with
    | some item, some ok => some (if ok then .enqueued item else .full)
    | _, _ => none
  | .dequeue =>
    match op.output.dequeueNone, op.output.dequeueVal with
    | true, none => some .empty
    | false, some value => some (.dequeued value)
    | _, _ => none
  | .unknown => none

def eventsOf (op : QueueOperation) (index : Nat) : List (EventOperation Item) :=
  match answerOf discipline op with
  | none => []
  | some (.enqueued item) =>
    [⟨index * 2, .reserve index item, op.call, (), op.ret⟩,
      ⟨index * 2 + 1, .publish index item, op.call, (), op.ret⟩]
  | some .full => [⟨index * 2, .full, op.call, (), op.ret⟩]
  | some (.dequeued value) => [⟨index * 2, .dequeue value, op.call, (), op.ret⟩]
  | some .empty => [⟨index * 2, .empty, op.call, (), op.ret⟩]

def reservationAwareOperations (history : List QueueOperation) :
    Option (List (EventOperation Item)) :=
  if history.all fun op => (answerOf discipline op).isSome then
    some (history.zipIdx.flatMap fun entry => eventsOf discipline entry.1 entry.2)
  else none

def checkReservationAware (decides : List (EventOperation Item) → Bool)
    (history : List QueueOperation) : Bool :=
  match reservationAwareOperations discipline history with
  | none => false
  | some operations => decides operations

end

def Overlaps (first second : QueueOperation) : Prop :=
  ¬first.Precedes second ∧ ¬second.Precedes first

instance (first second : QueueOperation) : Decidable (Overlaps first second) :=
  inferInstanceAs (Decidable (¬first.ret < second.call ∧ ¬second.ret < first.call))

def overlapping (history : List QueueOperation) (op : QueueOperation) : Nat :=
  history.countP fun other =>
    other.input.kind = .enqueue && other.output.enqueueOK = some true && Overlaps other op

section
variable {Item : Type} (discipline : Discipline Item) (capacity : Nat)

/-- The order obeys the structure; a full answer needs only places overlapping enqueues may hold. -/
def Obeys (history : List QueueOperation) : List Item → List QueueOperation → Prop
  | _, [] => True
  | held, op :: rest =>
    match answerOf discipline op with
    | none => False
    | some (.enqueued item) =>
      held.length < capacity ∧ Obeys history (discipline.insert held item) rest
    | some .full => capacity ≤ held.length + overlapping history op ∧ Obeys history held rest
    | some (.dequeued value) =>
      ∃ after, discipline.take held value = some after ∧ Obeys history after rest
    | some .empty => held = [] ∧ Obeys history held rest

def Answer.step (held : List Item) : Answer Item → Option (List Item)
  | .enqueued item => if held.length < capacity then some (discipline.insert held item) else none
  | .full => if held.length < capacity then none else some held
  | .dequeued value => discipline.take held value
  | .empty => if held.isEmpty then some held else none

variable {discipline}

private theorem take_nil (value : UInt64) : discipline.take [] value = none := by
  cases taken : discipline.take [] value with
  | none => rfl
  | some rest => exact absurd (discipline.length_take taken) (by simp)

private theorem exactStep_eq (held : List Item) (op : QueueOperation) :
    exactStep discipline capacity held op.input op.output =
      (answerOf discipline op).bind (Answer.step discipline capacity held) := by
  unfold exactStep answerOf
  cases op.input.kind with
  | enqueue =>
    cases discipline.item op.input with
    | none => rfl
    | some item =>
      cases op.output.enqueueOK with
      | none => rfl
      | some ok => cases ok <;> by_cases room : held.length < capacity <;> simp [Answer.step, room]
  | dequeue =>
    cases held with
    | nil =>
      cases op.output.dequeueNone <;> cases op.output.dequeueVal <;> simp [Answer.step, take_nil]
    | cons first rest =>
      cases op.output.dequeueNone <;> cases op.output.dequeueVal <;> simp [Answer.step]
  | unknown => rfl

variable {capacity} {history : List QueueOperation}

def Event.answer : Event Item → Answer Item
  | .reserve _ item | .publish _ item => .enqueued item
  | .full => .full
  | .dequeue value => .dequeued value
  | .empty => .empty

/-- The event is one of the operation at the index. -/
structure Event.Tells (discipline : Discipline Item) (op : QueueOperation) (index : Nat)
    (event : EventOperation Item) : Prop where
  call : event.call = op.call
  ret : event.ret = op.ret
  place : event.clientId / 2 = index
  answer : answerOf discipline op = some event.input.answer
  reserve : ∀ id item, event.input = .reserve id item →
    id = index ∧ event.clientId = index * 2

variable {op : QueueOperation} {index : Nat} {event : EventOperation Item}

private theorem tells_of_mem_eventsOf (mem : event ∈ eventsOf discipline op index) :
    Event.Tells discipline op index event := by
  unfold eventsOf at mem
  split at mem
  · cases mem
  · rename_i item answered
    rcases mem_pair.mp mem with rfl | rfl
    · exact ⟨rfl, rfl, by simp, answered, by simp +contextual⟩
    · exact ⟨rfl, rfl, by simp; omega, answered, by simp⟩
  all_goals
    rename_i answered
    cases mem_singleton.mp mem
    exact ⟨rfl, rfl, by simp, answered, by simp⟩

variable {held published : List Item} {order : List QueueOperation} {op : QueueOperation}
    {item : Item}

private theorem answered_of_legal
    (legal : ((exactModel discipline capacity).run held order).isSome) :
    ∀ op ∈ order, (answerOf discipline op).isSome := by
  induction order generalizing held with
  | nil => exact fun op mem => absurd mem not_mem_nil
  | cons first rest ih =>
    rw [Model.run] at legal
    cases stepped : exactStep discipline capacity held first.input first.output with
    | none => simp [exactModel, stepped] at legal
    | some next =>
      rintro op mem
      rcases mem_cons.mp mem with rfl | mem
      · rw [exactStep_eq] at stepped
        obtain ⟨answer, answered, -⟩ := Option.bind_eq_some_iff.mp stepped
        exact Option.isSome_of_eq_some answered
      · exact ih (by simpa [exactModel, stepped] using legal) op mem

section
variable [DecidableEq Item]

/-- With no reservation open, the events of an operation do what the operation does exactly. -/
theorem run_eventsOf {next : List Item} (index : Nat) (within : held.length ≤ capacity)
    (stepped : exactStep discipline capacity held op.input op.output = some next) :
    next.length ≤ capacity ∧ ∀ rest,
      (reservationModel discipline capacity).run ⟨[], held⟩ (eventsOf discipline op index ++ rest) =
        (reservationModel discipline capacity).run ⟨[], next⟩ rest := by
  rw [exactStep_eq] at stepped
  obtain ⟨answer, answered, stepped⟩ := Option.bind_eq_some_iff.mp stepped
  cases answer with
  | enqueued item =>
    simp only [Answer.step, Option.ite_none_right_eq_some, Option.some.injEq] at stepped
    obtain ⟨room, rfl⟩ := stepped
    refine ⟨by rw [discipline.length_insert]; omega, fun rest => ?_⟩
    simp [eventsOf, answered, Model.run, reservationModel, reservationStep, not_le.mpr room]
  | full =>
    simp only [Answer.step, Option.ite_none_left_eq_some, Option.some.injEq] at stepped
    obtain ⟨filled, rfl⟩ := stepped
    refine ⟨within, fun rest => ?_⟩
    have exactly : held.length = capacity := by omega
    simp [eventsOf, answered, Model.run, reservationModel, reservationStep, exactly]
  | dequeued value =>
    refine ⟨by have := discipline.length_take stepped; omega, fun rest => ?_⟩
    have taken : discipline.take held value = some next := stepped
    simp [eventsOf, answered, Model.run, reservationModel, reservationStep, taken]
  | empty =>
    simp only [Answer.step, Option.ite_none_right_eq_some, Option.some.injEq] at stepped
    obtain ⟨none, rfl⟩ := stepped
    refine ⟨within, fun rest => ?_⟩
    simp [eventsOf, answered, Model.run, reservationModel, reservationStep, none]

private theorem reservations_follow_exact (within : held.length ≤ capacity)
    (order : List (QueueOperation × Nat))
    (legal : ((exactModel discipline capacity).run held (order.map Prod.fst)).isSome) :
    ((reservationModel discipline capacity).run ⟨[], held⟩
      (order.flatMap fun entry => eventsOf discipline entry.1 entry.2)).isSome := by
  induction order generalizing held with
  | nil => rfl
  | cons entry rest ih =>
    rw [map_cons, Model.run] at legal
    cases stepped : exactStep discipline capacity held entry.1.input entry.1.output with
    | none => simp [exactModel, stepped] at legal
    | some next =>
      obtain ⟨fits, follows⟩ := run_eventsOf entry.2 within stepped
      rw [flatMap_cons, follows]
      exact ih fits (by simpa [exactModel, stepped] using legal)

private theorem exists_numbered (same : order.Perm history) :
    ∃ numbered : List (QueueOperation × Nat),
      numbered.Perm history.zipIdx ∧ numbered.map Prod.fst = order := by
  have entries : List.Forall₂ (fun op (entry : QueueOperation × Nat) => op = entry.1)
      (history.zipIdx.map Prod.fst) history.zipIdx :=
    forall₂_map_left_iff.mpr (forall₂_same.mpr fun _ _ => rfl)
  rw [zipIdx_map_fst] at entries
  obtain ⟨numbered, listed, numbers⟩ := perm_comp_forall₂ same entries
  refine ⟨numbered, numbers, ?_⟩
  rw [← forall₂_map_right_iff, forall₂_eq_eq_eq] at listed
  exact listed.symm

private theorem linearizable_of_exact (timed : Timed history)
    (linearizable : (exactModel discipline capacity).Linearizable history) :
    ∃ events, reservationAwareOperations discipline history = some events ∧
      (reservationModel discipline capacity).Linearizable events := by
  obtain ⟨order, same, respects, legal⟩ := linearizable
  obtain ⟨numbered, numbers, rfl⟩ := exists_numbered same
  have answered := answered_of_legal legal
  have all : history.all (fun op => (answerOf discipline op).isSome) :=
    all_eq_true.mpr fun op mem => answered op (same.mem_iff.mpr mem)
  have follows := reservations_follow_exact (Nat.zero_le _) numbered legal
  refine ⟨_, if_pos all, _, numbers.flatMap_right _, ?_, follows⟩
  -- The events of one operation share its interval.
  have never : ∀ entry ∈ numbered, ¬entry.1.ret < entry.1.call := fun entry mem =>
    not_lt.mpr (timed _ (same.mem_iff.mp (mem_map_of_mem mem)))
  refine pairwise_flatMap.mpr ⟨fun entry mem => ?_, ?_⟩
  · refine pairwise_of_forall_mem_list fun first own second also => ?_
    rw [Operation.Precedes, (tells_of_mem_eventsOf own).call, (tells_of_mem_eventsOf also).ret]
    exact never entry mem
  · refine (pairwise_map.mp respects).imp fun {first second} before event own other also => ?_
    rw [Operation.Precedes, (tells_of_mem_eventsOf own).call, (tells_of_mem_eventsOf also).ret]
    exact before

end

def eventsOfHistory (discipline : Discipline Item) (history : List QueueOperation) :
    List (EventOperation Item) :=
  history.zipIdx.flatMap fun entry => eventsOf discipline entry.1 entry.2

def operationOf (history : List QueueOperation) (event : EventOperation Item) :
    Option QueueOperation :=
  match event.input with
  | .reserve _ _ => none
  | _ => history[event.clientId / 2]?

private theorem exists_source (mem : event ∈ eventsOfHistory discipline history) :
    ∃ op index, history[index]? = some op ∧ event ∈ eventsOf discipline op index := by
  obtain ⟨⟨op, index⟩, listed, own⟩ := mem_flatMap.mp mem
  exact ⟨op, index, mem_zipIdx_iff_getElem?.mp listed, own⟩

private theorem times_of_operationOf (mem : event ∈ eventsOfHistory discipline history)
    (seen : operationOf history event = some op) : event.call = op.call ∧ event.ret = op.ret := by
  obtain ⟨source, index, found, own⟩ := exists_source mem
  have tells := tells_of_mem_eventsOf own
  unfold operationOf at seen
  split at seen
  · cases seen
  · rw [tells.place, found] at seen
    cases seen
    exact ⟨tells.call, tells.ret⟩

private theorem filterMap_eventsOf (listed : history[index]? = some op)
    (answered : (answerOf discipline op).isSome) :
    (eventsOf discipline op index).filterMap (operationOf history) = [op] := by
  obtain ⟨answer, answered⟩ := Option.isSome_iff_exists.mp answered
  have half : (index * 2 + 1) / 2 = index := by omega
  cases answer <;> simp [eventsOf, answered, filterMap_cons, operationOf, listed, half]

private theorem filterMap_eventsOfHistory
    (answered : ∀ op ∈ history, (answerOf discipline op).isSome) :
    (eventsOfHistory discipline history).filterMap (operationOf history) = history := by
  have each : ∀ entry ∈ history.zipIdx,
      (eventsOf discipline entry.1 entry.2).filterMap (operationOf history) = [entry.1] := by
    intro entry mem
    have listed := mem_zipIdx_iff_getElem?.mp mem
    exact filterMap_eventsOf listed (answered _ (mem_of_getElem? listed))
  rw [eventsOfHistory, filterMap_flatMap, flatMap_congr each,
    ← map_eq_flatMap, zipIdx_map_fst]

private theorem clientIds_nodup :
    ((eventsOfHistory discipline history).map Operation.clientId).Nodup := by
  rw [eventsOfHistory, map_flatMap, nodup_flatMap]
  constructor
  · intro entry _
    cases answered : answerOf discipline entry.1 with
    | none => simp [eventsOf, answered]
    | some answer => cases answer <;> simp [eventsOf, answered]
  · -- Two numbered operations have different numbers, and so have their events' clients.
    have numbers : (history.zipIdx.map Prod.snd).Nodup := by
      rw [zipIdx_map_snd]
      exact nodup_range'
    refine (pairwise_map.mp numbers).imp fun {first second} apart client own other => apart ?_
    obtain ⟨event, mine, named⟩ := mem_map.mp own
    obtain ⟨event', also, same⟩ := mem_map.mp other
    rw [← (tells_of_mem_eventsOf mine).place, ← (tells_of_mem_eventsOf also).place, named, same]

def Made (before : List (EventOperation Item)) (index : Nat) (item : Item) : Prop :=
  ∃ event ∈ before, event.input = .reserve index item

theorem Made.append {before : List (EventOperation Item)} (made : Made before index item)
    (after : List (EventOperation Item)) : Made (before ++ after) index item := by
  obtain ⟨event, listed, asked⟩ := made
  exact ⟨event, mem_append_left _ listed, asked⟩

structure Open (capacity : Nat) (before : List (EventOperation Item))
    (state : ReservationState Item) : Prop where
  within : state.reserved.length + state.published.length ≤ capacity
  keys : (state.reserved.map Prod.fst).Nodup
  made : ∀ entry ∈ state.reserved, Made before entry.1 entry.2
  unpublished : ∀ entry ∈ state.reserved, ∀ event ∈ before, ∀ item,
    event.input ≠ .publish entry.1 item
  preceded : ∀ event ∈ before, ∀ index item, event.input = .publish index item →
    ∃ item, Made before index item

namespace Open

variable {before : List (EventOperation Item)} {state : ReservationState Item}
  {event : EventOperation Item} {index : Nat} {item : Item}

private theorem init : Open capacity [] ({} : ReservationState Item) where
  within := Nat.zero_le _
  keys := .nil
  made := by simp
  unpublished := by simp
  preceded := by simp

section
variable (known : Open capacity before state)

include known

private theorem preceded_append
    (last : ∀ index item, event.input = .publish index item → ∃ item, Made before index item) :
    ∀ later ∈ before ++ [event], ∀ index item, later.input = .publish index item →
      ∃ item, Made (before ++ [event]) index item := by
  intro later listed index item asked
  have early : ∃ item, Made before index item := by
    rcases mem_append.mp listed with listed | same
    · exact known.preceded later listed index item asked
    · exact last index item (mem_singleton.mp same ▸ asked)
  obtain ⟨item, made⟩ := early
  exact ⟨item, made.append _⟩

private theorem pass (smaller : published.length ≤ state.published.length)
    (other : ∀ index item, event.input ≠ .publish index item) :
    Open capacity (before ++ [event]) { state with published } where
  within := (Nat.add_le_add_left smaller _).trans known.within
  keys := known.keys
  made entry mem := (known.made entry mem).append _
  unpublished entry mem later listed item := by
    rcases mem_append.mp listed with listed | last
    · exact known.unpublished entry mem later listed item
    · exact mem_singleton.mp last ▸ other _ _
  preceded := known.preceded_append fun _ _ asked => absurd asked (other _ _)

private theorem reserve (asked : event.input = .reserve index item)
    (room : state.reserved.length + state.published.length < capacity)
    (absent : ∀ entry ∈ state.reserved, entry.1 ≠ index) (fresh : ∀ item, ¬Made before index item) :
    Open capacity (before ++ [event])
      { state with reserved := state.reserved ++ [(index, item)] } where
  within := by
    simp only [length_append, length_singleton]
    omega
  keys := by
    rw [map_append, nodup_append]
    refine ⟨known.keys, nodup_singleton _, fun key mem other last => ?_⟩
    obtain ⟨entry, kept, rfl⟩ := mem_map.mp mem
    rw [mem_singleton.mp last]
    exact absent entry kept
  made entry mem := by
    rcases mem_append.mp mem with mem | last
    · exact (known.made entry mem).append _
    · cases mem_singleton.mp last
      exact ⟨event, by simp, asked⟩
  unpublished entry mem later listed other published := by
    rcases mem_append.mp listed with listed | last
    · rcases mem_append.mp mem with mem | last
      · exact known.unpublished entry mem later listed other published
      · -- A published number was reserved before, and this one never was.
        cases mem_singleton.mp last
        obtain ⟨item, made⟩ := known.preceded later listed _ _ published
        exact fresh item made
    · cases mem_singleton.mp last
      rw [asked] at published
      cases published
  preceded := known.preceded_append fun _ _ published => by
    rw [asked] at published
    cases published

private theorem publish (asked : event.input = .publish index item)
    (mem : (index, item) ∈ state.reserved)
    (longer : published.length = state.published.length + 1) :
    Open capacity (before ++ [event])
      { reserved := state.reserved.filter (·.1 ≠ index), published } where
  within := by
    have removed : (state.reserved.filter (·.1 ≠ index)).length < state.reserved.length := by
      refine length_filter_lt_length_iff_exists.mpr ⟨_, mem, ?_⟩
      simp
    have := known.within
    simp only [longer]
    omega
  keys := known.keys.sublist (filter_sublist.map _)
  made entry kept := (known.made entry (mem_of_mem_filter kept)).append _
  unpublished entry kept later listed other published := by
    obtain ⟨kept, apart⟩ := mem_filter.mp kept
    rcases mem_append.mp listed with listed | last
    · exact known.unpublished entry kept later listed other published
    · cases mem_singleton.mp last
      rw [asked] at published
      cases published
      simp at apart
  preceded := known.preceded_append fun _ _ published => by
    rw [asked] at published
    cases published
    exact ⟨item, known.made _ mem⟩

end

end Open

/-! ### The order of the operations -/

private theorem length_le_countP {Entry : Type} {entries : List Entry} {test : Entry → Bool}
    {places : List Nat} (distinct : places.Nodup)
    (met : ∀ place ∈ places, ∃ entry, entries[place]? = some entry ∧ test entry) :
    places.length ≤ entries.countP test := by
  have listed : places ⊆ (entries.zipIdx.filter fun entry => test entry.1).map Prod.snd := by
    intro place mem
    obtain ⟨entry, found, passes⟩ := met place mem
    exact mem_map.mpr
      ⟨(entry, place), mem_filter.mpr ⟨mem_zipIdx_iff_getElem?.mpr found, passes⟩, rfl⟩
  calc places.length
      ≤ ((entries.zipIdx.filter fun entry => test entry.1).map Prod.snd).length :=
        (distinct.subperm listed).length_le
    _ = entries.zipIdx.countP (test ∘ Prod.fst) := by
        rw [length_map, countP_eq_length_filter]
        rfl
    _ = entries.countP test := by rw [← countP_map, zipIdx_map_fst]

section
variable {order before rest : List (EventOperation Item)} {event : EventOperation Item}
  {state : ReservationState Item}

private theorem succeeded_of_answer (answered : answerOf discipline op = some (.enqueued item)) :
    op.input.kind = .enqueue ∧ op.output.enqueueOK = some true := by
  unfold answerOf at answered
  split at answered
  · rename_i kind
    split at answered
    · rename_i ok _ told
      cases ok
      · simp at answered
      · exact ⟨kind, told⟩
    · cases answered
  · split at answered <;> simp at answered
  · cases answered

/-- At a full answer, the enqueue of every open reservation overlaps it. -/
theorem reserved_le_overlapping
    (same : (before ++ event :: rest).Perm (eventsOfHistory discipline history))
    (respects : RespectsTime (before ++ event :: rest)) (known : Open capacity before state)
    (call : event.call = op.call) (ret : event.ret = op.ret) (asked : event.input = .full) :
    state.reserved.length ≤ overlapping history op := by
  rw [← length_map (f := Prod.fst)]
  refine length_le_countP known.keys fun index mem => ?_
  obtain ⟨entry, kept, rfl⟩ := mem_map.mp mem
  obtain ⟨made, listed, reserved⟩ := known.made entry kept
  obtain ⟨other, index, found, own⟩ :=
    exists_source (same.mem_iff.mp (mem_append_left _ listed))
  have tells := tells_of_mem_eventsOf own
  obtain ⟨rfl, -⟩ := tells.reserve _ _ reserved
  have answered : answerOf discipline other = some (.enqueued entry.2) := by
    rw [tells.answer, reserved]
    rfl
  obtain ⟨kind, ok⟩ := succeeded_of_answer answered
  obtain ⟨-, later, across⟩ := pairwise_append.mp respects
  -- The publication is still to come.
  let published : EventOperation Item :=
    ⟨entry.1 * 2 + 1, .publish entry.1 entry.2, other.call, (), other.ret⟩
  have coming : published ∈ rest := by
    have listed : published ∈ before ++ event :: rest := by
      refine same.mem_iff.mpr (mem_flatMap.mpr
        ⟨(other, entry.1), mem_zipIdx_iff_getElem?.mpr found, ?_⟩)
      simp [eventsOf, answered, published]
    rcases mem_append.mp listed with early | listed
    · exact absurd rfl (known.unpublished entry kept published early entry.2)
    · rcases mem_cons.mp listed with now | listed
      · rw [← now] at asked
        cases asked
      · exact listed
  have first : ¬op.Precedes other := by
    have := across made listed event mem_cons_self
    rwa [Operation.Precedes, tells.call, ret] at this
  have second : ¬other.Precedes op := by
    have := (pairwise_cons.mp later).1 published coming
    rwa [Operation.Precedes, call] at this
  exact ⟨other, found, by simp [kind, ok, Overlaps, first, second]⟩

private theorem reserve_fresh
    (same : (before ++ event :: rest).Perm (eventsOfHistory discipline history)) {index : Nat}
    (asked : event.input = .reserve index item) : ∀ item, ¬Made before index item := by
  rintro item ⟨other, listed, reserved⟩
  have distinct := (same.map Operation.clientId).nodup_iff.mpr clientIds_nodup
  rw [map_append, nodup_append] at distinct
  refine distinct.2.2 other.clientId (mem_map_of_mem listed) event.clientId (by simp) ?_
  obtain ⟨_, _, -, own⟩ := exists_source (same.mem_iff.mp (mem_append_left _ listed))
  obtain ⟨_, _, -, also⟩ :=
    exists_source (same.mem_iff.mp (mem_append_right _ mem_cons_self))
  obtain ⟨rfl, client⟩ := (tells_of_mem_eventsOf own).reserve _ _ reserved
  obtain ⟨rfl, client'⟩ := (tells_of_mem_eventsOf also).reserve _ _ asked
  rw [client, client']

section
variable [DecidableEq Item] {next : ReservationState Item} {index : Nat} {item : Item}

private theorem reserve_eq_some
    (stepped : reservationStep discipline capacity state (.reserve index item) () = some next) :
    state.reserved.length + state.published.length < capacity ∧
      (∀ entry ∈ state.reserved, entry.1 ≠ index) ∧
      { state with reserved := state.reserved ++ [(index, item)] } = next := by
  simp only [reservationStep] at stepped
  split_ifs at stepped with crowded taken
  refine ⟨not_le.mp crowded, fun entry mem same => taken ?_, Option.some.inj stepped⟩
  exact any_eq_true.mpr ⟨entry, mem, decide_eq_true same⟩

private theorem publish_eq_some
    (stepped : reservationStep discipline capacity state (.publish index item) () = some next) :
    (index, item) ∈ state.reserved ∧
      { reserved := state.reserved.filter (·.1 ≠ index)
        published := discipline.insert state.published item } = next := by
  simp only [reservationStep] at stepped
  split at stepped
  · cases stepped
  rename_i number reserved found
  split_ifs at stepped with same
  have named : number = index := by simpa using find?_some found
  simp only [ne_eq, not_not] at same
  subst same named
  exact ⟨mem_of_find?_eq_some found, Option.some.inj stepped⟩

private theorem full_eq_some (stepped : reservationStep discipline capacity state .full () = some next) :
    state.reserved.length + state.published.length = capacity ∧ state = next := by
  simp only [reservationStep] at stepped
  split_ifs at stepped with filled
  exact ⟨filled, Option.some.inj stepped⟩

private theorem empty_eq_some (stepped : reservationStep discipline capacity state .empty () = some next) :
    state.published = [] ∧ state = next := by
  simp only [reservationStep] at stepped
  split_ifs at stepped with none
  exact ⟨List.isEmpty_iff.mp none, Option.some.inj stepped⟩

end

variable (before rest state) in
private theorem obeys_of_legal [DecidableEq Item]
    (same : (before ++ rest).Perm (eventsOfHistory discipline history))
    (respects : RespectsTime (before ++ rest)) (known : Open capacity before state)
    (legal : ((reservationModel discipline capacity).run state rest).isSome) :
    Obeys discipline capacity history state.published (rest.filterMap (operationOf history)) := by
  induction rest generalizing before state with
  | nil => trivial
  | cons event rest ih =>
    obtain ⟨op, index, found, own⟩ :=
      exists_source (same.mem_iff.mp (mem_append_right _ mem_cons_self))
    have tells := tells_of_mem_eventsOf own
    have moved : before ++ event :: rest = before ++ [event] ++ rest := by simp
    have follow : ∀ next : ReservationState Item, Open capacity (before ++ [event]) next →
        ((reservationModel discipline capacity).run next rest).isSome →
        Obeys discipline capacity history next.published (rest.filterMap (operationOf history)) :=
      fun _ known legal => ih _ _ (moved ▸ same) (moved ▸ respects) known legal
    rw [Model.run] at legal
    cases stepped : reservationStep discipline capacity state event.input () with
    | none => simp [reservationModel, stepped] at legal
    | some next =>
      rw [show (reservationModel discipline capacity).step state event.input event.output = some next
        from stepped, Option.bind_some] at legal
      have answer := tells.answer
      have seen : (∀ number item, event.input ≠ .reserve number item) →
          operationOf history event = some op := by
        intro other
        rw [operationOf, tells.place, found]
        split
        · rename_i reserved
          exact absurd reserved (other _ _)
        · rfl
      cases asked : event.input with
      | reserve number item =>
        rw [asked] at stepped
        obtain ⟨room, absent, rfl⟩ := reserve_eq_some stepped
        rw [filterMap_cons_none (by simp [operationOf, asked])]
        have opened := known.reserve asked room absent (reserve_fresh same asked)
        exact follow { state with reserved := state.reserved ++ [(number, item)] } opened legal
      | publish number item =>
        rw [asked] at stepped
        obtain ⟨mem, rfl⟩ := publish_eq_some stepped
        rw [filterMap_cons_some (seen (by simp [asked])), Obeys, answer, asked]
        have within := known.within
        have some_ := length_pos_of_mem mem
        exact ⟨by omega, follow _ (known.publish asked mem (discipline.length_insert _ _)) legal⟩
      | full =>
        rw [asked] at stepped
        obtain ⟨filled, rfl⟩ := full_eq_some stepped
        rw [filterMap_cons_some (seen (by simp [asked])), Obeys, answer, asked]
        have overlaps := reserved_le_overlapping same respects known tells.call tells.ret asked
        exact ⟨by omega, follow _ (known.pass le_rfl (by simp [asked])) legal⟩
      | dequeue value =>
        rw [asked] at stepped
        obtain ⟨after, taken, rfl⟩ := Option.map_eq_some_iff.mp stepped
        rw [filterMap_cons_some (seen (by simp [asked])), Obeys, answer, asked]
        have shorter := discipline.length_take taken
        exact ⟨after, taken, follow _ (known.pass (by omega) (by simp [asked])) legal⟩
      | empty =>
        rw [asked] at stepped
        obtain ⟨none, rfl⟩ := empty_eq_some stepped
        rw [filterMap_cons_some (seen (by simp [asked])), Obeys, answer, asked]
        exact ⟨none, follow _ (known.pass le_rfl (by simp [asked])) legal⟩

end

private theorem exact_of_obeys (obeys : Obeys discipline capacity history held order)
    (roomy : ∀ op ∈ order, answerOf discipline op ≠ some .full) :
    ((exactModel discipline capacity).run held order).isSome := by
  induction order generalizing held with
  | nil => rfl
  | cons op rest ih =>
    have later : ∀ op ∈ rest, answerOf discipline op ≠ some .full :=
      fun other mem => roomy other (mem_cons_of_mem _ mem)
    rw [Obeys] at obeys
    rw [Model.run, show (exactModel discipline capacity).step = exactStep discipline capacity from rfl,
      exactStep_eq]
    cases answered : answerOf discipline op with
    | none => simp [answered] at obeys
    | some answer =>
      cases answer with
      | enqueued item =>
        simp only [answered] at obeys
        simpa [Answer.step, obeys.1] using ih obeys.2 later
      | full => exact absurd answered (roomy op mem_cons_self)
      | dequeued value =>
        simp only [answered] at obeys
        obtain ⟨after, taken, obeys⟩ := obeys
        simpa [Answer.step, taken] using ih obeys later
      | empty =>
        simp only [answered] at obeys
        obtain ⟨rfl, obeys⟩ := obeys
        simpa [Answer.step] using ih obeys later

variable (discipline capacity)

/-- It accepts the exactly linearizable, explains what it accepts, and is exact unless full. -/
structure Strict (history : List QueueOperation) (accepted : Bool) : Prop where
  complete : (exactModel discipline capacity).Linearizable history → accepted
  explained : accepted → ∃ order : List QueueOperation, order.Perm history ∧
    RespectsTime order ∧ Obeys discipline capacity history [] order
  agrees : (∀ op ∈ history, op.input.kind = .enqueue → op.output.enqueueOK ≠ some false) →
    (accepted ↔ (exactModel discipline capacity).Linearizable history)

private theorem answerOf_ne_full
    (roomy : op.input.kind = .enqueue → op.output.enqueueOK ≠ some false) :
    answerOf discipline op ≠ some .full := by
  unfold answerOf
  split
  · rename_i kind
    split
    · rename_i ok _ told
      cases ok
      · exact absurd told (roomy kind)
      · simp
    · simp
  · split <;> simp
  · simp

variable [DecidableEq Item]

private theorem checkReservationAware_strict {decides : List (EventOperation Item) → Bool}
    (exact_ : ∀ events, decides events ↔ (reservationModel discipline capacity).Linearizable events)
    (timed : Timed history) :
    Strict discipline capacity history (checkReservationAware discipline decides history) := by
  have complete : (exactModel discipline capacity).Linearizable history →
      checkReservationAware discipline decides history := by
    intro linearizable
    obtain ⟨events, listed, legal⟩ := linearizable_of_exact timed linearizable
    rw [checkReservationAware, listed]
    exact (exact_ events).mpr legal
  have explained : checkReservationAware discipline decides history →
      ∃ order : List QueueOperation, order.Perm history ∧ RespectsTime order ∧
        Obeys discipline capacity history [] order := by
    intro accepted
    unfold checkReservationAware reservationAwareOperations at accepted
    split_ifs at accepted with answered
    obtain ⟨order, same, respects, legal⟩ := (exact_ _).mp accepted
    have obeys := obeys_of_legal [] order _ same respects .init legal
    refine ⟨order.filterMap (operationOf history), ?_, ?_, obeys⟩
    · have lifted := same.filterMap (operationOf history)
      rwa [← eventsOfHistory, filterMap_eventsOfHistory (all_eq_true.mp answered)] at lifted
    refine pairwise_filterMap.mpr (List.Pairwise.imp_of_mem ?_ respects)
    intro first second early late apart op seen other also
    have mine := times_of_operationOf (same.mem_iff.mp early) seen
    have others := times_of_operationOf (same.mem_iff.mp late) also
    rwa [Operation.Precedes, ← mine.1, ← others.2]
  refine ⟨complete, explained, fun roomy => ⟨fun accepted => ?_, complete⟩⟩
  obtain ⟨order, same, respects, obeys⟩ := explained accepted
  exact ⟨order, same, respects, exact_of_obeys obeys fun op mem =>
    answerOf_ne_full discipline (roomy op (same.mem_iff.mp mem))⟩

end

/-- With a checker that decides exactly, the reservation-aware checks are strict on every recorded
history, whatever the capacity. -/
theorem reservation_checks_are_strict (capacity : Nat)
    (decidesQueue : List (EventOperation UInt64) → Bool) (queueExact : ∀ events, decidesQueue events
      ↔ (reservationModel fifo capacity).Linearizable events)
    (decidesStack : List (EventOperation UInt64) → Bool) (stackExact : ∀ events, decidesStack events
      ↔ (reservationModel stack capacity).Linearizable events)
    (decidesPriority : List (EventOperation PriorityItem) → Bool) (priorityExact : ∀ events,
      decidesPriority events ↔ (reservationModel priorityQueue capacity).Linearizable events)
    (history : List QueueOperation) (timed : Timed history) :
    Strict fifo capacity history (checkReservationAware fifo decidesQueue history) ∧
    Strict stack capacity history (checkReservationAware stack decidesStack history) ∧
    Strict priorityQueue capacity history
      (checkReservationAware priorityQueue decidesPriority history) :=
  ⟨checkReservationAware_strict fifo capacity queueExact timed,
    checkReservationAware_strict stack capacity stackExact timed,
    checkReservationAware_strict priorityQueue capacity priorityExact timed⟩

def slowEnqueue : QueueOperation := ⟨0, ⟨.enqueue, some 5, some 1⟩, 0, ⟨some true, false, none⟩, 9⟩
def crowdedEnqueue : QueueOperation :=
  ⟨1, ⟨.enqueue, some 6, some 1⟩, 1, ⟨some false, false, none⟩, 2⟩
def emptyDequeue : QueueOperation := ⟨1, ⟨.dequeue, none, none⟩, 3, ⟨none, true, none⟩, 4⟩

open Classical in
/-- No exact queue answers so; the reservation-aware check accepts and explains it. -/
theorem slow_publication_is_explained :
    ∃ order : List QueueOperation, order.Perm [slowEnqueue, crowdedEnqueue, emptyDequeue] ∧
      RespectsTime order ∧
      Obeys fifo 1 [slowEnqueue, crowdedEnqueue, emptyDequeue] [] order := by
  refine (reservation_checks_are_strict 1
    (fun events => decide ((reservationModel fifo 1).Linearizable events))
    (fun _ => decide_eq_true_iff)
    (fun events => decide ((reservationModel stack 1).Linearizable events))
    (fun _ => decide_eq_true_iff)
    (fun events => decide ((reservationModel priorityQueue 1).Linearizable events))
    (fun _ => decide_eq_true_iff) [slowEnqueue, crowdedEnqueue, emptyDequeue]
    (by simp [Timed, slowEnqueue, crowdedEnqueue, emptyDequeue])).1.explained ?_
  refine decide_eq_true (p := (reservationModel fifo 1).Linearizable _) ?_
  exact ⟨[⟨0, .reserve 0 5, 0, (), 9⟩, ⟨2, .full, 1, (), 2⟩, ⟨4, .empty, 3, (), 4⟩,
    ⟨1, .publish 0 5, 0, (), 9⟩], by decide, by simp [RespectsTime, Operation.Precedes], by decide⟩

end VibeServeCore.Evaluators.Bounded
