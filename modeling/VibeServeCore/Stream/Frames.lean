/- source: server/api/protocol.py (`split_within`, `stream_messages_within`)
   digest: Splitting a batch into bounded event frames and checkpoint fragments. -/

import VibeServeCore.Stream.Wire

namespace VibeServeCore.Stream

open Foundation.Packing List Foundation.Process
open Foundation.Json (Text)

section
variable (template : Chunk) (batch : EventBatch) (budget : Nat)

def envelopeSize (rebootstrap : Bool) (throughSequence : Nat) (activeSize : Option Nat) : Nat :=
  let envelope := { batch with events := [], rebootstrap, throughSequence }
  match activeSize with
  | none => byteSize envelope.dump
  | some size => byteSize { envelope with checkpoint := .whole [] }.dump - 2 + size

def maximumSequence : Nat :=
  max (((batch.events.map StreamEvent.sequence).max?).getD batch.throughSequence)
    batch.throughSequence

def frameGroups (batch : EventBatch) : Bool → List (List StreamEvent) → List EventBatch
  | _, [] => []
  | first, [group] =>
    [{ batch with events := group, rebootstrap := batch.rebootstrap && first }]
  | first, group :: next :: rest =>
    { batch with
      events := group
      throughSequence := ((group.getLast?).map StreamEvent.sequence).getD batch.throughSequence
      rebootstrap := batch.rebootstrap && first } ::
        frameGroups batch false (next :: rest)

def boundedEventBatches (activeSize : Option Nat) : Option (List EventBatch) :=
  let size := fun flag => envelopeSize batch flag (maximumSequence batch) activeSize
  if batch.events.isEmpty then
    if size batch.rebootstrap ≤ budget then some [batch] else none
  else
    let envelope := max (size false) (size true)
    if batch.events.any fun event => budget < envelope + byteSize event.json then none
    else some (frameGroups batch true
      (pack (fun event => byteSize event.json) (budget - envelope) batch.events))

def batchBudgetError : String :=
  s!"frame budget {budget} cannot hold an event_batch frame"

def fragmentBudgetError : String :=
  s!"frame budget {budget} cannot hold an active-execution checkpoint fragment"

def fragmentCountError : String :=
  "active-execution checkpoint exceeds the protocol fragment-count limit"

def sizingError : String :=
  "active-execution checkpoint sizing disagrees with its authoritative JSON encoding"

def encodeActiveExecutions (active : List ActiveExecution) (expectedSize : Nat) :
    Except String Text :=
  let payload := dumpExecutions active
  if maxCheckpointBytes < byteSize payload then .error checkpointSizeError
  else if byteSize payload ≠ expectedSize then .error sizingError
  else .ok payload

def pieceFits (payload : Text) (length : Nat) : Bool :=
  byteSize { template with payload := payload.take length }.dump ≤ budget

def longestPiece (payload : Text) : Nat :=
  let high := min maxChunkCharacters payload.length
  bisect (pieceFits template budget payload) high 1 high 0

def checkpointPieces (template : Chunk) (budget : Nat) : Nat → Text → Except String (List Text)
  | _, [] => .ok []
  | 0, char :: rest =>
    if longestPiece template budget (char :: rest) = 0 then .error (fragmentBudgetError budget)
    else .error fragmentCountError
  | remaining + 1, char :: rest =>
    let accepted := longestPiece template budget (char :: rest)
    if accepted = 0 then .error (fragmentBudgetError budget)
    else (checkpointPieces template budget remaining ((char :: rest).drop accepted)).map
      ((char :: rest).take accepted :: ·)

inductive StreamMessage
  | eventBatch (batch : EventBatch)
  | activeExecutionsChunk (chunk : Chunk)
  deriving DecidableEq

def StreamMessage.dump : StreamMessage → Text
  | .eventBatch batch => batch.dump
  | .activeExecutionsChunk chunk => chunk.dump

def StreamMessage.batch? : StreamMessage → Option EventBatch
  | .eventBatch batch => some batch
  | .activeExecutionsChunk _ => none

structure Generated where
  yielded : List StreamMessage
  raised : Option String := none

def raise (error : String) : Generated := ⟨[], some error⟩

def placeholderId : CheckpointId where
  text := List.replicate 64 '0'
  length := by decide
  hex := by simp

def fragmentTemplate (checkpointId : CheckpointId) : Chunk where
  checkpointId := checkpointId
  chunkIndex := maxChunks - 1
  chunkCount := maxChunks
  payload := []
  throughSequence := batch.throughSequence
  storeId := batch.storeId
  historyAfterSequence := batch.historyAfterSequence

def fragment (count : Nat) (entry : Text × Nat) : Chunk :=
  { template with chunkIndex := entry.2, chunkCount := count, payload := entry.1 }

def fragments (pieces : List Text) : List Chunk :=
  pieces.zipIdx.map (fragment template pieces.length)

def deferredMessages (sha256 : Text → CheckpointId) (batch : EventBatch) (budget : Nat)
    (active : List ActiveExecution) (checkpointSize : Nat) : Generated :=
  match boundedEventBatches { batch with checkpoint := .deferred placeholderId } budget none with
  | none => raise (batchBudgetError budget)
  | some frames =>
    if budget < byteSize (fragmentTemplate batch placeholderId).dump then
      raise (fragmentBudgetError budget)
    else
      match encodeActiveExecutions active checkpointSize with
      | .error error => raise error
      | .ok payload =>
        let checkpointId := sha256 payload
        let template := fragmentTemplate batch checkpointId
        match checkpointPieces template budget maxChunks payload with
        | .error error => raise error
        | .ok pieces =>
          { yielded :=
              (frames.map fun frame =>
                .eventBatch { frame with checkpoint := .deferred checkpointId }) ++
              (fragments template pieces).map .activeExecutionsChunk }

def streamMessagesWithin (sha256 : Text → CheckpointId) (batch : EventBatch) (budget : Nat) :
    Generated :=
  match batch.checkpoint with
  | .deferred _ =>
    match boundedEventBatches batch budget none with
    | none => raise (batchBudgetError budget)
    | some frames => { yielded := frames.map .eventBatch }
  | .whole active =>
    if budget < byteSize { batch with checkpoint := .whole [], events := [] }.dump then
      raise (batchBudgetError budget)
    else
      match activeExecutionsJsonSize active with
      | .error error => raise error
      | .ok checkpointSize =>
        match boundedEventBatches batch budget (some checkpointSize) with
        | some frames =>
          match encodeActiveExecutions active checkpointSize with
          | .error error => raise error
          | .ok _ => { yielded := frames.map .eventBatch }
        | none => deferredMessages sha256 batch budget active checkpointSize

end

private theorem byteSize_batch (batch : EventBatch) :
    byteSize batch.dump =
      byteSize { batch with events := [] }.dump +
        cost (fun event => byteSize event.json) batch.events := by
  simp only [EventBatch.dump, byteSize_object, cost, map_cons, map_nil, sum_cons,
    sum_nil, length_cons, length_nil, byteSize_field, byteSize_array, map_map,
    Function.comp_def, length_map]
  omega

private theorem byteSize_envelope_mono (batch : EventBatch) {small large : Nat}
    (below : small ≤ large) :
    byteSize { batch with throughSequence := small }.dump ≤
      byteSize { batch with throughSequence := large }.dump := by
  have digits := byteSize_decimal_mono below
  simp only [EventBatch.dump, byteSize_object, cost, map_cons, map_nil, sum_cons,
    sum_nil, length_cons, length_nil, byteSize_field]
  omega

def Sized (batch : EventBatch) (activeSize : Option Nat) : Prop :=
  ∀ size, activeSize = some size →
    ∃ active, batch.checkpoint = .whole active ∧ size = byteSize (dumpExecutions active)

variable {batch : EventBatch} {activeSize : Option Nat} {first : Bool} {frames : List EventBatch}
  {budget : Nat}

private theorem envelopeSize_eq (sized : Sized batch activeSize) (flag : Bool) (through : Nat) :
    envelopeSize batch flag through activeSize = byteSize { batch with
      events := [], rebootstrap := flag, throughSequence := through }.dump := by
  cases activeSize with
  | none => rfl
  | some size =>
    obtain ⟨active, whole, rfl⟩ := sized size rfl
    have empty : byteSize (dumpExecutions []) = 2 := rfl
    simp only [envelopeSize, EventBatch.dump, whole, Checkpoint.active, Checkpoint.checkpointId,
      nullable, byteSize_object, cost, map_cons, map_nil, sum_cons, sum_nil,
      length_cons, length_nil, byteSize_field, empty]
    omega

private theorem sequence_le_maximum {event : StreamEvent} (mem : event ∈ batch.events) :
    event.sequence ≤ maximumSequence batch := by
  have listed : event.sequence ∈ batch.events.map StreamEvent.sequence :=
    mem_map_of_mem mem
  unfold maximumSequence
  cases found : (batch.events.map StreamEvent.sequence).max? with
  | none => rw [max?_eq_none_iff.mp found] at listed; cases listed
  | some largest =>
    have bound := (max?_eq_some_iff.mp found).2 _ listed
    exact le_trans bound (le_max_left _ _)

structure SameBatch (batch frame : EventBatch) : Prop where
  checkpoint : frame.checkpoint = batch.checkpoint
  storeId : frame.storeId = batch.storeId
  historyAfterSequence : frame.historyAfterSequence = batch.historyAfterSequence

/-- What a frame keeps of its batch. -/
structure Placed (batch : EventBatch) (first last : Bool) (frame : EventBatch) : Prop where
  rebootstrap : frame.rebootstrap = (batch.rebootstrap && first)
  ends : last → frame.throughSequence = batch.throughSequence
  continues : last = false → ∃ event, frame.events.getLast? = some event ∧
    frame.throughSequence = event.sequence

inductive FramesOf (batch : EventBatch) : Bool → List EventBatch → Prop
  | last {first : Bool} {frame : EventBatch} (same : SameBatch batch frame)
      (placed : Placed batch first true frame) : FramesOf batch first [frame]
  | cons {first : Bool} {frame : EventBatch} {rest : List EventBatch}
      (same : SameBatch batch frame) (placed : Placed batch first false frame)
      (later : FramesOf batch false rest) : FramesOf batch first (frame :: rest)

theorem FramesOf.same (framed : FramesOf batch first frames) :
    ∀ frame ∈ frames, SameBatch batch frame := by
  induction framed with
  | last same placed =>
    intro frame mem
    rw [mem_singleton.mp mem]
    exact same
  | cons same placed later ih =>
    intro frame mem
    rcases mem_cons.mp mem with rfl | mem
    · exact same
    · exact ih frame mem

variable {groups : List (List StreamEvent)} {template : Chunk} {payload : Text}
    {pieces : List Text} {placeholder : CheckpointId} {active : List ActiveExecution}

private theorem frameGroups_framesOf (batch : EventBatch) (first : Bool) (some_ : groups ≠ [])
    (each : ∀ group ∈ groups, group ≠ []) :
    FramesOf batch first (frameGroups batch first groups) := by
  induction groups generalizing first with
  | nil => exact absurd rfl some_
  | cons group rest ih =>
    cases rest with
    | nil => exact .last ⟨rfl, rfl, rfl⟩ ⟨rfl, fun _ => rfl, by simp⟩
    | cons next rest =>
      refine .cons ⟨rfl, rfl, rfl⟩ ⟨rfl, by simp, fun _ => ?_⟩
        (ih false (by simp) fun group mem => each group (mem_cons_of_mem _ mem))
      have ended := getLast?_eq_some_getLast (each group mem_cons_self)
      exact ⟨_, ended, by simp [ended]⟩

private theorem frameGroups_events (batch : EventBatch) (groups : List (List StreamEvent))
    (first : Bool) :
    (frameGroups batch first groups).map EventBatch.events = groups := by
  induction groups generalizing first with
  | nil => rfl
  | cons group rest ih =>
    cases rest with
    | nil => rfl
    | cons next rest =>
      have later := ih false
      simp only [frameGroups, map_cons] at later ⊢
      rw [later]

private theorem frameGroups_bounded (batch : EventBatch) (first : Bool)
    (inside : groups.flatten ⊆ batch.events) :
    ∀ frame ∈ frameGroups batch first groups, frame.throughSequence ≤ maximumSequence batch := by
  have own : batch.throughSequence ≤ maximumSequence batch := le_max_right _ _
  induction groups generalizing first with
  | nil => simp [frameGroups]
  | cons group rest ih =>
    rw [flatten_cons, append_subset] at inside
    cases rest with
    | nil =>
      intro frame mem
      rw [frameGroups, mem_singleton] at mem
      subst mem
      exact own
    | cons next rest =>
      intro frame mem
      rw [frameGroups] at mem
      rcases mem_cons.mp mem with rfl | mem
      · cases ended : group.getLast? with
        | none => simpa [ended] using own
        | some event =>
          simpa [ended] using sequence_le_maximum (inside.1 (mem_of_getLast? ended))
      · exact ih false inside.2 frame mem

private theorem frame_fits {frame : EventBatch} (sized : Sized batch activeSize)
    (same : SameBatch batch frame) (through : frame.throughSequence ≤ maximumSequence batch)
    (room : envelopeSize batch frame.rebootstrap (maximumSequence batch) activeSize + cost (fun
      event => byteSize event.json) frame.events ≤ budget) : byteSize frame.dump ≤ budget := by
  have envelope : { frame with events := [] } = { batch with
      events := [], rebootstrap := frame.rebootstrap
      throughSequence := frame.throughSequence } := by
    obtain ⟨checkpoint, storeId, history⟩ := same
    cases frame
    simp_all
  have grown := byteSize_envelope_mono
    { batch with events := [], rebootstrap := frame.rebootstrap } through
  rw [envelopeSize_eq sized] at room
  rw [byteSize_batch, envelope]
  exact (Nat.add_le_add_right grown _).trans room

structure BoundedFrames (batch : EventBatch) (budget : Nat) (frames : List EventBatch) : Prop where
  fits : ∀ frame ∈ frames, byteSize frame.dump ≤ budget
  events : frames.flatMap EventBatch.events = batch.events
  framesOf : FramesOf batch true frames

private theorem boundedEventBatches_bounded (sized : Sized batch activeSize)
    (bounded : boundedEventBatches batch budget activeSize = some frames) :
    BoundedFrames batch budget frames := by
  unfold boundedEventBatches at bounded
  dsimp only at bounded
  split at bounded
  · rename_i empty
    split at bounded
    · rename_i fits
      cases bounded
      have none_ : batch.events = [] := List.isEmpty_iff.mp empty
      refine ⟨fun frame mem => ?_, by simp, .last ⟨rfl, rfl, rfl⟩ ⟨by simp, fun _ => rfl, by simp⟩⟩
      rw [mem_singleton.mp mem]
      rw [envelopeSize_eq sized] at fits
      have same : batch = { batch with events := [] } := by
        cases batch
        simp_all
      have through : batch.throughSequence ≤ maximumSequence batch := le_max_right _ _
      have grown := byteSize_envelope_mono { batch with events := [] } through
      rw [same]
      exact grown.trans fits
    · cases bounded
  · rename_i some_
    split at bounded
    · cases bounded
    rename_i room
    cases bounded
    set envelope := max (envelopeSize batch false (maximumSequence batch) activeSize)
      (envelopeSize batch true (maximumSequence batch) activeSize) with sizes
    have nonempty : batch.events ≠ [] := by simpa using some_
    have each : ∀ event ∈ batch.events, envelope + byteSize event.json ≤ budget := by
      intro event mem
      by_contra large
      exact room (any_eq_true.mpr ⟨event, mem, by simpa using large⟩)
    obtain ⟨start, rest, listed⟩ := exists_cons_of_ne_nil nonempty
    have enough : envelope ≤ budget := by
      have one := each start (by simp [listed])
      omega
    have packed := pack_fits nonempty (fun event mem => by
      have one := each event mem
      exact (show byteSize event.json ≤ budget - envelope by omega))
    set groups := pack (fun event : StreamEvent => byteSize event.json) (budget - envelope)
      batch.events
    have joined : groups.flatten = batch.events := pack_flatten batch.events
    have framed := frameGroups_framesOf batch true (packOnto_ne_nil _ _ _)
      fun group mem => (packed group mem).1
    refine ⟨fun frame mem => ?_, ?_, framed⟩
    · have listed : frame.events ∈ groups := by
        rw [← frameGroups_events batch groups true]
        exact mem_map_of_mem mem
      have costs := (packed _ listed).2
      have flagged : envelopeSize batch frame.rebootstrap (maximumSequence batch) activeSize ≤
          envelope := by
        rw [sizes]
        cases frame.rebootstrap
        · exact le_max_left _ _
        · exact le_max_right _ _
      refine frame_fits sized (framed.same frame mem)
        (frameGroups_bounded batch true (by rw [joined]; exact List.Subset.refl _) frame mem) ?_
      omega
    · rw [flatMap_def, frameGroups_events, joined]

private theorem checkpointPieces_eq_ok {remaining : Nat}
    (cut : checkpointPieces template budget remaining payload = .ok pieces) :
    pieces.flatten = payload ∧ pieces.length ≤ remaining ∧
      ∀ piece ∈ pieces, byteSize { template with payload := piece }.dump ≤ budget := by
  induction remaining generalizing payload pieces with
  | zero =>
    cases payload with
    | nil =>
      cases cut
      simp
    | cons char rest =>
      unfold checkpointPieces at cut
      split at cut <;> cases cut
  | succ remaining ih =>
    cases payload with
    | nil =>
      cases cut
      simp
    | cons char rest =>
      unfold checkpointPieces at cut
      dsimp only at cut
      split at cut
      · cases cut
      rename_i accepts
      obtain ⟨later, cutLater, rfl⟩ := map_ok cut
      obtain ⟨joined, few, fits⟩ := ih cutLater
      refine ⟨?_, ?_, fun piece mem => ?_⟩
      · rw [flatten_cons, joined, take_append_drop]
      · simpa using few
      · rcases mem_cons.mp mem with rfl | mem
        · exact of_decide_eq_true (bisect_accepts _ (by simp) accepts)
        · exact fits piece mem

private theorem byteSize_chunk_mono (template : Chunk) {index count : Nat} (payload : Text)
    (below : index ≤ template.chunkIndex) (few : count ≤ template.chunkCount) :
    byteSize { template with chunkIndex := index, chunkCount := count, payload }.dump ≤
      byteSize { template with payload }.dump := by
  have first := byteSize_decimal_mono below
  have second := byteSize_decimal_mono few
  simp only [Chunk.dump, byteSize_object, cost, map_cons, map_nil, sum_cons,
    sum_nil, length_cons, length_nil, byteSize_field]
  omega

private theorem fragments_fit (index : template.chunkIndex = maxChunks - 1)
    (count : template.chunkCount = maxChunks) (few : pieces.length ≤ maxChunks)
    (fits : ∀ piece ∈ pieces, byteSize { template with payload := piece }.dump ≤ budget) :
    ∀ chunk ∈ fragments template pieces, byteSize chunk.dump ≤ budget := by
  intro chunk mem
  obtain ⟨⟨piece, place⟩, listed, rfl⟩ := mem_map.mp mem
  obtain ⟨-, below, same⟩ := mem_zipIdx listed
  have inside : piece ∈ pieces := by
    rw [same]
    exact getElem_mem _
  refine (byteSize_chunk_mono template _ ?_ ?_).trans (fits piece inside)
  · rw [index]
    omega
  · rw [count]
    exact few

private theorem byteSize_deferred (frame : EventBatch) (first second : CheckpointId) :
    byteSize { frame with checkpoint := .deferred first }.dump =
      byteSize { frame with checkpoint := .deferred second }.dump := by
  have same := byteSize_checkpointId first second
  simp only [EventBatch.dump, Checkpoint.active, Checkpoint.checkpointId, nullable, byteSize_object,
    cost, map_cons, map_nil, sum_cons, sum_nil, length_cons,
    length_nil, byteSize_field]
  omega

theorem FramesOf.deferred
    (framed : FramesOf { batch with checkpoint := .deferred placeholder } first frames)
    (checkpointId : CheckpointId) :
    FramesOf { batch with checkpoint := .deferred checkpointId } first
      (frames.map fun frame => { frame with checkpoint := .deferred checkpointId }) := by
  induction framed with
  | last same placed =>
    exact .last ⟨rfl, same.storeId, same.historyAfterSequence⟩
      ⟨placed.rebootstrap, placed.ends, placed.continues⟩
  | cons same placed later ih =>
    exact .cons ⟨rfl, same.storeId, same.historyAfterSequence⟩
      ⟨placed.rebootstrap, placed.ends, placed.continues⟩ ih

theorem BoundedFrames.renamed
    (bounded : BoundedFrames { batch with checkpoint := .deferred placeholder } budget frames)
    (checkpointId : CheckpointId) :
    BoundedFrames { batch with checkpoint := .deferred checkpointId } budget
      (frames.map fun frame => { frame with checkpoint := .deferred checkpointId }) := by
  refine ⟨fun frame mem => ?_, ?_, bounded.framesOf.deferred checkpointId⟩
  · obtain ⟨old, listed, rfl⟩ := mem_map.mp mem
    have own : old.checkpoint = .deferred placeholder :=
      (bounded.framesOf.same old listed).checkpoint
    rw [byteSize_deferred old _ placeholder, ← own]
    exact bounded.fits old listed
  · rw [flatMap_map]
    exact bounded.events

/-- A batch yields event frames with its checkpoint, or deferred ones and then the fragments. -/
inductive Streams (sha256 : Text → CheckpointId) (batch : EventBatch) (budget : Nat) :
    List StreamMessage → Prop
  | ordinary {frames : List EventBatch} (bounded : BoundedFrames batch budget frames) :
    Streams sha256 batch budget (frames.map .eventBatch)
  | deferred {active : List ActiveExecution} {frames : List EventBatch} {pieces : List Text}
      (whole : batch.checkpoint = .whole active)
      (bounded : BoundedFrames
        { batch with checkpoint := .deferred (sha256 (dumpExecutions active)) } budget frames)
      (small : byteSize (dumpExecutions active) ≤ maxCheckpointBytes)
      (joined : pieces.flatten = dumpExecutions active)
      (fits : ∀ chunk ∈ fragments
        (fragmentTemplate batch (sha256 (dumpExecutions active))) pieces,
          byteSize chunk.dump ≤ budget) :
    Streams sha256 batch budget (frames.map .eventBatch ++
      (fragments (fragmentTemplate batch (sha256 (dumpExecutions active))) pieces).map
        .activeExecutionsChunk)

private theorem encodeActiveExecutions_eq_ok {size : Nat}
    (encoded : encodeActiveExecutions active size = .ok payload) :
    payload = dumpExecutions active ∧ byteSize (dumpExecutions active) ≤ maxCheckpointBytes := by
  unfold encodeActiveExecutions at encoded
  dsimp only at encoded
  split at encoded
  · cases encoded
  rename_i small
  split at encoded
  · cases encoded
  · cases encoded
    exact ⟨rfl, not_lt.mp small⟩

private theorem deferredMessages_cases (sha256 : Text → CheckpointId) (budget : Nat)
    (whole : batch.checkpoint = .whole active) (size : Nat) :
    (∃ error, deferredMessages sha256 batch budget active size = raise error) ∨
      ∃ messages, deferredMessages sha256 batch budget active size = { yielded := messages } ∧
        Streams sha256 batch budget messages := by
  unfold deferredMessages
  split
  · exact .inl ⟨_, rfl⟩
  rename_i frames framed
  split
  · exact .inl ⟨_, rfl⟩
  split
  · exact .inl ⟨_, rfl⟩
  rename_i payload encoded
  dsimp only
  split
  · exact .inl ⟨_, rfl⟩
  rename_i pieces cut
  refine .inr ⟨_, rfl, ?_⟩
  obtain ⟨rfl, small⟩ := encodeActiveExecutions_eq_ok encoded
  obtain ⟨joined, few, fits⟩ := checkpointPieces_eq_ok cut
  have bounded := boundedEventBatches_bounded (by simp [Sized]) framed
  have streams := Streams.deferred whole
    (bounded.renamed (sha256 (dumpExecutions active))) small joined
    (fragments_fit rfl rfl few fits)
  rwa [map_map] at streams

theorem streamMessagesWithin_cases (sha256 : Text → CheckpointId) (batch : EventBatch)
    (budget : Nat) :
    (∃ error, streamMessagesWithin sha256 batch budget = raise error) ∨
      ∃ messages, streamMessagesWithin sha256 batch budget = { yielded := messages } ∧
        Streams sha256 batch budget messages := by
  unfold streamMessagesWithin
  split
  · split
    · exact .inl ⟨_, rfl⟩
    · rename_i frames framed
      exact .inr ⟨_, rfl, .ordinary (boundedEventBatches_bounded (by simp [Sized]) framed)⟩
  · rename_i active whole
    split
    · exact .inl ⟨_, rfl⟩
    split
    · exact .inl ⟨_, rfl⟩
    rename_i size measured
    split
    · rename_i frames framed
      split
      · exact .inl ⟨_, rfl⟩
      · refine .inr ⟨_, rfl, .ordinary (boundedEventBatches_bounded ?_ framed)⟩
        rintro _ ⟨⟩
        exact ⟨active, whole, activeExecutionsJsonSize_eq_ok measured⟩
    · exact deferredMessages_cases sha256 budget whole size

/-! ## The order of frames -/

/-- Events in order, none past the batch's end. -/
structure Ordered (batch : EventBatch) : Prop where
  sorted : batch.events.Pairwise fun earlier later => earlier.sequence ≤ later.sequence
  within : ∀ event ∈ batch.events, event.sequence ≤ batch.throughSequence

section
variable (framed : FramesOf batch first frames)

include framed

theorem FramesOf.nonempty : frames ≠ [] := by
  cases framed <;> simp

theorem FramesOf.ends : ∀ frame ∈ frames,
      frame.throughSequence = batch.throughSequence ∨
        ∃ event ∈ frame.events, frame.throughSequence = event.sequence := by
  induction framed with
  | last same placed =>
    intro frame mem
    rw [mem_singleton.mp mem]
    exact .inl (placed.ends rfl)
  | cons same placed later ih =>
    intro frame mem
    rcases mem_cons.mp mem with rfl | mem
    · obtain ⟨event, ended, through⟩ := placed.continues rfl
      exact .inr ⟨event, mem_of_getLast? ended, through⟩
    · exact ih frame mem

theorem FramesOf.sorted (sorted : (frames.flatMap
      EventBatch.events).Pairwise fun earlier later => earlier.sequence ≤ later.sequence)
    (within : ∀ event ∈ frames.flatMap EventBatch.events, event.sequence ≤ batch.throughSequence) :
    frames.Pairwise fun earlier later => earlier.throughSequence ≤ later.throughSequence := by
  induction framed with
  | last same placed => exact pairwise_singleton _ _
  | @cons first frame rest same placed later ih =>
    rw [flatMap_cons] at sorted within
    obtain ⟨-, sortedRest, across⟩ := pairwise_append.mp sorted
    refine pairwise_cons.mpr ⟨fun next mem => ?_,
      ih sortedRest fun event inside => within event (mem_append_right _ inside)⟩
    obtain ⟨event, ended, through⟩ := placed.continues rfl
    have own := mem_of_getLast? ended
    rw [through]
    rcases later.ends next mem with whole | ⟨other, inside, reached⟩
    · rw [whole]
      exact within event (mem_append_left _ own)
    · rw [reached]
      exact across event own other (mem_flatMap.mpr ⟨next, mem, inside⟩)

theorem FramesOf.placed :
    ∀ place frame, frames[place]? = some frame →
      Placed batch (first && place = 0) (place + 1 = frames.length) frame := by
  induction framed with
  | last same placed =>
    intro place frame found
    cases place with
    | zero =>
      cases found
      simpa using placed
    | succ place => simp at found
  | @cons first head rest same placed later ih =>
    intro place frame found
    cases place with
    | zero =>
      cases found
      simpa [later.nonempty] using placed
    | succ place =>
      have rest := ih place frame found
      simpa using rest

end

end VibeServeCore.Stream
