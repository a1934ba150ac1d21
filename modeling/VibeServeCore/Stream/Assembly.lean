/- source: transport/active-execution-checkpoint.ts (`ActiveExecutionCheckpointAssembler`)
   digest: The client's assembler takes every bounded stream and publishes its checkpoint. -/

import VibeServeCore.Stream.Frames

namespace VibeServeCore.Stream

open List Foundation.Process
open Foundation.Json (Text)

inductive ServerMessage
  | subscribed
  | event
  | stream (message : StreamMessage)
  | protocolError
  deriving DecidableEq

structure StagedCheckpoint where
  checkpointId : CheckpointId
  chunkCount : Nat
  nextIndex : Nat
  byteLength : Nat
  payload : List Text
  throughSequence : Nat
  storeId : Text
  historyAfterSequence : Nat

structure DeferredCheckpoint where
  checkpointId : CheckpointId
  throughSequence : Nat
  storeId : Text
  historyAfterSequence : Nat

structure Assembler where
  deferred : Option DeferredCheckpoint := none
  staged : Option StagedCheckpoint := none

def checkpointFailure (message : String) : String :=
  "Invalid active-execution checkpoint: " ++ message

def requireDeferredContinuation (previous : DeferredCheckpoint) (message : EventBatch) :
    Except String Unit :=
  if message.rebootstrap then
    .error (checkpointFailure "rebootstrap marker repeated after the first deferred event frame")
  else if message.storeId ≠ previous.storeId ||
      message.historyAfterSequence ≠ previous.historyAfterSequence ||
      message.throughSequence < previous.throughSequence then
    .error (checkpointFailure "cursor metadata changed between deferred event frames")
  else .ok ()

def announced (checkpointId : CheckpointId) (message : EventBatch) : DeferredCheckpoint :=
  ⟨checkpointId, message.throughSequence, message.storeId, message.historyAfterSequence⟩

def observeDeferredBatch (state : Assembler) (checkpointId : CheckpointId) (message : EventBatch) :
    Except String Assembler :=
  if state.staged.isSome || state.deferred.any fun deferred =>
      checkpointId ≠ deferred.checkpointId then
    .ok { deferred := some (announced checkpointId message) }
  else do
    match state.deferred with
    | none => pure ()
    | some deferred => requireDeferredContinuation deferred message
    return { state with deferred := some (announced checkpointId message) }

def firstChunk (state : Assembler) (message : Chunk) : Except String StagedCheckpoint :=
  match state.deferred with
  | none => .error (checkpointFailure "first chunk has no preceding deferred event batch")
  | some deferred =>
    if state.staged.isSome then
      .error (checkpointFailure "first chunk repeated before the transfer completed")
    else if message.checkpointId ≠ deferred.checkpointId ||
        message.throughSequence ≠ deferred.throughSequence ||
        message.storeId ≠ deferred.storeId ||
        message.historyAfterSequence ≠ deferred.historyAfterSequence then
      .error (checkpointFailure "first chunk does not match its deferred event batch")
    else if maxCheckpointBytes < byteSize message.payload then
      .error (checkpointFailure "assembled payload exceeds 16777216 UTF-8 bytes")
    else .ok
      { checkpointId := message.checkpointId, chunkCount := message.chunkCount, nextIndex := 1
        byteLength := byteSize message.payload, payload := [message.payload]
        throughSequence := message.throughSequence, storeId := message.storeId
        historyAfterSequence := message.historyAfterSequence }

def appendChunk (state : Assembler) (message : Chunk) : Except String StagedCheckpoint :=
  match state.staged with
  | none => .error (checkpointFailure s!"chunk {message.chunkIndex} has no first chunk")
  | some staged =>
    if message.checkpointId ≠ staged.checkpointId then
      .error (checkpointFailure "checkpoint_id changed before the transfer completed")
    else if message.chunkCount ≠ staged.chunkCount then
      .error (checkpointFailure "chunk_count changed before the transfer completed")
    else if message.chunkIndex ≠ staged.nextIndex then
      .error (checkpointFailure
        s!"expected chunk {staged.nextIndex}, received {message.chunkIndex}")
    else if message.throughSequence ≠ staged.throughSequence ||
        message.storeId ≠ staged.storeId ||
        message.historyAfterSequence ≠ staged.historyAfterSequence then
      .error (checkpointFailure "cursor metadata changed before the transfer completed")
    else if maxCheckpointBytes < staged.byteLength + byteSize message.payload then
      .error (checkpointFailure "assembled payload exceeds 16777216 UTF-8 bytes")
    else .ok
      { staged with
        payload := staged.payload ++ [message.payload]
        byteLength := staged.byteLength + byteSize message.payload
        nextIndex := staged.nextIndex + 1 }

def stageChunk (state : Assembler) (message : Chunk) : Except String StagedCheckpoint :=
  if message.chunkIndex = 0 then firstChunk state message else appendChunk state message

section
variable (sha256 : Text → CheckpointId) (parse : Text → Except String (List ActiveExecution))

def completed (staged : StagedCheckpoint) : Except String EventBatch :=
  let payload := staged.payload.flatten
  if sha256 payload ≠ staged.checkpointId then
    .error (checkpointFailure "checkpoint_id does not match the assembled UTF-8 payload")
  else (parse payload).map fun active =>
    { events := [], throughSequence := staged.throughSequence, checkpoint := .whole active
      storeId := staged.storeId, historyAfterSequence := staged.historyAfterSequence
      rebootstrap := false }

def acceptChunk (state : Assembler) (message : Chunk) :
    Except String (Assembler × Option EventBatch) := do
  let staged ← stageChunk state message
  if staged.nextIndex ≠ staged.chunkCount then
    return ({ state with staged := some staged }, none)
  else
    let batch ← completed sha256 parse staged
    return ({}, some batch)

def accept (state : Assembler) : ServerMessage → Except String (Assembler × Option ServerMessage)
  | .stream (.activeExecutionsChunk chunk) =>
    (acceptChunk sha256 parse state chunk).map fun accepted =>
      (accepted.1, accepted.2.map fun batch => .stream (.eventBatch batch))
  | .stream (.eventBatch batch) =>
    match batch.checkpoint with
    | .deferred checkpointId =>
      (observeDeferredBatch state checkpointId batch).map fun next =>
        (next, some (.stream (.eventBatch batch)))
    | .whole _ => .ok ({}, some (.stream (.eventBatch batch)))
  | message =>
    if state.deferred.isSome || state.staged.isSome then
      match message with
      | .protocolError => .ok ({}, some message)
      | .subscribed =>
        .error (checkpointFailure "subscribed interrupted a deferred checkpoint transfer")
      | _ => .error (checkpointFailure "event interrupted a deferred checkpoint transfer")
    else .ok (state, some message)

/-- The assembler over all messages. -/
def feed : Assembler → List StreamMessage → Except String (Assembler × List ServerMessage)
  | state, [] => .ok (state, [])
  | state, message :: rest => do
    let (next, seen) ← accept sha256 parse state (.stream message)
    let (last, later) ← feed next rest
    return (last, seen.toList ++ later)

end

/-- The lists a client is given. -/
def publishedLists (messages : List ServerMessage) : List (List ActiveExecution) :=
  messages.filterMap fun message =>
    match message with
    | .stream (.eventBatch batch) => batch.checkpoint.active
    | _ => none

variable {sha256 : Text → CheckpointId} {parse : Text → Except String (List ActiveExecution)}
  {batch : EventBatch}

variable {state : Assembler} {active : List ActiveExecution} {frames : List EventBatch}
  {checkpointId : CheckpointId}

private theorem feed_append {first second : List StreamMessage} {middle last : Assembler}
    {seen later : List ServerMessage} (left : feed sha256 parse state first = .ok (middle, seen))
    (right : feed sha256 parse middle second = .ok (last, later)) :
    feed sha256 parse state (first ++ second) = .ok (last, seen ++ later) := by
  induction first generalizing state seen with
  | nil =>
    cases left
    exact right
  | cons message first ih =>
    obtain ⟨⟨next, own⟩, accepted, left⟩ := bind_ok left
    obtain ⟨⟨after, rest⟩, fed, left⟩ := bind_ok left
    cases left
    refine bind_eq_ok.mpr ⟨_, accepted, bind_eq_ok.mpr ⟨_, ih fed, ?_⟩⟩
    rw [append_assoc]
    rfl

private theorem feed_whole (whole : ∀ frame ∈ frames, frame.checkpoint = .whole active) :
    feed sha256 parse {} (frames.map .eventBatch) =
      .ok ({}, frames.map fun frame => .stream (.eventBatch frame)) := by
  induction frames with
  | nil => rfl
  | cons frame frames ih =>
    have rest := ih fun other mem => whole other (mem_cons_of_mem _ mem)
    have accepted : accept sha256 parse {} (.stream (.eventBatch frame)) =
        .ok ({}, some (.stream (.eventBatch frame))) := by
      simp only [accept, whole frame mem_cons_self]
    exact bind_eq_ok.mpr ⟨_, accepted, bind_eq_ok.mpr ⟨_, rest, rfl⟩⟩

variable {first : Bool} {frame : EventBatch} {template : Chunk} {budget : Nat}
    {messages : List StreamMessage}

private theorem accept_deferred (unstaged : state.staged = none)
    (own : frame.checkpoint = .deferred checkpointId) (continues : ∀ deferred, state.deferred = some
      deferred → deferred.checkpointId = checkpointId ∧ frame.rebootstrap = false ∧ frame.storeId =
      deferred.storeId ∧ frame.historyAfterSequence = deferred.historyAfterSequence ∧
      deferred.throughSequence ≤ frame.throughSequence) :
    accept sha256 parse state (.stream (.eventBatch frame)) =
      .ok ({ deferred := some (announced checkpointId frame) },
        some (.stream (.eventBatch frame))) := by
  obtain ⟨deferred, staged⟩ := state
  cases unstaged
  simp only [accept, own, observeDeferredBatch]
  cases deferred with
  | none => rfl
  | some deferred =>
    obtain ⟨same, plain, store, history, grown⟩ := continues deferred rfl
    simp [requireDeferredContinuation, plain, store, history, not_lt.mpr grown]

structure Announces (batch : EventBatch) (checkpointId : CheckpointId) (first : Bool)
    (previous : DeferredCheckpoint) (frames : List EventBatch) : Prop where
  later : first = false
  identity : previous.checkpointId = checkpointId
  storeId : previous.storeId = batch.storeId
  historyAfterSequence : previous.historyAfterSequence = batch.historyAfterSequence
  grown : ∀ frame ∈ frames, previous.throughSequence ≤ frame.throughSequence

private theorem accept_frame {last : Bool} (deferred : batch.checkpoint = .deferred checkpointId)
    (same : SameBatch batch frame) (placed : Placed batch first last frame)
    (unstaged : state.staged = none) (continues : ∀ previous, state.deferred = some previous →
      Announces batch checkpointId first previous (frame :: frames)) :
    accept sha256 parse state (.stream (.eventBatch frame)) =
      .ok ({ deferred := some (announced checkpointId frame) },
        some (.stream (.eventBatch frame))) := by
  refine accept_deferred unstaged (same.checkpoint.trans deferred) fun previous held => ?_
  have goes := continues previous held
  refine ⟨goes.identity, ?_, same.storeId.trans goes.storeId.symm,
    same.historyAfterSequence.trans goes.historyAfterSequence.symm,
    goes.grown frame mem_cons_self⟩
  rw [placed.rebootstrap, goes.later, Bool.and_false]

private theorem feed_deferred (deferred : batch.checkpoint = .deferred checkpointId)
    (framed : FramesOf batch first frames)
    (sorted : frames.Pairwise fun earlier later => earlier.throughSequence ≤ later.throughSequence)
    (unstaged : state.staged = none) (continues : ∀ previous, state.deferred = some previous →
      Announces batch checkpointId first previous frames) :
    feed sha256 parse state (frames.map .eventBatch) =
      .ok ({ deferred := some (announced checkpointId batch) },
        frames.map fun frame => .stream (.eventBatch frame)) := by
  induction framed generalizing state with
  | @last first frame same placed =>
    have accepted : accept sha256 parse state (.stream (.eventBatch frame)) = .ok _ :=
      accept_frame deferred same placed unstaged continues
    have ended : announced checkpointId frame = announced checkpointId batch := by
      simp only [announced, placed.ends rfl, same.storeId, same.historyAfterSequence]
    rw [ended] at accepted
    exact bind_eq_ok.mpr ⟨_, accepted, bind_eq_ok.mpr ⟨_, rfl, rfl⟩⟩
  | @cons first frame rest same placed later ih =>
    have accepted : accept sha256 parse state (.stream (.eventBatch frame)) = .ok _ :=
      accept_frame deferred same placed unstaged continues
    obtain ⟨after, sorted⟩ := pairwise_cons.mp sorted
    have goes : ∀ previous, some (announced checkpointId frame) = some previous →
        Announces batch checkpointId false previous rest := by
      rintro _ ⟨⟩
      exact ⟨rfl, rfl, same.storeId, same.historyAfterSequence, after⟩
    have rest : feed sha256 parse { deferred := some (announced checkpointId frame) }
        (rest.map .eventBatch) = .ok _ := ih sorted rfl goes
    exact bind_eq_ok.mpr ⟨_, accepted, bind_eq_ok.mpr ⟨_, rest, rfl⟩⟩

def stagedAfter (template : Chunk) (count : Nat) (taken : List Text) : StagedCheckpoint where
  checkpointId := template.checkpointId
  chunkCount := count
  nextIndex := taken.length
  byteLength := byteSize taken.flatten
  payload := taken
  throughSequence := template.throughSequence
  storeId := template.storeId
  historyAfterSequence := template.historyAfterSequence

def transferAfter (template : Chunk) (count : Nat) (taken : List Text) : Assembler where
  deferred := some ⟨template.checkpointId, template.throughSequence, template.storeId,
    template.historyAfterSequence⟩
  staged := if taken = [] then none else some (stagedAfter template count taken)

private theorem stage_piece (template : Chunk) (count : Nat) (taken : List Text) (piece : Text)
    (small : byteSize (taken ++ [piece]).flatten ≤ maxCheckpointBytes) :
    stageChunk (transferAfter template count taken)
      (fragment template count (piece, taken.length)) =
        .ok (stagedAfter template count (taken ++ [piece])) := by
  rw [flatten_append, flatten_singleton, byteSize_append] at small
  cases taken with
  | nil =>
    have fits : ¬maxCheckpointBytes < byteSize piece := by simpa using small
    simp [stageChunk, firstChunk, fragment, transferAfter, stagedAfter, fits]
  | cons start taken =>
    have fits : ¬maxCheckpointBytes < byteSize (start :: taken).flatten + byteSize piece :=
      not_lt.mpr small
    simp only [stageChunk, fragment, length_cons, Nat.succ_ne_zero, if_false]
    unfold appendChunk transferAfter
    simp only [cons_ne_nil, if_false, stagedAfter]
    simp only [ne_eq, not_true_eq_false, decide_false, Bool.or_self, Bool.false_eq_true, if_false,
      length_cons, fits]
    rw [flatten_append, flatten_singleton, byteSize_append]
    simp

def publication (template : Chunk) (active : List ActiveExecution) : EventBatch where
  events := []
  throughSequence := template.throughSequence
  checkpoint := .whole active
  storeId := template.storeId
  historyAfterSequence := template.historyAfterSequence

private theorem feed_fragments {count : Nat} {taken rest : List Text} (some_ : rest ≠ [])
    (whole : taken.length + rest.length = count)
    (small : byteSize (taken ++ rest).flatten ≤ maxCheckpointBytes)
    (digest : sha256 (taken ++ rest).flatten = template.checkpointId)
    (reads : parse (taken ++ rest).flatten = .ok active) :
    feed sha256 parse (transferAfter template count taken)
      ((rest.zipIdx taken.length).map fun entry =>
        .activeExecutionsChunk (fragment template count entry)) =
      .ok ({}, [.stream (.eventBatch (publication template active))]) := by
  induction rest generalizing taken with
  | nil => exact absurd rfl some_
  | cons piece rest ih =>
    have shifted : taken ++ piece :: rest = (taken ++ [piece]) ++ rest := by simp
    rw [shifted] at small digest reads
    have staged := stage_piece template count taken piece (by
      rw [flatten_append, byteSize_append] at small
      omega)
    cases rest with
    | nil =>
      rw [append_nil] at digest reads
      have done : completed sha256 parse (stagedAfter template count (taken ++ [piece])) =
          .ok (publication template active) := by
        unfold completed
        simp only [stagedAfter, digest, ne_eq, not_true_eq_false, if_false, reads]
        rfl
      have last : acceptChunk sha256 parse (transferAfter template count taken)
          (fragment template count (piece, taken.length)) =
            .ok ({}, some (publication template active)) := by
        refine bind_eq_ok.mpr ⟨_, staged, ?_⟩
        rw [if_neg (by simpa [stagedAfter] using whole)]
        exact bind_eq_ok.mpr ⟨_, done, rfl⟩
      exact bind_eq_ok.mpr ⟨_, map_eq_ok.mpr ⟨_, last, rfl⟩, bind_eq_ok.mpr ⟨_, rfl, rfl⟩⟩
    | cons next rest =>
      have accepted : acceptChunk sha256 parse (transferAfter template count taken)
          (fragment template count (piece, taken.length)) =
            .ok (transferAfter template count (taken ++ [piece]), none) := by
        refine bind_eq_ok.mpr ⟨_, staged, ?_⟩
        rw [length_cons, length_cons] at whole
        have more : (stagedAfter template count (taken ++ [piece])).nextIndex ≠
            (stagedAfter template count (taken ++ [piece])).chunkCount := by
          simp only [stagedAfter, length_append, length_singleton]
          omega
        rw [if_pos more]
        simp [transferAfter]
        rfl
      have placed : (taken ++ [piece]).length = taken.length + 1 := by simp
      have later := ih (by simp) (by simp at whole ⊢; omega) small digest reads
      rw [placed] at later
      exact bind_eq_ok.mpr ⟨_, map_eq_ok.mpr ⟨_, accepted, rfl⟩, bind_eq_ok.mpr ⟨_, later, rfl⟩⟩

private theorem feed_transfer {pieces : List Text} (some_ : pieces ≠ [])
    (small : byteSize pieces.flatten ≤ maxCheckpointBytes)
    (digest : sha256 pieces.flatten = template.checkpointId)
    (reads : parse pieces.flatten = .ok active) :
    feed sha256 parse (transferAfter template pieces.length [])
      ((fragments template pieces).map .activeExecutionsChunk) =
      .ok ({}, [.stream (.eventBatch (publication template active))]) := by
  unfold fragments
  rw [map_map]
  have empty : ([] : List Text) ++ pieces = pieces := nil_append pieces
  exact feed_fragments some_ (Nat.zero_add _) (by rwa [empty]) (by rwa [empty]) (by rwa [empty])

def StreamMessage.isFragment : StreamMessage → Bool
  | .eventBatch _ => false
  | .activeExecutionsChunk _ => true

def eventFrames (messages : List StreamMessage) : List EventBatch :=
  messages.filterMap StreamMessage.batch?

private theorem eventFrames_batches (frames : List EventBatch) :
    eventFrames (frames.map .eventBatch) = frames := by
  rw [eventFrames, filterMap_map]
  exact filterMap_some

private theorem eventFrames_fragments (frames : List EventBatch) (chunks : List Chunk) :
    eventFrames (frames.map .eventBatch ++ chunks.map .activeExecutionsChunk) = frames := by
  have none_ : (chunks.map StreamMessage.activeExecutionsChunk).filterMap StreamMessage.batch? =
      [] := by
    rw [filterMap_map]
    exact filterMap_eq_nil_iff.mpr fun _ _ => rfl
  have first := eventFrames_batches frames
  unfold eventFrames at first ⊢
  rw [filterMap_append, first, none_, append_nil]

theorem Streams.placed (streams : Streams sha256 batch budget messages) :
    (∀ message ∈ messages, byteSize message.dump ≤ budget) ∧
      (eventFrames messages).flatMap EventBatch.events = batch.events ∧
      ∀ place frame, (eventFrames messages)[place]? = some frame →
        Placed batch (place = 0) (place + 1 = (eventFrames messages).length) frame := by
  cases streams with
  | ordinary bounded =>
    rw [eventFrames_batches]
    refine ⟨fun message mem => ?_, bounded.events, fun place frame found => ?_⟩
    · obtain ⟨frame, listed, rfl⟩ := mem_map.mp mem
      exact bounded.fits frame listed
    · simpa using bounded.framesOf.placed place frame found
  | deferred whole bounded small joined fits =>
    rw [eventFrames_fragments]
    refine ⟨fun message mem => ?_, bounded.events, fun place frame found => ?_⟩
    · rcases mem_append.mp mem with mem | mem
      · obtain ⟨frame, listed, rfl⟩ := mem_map.mp mem
        exact bounded.fits frame listed
      · obtain ⟨chunk, listed, rfl⟩ := mem_map.mp mem
        exact fits chunk listed
    · obtain ⟨rebootstrap, ends, continues⟩ := bounded.framesOf.placed place frame found
      exact ⟨by simpa using rebootstrap, ends, continues⟩

private theorem publishedLists_whole (whole : ∀ frame ∈ frames, frame.checkpoint = .whole active) :
    publishedLists (frames.map fun frame => .stream (.eventBatch frame)) =
      List.replicate frames.length active := by
  induction frames with
  | nil => rfl
  | cons frame frames ih =>
    have rest := ih fun other mem => whole other (mem_cons_of_mem _ mem)
    unfold publishedLists at rest ⊢
    rw [map_cons, filterMap_cons, rest]
    simp only [whole frame mem_cons_self, Checkpoint.active]
    rfl

private theorem publishedLists_deferred
    (deferred : ∀ frame ∈ frames, frame.checkpoint = .deferred checkpointId) (template : Chunk)
    (active : List ActiveExecution) :
    publishedLists ((frames.map fun frame => .stream (.eventBatch frame)) ++
      [.stream (.eventBatch (publication template active))]) = [active] := by
  have none_ : publishedLists (frames.map fun frame => .stream (.eventBatch frame)) = [] := by
    unfold publishedLists
    rw [filterMap_map, filterMap_eq_nil_iff]
    intro frame mem
    simp only [Function.comp, deferred frame mem, Checkpoint.active]
  unfold publishedLists at none_ ⊢
  rw [filterMap_append, none_]
  rfl

/-- The stream raises nothing, and every list it publishes is the batch's own; a checkpoint in
fragments asks for ordered events and for a parser that reads it back. -/
theorem Streams.assembled (streams : Streams sha256 batch budget messages)
    (whole : batch.checkpoint = .whole active)
    (readable : messages.any StreamMessage.isFragment = true →
      Ordered batch ∧ parse (dumpExecutions active) = .ok active) :
    ∃ seen, feed sha256 parse {} messages = .ok ({}, seen) ∧
      publishedLists seen = List.replicate
        (if messages.any StreamMessage.isFragment then 1 else (eventFrames messages).length)
        active := by
  cases streams with
  | @ordinary frames bounded =>
    have own : ∀ frame ∈ frames, frame.checkpoint = .whole active := fun frame mem =>
      (bounded.framesOf.same frame mem).checkpoint.trans whole
    refine ⟨_, feed_whole own, ?_⟩
    rw [publishedLists_whole own, eventFrames_batches]
    simp [StreamMessage.isFragment, any_map, Function.comp_def]
  | @deferred found frames pieces carries bounded small joined fits =>
    have same : active = found := by
      rw [whole] at carries
      exact Checkpoint.whole.inj carries
    subst same
    have some_ : pieces ≠ [] := by
      rintro rfl
      simp [dumpExecutions, array] at joined
    have cut : (frames.map StreamMessage.eventBatch ++
        (fragments (fragmentTemplate batch (sha256 (dumpExecutions active))) pieces).map
          StreamMessage.activeExecutionsChunk).any StreamMessage.isFragment = true := by
      obtain ⟨piece, rest, rfl⟩ := exists_cons_of_ne_nil some_
      simp [fragments, StreamMessage.isFragment]
    obtain ⟨ordered, reads⟩ := readable cut
    have sorted := bounded.framesOf.sorted (by rw [bounded.events]; exact ordered.sorted)
      (by rw [bounded.events]; exact ordered.within)
    set checkpointId := sha256 (dumpExecutions active)
    have own : ∀ frame ∈ frames, frame.checkpoint = .deferred checkpointId := fun frame mem =>
      (bounded.framesOf.same frame mem).checkpoint
    have announces : feed sha256 parse {} (frames.map .eventBatch) = .ok _ :=
      feed_deferred rfl bounded.framesOf sorted rfl (by simp)
    have completes : feed sha256 parse
        (transferAfter (fragmentTemplate batch checkpointId) pieces.length []) _ = .ok _ :=
      feed_transfer some_ (by rwa [joined]) (by rw [joined]; rfl) (by rwa [joined])
    refine ⟨_, feed_append announces completes, ?_⟩
    rw [publishedLists_deferred own, if_pos cut]
    rfl

/-- A stream that raises yielded nothing; else every message fits, events come in order, and the
assembler publishes the batch's own list. -/
theorem checkpoint_frames_reassemble (sha256 : Text → CheckpointId)
    (parse : Text → Except String (List ActiveExecution)) (batch : EventBatch) (budget : Nat) :
    ((streamMessagesWithin sha256 batch budget).raised ≠ none →
      (streamMessagesWithin sha256 batch budget).yielded = []) ∧
    ∀ messages, streamMessagesWithin sha256 batch budget = { yielded := messages } →
      (∀ message ∈ messages, byteSize message.dump ≤ budget) ∧
      (eventFrames messages).flatMap EventBatch.events = batch.events ∧
      (∀ place frame, (eventFrames messages)[place]? = some frame →
        Placed batch (place = 0) (place + 1 = (eventFrames messages).length) frame) ∧
      ∀ active, batch.checkpoint = .whole active →
        (messages.any StreamMessage.isFragment = true →
          Ordered batch ∧ parse (dumpExecutions active) = .ok active) →
        ∃ seen, feed sha256 parse {} messages = .ok ({}, seen) ∧
          publishedLists seen = List.replicate
            (if messages.any StreamMessage.isFragment then 1 else (eventFrames messages).length)
            active := by
  rcases streamMessagesWithin_cases sha256 batch budget with ⟨error, raised⟩ | ⟨_, made, streams⟩
  · rw [raised]
    refine ⟨fun _ => rfl, fun messages same => ?_⟩
    cases same
  rw [made]
  refine ⟨fun raised => absurd rfl raised, ?_⟩
  rintro messages ⟨⟩
  obtain ⟨fits, events, placed⟩ := streams.placed
  exact ⟨fits, events, placed, fun active whole readable => streams.assembled whole readable⟩

/-! ## Small streams -/

def sampleExecution : ActiveExecution where
  executionId := ascii "e"
  agentKind := ascii "agent"
  roundLabel := ascii "1"
  stage := ascii "work"
  assignment := ascii "task"
  startedAt := ascii "2026-01-01T00:00:00Z"
  activity := { mode := .thinking, summary := [] }

def sampleBatch (events : List StreamEvent) : EventBatch where
  events := events
  throughSequence := 9
  checkpoint := .whole [sampleExecution]
  storeId := ascii "store"

def sampleEvent (sequence : Nat) : StreamEvent := ⟨sequence, List.replicate 90 '0'⟩

def sampleParse (payload : Text) : Except String (List ActiveExecution) :=
  if payload = dumpExecutions [sampleExecution] then .ok [sampleExecution] else .error "unknown"

def sampleStream (events : List StreamEvent) (budget : Nat) : Generated :=
  streamMessagesWithin (fun _ => placeholderId) (sampleBatch events) budget

/-- In frames of 400 bytes the checkpoint follows its two events in two fragments. -/
theorem sample_checkpoint_reassembles : ∃ messages seen,
    sampleStream [sampleEvent 1, sampleEvent 2] 400 = { yielded := messages } ∧
      messages.length = 4 ∧ (∀ message ∈ messages, byteSize message.dump ≤ 400) ∧
      feed (fun _ => placeholderId) sampleParse {} messages = .ok ({}, seen) ∧
      publishedLists seen = [[sampleExecution]] := by
  have made : (sampleStream [sampleEvent 1, sampleEvent 2] 400).raised = none ∧
      (sampleStream [sampleEvent 1, sampleEvent 2] 400).yielded.length = 4 ∧
      (sampleStream [sampleEvent 1, sampleEvent 2] 400).yielded.any
        StreamMessage.isFragment := by decide +kernel
  have streams : sampleStream [sampleEvent 1, sampleEvent 2] 400 =
      { yielded := (sampleStream [sampleEvent 1, sampleEvent 2] 400).yielded } := by
    rw [← made.1]
  obtain ⟨fits, -, -, assembled⟩ := (checkpoint_frames_reassemble (fun _ => placeholderId)
    sampleParse (sampleBatch [sampleEvent 1, sampleEvent 2]) 400).2 _ streams
  obtain ⟨seen, fed, published⟩ := assembled [sampleExecution] rfl
    fun _ => ⟨⟨by decide, by decide⟩, if_pos rfl⟩
  rw [if_pos made.2.2] at published
  exact ⟨_, seen, streams, made.2.1, fits, fed, published⟩

/-- Where the checkpoint fits beside each event, every frame publishes it again; events out of order
are refused. -/
theorem checkpoint_can_repeat_or_be_refused :
    ((feed (fun _ => placeholderId) sampleParse {}
        (sampleStream [sampleEvent 1, sampleEvent 2] 600).yielded).map fun fed =>
          publishedLists fed.2) = .ok [[sampleExecution], [sampleExecution]] ∧
      ((feed (fun _ => placeholderId) sampleParse {}
        (sampleStream [sampleEvent 2, sampleEvent 1, sampleEvent 3] 400).yielded).map fun fed =>
          publishedLists fed.2) =
        .error (checkpointFailure "cursor metadata changed between deferred event frames") ∧
      (sampleStream [sampleEvent 2, sampleEvent 1, sampleEvent 3] 400).raised = none := by
  decide +kernel

end VibeServeCore.Stream
