/- source: server/api/protocol.py, server/execution.py (`ActiveAgentExecution`)
   digest: The messages of an event stream, their JSON text and its size in bytes. -/

import VibeServeCore.Foundation.Packing
import VibeServeCore.Foundation.Process
import VibeServeCore.Foundation.Json.Strings

namespace VibeServeCore.Stream

open List
open Foundation.Packing (cost)
open Foundation.Process
open Foundation.Json (Text backslash escape escapeChar literal quote)

def byteSize (text : Text) : Nat := (text.map Char.utf8Size).sum

@[simp] theorem byteSize_nil : byteSize [] = 0 := rfl

@[simp] theorem byteSize_cons (char : Char) (text : Text) :
    byteSize (char :: text) = char.utf8Size + byteSize text := by simp [byteSize]

@[simp] theorem byteSize_append (first second : Text) :
    byteSize (first ++ second) = byteSize first + byteSize second := by simp [byteSize]

def ascii (text : String) : Text := text.toList

def decimal (number : Nat) : Text := Nat.toDigits 10 number

def signed : Int → Text
  | .ofNat number => decimal number
  | .negSucc number => '-' :: decimal (number + 1)

def truth (value : Bool) : Text := if value then ascii "true" else ascii "false"

def nullable {Value : Type} (dump : Value → Text) : Option Value → Text
  | none => ascii "null"
  | some value => dump value

def commas : List Text → Text
  | [] => []
  | [item] => item
  | item :: next :: rest => item ++ ',' :: commas (next :: rest)

def array (items : List Text) : Text := '[' :: (commas items ++ [']'])

def field (name : String) (value : Text) : Text := literal (ascii name) ++ ':' :: value

def object (fields : List Text) : Text := '\x7b' :: (commas fields ++ ['\x7d'])

private theorem byteSize_commas (items : List Text) : byteSize
    (commas items) = cost byteSize items := by
  induction items with
  | nil => rfl
  | cons item rest ih =>
    cases rest with
    | nil => simp [commas, cost]
    | cons next rest =>
      have comma : Char.utf8Size ',' = 1 := rfl
      rw [commas, byteSize_append, byteSize_cons, ih, comma]
      simp [cost]
      omega

@[simp] theorem byteSize_array (items : List Text) :
    byteSize (array items) = cost byteSize items + 2 := by
  have opening : Char.utf8Size '[' = 1 := rfl
  have closing : Char.utf8Size ']' = 1 := rfl
  simp [array, byteSize_commas, opening, closing]
  omega

theorem byteSize_object (fields : List Text) :
    byteSize (object fields) = cost byteSize fields + 2 := by
  have opening : Char.utf8Size '\x7b' = 1 := rfl
  have closing : Char.utf8Size '\x7d' = 1 := rfl
  simp only [object, byteSize_cons, byteSize_append, byteSize_nil, byteSize_commas, opening, closing]
  omega

def fieldName (name : String) : Text := literal (ascii name) ++ [':']

@[simp] theorem byteSize_field (name : String) (value : Text) :
    byteSize (field name value) = byteSize (fieldName name) + byteSize value := by
  simp [field, fieldName]
  omega

variable {text : Text} {size total : Nat}

private theorem byteSize_of_digits (digits : ∀ char ∈ text, char.val ≤ 0x7f) :
    byteSize text = text.length := by
  induction text with
  | nil => rfl
  | cons char text ih =>
    have one : char.utf8Size = 1 := by
      simp [Char.utf8Size, digits char mem_cons_self]
    rw [byteSize_cons, one, ih fun other mem => digits other (mem_cons_of_mem _ mem),
      length_cons, Nat.add_comm]

private theorem byteSize_decimal (number : Nat) : byteSize (decimal number) =
    (decimal number).length := by
  refine byteSize_of_digits fun char mem => ?_
  have digit := Nat.isDigit_of_mem_toDigits (by decide) (by decide) mem
  simp only [Char.isDigit, Bool.and_eq_true, decide_eq_true_eq] at digit
  exact UInt32.le_trans digit.2 (by decide)

theorem byteSize_decimal_mono {small large : Nat} (below : small ≤ large) :
    byteSize (decimal small) ≤ byteSize (decimal large) := by
  rw [byteSize_decimal, byteSize_decimal]
  have bound : ∀ number : Nat, number < 10 ^ (decimal large).length ↔
      (decimal number).length ≤ (decimal large).length := fun number =>
    (Nat.length_toDigits_le_iff (by decide) Nat.length_toDigits_pos).symm
  exact (bound small).mp (below.trans_lt ((bound large).mpr le_rfl))

inductive ExecutionActivityMode
  | thinking | responding | tool | waiting
  deriving DecidableEq

def ExecutionActivityMode.value : ExecutionActivityMode → String
  | .thinking => "thinking"
  | .responding => "responding"
  | .tool => "tool"
  | .waiting => "waiting"

structure ExecutionActivity where
  mode : ExecutionActivityMode
  summary : Text
  tool : Option Text := none
  deriving DecidableEq

structure ActiveExecution where
  executionId : Text
  agentKind : Text
  roundLabel : Text
  stage : Text
  attempt : Option Int := none
  assignment : Text
  startedAt : Text
  activity : ExecutionActivity
  provider : Option Text := none
  model : Option Text := none
  deriving DecidableEq

def ExecutionActivity.dump (activity : ExecutionActivity) : Text :=
  object [field "kind" (literal (ascii "agent_execution_activity_changed")),
    field "mode" (literal (ascii activity.mode.value)),
    field "summary" (literal activity.summary),
    field "tool" (nullable literal activity.tool)]

def ActiveExecution.dump (execution : ActiveExecution) : Text :=
  object [field "execution_id" (literal execution.executionId),
    field "agent_kind" (literal execution.agentKind),
    field "round_label" (literal execution.roundLabel),
    field "stage" (literal execution.stage),
    field "attempt" (nullable signed execution.attempt),
    field "assignment" (literal execution.assignment),
    field "started_at" (literal execution.startedAt),
    field "activity" execution.activity.dump,
    field "provider" (nullable literal execution.provider),
    field "model" (nullable literal execution.model)]

def dumpExecutions (active : List ActiveExecution) : Text := array (active.map ActiveExecution.dump)

def maxChunkCharacters : Nat := 64 * 1024
def maxCheckpointBytes : Nat := 16 * 1024 * 1024
def maxChunks : Nat := 256

def checkpointSizeError : String :=
  "active-execution checkpoint exceeds the 16777216-byte protocol limit"

def contentWidth (char : Char) : Nat :=
  let point := char.toNat
  if point < 0x20 then if point ∈ [0x08, 0x09, 0x0a, 0x0c, 0x0d] then 2 else 6
  else if char = quote || char = backslash then 2
  else if point < 0x80 then 1
  else if point < 0x800 then 2
  else if point < 0x10000 then 3
  else 4

def jsonStringContentSize (limit : Nat) : Text → Nat → Except String Nat
  | [], size => .ok size
  | char :: rest, size =>
    if limit < size + contentWidth char then .error checkpointSizeError
    else jsonStringContentSize limit rest (size + contentWidth char)

def ActiveExecution.blank (execution : ActiveExecution) : ActiveExecution :=
  { execution with
    executionId := []
    agentKind := []
    roundLabel := []
    stage := []
    assignment := []
    activity := { execution.activity with
      summary := [], tool := execution.activity.tool.map fun _ => [] }
    provider := execution.provider.map fun _ => []
    model := execution.model.map fun _ => [] }

def ActiveExecution.strings (execution : ActiveExecution) : List (Option Text) :=
  [some execution.executionId, some execution.agentKind, some execution.roundLabel,
    some execution.stage, some execution.assignment, some execution.activity.summary,
    execution.activity.tool, execution.provider, execution.model]

def addString (size : Nat) : Option Text → Except String Nat
  | none => .ok size
  | some value =>
    if maxCheckpointBytes - size < value.length then .error checkpointSizeError
    else do
      let content ← jsonStringContentSize (maxCheckpointBytes - size) value 0
      if maxCheckpointBytes < size + content then .error checkpointSizeError
      else .ok (size + content)

def addExecution (size : Nat) (entry : ActiveExecution × Nat) : Except String Nat :=
  let blank := size + (if entry.2 = 0 then 0 else 1) + byteSize entry.1.blank.dump
  if maxCheckpointBytes < blank then .error checkpointSizeError
  else Foundation.Process.sequence addString blank entry.1.strings

def activeExecutionsJsonSize (active : List ActiveExecution) : Except String Nat :=
  Foundation.Process.sequence addExecution 2 active.zipIdx

private theorem byteSize_escapeChar (char : Char) : byteSize
    (escapeChar char) = contentWidth char := by
  by_cases low : char.toNat < 128
  · have each : ∀ point < 128, byteSize (escapeChar (Char.ofNat point)) =
        contentWidth (Char.ofNat point) := by decide
    have same := each char.toNat low
    rwa [Char.ofNat_toNat] at same
  · have apart : ∀ other : Char, other.toNat < 128 → char ≠ other := by
      rintro other ascii rfl
      exact low ascii
    have plain : escapeChar char = [char] := by
      unfold escapeChar
      simp only [apart quote (by decide), apart backslash (by decide), apart '\x08' (by decide),
        apart '\x09' (by decide), apart '\x0a' (by decide), apart '\x0c' (by decide),
        apart '\x0d' (by decide), show ¬char.toNat < 32 by omega, if_false]
    have size : Char.utf8Size char = if char.toNat < 0x800 then 2
        else if char.toNat < 0x10000 then 3 else 4 := by
      unfold Char.utf8Size
      simp only [UInt32.le_iff_toNat_le]
      change (if char.toNat ≤ 127 then 1 else if char.toNat ≤ 2047 then 2 else
        if char.toNat ≤ 65535 then 3 else 4) = _
      split_ifs <;> omega
    rw [plain, byteSize_cons, byteSize_nil, size]
    unfold contentWidth
    simp only [apart quote (by decide), apart backslash (by decide), decide_false, Bool.or_self,
      Bool.false_eq_true, if_false, show ¬char.toNat < 32 by omega, low]
    split_ifs <;> rfl

def contentSize (text : Text) : Nat := byteSize (escape text)

private theorem byteSize_literal (text : Text) :
    byteSize (literal text) = contentSize text + byteSize (literal []) := by
  simp [literal, contentSize, escape]
  omega

private theorem jsonStringContentSize_eq_ok {limit : Nat}
    (counted : jsonStringContentSize limit text size = .ok total) :
    total = size + contentSize text := by
  induction text generalizing size with
  | nil =>
    cases counted
    simp [contentSize, escape]
  | cons char text ih =>
    unfold jsonStringContentSize at counted
    split_ifs at counted
    have rest := ih counted
    simp only [contentSize, escape, flatMap_cons, byteSize_append, byteSize_escapeChar] at rest ⊢
    omega

def stringSize : Option Text → Nat
  | none => 0
  | some value => contentSize value

private theorem addString_eq_ok {value : Option Text} (added : addString size value = .ok total) :
    total = size + stringSize value := by
  unfold addString at added
  split at added
  · cases added
    rfl
  split_ifs at added
  obtain ⟨content, counted, added⟩ := bind_ok added
  split_ifs at added
  cases added
  rw [jsonStringContentSize_eq_ok counted]
  simp [stringSize]

private theorem addStrings_eq_ok {values : List (Option Text)}
    (added : Foundation.Process.sequence addString size values = .ok total) :
    total = size + (values.map stringSize).sum := by
  induction values generalizing size with
  | nil =>
    cases added
    rfl
  | cons value values ih =>
    obtain ⟨next, first, rest⟩ := bind_ok added
    rw [ih rest, addString_eq_ok first, map_cons, sum_cons, Nat.add_assoc]

private theorem byteSize_nullable_literal (value : Option Text) :
    byteSize (nullable literal value) =
      byteSize (nullable literal (value.map fun _ => [])) + stringSize value := by
  cases value with
  | none => rfl
  | some text =>
    simp only [nullable, Option.map_some, stringSize, byteSize_literal text]
    omega

private theorem byteSize_dump (execution : ActiveExecution) :
    byteSize execution.dump =
      byteSize execution.blank.dump + (execution.strings.map stringSize).sum := by
  obtain ⟨executionId, agentKind, roundLabel, stage, attempt, assignment, startedAt,
    ⟨mode, summary, tool⟩, provider, model⟩ := execution
  simp only [ActiveExecution.dump, ActiveExecution.blank, ActiveExecution.strings,
    ExecutionActivity.dump, byteSize_object, cost, map_cons, map_nil, sum_cons,
    sum_nil, length_cons, length_nil, byteSize_field]
  rw [byteSize_literal executionId, byteSize_literal agentKind, byteSize_literal roundLabel,
    byteSize_literal stage, byteSize_literal assignment, byteSize_literal summary,
    byteSize_nullable_literal tool, byteSize_nullable_literal provider,
    byteSize_nullable_literal model]
  simp only [stringSize]
  omega

private theorem addExecution_eq_ok {entry : ActiveExecution × Nat}
    (added : addExecution size entry = .ok total) :
    total = size + (if entry.2 = 0 then 0 else 1) + byteSize entry.1.dump := by
  unfold addExecution at added
  dsimp only at added
  split_ifs at added
  all_goals
    have counted := addStrings_eq_ok added
    have whole := byteSize_dump entry.1
    simp_all only [if_true, if_false]
    omega

private theorem addExecutions_eq_ok {start : Nat} {active : List ActiveExecution}
    (later : start ≠ 0)
    (added : Foundation.Process.sequence addExecution size (active.zipIdx start) = .ok total) :
    total = size + (active.map fun execution => byteSize execution.dump).sum + active.length := by
  induction active generalizing size start with
  | nil =>
    cases added
    simp
  | cons execution active ih =>
    obtain ⟨next, first, rest⟩ := bind_ok added
    have one := addExecution_eq_ok first
    have others := ih (Nat.succ_ne_zero start) rest
    simp only [later, if_false] at one
    simp only [map_cons, sum_cons, length_cons]
    omega

theorem activeExecutionsJsonSize_eq_ok {active : List ActiveExecution}
    (measured : activeExecutionsJsonSize active = .ok size) :
    size = byteSize (dumpExecutions active) := by
  unfold dumpExecutions
  rw [byteSize_array]
  cases active with
  | nil =>
    cases measured
    rfl
  | cons execution active =>
    obtain ⟨next, first, rest⟩ := bind_ok measured
    have one := addExecution_eq_ok first
    have others := addExecutions_eq_ok (Nat.succ_ne_zero 0) rest
    simp only [if_true, Nat.add_zero] at one
    simp only [cost, map_cons, sum_cons, length_cons, map_map, length_map,
      Function.comp_def]
    omega

/-! ## Messages -/

structure CheckpointId where
  text : Text
  length : text.length = 64
  hex : ∀ char ∈ text, char.isDigit ∨ char ∈ ['a', 'b', 'c', 'd', 'e', 'f']

instance : DecidableEq CheckpointId := fun first second =>
  decidable_of_iff (first.text = second.text) (by cases first; cases second; simp)

structure StreamEvent where
  sequence : Nat
  json : Text
  deriving DecidableEq

inductive Checkpoint
  | whole (active : List ActiveExecution)
  | deferred (checkpointId : CheckpointId)
  deriving DecidableEq

structure EventBatch where
  events : List StreamEvent
  throughSequence : Nat := 0
  checkpoint : Checkpoint := .whole []
  storeId : Text := []
  historyAfterSequence : Nat := 0
  rebootstrap : Bool := false
  deriving DecidableEq

structure Chunk where
  checkpointId : CheckpointId
  chunkIndex : Nat
  chunkCount : Nat
  payload : Text
  throughSequence : Nat
  storeId : Text
  historyAfterSequence : Nat
  deriving DecidableEq

def Checkpoint.active : Checkpoint → Option (List ActiveExecution)
  | .whole active => some active
  | .deferred _ => none

def Checkpoint.checkpointId : Checkpoint → Option CheckpointId
  | .whole _ => none
  | .deferred checkpointId => some checkpointId

def EventBatch.dump (batch : EventBatch) : Text :=
  object [field "type" (literal (ascii "event_batch")),
    field "events" (array (batch.events.map StreamEvent.json)),
    field "through_sequence" (decimal batch.throughSequence),
    field "active_executions" (nullable dumpExecutions batch.checkpoint.active),
    field "active_executions_checkpoint_id"
      (nullable (fun checkpointId => literal checkpointId.text) batch.checkpoint.checkpointId),
    field "store_id" (literal batch.storeId),
    field "history_after_sequence" (decimal batch.historyAfterSequence),
    field "rebootstrap" (truth batch.rebootstrap)]

def Chunk.dump (chunk : Chunk) : Text :=
  object [field "type" (literal (ascii "active_executions_chunk")),
    field "checkpoint_id" (literal chunk.checkpointId.text),
    field "chunk_index" (decimal chunk.chunkIndex),
    field "chunk_count" (decimal chunk.chunkCount),
    field "payload" (literal chunk.payload),
    field "through_sequence" (decimal chunk.throughSequence),
    field "store_id" (literal chunk.storeId),
    field "history_after_sequence" (decimal chunk.historyAfterSequence)]

private theorem contentWidth_hex {char : Char}
    (hex : char.isDigit ∨ char ∈ ['a', 'b', 'c', 'd', 'e', 'f']) : contentWidth char = 1 := by
  have below : char.toNat < 128 := by
    rcases hex with digit | letter
    · simp only [Char.isDigit, Bool.and_eq_true, decide_eq_true_eq] at digit
      have bound : char.toNat ≤ 57 := UInt32.le_iff_toNat_le.mp digit.2
      omega
    · simp only [mem_cons, not_mem_nil, or_false] at letter
      rcases letter with rfl | rfl | rfl | rfl | rfl | rfl <;> decide
  have each : ∀ point < 128, (Char.ofNat point).isDigit ∨
      Char.ofNat point ∈ ['a', 'b', 'c', 'd', 'e', 'f'] →
        contentWidth (Char.ofNat point) = 1 := by decide
  have one := each char.toNat below
  rw [Char.ofNat_toNat] at one
  exact one hex

private theorem contentSize_of_single (single : ∀ char ∈ text, contentWidth char = 1) :
    contentSize text = text.length := by
  induction text with
  | nil => rfl
  | cons char text ih =>
    have rest := ih fun other inside => single other (mem_cons_of_mem _ inside)
    have first := single char mem_cons_self
    simp only [contentSize, escape, flatMap_cons, byteSize_append, byteSize_escapeChar,
      length_cons] at rest ⊢
    omega

theorem byteSize_checkpointId (first second : CheckpointId) :
    byteSize (literal first.text) = byteSize (literal second.text) := by
  have plain : ∀ checkpointId : CheckpointId, contentSize checkpointId.text = 64 := by
    intro checkpointId
    rw [contentSize_of_single fun char mem => contentWidth_hex (checkpointId.hex char mem),
      checkpointId.length]
  rw [byteSize_literal, plain, byteSize_literal second.text, plain]

end VibeServeCore.Stream
