/- source: vs_core/flows/_agents.py, vs_core/flows/_roles.py, vibesys/candidates/_budget.py
   digest: How many provider turns one ask can take, against what the run reserves for it. -/

import VibeServeCore.Types.Common

namespace VibeServeCore.Flows

open Types List

section

inductive TurnFailureKind
  | providerFailed | transportLost | cancelled
  deriving DecidableEq

inductive WaitRefusal
  | notOffered | notRecorded | notPublished

inductive ReplyErrorCode
  | missing | unexpected | wrongType | invalidValue | notJson

structure ReplyError where
  path : List (String ⊕ Int)
  code : ReplyErrorCode
  message : String := ""

inductive Correctable
  | invalidReply | unrecordedWait
  deriving DecidableEq

def Correctable.value : Correctable → String
  | .invalidReply => "invalid-reply"
  | .unrecordedWait => "unrecorded-wait"

structure Exchanges where
  correction : Option String := none
  resume : Option String := none
  waitUnrecorded : Option String := none

structure Backoff where
  first : Seconds
  cap : Seconds

inductive WireReply (Reply : Type)
  | result (reply : Reply)
  | waiting

def maxCorrections : Nat := 5
def maxLostTurns : Nat := 5

structure Role (Reply : Type) where
  name : String
  prompt : String
  corrections : Nat
  lostTurns : Nat
  charge : ChargeClass
  mayWaitForEvaluations : Bool := false
  exchanges : Exchanges := {}
  correctable : List Correctable := [.invalidReply, .unrecordedWait]
  lostTurnBackoff : Backoff := { first := 5, cap := 120 }
  wireReply : String → Except (List ReplyError) (WireReply Reply)
  replyNeedsCheckpoint : Reply → Bool
  corrections_le : corrections ≤ maxCorrections
  lostTurns_le : lostTurns ≤ maxLostTurns
  correctionDeclared : corrections ≠ 0 → .invalidReply ∈ correctable →
    exchanges.correction.isSome
  waitUnrecordedDeclared : corrections ≠ 0 → mayWaitForEvaluations →
    .unrecordedWait ∈ correctable → exchanges.waitUnrecorded.isSome
  resumeDeclared : mayWaitForEvaluations → exchanges.resume.isSome
  waits : mayWaitForEvaluations ↔ ∃ output, wireReply output = .ok .waiting

def turnChain (corrections lostTurns : Nat) : Nat := 1 + corrections + lostTurns

structure Failed extends Types.Failed where
  errors : List ReplyError := []
  turn : Option InvocationRef := none
  turnFailure : Option TurnFailureKind := none
  digest : Option String := none
  refusal : Option WaitRefusal := none

structure TurnResult where
  invocation : InvocationRef
  status : ObservationStatus
  outputJson : Option String := none
  failure : Option TurnFailureKind := none
  detail : String := ""
  replyErrors : List ReplyError := []
  suspending : Bool := false
  failureMatchesStatus : status = .succeeded → failure = none ∧ detail = "" ∧ replyErrors = []

inductive Checkpoint
  | retained (revision : RevisionRef)
  | declined (reason : Payload)

structure Authorization where
  continuationId : ContinuationId
  nextInvocation : InvocationRef
  timeout : Option TimedOut := none
  evidence : List EvidenceRef := []
  repeatedFailure : Option Payload := none

inductive Awaited (Event : Type)
  | event (event : Event)
  | failed (failed : Failed)
  | unexpected (kind : String)

inductive Yield
  | recorded (continuation : ContinuationId)
  | failed

/-- What the kernel answers one attempt with. -/
structure Answers where
  /-- The prompts of a render that succeeded; none when it did not. -/
  rendered : Awaited (Option (List String))
  /-- The stamped decision of the turn request. -/
  decision : DecisionId
  turn : Awaited TurnResult
  /-- What the run already knows of the turn's checkpoint, and what a wait for it gives. -/
  knownCheckpoint : Option Checkpoint := none
  checkpoint : Awaited Checkpoint
  suspendOffered : Bool := false
  yielded : Awaited Yield
  resume : Awaited Authorization

inductive Input
  /-- The search's own prompt, with the turn it corrects. -/
  | prompt (context : Payload) (of : Option InvocationRef)
  | replyCorrection (role : String) (errors : List ReplyError)
  | waitUnrecorded (role : String)
  | resume (agent : String) (retained : Option RevisionRef) (authorization : Authorization)

structure RequestTurn where
  invocation : InvocationRef
  continuationId : Option ContinuationId
  prompts : List String
  chargeClass : ChargeClass
  predecessor : Option InvocationRef

structure Session (Reply : Type) where
  role : Role Reply
  sessionId : SessionId
  generation : Nat
  invocationId : Nat → InvocationId

structure TurnFinished (Reply : Type) where
  decision : DecisionId
  invocation : InvocationRef
  reply : Reply
  checkpoint : Option Checkpoint := none

/-- The loop state of one turn. -/
structure Ask where
  input : Input
  charge : ChargeClass
  template : String
  predecessor : Option InvocationRef := none
  resume : Option InvocationRef := none
  continuation : Option ContinuationId := none
  corrections : Nat := 0
  drops : Nat := 0
  /-- Whether the ask in flight continues a wait: a loss of it is never asked again. -/
  resuming : Bool := false
  invocation : Option InvocationRef := none
  decision : DecisionId

inductive Attempted (Reply : Type)
  | finished (finished : TurnFinished Reply)
  | failed (failed : Failed)
  | again (ask : Ask)
  | contractError (detail : String)

variable {Reply : Type}

def Ask.start (role : Role Reply) (context : Payload) (of : Option InvocationRef) : Ask where
  input := .prompt context of
  charge := if of.isSome then .correction else role.charge
  template := role.prompt
  predecessor := of
  decision := ⟨role.name⟩

namespace Ask

variable (role : Role Reply) (ask : Ask)

def corrected (kind : Correctable) (template : Option String) (context : Input)
    (exhausted : Failed) : Attempted Reply :=
  if kind ∉ role.correctable ∨ role.corrections ≤ ask.corrections then .failed exhausted
  else
    match template with
    | none =>
      .contractError s!"{role.name} is corrected for {kind.value} but declares no such exchange"
    | some template =>
      .again { ask with
        input := context, template, charge := .correction, predecessor := ask.invocation
        resume := none, continuation := none, corrections := ask.corrections + 1, drops := 0
        resuming := false }

def lost (turn : InvocationRef) : Attempted Reply :=
  let allowed := if ask.resuming then 0 else role.lostTurns
  if allowed ≤ ask.drops then
    .failed { reason := .lost, decision := some ask.decision, turn := some turn }
  else
    .again { ask with
      charge := .correction, predecessor := some turn, resume := none, continuation := none
      invocation := none, drops := ask.drops + 1 }

def invalid (turn : InvocationRef) (errors : List ReplyError) : Attempted Reply :=
  { ask with invocation := some turn }.corrected role .invalidReply role.exchanges.correction
    (.replyCorrection role.name errors)
    { reason := .invalidReply, decision := some ask.decision, errors, turn := some turn }

def unsuccessful (digest : String → String) (result : TurnResult) : Attempted Reply :=
  if result.failure = some .transportLost then ask.lost role result.invocation
  else if !result.replyErrors.isEmpty then ask.invalid role result.invocation result.replyErrors
  else
    .failed
      { reason := .turnFailed, decision := some ask.decision, turn := some result.invocation
        turnFailure := some (result.failure.getD .providerFailed)
        digest := some (digest result.detail) }

def resumed (known : Option Checkpoint) (authorization : Authorization) : Attempted Reply :=
  match role.exchanges.resume with
  | none => .contractError s!"{role.name} waited for evaluations but declares no resume exchange"
  | some template =>
    let retained := known.bind fun
      | .retained revision => some revision
      | .declined _ => none
    .again { ask with
      input := .resume role.name retained authorization, template, resuming := true
      charge := .resume, predecessor := none, resume := some authorization.nextInvocation
      continuation := some authorization.continuationId, drops := 0 }

def suspended (turn : InvocationRef) (answers : Answers) : Attempted Reply :=
  match answers.yielded with
  | .failed failed => .failed failed
  | .unexpected kind => .contractError s!"a suspension was recorded as {kind}"
  | .event .failed =>
    .failed
      { reason := .waitRefused, decision := some ask.decision, turn := some turn
        refusal := some .notPublished }
  | .event (.recorded _) =>
    match answers.resume with
    | .failed failed => .failed failed
    | .unexpected kind => .contractError s!"a resume was authorized as {kind}"
    | .event authorization => ask.resumed role answers.knownCheckpoint authorization

def replied (turn : InvocationRef) (reply : Reply) (answers : Answers) : Attempted Reply :=
  let finished := fun checkpoint =>
    Attempted.finished { decision := ask.decision, invocation := turn, reply, checkpoint }
  if !role.replyNeedsCheckpoint reply then finished none
  else
    match answers.knownCheckpoint with
    | some known => finished (some known)
    | none =>
      match answers.checkpoint with
      | .event found => finished (some found)
      | .failed failed => .failed failed
      | .unexpected kind => .contractError s!"a checkpoint was reported as {kind}"

def succeeded (result : TurnResult) (output : String) (answers : Answers) : Attempted Reply :=
  let turn := result.invocation
  let ask := { ask with invocation := some turn }
  if result.suspending then
    if !answers.suspendOffered || !role.mayWaitForEvaluations then
      .failed
        { reason := .waitRefused, decision := some ask.decision, turn := some turn
          refusal := some .notOffered }
    else ask.suspended role turn answers
  else
    match role.wireReply output with
    | .error errors => ask.invalid role turn errors
    | .ok .waiting =>
      ask.corrected role .unrecordedWait role.exchanges.waitUnrecorded (.waitUnrecorded role.name)
        { reason := .waitRefused, decision := some ask.decision, turn := some turn
          refusal := some .notRecorded }
    | .ok (.result reply) => ask.replied role turn reply answers

def ended (digest : String → String) (result : TurnResult) (answers : Answers) :
    Attempted Reply :=
  match result.status, result.outputJson with
  | .succeeded, some output => ask.succeeded role result output answers
  | _, _ => ask.unsuccessful role digest result

def build (session : Session Reply) (prompts : List String) (serial : Nat) : RequestTurn where
  invocation :=
    { sessionId := session.sessionId
      invocationId :=
        (ask.resume.map fun resume => resume.invocationId).getD (session.invocationId serial)
      generation := session.generation }
  continuationId := ask.continuation
  prompts := prompts
  chargeClass := ask.charge
  predecessor := if ask.charge = .resume then none else ask.predecessor

def attempt (session : Session Reply) (digest : String → String) (serial : Nat)
    (answers : Answers) : Option RequestTurn × Attempted Reply :=
  match answers.rendered with
  | .failed failed => (none, .failed failed)
  | .unexpected kind => (none, .contractError s!"a render ended with {kind}")
  | .event none =>
    (none, .failed { reason := .renderFailed, decision := some ask.decision })
  | .event (some prompts) =>
    let asked := { ask with decision := answers.decision }
    (some (ask.build session prompts serial),
      match answers.turn with
      | .failed failed => .failed failed
      | .unexpected kind => .contractError s!"a turn ended with {kind}"
      | .event result => asked.ended session.role digest result answers)

end Ask

inductive Ended (Reply : Type)
  | finished (finished : TurnFinished Reply)
  | failed (failed : Failed)
  | contractError (detail : String)

def Session.turn (session : Session Reply) (digest : String → String) :
    Nat → Nat → Ask → (Nat → Answers) → List RequestTurn × Option (Ended Reply)
  | 0, _, _, _ => ([], none)
  | attempts + 1, serial, ask, answers =>
    match ask.attempt session digest serial (answers 0) with
    | (request, .finished finished) => (request.toList, some (.finished finished))
    | (request, .failed failed) => (request.toList, some (.failed failed))
    | (request, .contractError detail) => (request.toList, some (.contractError detail))
    | (request, .again ask) =>
      let later := session.turn digest attempts (serial + 1) ask fun number => answers (number + 1)
      (request.toList ++ later.1, later.2)

end

variable {Reply : Type}

structure Answers.Plain (answers : Answers) : Prop where
  rendered : ∀ kind, answers.rendered ≠ .unexpected kind
  turn : ∀ kind, answers.turn ≠ .unexpected kind
  checkpoint : ∀ kind, answers.checkpoint ≠ .unexpected kind
  running : ∀ result, answers.turn = .event result → result.suspending = false

def Role.corrects (role : Role Reply) : Bool :=
  .invalidReply ∈ role.correctable ||
    (role.mayWaitForEvaluations && .unrecordedWait ∈ role.correctable)

structure Corrected (role : Role Reply) (ask next : Ask) : Prop where
  corrects : role.corrects
  left : ask.corrections < role.corrections
  corrections : next.corrections = ask.corrections + 1
  drops : next.drops = 0
  resuming : next.resuming = false

structure Reasked (role : Role Reply) (ask next : Ask) : Prop where
  left : ask.drops < role.lostTurns
  corrections : next.corrections = ask.corrections
  drops : next.drops = ask.drops + 1
  resuming : next.resuming = ask.resuming

inductive Settles (role : Role Reply) (ask : Ask) : Attempted Reply → Prop
  | finished (finished : TurnFinished Reply) : Settles role ask (.finished finished)
  | failed (failed : Failed) : Settles role ask (.failed failed)
  | corrected {next : Ask} (corrected : Corrected role ask next) : Settles role ask (.again next)
  | reasked {next : Ask} (reasked : Reasked role ask next) : Settles role ask (.again next)

variable {role : Role Reply} {ask : Ask}

variable {attempted : Attempted Reply} {kind : Correctable} {template : Option String}
    {answers : Answers} {result : TurnResult} {next ask : Ask} {attempts left serial : Nat}

theorem Settles.of_counters {other : Ask} (settles : Settles role other attempted)
    (corrections : other.corrections = ask.corrections) (drops : other.drops = ask.drops)
    (resuming : other.resuming = ask.resuming) : Settles role ask attempted := by
  cases settles with
  | finished finished => exact .finished finished
  | failed failed => exact .failed failed
  | corrected next =>
    exact .corrected ⟨next.corrects, corrections ▸ next.left, corrections ▸ next.corrections,
      next.drops, next.resuming⟩
  | reasked next =>
    exact .reasked ⟨drops ▸ next.left, corrections ▸ next.corrections, drops ▸ next.drops,
      next.resuming.trans resuming⟩

namespace Ask

variable {role : Role Reply} {ask : Ask}

private theorem corrected_settles (context : Input) (exhausted : Failed)
    (corrects : kind ∈ role.correctable → role.corrects)
    (declared : role.corrections ≠ 0 → kind ∈ role.correctable → template.isSome) :
    Settles role ask (ask.corrected role kind template context exhausted) := by
  unfold corrected
  split
  · exact .failed _
  rename_i within
  obtain ⟨listed, left⟩ := not_or.mp within
  have listed := not_not.mp listed
  have some_ := declared (by omega) listed
  cases template with
  | none => cases some_
  | some template => exact .corrected ⟨corrects listed, by omega, rfl, rfl, rfl⟩

private theorem lost_settles (turn : InvocationRef) : Settles role ask (ask.lost role turn) := by
  unfold lost
  extract_lets allowed
  have most : allowed ≤ role.lostTurns := by
    unfold allowed
    split <;> omega
  split
  · exact .failed _
  · exact .reasked ⟨by omega, rfl, rfl, rfl⟩

private theorem invalid_settles (turn : InvocationRef) (errors : List ReplyError) :
    Settles role ask (ask.invalid role turn errors) := by
  have corrects : .invalidReply ∈ role.correctable → role.corrects := fun listed => by
    simp [Role.corrects, listed]
  exact (corrected_settles _ _ corrects role.correctionDeclared).of_counters rfl rfl rfl

private theorem unsuccessful_settles (digest : String → String) (result : TurnResult) :
    Settles role ask (ask.unsuccessful role digest result) := by
  unfold unsuccessful
  split
  · exact lost_settles _
  · split
    · exact invalid_settles _ _
    · exact .failed _

private theorem replied_settles (turn : InvocationRef) (reply : Reply) (plain : answers.Plain) :
    Settles role ask (ask.replied role turn reply answers) := by
  unfold replied
  split
  · exact .finished _
  split
  · exact .finished _
  split
  · exact .finished _
  · exact .failed _
  · rename_i kind unexpected
    exact absurd unexpected (plain.checkpoint kind)

private theorem succeeded_settles (running : result.suspending = false) (output : String)
    (plain : answers.Plain) : Settles role ask (ask.succeeded role result output answers) := by
  unfold succeeded
  rw [running, if_neg Bool.false_ne_true]
  split
  · exact (invalid_settles _ _).of_counters rfl rfl rfl
  · rename_i waiting
    have waits : role.mayWaitForEvaluations := role.waits.mpr ⟨output, waiting⟩
    have corrects : .unrecordedWait ∈ role.correctable → role.corrects := fun listed => by
      simp [Role.corrects, listed, waits]
    exact (corrected_settles _ _ corrects fun some_ listed =>
      role.waitUnrecordedDeclared some_ waits listed).of_counters rfl rfl rfl
  · exact (replied_settles _ _ plain).of_counters rfl rfl rfl

private theorem attempt_settles (session : Session Reply) (digest : String → String) (serial : Nat)
    (plain : answers.Plain) :
    Settles session.role ask (ask.attempt session digest serial answers).2 := by
  unfold attempt
  split
  · exact .failed _
  · rename_i kind unexpected
    exact absurd unexpected (plain.rendered kind)
  · exact .failed _
  dsimp only
  split
  · exact .failed _
  · rename_i kind unexpected
    exact absurd unexpected (plain.turn kind)
  rename_i result turned
  have running := plain.running result turned
  unfold ended
  split
  · exact (succeeded_settles running _ plain).of_counters rfl rfl rfl
  · exact (unsuccessful_settles digest result).of_counters rfl rfl rfl

end Ask

def Role.spendable (role : Role Reply) : Nat := if role.corrects then role.corrections else 0

def rank (role : Role Reply) (ask : Ask) : Nat :=
  (role.spendable - ask.corrections) * (role.lostTurns + 1) + (role.lostTurns - ask.drops)

theorem Corrected.rank_lt (corrected : Corrected role ask next) :
    rank role next < rank role ask := by
  have spendable : role.spendable = role.corrections := if_pos corrected.corrects
  obtain ⟨left, more⟩ := Nat.exists_eq_add_of_lt corrected.left
  have before : role.corrections - ask.corrections = left + 1 := by omega
  have after : role.corrections - next.corrections = left := by
    have corrections := corrected.corrections
    omega
  unfold rank
  rw [spendable, before, after, corrected.drops, Nat.succ_mul]
  omega

theorem Reasked.rank_lt (reasked : Reasked role ask next) : rank role next < rank role ask := by
  have left := reasked.left
  unfold rank
  rw [reasked.corrections, reasked.drops]
  omega

/-- However many attempts follow, the turn ends within `turns` requests. -/
def EndsWithin (session : Session Reply) (digest : String → String) (serial : Nat) (ask : Ask)
    (answers : Nat → Answers) (attempts turns : Nat) : Prop :=
  ∃ requests ended, (∀ detail, ended ≠ Ended.contractError detail) ∧ requests.length ≤ turns ∧
    ∀ more, attempts ≤ more →
      session.turn digest more serial ask answers = (requests, some ended)

section
variable {session : Session Reply} {digest : String → String} {serial : Nat} {ask : Ask}
  {answers : Nat → Answers} {request : Option RequestTurn}

private theorem length_toList_le (request : Option RequestTurn) : request.toList.length ≤ 1 := by
  cases request <;> simp

private theorem turn_again
    (outcome : ask.attempt session digest serial (answers 0) = (request, .again next)) :
    session.turn digest (attempts + 1) serial ask answers =
      (request.toList ++ (session.turn digest attempts (serial + 1) next fun number =>
          answers (number + 1)).1,
        (session.turn digest attempts (serial + 1) next fun number => answers (number + 1)).2) := by
  rw [Session.turn, outcome]

theorem EndsWithin.now {ended : Ended Reply} (kept : ∀ detail, ended ≠ .contractError detail)
    (turns : ∀ attempts, session.turn digest (attempts + 1) serial ask answers =
      (request.toList, some ended)) (size : Nat) :
    EndsWithin session digest serial ask answers (size + 1) (size + 1) := by
  have few := length_toList_le request
  refine ⟨request.toList, ended, kept, by omega, fun more enough => ?_⟩
  obtain ⟨before, rfl⟩ := Nat.exists_eq_add_of_le enough
  rw [Nat.add_right_comm]
  exact turns _

theorem EndsWithin.later {size : Nat}
    (outcome : ask.attempt session digest serial (answers 0) = (request, .again next))
    (later : EndsWithin session digest (serial + 1) next (fun number => answers (number + 1)) size
      size) : EndsWithin session digest serial ask answers (size + 1) (size + 1) := by
  obtain ⟨requests, ended, kept, length, turns⟩ := later
  have few := length_toList_le request
  refine ⟨request.toList ++ requests, ended, kept, ?_, fun more enough => ?_⟩
  · rw [length_append]
    omega
  · obtain ⟨before, rfl⟩ := Nat.exists_eq_add_of_le enough
    rw [Nat.add_right_comm, turn_again outcome, turns (size + before) (Nat.le_add_right _ _)]

theorem EndsWithin.mono {more turns allowed : Nat}
    (ends : EndsWithin session digest serial ask answers attempts turns) (longer : attempts ≤ more)
    (within : turns ≤ allowed) : EndsWithin session digest serial ask answers more allowed := by
  obtain ⟨requests, ended, kept, length, each⟩ := ends
  exact ⟨requests, ended, kept, length.trans within, fun most enough =>
    each most (longer.trans enough)⟩

end

private theorem turn_ends (session : Session Reply) (digest : String → String) (serial : Nat)
    (ask : Ask)
    {answers : Nat → Answers} (plain : ∀ number, (answers number).Plain) :
    EndsWithin session digest serial ask answers (rank session.role ask + 1)
      (rank session.role ask + 1) := by
  generalize size : rank session.role ask = remaining
  induction remaining using Nat.strong_induction_on generalizing serial ask answers with
  | _ remaining ih =>
    have settles := ask.attempt_settles session digest serial (plain 0)
    cases outcome : ask.attempt session digest serial (answers 0) with
    | mk request attempted =>
    rw [outcome] at settles
    have continues : ∀ next, attempted = .again next → rank session.role next < remaining →
        EndsWithin session digest serial ask answers (remaining + 1) (remaining + 1) := by
      rintro next rfl fewer
      have rest := ih _ fewer (serial + 1) next (fun number => plain (number + 1)) rfl
      exact .later outcome (rest.mono fewer fewer)
    cases settles with
    | finished finished =>
      have turns : ∀ attempts, session.turn digest (attempts + 1) serial ask answers =
          (request.toList, some (.finished finished)) := fun attempts => by
        rw [Session.turn, outcome]
      exact .now (by simp) turns remaining
    | failed failed =>
      have turns : ∀ attempts, session.turn digest (attempts + 1) serial ask answers =
          (request.toList, some (.failed failed)) := fun attempts => by
        rw [Session.turn, outcome]
      exact .now (by simp) turns remaining
    | corrected corrected => exact continues _ rfl (size ▸ corrected.rank_lt)
    | reasked reasked => exact continues _ rfl (size ▸ reasked.rank_lt)

def Answers.ofResult (result : TurnResult) : Answers where
  rendered := .event (some ["prompt"])
  decision := ⟨"turn"⟩
  turn := .event result
  checkpoint := .event (.declined ⟨""⟩)
  yielded := .event .failed
  resume := .event { continuationId := ⟨""⟩, nextInvocation := ⟨⟨""⟩, ⟨""⟩, 0⟩ }

theorem Answers.ofResult_plain (running : result.suspending = false) :
    (Answers.ofResult result).Plain where
  rendered := by rintro kind ⟨⟩
  turn := by rintro kind ⟨⟩
  checkpoint := by rintro kind ⟨⟩
  running := by rintro _ ⟨⟩; exact running

def lostTurn : TurnResult where
  invocation := ⟨⟨"session"⟩, ⟨"turn"⟩, 0⟩
  status := .unknown
  failure := some .transportLost
  failureMatchesStatus := by rintro ⟨⟩

def rejectedTurn : TurnResult where
  invocation := ⟨⟨"session"⟩, ⟨"turn"⟩, 0⟩
  status := .failed
  failure := some .providerFailed
  replyErrors := [{ path := [], code := .notJson }]
  failureMatchesStatus := by rintro ⟨⟩

def repliedTurn (output : String) : TurnResult where
  invocation := ⟨⟨"session"⟩, ⟨"turn"⟩, 0⟩
  status := .succeeded
  outputJson := some output
  failureMatchesStatus := fun _ => ⟨rfl, rfl, rfl⟩

private theorem corrected_again {context : Input} {exhausted : Failed}
    (corrected : attempted = ask.corrected role kind template context exhausted)
    (listed : kind ∈ role.correctable) (declared : template.isSome)
    (left : ask.corrections < role.corrections) :
    ∃ next, attempted = .again next ∧
      next.corrections = ask.corrections + 1 ∧ next.drops = 0 ∧ next.resuming = false := by
  obtain ⟨text, rfl⟩ := Option.isSome_iff_exists.mp declared
  rw [Ask.corrected, if_neg (by rintro (unlisted | spent); exacts [unlisted listed, by omega])]
    at corrected
  exact ⟨_, corrected, rfl, rfl, rfl⟩

private theorem exists_correcting (session : Session Reply) (corrects : session.role.corrects) :
    ∃ result : TurnResult, result.suspending = false ∧
      ∀ (digest : String → String) (serial : Nat) (ask : Ask),
        ask.corrections < session.role.corrections →
        ∃ request next, ask.attempt session digest serial (.ofResult result) =
            (some request, .again next) ∧
          next.corrections = ask.corrections + 1 ∧ next.drops = 0 ∧ next.resuming = false := by
  simp only [Role.corrects, Bool.or_eq_true, Bool.and_eq_true, decide_eq_true_eq] at corrects
  rcases corrects with listed | ⟨waits, listed⟩
  · refine ⟨rejectedTurn, rfl, fun digest serial ask left => ?_⟩
    have ends : ({ ask with decision := ⟨"turn"⟩ }.ended session.role digest rejectedTurn
        (.ofResult rejectedTurn)) = { ask with decision := ⟨"turn"⟩ }.invalid session.role
          rejectedTurn.invocation rejectedTurn.replyErrors := rfl
    obtain ⟨next, again, counters⟩ := corrected_again ends listed
      (session.role.correctionDeclared (by omega) listed) left
    exact ⟨_, next, congrArg (Prod.mk _) again, counters⟩
  · obtain ⟨output, parses⟩ := session.role.waits.mp waits
    refine ⟨repliedTurn output, rfl, fun digest serial ask left => ?_⟩
    have ends : ({ ask with decision := ⟨"turn"⟩ }.ended session.role digest (repliedTurn output)
        (.ofResult (repliedTurn output))) =
          ({ ask with
            decision := ⟨"turn"⟩, invocation := some (repliedTurn output).invocation }.corrected
              session.role .unrecordedWait session.role.exchanges.waitUnrecorded
              (.waitUnrecorded session.role.name)
              { reason := .waitRefused, decision := some ⟨"turn"⟩
                turn := some (repliedTurn output).invocation, refusal := some .notRecorded }) := by
      unfold Ask.ended
      dsimp only [repliedTurn]
      unfold Ask.succeeded
      rw [if_neg Bool.false_ne_true, parses]
    obtain ⟨next, again, counters⟩ := corrected_again ends listed
      (session.role.waitUnrecordedDeclared (by omega) waits listed) left
    exact ⟨_, next, congrArg (Prod.mk _) again, counters⟩

private theorem attempt_lost (session : Session Reply) (digest : String → String) (serial : Nat)
    (running : ask.resuming = false) :
    ∃ request attempted, ask.attempt session digest serial (.ofResult lostTurn) =
        (some request, attempted) ∧
      (session.role.lostTurns ≤ ask.drops → ∃ failed, attempted = .failed failed) ∧
      (ask.drops < session.role.lostTurns →
        ∃ next, attempted = .again next ∧ next.corrections = ask.corrections ∧
          next.drops = ask.drops + 1 ∧ next.resuming = false) := by
  refine ⟨_, ({ ask with decision := ⟨"turn"⟩ }.lost session.role lostTurn.invocation), rfl, ?_, ?_⟩
  · intro spent
    unfold Ask.lost
    rw [running, if_neg Bool.false_ne_true, if_pos spent]
    exact ⟨_, rfl⟩
  · intro left
    unfold Ask.lost
    dsimp only
    rw [running, if_neg Bool.false_ne_true, if_neg (by omega)]
    exact ⟨_, rfl, rfl, rfl, rfl⟩

section
variable {session : Session Reply} {digest : String → String}

private theorem lost_turns_taken (running : ask.resuming = false)
    (drops : session.role.lostTurns = ask.drops + left) (enough : left < attempts) :
    left < (session.turn digest attempts serial ask fun _ => .ofResult lostTurn).1.length := by
  induction left generalizing serial ask attempts with
  | zero =>
    obtain ⟨more, rfl⟩ := Nat.exists_eq_add_of_lt enough
    obtain ⟨request, attempted, outcome, ends, -⟩ := attempt_lost session digest serial running
    obtain ⟨failed, rfl⟩ := ends (by omega)
    rw [Session.turn, outcome]
    simp
  | succ left ih =>
    obtain ⟨more, rfl⟩ := Nat.exists_eq_add_of_lt enough
    obtain ⟨request, attempted, outcome, -, continues⟩ := attempt_lost session digest serial running
    obtain ⟨next, rfl, -, dropped, still⟩ := continues (by omega)
    have rest : left < (session.turn digest (left + 1 + more) (serial + 1) next fun _ =>
        .ofResult lostTurn).1.length := ih still (by omega) (by omega)
    rw [turn_again outcome, length_append]
    simp only [Option.toList_some, length_singleton]
    omega

private theorem corrected_turns_taken
    (correcting : ∀ (digest : String → String) (serial : Nat) (ask : Ask),
      ask.corrections < session.role.corrections → ∃ request next, ask.attempt session digest serial
      (.ofResult result) = (some request, .again next) ∧ next.corrections = ask.corrections + 1 ∧
      next.drops = 0 ∧ next.resuming = false) (some_ : 0 < left)
    (corrections : session.role.corrections = ask.corrections + left)
    (enough : left + session.role.lostTurns < attempts) :
    left + session.role.lostTurns < (session.turn digest attempts serial ask fun number =>
      .ofResult (if number < left then result else lostTurn)).1.length := by
  induction left generalizing serial ask attempts with
  | zero => omega
  | succ left ih =>
    obtain ⟨more, rfl⟩ := Nat.exists_eq_add_of_lt enough
    obtain ⟨request, next, outcome, spent, drops, running⟩ := correcting digest serial ask (by omega)
    have first : ask.attempt session digest serial
        (.ofResult (if 0 < left + 1 then result else lostTurn)) = (some request, .again next) := by
      exact outcome
    rw [turn_again first, length_append]
    have shifted : (fun number : Nat => Answers.ofResult
        (if number + 1 < left + 1 then result else lostTurn)) =
          fun number => .ofResult (if number < left then result else lostTurn) := by
      funext number
      simp only [Nat.add_lt_add_iff_right]
    simp only [shifted, Option.toList_some, length_singleton]
    cases left with
    | zero =>
      have rest : session.role.lostTurns < (session.turn digest
          (0 + 1 + session.role.lostTurns + more) (serial + 1) next fun _ =>
            .ofResult lostTurn).1.length := lost_turns_taken running (by omega) (by omega)
      simp only [Nat.not_lt_zero, if_false]
      omega
    | succ left =>
      have rest : left + 1 + session.role.lostTurns < (session.turn digest
          (left + 1 + 1 + session.role.lostTurns + more) (serial + 1) next fun number =>
            .ofResult (if number < left + 1 then result else lostTurn)).1.length :=
        ih (Nat.succ_pos left) (by omega) (by omega)
      omega

end

/-! ## The reserve -/

private theorem rank_start (role : Role Reply) (context : Payload) (of : Option InvocationRef) :
    rank role (Ask.start role context of) + 1 = (role.spendable + 1) * (role.lostTurns + 1) := by
  change (role.spendable - 0) * (role.lostTurns + 1) + (role.lostTurns - 0) + 1 = _
  rw [Nat.sub_zero, Nat.sub_zero, Nat.succ_mul, Nat.add_assoc]

private theorem exists_long_ask {session : Session Reply} (corrects : session.role.corrects)
    (corrections : session.role.corrections ≠ 0) (lostTurns : session.role.lostTurns ≠ 0)
    (digest : String → String) (serial : Nat) (context : Payload) (of : Option InvocationRef) :
    ∃ answers : Nat → Answers, (∀ number, (answers number).Plain) ∧
      ∀ attempts, turnChain session.role.corrections session.role.lostTurns < attempts →
        turnChain session.role.corrections session.role.lostTurns <
          (session.turn digest attempts serial (Ask.start session.role context of)
            answers).1.length := by
  obtain ⟨result, plain, correcting⟩ := exists_correcting session corrects
  refine ⟨fun number => .ofResult (if number = 0 then lostTurn
    else if number - 1 < session.role.corrections then result else lostTurn), ?_, ?_⟩
  · intro number
    refine Answers.ofResult_plain ?_
    split
    · rfl
    · split
      · exact plain
      · rfl
  · intro attempts enough
    obtain ⟨more, rfl⟩ := Nat.exists_eq_add_of_lt enough
    have running : (Ask.start session.role context of).resuming = false := rfl
    obtain ⟨request, attempted, outcome, -, continues⟩ :=
      attempt_lost session digest serial running
    obtain ⟨next, rfl, spent, -, -⟩ := continues (Nat.pos_of_ne_zero lostTurns)
    have left : session.role.corrections = next.corrections + session.role.corrections := by
      rw [spent]
      exact (Nat.zero_add _).symm
    have rest : session.role.corrections + session.role.lostTurns < (session.turn digest
        (turnChain session.role.corrections session.role.lostTurns + more) (serial + 1) next
          fun number => .ofResult (if number < session.role.corrections then result
            else lostTurn)).1.length := by
      refine corrected_turns_taken correcting (Nat.pos_of_ne_zero corrections) left ?_
      unfold turnChain
      omega
    have first : (Ask.start session.role context of).attempt session digest serial
        ((fun number => .ofResult (if number = 0 then lostTurn
          else if number - 1 < session.role.corrections then result else lostTurn)) 0) =
        (some request, .again next) := outcome
    rw [turn_again first, length_append]
    simp only [Nat.add_one_ne_zero, if_false, Nat.add_sub_cancel, Option.toList_some,
      length_singleton]
    unfold turnChain at rest ⊢
    omega

/-- An ask in which no turn suspends ends once, and keeps to its reserved turns exactly when its
role cannot both correct and re-ask. -/
theorem ask_fits_its_turn_chain_iff (session : Session Reply) (digest : String → String) :
    (∀ (serial : Nat) (context : Payload) (of : Option InvocationRef) (answers : Nat → Answers),
      (∀ number, (answers number).Plain) →
      EndsWithin session digest serial (Ask.start session.role context of) answers
        ((session.role.corrections + 1) * (session.role.lostTurns + 1))
        ((session.role.corrections + 1) * (session.role.lostTurns + 1))) ∧
    ((∀ (serial : Nat) (context : Payload) (of : Option InvocationRef) (answers : Nat → Answers),
      (∀ number, (answers number).Plain) →
      ∃ attempts, EndsWithin session digest serial (Ask.start session.role context of) answers
        attempts (turnChain session.role.corrections session.role.lostTurns)) ↔
      session.role.corrections = 0 ∨ session.role.lostTurns = 0 ∨
        session.role.corrects = false) := by
  have spendable : session.role.spendable ≤ session.role.corrections := by
    unfold Role.spendable
    split <;> omega
  refine ⟨?_, ?_, ?_⟩
  · intro serial context of answers plain
    have ends := turn_ends session digest serial (Ask.start session.role context of) plain
    rw [rank_start] at ends
    have most := Nat.mul_le_mul_right (session.role.lostTurns + 1)
      (Nat.add_le_add_right spendable 1)
    exact ends.mono most most
  · intro fits
    by_contra both
    obtain ⟨corrections, lostTurns, corrects⟩ := by simpa only [not_or] using both
    have corrects : session.role.corrects := by simpa using corrects
    obtain ⟨answers, plain, long⟩ :=
      exists_long_ask corrects corrections lostTurns digest 0 ⟨""⟩ none
    obtain ⟨attempts, requests, ended, -, short, turns⟩ := fits 0 ⟨""⟩ none answers plain
    have taken := long (attempts + turnChain session.role.corrections session.role.lostTurns + 1)
      (by omega)
    rw [turns _ (by omega)] at taken
    dsimp only at taken
    omega
  · intro condition serial context of answers plain
    have ends := turn_ends session digest serial (Ask.start session.role context of) plain
    rw [rank_start] at ends
    refine ⟨_, ends.mono le_rfl ?_⟩
    unfold turnChain
    rcases condition with none_ | none_ | never
    · rw [none_] at spendable ⊢
      rw [Nat.le_zero.mp spendable]
      omega
    · rw [none_]
      omega
    · have zero : session.role.spendable = 0 := if_neg (by simp [never])
      rw [zero]
      omega

def plainSession : Session Unit where
  role :=
    { name := "judge", prompt := "judge.j2", corrections := 1, lostTurns := 1, charge := .free
      exchanges := { correction := some "correction.j2" }, wireReply := fun _ => .ok (.result ())
      replyNeedsCheckpoint := fun _ => false, corrections_le := by decide
      lostTurns_le := by decide, correctionDeclared := fun _ _ => rfl
      waitUnrecordedDeclared := by rintro _ ⟨⟩, resumeDeclared := by rintro ⟨⟩, waits := by simp }
  sessionId := ⟨"session"⟩
  generation := 0
  invocationId serial := ⟨toString serial⟩

/-- A loss, a rejected reply, another loss and a reply: four turns, where three are reserved. -/
theorem ask_can_outrun_its_turn_chain :
    let answers : Nat → Answers := fun number => .ofResult
      (if number = 1 then rejectedTurn else if number = 3 then repliedTurn "" else lostTurn)
    (∀ number, (answers number).Plain) ∧
      (∀ more, ∃ finished, plainSession.turn id (4 + more) 0 (Ask.start plainSession.role ⟨""⟩ none)
        answers = ((plainSession.turn id 4 0 (Ask.start plainSession.role ⟨""⟩ none) answers).1,
          some (.finished finished))) ∧
      (plainSession.turn id 4 0 (Ask.start plainSession.role ⟨""⟩ none) answers).1.length = 4 ∧
      turnChain plainSession.role.corrections plainSession.role.lostTurns = 3 := by
  refine ⟨fun number => Answers.ofResult_plain ?_, fun more => ?_, by decide +kernel, rfl⟩
  · split
    · rfl
    · split <;> rfl
  · rw [Nat.add_comm]
    exact ⟨_, rfl⟩

end VibeServeCore.Flows
