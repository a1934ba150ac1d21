/- source: _proofs.py, _values.py
   digest: Total value-only proof predicates; only `proven` grants a required fact. -/

import VibeServeCore.Types.Kernel

namespace VibeServeCore.Proofs

open Types List

inductive ProofReason
  | absentReceipt | notAccepted | absentDeclaration | absentEpisode | absentRequest
  | absentObservation | absentInvocation | absentSession | absentResource | absentCharge
  | absentCheckpoint | absentPublication | unresolved | incompleteManifest | incompleteHistory
  | emptyRequired
  deriving DecidableEq

inductive ProofField
  | receiptId | feedbackId | decisionId | requestId | invocationId | sessionId | resourceId
  | scope | generation | admissionId | payload | digest | schema | lifecycle | normalization
  | revision | retention | sequence | status | manifest | currency | amount | cursor
  | publication | disposition
  deriving DecidableEq

namespace ProofReason

def text : ProofReason → String
  | .absentReceipt => "absent_receipt"
  | .notAccepted => "not_accepted"
  | .absentDeclaration => "absent_declaration"
  | .absentEpisode => "absent_episode"
  | .absentRequest => "absent_request"
  | .absentObservation => "absent_observation"
  | .absentInvocation => "absent_invocation"
  | .absentSession => "absent_session"
  | .absentResource => "absent_resource"
  | .absentCharge => "absent_charge"
  | .absentCheckpoint => "absent_checkpoint"
  | .absentPublication => "absent_publication"
  | .unresolved => "unresolved"
  | .incompleteManifest => "incomplete_manifest"
  | .incompleteHistory => "incomplete_history"
  | .emptyRequired => "empty_required"

end ProofReason

namespace ProofField

def text : ProofField → String
  | .receiptId => "receipt_id"
  | .feedbackId => "feedback_id"
  | .decisionId => "decision_id"
  | .requestId => "request_id"
  | .invocationId => "invocation_id"
  | .sessionId => "session_id"
  | .resourceId => "resource_id"
  | .scope => "scope"
  | .generation => "generation"
  | .admissionId => "admission_id"
  | .payload => "payload"
  | .digest => "digest"
  | .schema => "schema"
  | .lifecycle => "lifecycle"
  | .normalization => "normalization"
  | .revision => "revision"
  | .retention => "retention"
  | .sequence => "sequence"
  | .status => "status"
  | .manifest => "manifest"
  | .currency => "currency"
  | .amount => "amount"
  | .cursor => "cursor"
  | .publication => "publication"
  | .disposition => "disposition"

end ProofField

inductive Verdict (Fact : Type)
  | proven (value : Fact)
  | missing (reason : ProofReason)
  | mismatch (field : ProofField)
  deriving DecidableEq

namespace Verdict

variable {Fact Other : Type}

def isProven : Verdict Fact → Bool
  | .proven _ => true
  | _ => false

def value? : Verdict Fact → Option Fact
  | .proven value => some value
  | _ => none

def andThen (proof : Verdict Fact) (next : Fact → Verdict Other) : Verdict Other :=
  match proof with
  | .proven value => next value
  | .missing reason => .missing reason
  | .mismatch field => .mismatch field

@[simp] theorem andThen_eq_proven {proof : Verdict Fact} {next : Fact → Verdict Other}
    {result : Other} :
    proof.andThen next = .proven result ↔ ∃ value, proof = .proven value ∧
      next value = .proven result := by
  cases proof <;> simp [andThen]

theorem isProven_iff {proof : Verdict Fact} : proof.isProven ↔ ∃ value, proof = .proven value := by
  cases proof <;> simp [isProven]

end Verdict

/-- Digests of values, as parameters. -/
structure Digests where
  request : Request → String
  command : Command → String
  selection : Selection → String
  signal : Signal → String

def canonicalCommand : Command → Command
  | .work ⟨decisionId, scope, .operation command⟩ =>
    .work ⟨decisionId, scope, .operation
      { command with
        registeredWire := none, registeredTurn := none, registeredMeasurement := none
        registeredScopeReopen := none }⟩
  | command => command

def deeplyImmutable : Command → Bool
  | .work ⟨_, _, .operation command⟩ => command.request.immutable
  | _ => true

def identityMismatch (checks : List (ProofField × Bool)) : Option ProofField :=
  (checks.filter fun check => !check.2).foldl
    (fun best check =>
      match best with
      | none => some check.1
      | some field => if check.1.ctorIdx < field.ctorIdx then some check.1 else best)
    none

def checked {Fact : Type} (checks : List (ProofField × Bool)) (next : Verdict Fact) :
    Verdict Fact :=
  match identityMismatch checks with
  | some field => .mismatch field
  | none => next

private theorem foldl_first_some (checks : List (ProofField × Bool)) (field : ProofField) :
    ∃ found, checks.foldl
      (fun best check =>
        match best with
        | none => some check.1
        | some field => if check.1.ctorIdx < field.ctorIdx then some check.1 else best)
      (some field) = some found := by
  induction checks generalizing field with
  | nil => exact ⟨field, rfl⟩
  | cons check checks ih =>
    simp only [foldl_cons]
    split_ifs
    · exact ih check.1
    · exact ih field

private theorem identityMismatch_eq_none {checks : List (ProofField × Bool)} :
    identityMismatch checks = none ↔ ∀ check ∈ checks, check.2 := by
  unfold identityMismatch
  constructor
  · intro passed check mem
    by_contra failed
    have kept : check ∈ checks.filter fun check => !check.2 :=
      mem_filter.mpr ⟨mem, by simpa using failed⟩
    cases failing : checks.filter fun check => !check.2 with
    | nil => rw [failing] at kept; cases kept
    | cons first rest =>
      rw [failing] at passed
      obtain ⟨found, some_⟩ := foldl_first_some rest first.1
      exact absurd (passed.symm.trans some_) (by simp)
  · intro passed
    have none_failing : (checks.filter fun check => !check.2) = [] := by
      refine filter_eq_nil_iff.mpr fun check mem => ?_
      simp [passed check mem]
    rw [none_failing, foldl_nil]

@[simp] theorem checked_eq_proven {Fact : Type} {checks : List (ProofField × Bool)}
    {next : Verdict Fact} {value : Fact} :
    checked checks next = .proven value ↔
      (∀ check ∈ checks, check.2) ∧ next = .proven value := by
  unfold checked
  cases found : identityMismatch checks with
  | none =>
    have passed := identityMismatch_eq_none.mp found
    constructor
    · intro proven
      exact ⟨passed, proven⟩
    · intro held
      exact held.2
  | some field =>
    constructor
    · intro proven
      cases proven
    · intro held
      rw [identityMismatch_eq_none.mpr held.1] at found
      cases found

variable (digests : Digests)

def receiptPayload (receipt : DecisionReceipt) (canonical : Option Command) :
    Verdict DecisionReceipt :=
  match receipt.decision with
  | none => .missing .absentReceipt
  | some decision =>
    if !deeplyImmutable decision then .mismatch .payload
    else if canonical.any fun expected =>
        !deeplyImmutable expected || canonicalCommand decision ≠ canonicalCommand expected then
      .mismatch .payload
    else if receipt.payloadDigest ≠ digests.command (canonicalCommand decision) then
      .mismatch .digest
    else .proven receipt

def ingressChecks (decision : Command) (canonical : Option Command) (identity : DecisionId) :
    List (ProofField × Bool) :=
  match canonical with
  | none => []
  | some expected =>
    [(.decisionId, expected.decisionId = identity),
      (.scope, decision.scope.owner = expected.scope.owner),
      (.generation, decision.scope.generation = expected.scope.generation)]

def acceptedReceiptFor (receipts : List DecisionReceipt) (identity : Option DecisionId)
    (canonical : Option Command) : Verdict DecisionReceipt :=
  match identity with
  | none => .missing .absentReceipt
  | some identity =>
    match receipts.filter fun receipt => receipt.decisionId = identity with
    | [] => .missing .absentReceipt
    | [receipt] =>
      match receipt.decision, receipt.feedback with
      | none, _ => .missing .absentReceipt
      | some _, .rejected _ => .missing .notAccepted
      | some decision, .accepted feedback =>
        checked
          ((.feedbackId, feedback.decisionId = identity) ::
            (.decisionId, decision.decisionId = identity) :: ingressChecks decision canonical identity)
          (receiptPayload digests receipt canonical)
    | _ => .mismatch .receiptId

theorem acceptedReceiptFor_eq_proven {receipts : List DecisionReceipt} {identity : DecisionId}
    {canonical : Option Command} {receipt : DecisionReceipt}
    (proven : acceptedReceiptFor digests receipts (some identity) canonical = .proven receipt) :
    (receipts.filter fun row => row.decisionId = identity) = [receipt] ∧
      receipt.decisionId = identity ∧ receipt.decision.isSome ∧
      receipt.feedback.isAccepted := by
  unfold acceptedReceiptFor at proven
  simp only at proven
  split at proven
  · cases proven
  · rename_i row rows
    have mem : row ∈ receipts.filter fun row => row.decisionId = identity := by
      rw [rows]
      exact mem_singleton_self _
    have named : row.decisionId = identity := by simpa using (mem_filter.mp mem).2
    split at proven
    · cases proven
    · cases proven
    rename_i decision feedback decided accepted
    obtain ⟨-, payload⟩ := checked_eq_proven.mp proven
    have same : receipt = row := by
      unfold receiptPayload at payload
      rw [decided] at payload
      simp only at payload
      split_ifs at payload
      cases payload
      rfl
    rw [same]
    exact ⟨rows, named, by rw [decided]; rfl, by rw [accepted]; rfl⟩
  · cases proven

def currentAdmission (attempt : AttemptView) (scope : Scope) (episode : Option DecisionId) :
    Verdict DecisionId :=
  match episode, attempt.admissionId with
  | some episode, some admission =>
    if scope.owner ≠ .attempt attempt.attemptId then .mismatch .scope
    else if attempt.generation ≠ scope.generation then .mismatch .generation
    else if admission ≠ episode then .mismatch .admissionId
    else .proven episode
  | _, _ => .missing .absentEpisode

def currentClosure (attempt : AttemptView) (closure : Option AttemptClosure) :
    Verdict AttemptClosure :=
  match closure, attempt.closure with
  | some closure, some recorded =>
    match attempt.admissionId with
    | none => .missing .absentEpisode
    | some admission =>
      checked
        [(.requestId, closure.authority = recorded.authority),
          (.admissionId, closure.admissionId = admission),
          (.admissionId, recorded.admissionId = admission),
          (.payload, closure.requestedAt = recorded.requestedAt),
          (.disposition, closure.disposition = recorded.disposition)]
        (.proven closure)
  | _, _ => .missing .absentRequest

def requestMatches (record : RequestRecord) (expected : Request) : Verdict RequestRecord :=
  let request := record.request
  if expected.requestId.isNone || request.requestId.isNone then .missing .absentRequest
  else if request.scope.owner.isAttempt &&
      (request.admissionId.isNone || expected.admissionId.isNone) then
    .missing .absentEpisode
  else
    checked
      [(.requestId, some record.requestId = expected.requestId),
        (.requestId, request.requestId = expected.requestId),
        (.scope, request.scope.owner = expected.scope.owner),
        (.generation, request.scope.generation = expected.scope.generation),
        (.admissionId, request.admissionId = expected.admissionId)]
      (if request ≠ expected then .mismatch .payload
      else if record.payloadDigest ≠ digests.request expected then .mismatch .digest
      else if record.lifecycle ≠ requestLifecycle expected then .mismatch .lifecycle
      else .proven record)

def observationFor (record : RequestRecord) (observation : Observation) : Verdict Observation :=
  let request := record.request
  if request.requestId.isNone then .missing .absentRequest
  else if request.scope.owner.isAttempt &&
      (request.admissionId.isNone || observation.admissionId.isNone) then
    .missing .absentEpisode
  else
    checked
      [(.requestId, observation.requestId = record.requestId),
        (.requestId, request.requestId = some record.requestId),
        (.scope, observation.scope.owner = request.scope.owner),
        (.generation, observation.scope.generation = request.scope.generation),
        (.admissionId, observation.admissionId = request.admissionId)]
      (.proven observation)

structure Correlated (record : RequestRecord) (observation : Observation) : Prop where
  named : observation.requestId = record.requestId
  canonical : record.request.requestId = some record.requestId
  scope : observation.scope = record.request.scope
  admission : observation.admissionId = record.request.admissionId
  episode : record.request.scope.owner.isAttempt → record.request.admissionId.isSome

variable {record : RequestRecord} {observation : Observation}

theorem observationFor_eq_proven {value : Observation} :
    observationFor record observation = .proven value ↔
      value = observation ∧ Correlated record observation := by
  unfold observationFor
  dsimp only
  constructor
  · intro proven
    split_ifs at proven with absent episode
    obtain ⟨checks, same⟩ := checked_eq_proven.mp proven
    simp only [forall_mem_cons, decide_eq_true_eq] at checks
    obtain ⟨named, canonical, owner, generation, admission, -⟩ := checks
    refine ⟨(Verdict.proven.inj same).symm, named, canonical, ?_, admission, fun attempt => ?_⟩
    · cases scope : observation.scope
      cases expected : record.request.scope
      simp_all
    · simp only [attempt, Bool.true_and, Bool.or_eq_true, not_or] at episode
      simpa [Option.isNone_iff_eq_none, Option.isSome_iff_ne_none] using episode.1
  · rintro ⟨rfl, correlated⟩
    rw [if_neg (by simp [correlated.canonical]), if_neg, checked_eq_proven]
    · simp [correlated.named, correlated.canonical, correlated.scope, correlated.admission]
    rw [correlated.admission]
    intro absent
    simp only [Bool.and_eq_true, Bool.or_self] at absent
    have present := correlated.episode absent.1
    simp_all

theorem observationFor_isProven :
    (observationFor record observation).isProven ↔ Correlated record observation := by
  rw [Verdict.isProven_iff]
  simp [observationFor_eq_proven]

theorem Correlated.congr {next : RequestRecord} (correlated : Correlated record observation)
    (same : next.requestId = record.requestId) (request : next.request = record.request) :
    Correlated next observation := by
  obtain ⟨named, canonical, scope, admission, episode⟩ := correlated
  exact ⟨by rw [named, same], by rw [request, same, canonical], by rw [request, scope],
    by rw [request, admission], by rw [request]; exact episode⟩

theorem Correlated.later {later : Observation} (correlated : Correlated record observation)
    (named : later.requestId = observation.requestId) (scope : later.scope = observation.scope)
    (admission : later.admissionId = observation.admissionId) : Correlated record later :=
  ⟨named.trans correlated.named, correlated.canonical, scope.trans correlated.scope,
    admission.trans correlated.admission, correlated.episode⟩

/-- `fresh_observation` against the one accepted observation; one row has no internal conflict. -/
def freshObservation (previous : Option Observation) (incoming : Observation) :
    Verdict Observation :=
  match previous with
  | none => .proven incoming
  | some row =>
    if row.requestId ≠ incoming.requestId then .proven incoming
    else if (row.scope.owner.isAttempt && row.admissionId.isNone) ||
        (incoming.scope.owner.isAttempt && incoming.admissionId.isNone) then
      .missing .absentEpisode
    else
      checked
        [(.scope, incoming.scope.owner = row.scope.owner),
          (.generation, incoming.scope.generation = row.scope.generation),
          (.admissionId, incoming.admissionId = row.admissionId)]
        (if incoming.sequence < row.sequence ||
            (incoming.sequence = row.sequence && incoming ≠ row) then
          .mismatch .sequence
        else .proven incoming)

theorem freshObservation_correlated {previous incoming : Observation}
    (stored : Correlated record previous) (answer : Correlated record incoming) :
    freshObservation (some previous) incoming =
      if incoming.sequence < previous.sequence ||
          (incoming.sequence = previous.sequence && incoming ≠ previous) then .mismatch .sequence
      else .proven incoming := by
  have named : previous.requestId = incoming.requestId := stored.named.trans answer.named.symm
  have episode : ¬((previous.scope.owner.isAttempt && previous.admissionId.isNone) ||
      (incoming.scope.owner.isAttempt && incoming.admissionId.isNone)) := by
    rw [stored.scope, stored.admission, answer.scope, answer.admission, Bool.or_self]
    intro absent
    simp only [Bool.and_eq_true] at absent
    have present := stored.episode absent.1
    simp_all
  simp only [freshObservation, named, ne_eq, not_true_eq_false, if_false, episode]
  simp [checked, identityMismatch, stored.scope, answer.scope, stored.admission, answer.admission]

theorem freshObservation_eq_proven {previous incoming value : Observation}
    (stored : Correlated record previous) (answer : Correlated record incoming)
    (proven : freshObservation (some previous) incoming = .proven value) :
    previous.sequence ≤ incoming.sequence ∧
      (incoming.sequence = previous.sequence → incoming = previous) := by
  rw [freshObservation_correlated stored answer] at proven
  split_ifs at proven with stale
  simp only [Bool.or_eq_true, decide_eq_true_eq, Bool.and_eq_true, not_or, not_and,
    not_not, not_lt] at stale
  exact ⟨stale.1, stale.2⟩

variable (observation : Observation) (request : Request) (receipts : List DecisionReceipt)
  (records : RecordsState)

inductive InvocationExpectation
  | turn (turn : TurnSpec)
  | ref (ref : InvocationRef)

def invocationFor (invocations : List Invocation) (expected : InvocationExpectation)
    (scope : Scope) : Verdict Invocation :=
  let identity := match expected with
    | .turn turn => turn.invocationId
    | .ref ref => ref.invocationId
  let session := match expected with
    | .turn turn => turn.session.sessionId
    | .ref ref => ref.sessionId
  match invocations.filter fun row => row.invocation.invocationId = identity with
  | [] => .missing .absentInvocation
  | [row] =>
    -- A turn carries no physical session generation, so only a reference can pin it.
    let generation := match expected with
      | .turn _ => row.invocation.generation
      | .ref ref => ref.generation
    checked
      [(.invocationId, row.turn.invocationId = identity),
        (.sessionId, row.invocation.sessionId = session),
        (.sessionId, row.turn.session.sessionId = session),
        (.scope, row.scope.owner = scope.owner),
        (.generation, row.scope.generation = scope.generation),
        (.generation, row.invocation.generation = generation)]
      (match expected with
      | .turn turn => if row.turn ≠ turn then .mismatch .payload else .proven row
      | .ref _ => .proven row)
  | _ => .mismatch .invocationId

def descriptorMatches (registry : List OperationDescriptor) (offered : Capabilities)
    (wire : OperationWire) (lifecycle : LifecycleClass)
    (normalization : OperationNormalizationKind) : Verdict OperationDescriptor :=
  match registry.filter fun row => row.kind = wire.schemaRef.kind,
      offered.operations.filter fun row => row.kind = wire.schemaRef.kind with
  | [], _ => .missing .absentDeclaration
  | _, [] => .missing .absentDeclaration
  | [row], [offer] =>
    checked
      [(.schema, row.requestSchema = wire.schemaRef.requestSchema),
        (.schema, row.outcomeSchema = wire.schemaRef.outcomeSchema),
        (.lifecycle, row.lifecycle = lifecycle),
        (.lifecycle, wire.schemaRef.lifecycle = lifecycle),
        (.normalization, row.normalization = normalization),
        (.resourceId, row.resourcePool = offer.resourcePool),
        (.schema, row.requestSchema = offer.requestSchema),
        (.schema, row.outcomeSchema = offer.outcomeSchema),
        (.schema, (row.inspect, row.cancel, row.watch) = (offer.inspect, offer.cancel, offer.watch)),
        (.lifecycle, row.lifecycle = offer.lifecycle),
        (.normalization, row.normalization = offer.normalization),
        (.revision, row.revisionAuthority = offer.revisionAuthority)]
      (.proven row)
  | _, _ => .mismatch .schema

structure OperationDecision where
  work : Work
  command : OperationCommand

def operationBinding (operation : OperationDecision) : Verdict OperationDecision :=
  match operation.command.registeredWire with
  | none => .missing .absentDeclaration
  | some wire =>
    let command := operation.command
    if command.request.lifecycle = .sessionTurn && command.registeredTurn.isNone then
      .missing .absentDeclaration
    else if !command.request.immutable || command.request.canonicalJson ≠ wire.payloadJson then
      .mismatch .payload
    else if command.normalizedTurn ≠ command.registeredTurn ||
        command.normalizedMeasurement ≠ command.registeredMeasurement ||
        command.normalizedScopeReopen ≠ command.registeredScopeReopen then
      .mismatch .normalization
    else .proven operation

def receiptOperation (receipt : DecisionReceipt) : Verdict OperationDecision :=
  match receipt.decision with
  | some (.work work) =>
    match work.body with
    | .operation command => operationBinding ⟨work, command⟩
    | _ => .mismatch .payload
  | _ => .mismatch .payload

def operationIdFor (decisionId : DecisionId) : OperationId := ⟨"operation:" ++ decisionId.root⟩

def operationFor (request : Request) : Verdict OperationDecision :=
  (acceptedReceiptFor digests receipts request.decisionId none).andThen fun receipt =>
    (receiptOperation receipt).andThen fun operation =>
      match request.body with
      | .executeRegisteredOperation operationId wire _ _ =>
        match request.requestId with
        | none => .missing .absentRequest
        | some requestId =>
          if requestId ∉ receipt.requestIds then .mismatch .requestId
          else
            checked
              [(.decisionId, operationId = operationIdFor operation.work.decisionId),
                (.scope, request.scope.owner = operation.work.scope.owner),
                (.generation, request.scope.generation = operation.work.scope.generation),
                (.payload, some wire = operation.command.registeredWire)]
              (.proven operation)
      | _ => .mismatch .payload

def requestDependency (rows : List RequestRecord) : Verdict RequestRecord :=
  match rows with
  | [] => .missing .absentRequest
  | [row] =>
    (requestMatches digests row row.request).andThen fun _ =>
      -- Prepared and dispatched requests remain unresolved while outcomes arrive.
      if row.phase ≠ .completed then .missing .unresolved
      else
        match row.observation with
        | none => .missing .absentObservation
        | some observation =>
          (observationFor row observation).andThen fun observation =>
            if observation.accepted && observation.terminal && observation.status = .succeeded then
              .proven row
            else .mismatch .status
  | _ => .mismatch .requestId

def dependencyProofs : List (Verdict RequestRecord) :=
  request.dependsOn.map fun identity => requestDependency digests (records.find identity)

def dependenciesFor : Verdict Request :=
  match (dependencyProofs digests request records).filter fun proof => !proof.isProven with
  | [] => .proven request
  | failures =>
    match failures.find? fun proof => proof ≠ .missing .unresolved with
    | some (.missing reason) => .missing reason
    | some (.mismatch field) => .mismatch field
    | _ => .missing .unresolved

def requestDependencyStatus : DependencyStatus :=
  if request.decisionId.isSome &&
      !(acceptedReceiptFor digests receipts request.decisionId none).isProven then
    .failed
  else
    match dependenciesFor digests request records with
    | .proven _ => .succeeded
    | .missing .unresolved | .missing .absentRequest => .pending
    | _ => .failed

def dependencyFailed : Bool :=
  (dependencyProofs digests request records).any fun proof =>
    match proof with
    | .mismatch .status => true
    | .missing .unresolved | .missing .absentRequest | .missing .absentReceipt => false
    | .missing _ => true
    | _ => false

def admissionRemaining (attempts : List AttemptView) (maxAttempts : Nat) (reserved : Nat) : Nat :=
  let consumed : Int := ((attempts.flatMap (·.charges)).filter fun charge =>
    charge.kind = .admission).foldl
      (fun total charge => total + ((charge.charged : Int) - charge.refunded)) 0
  ((maxAttempts : Int) - consumed - reserved).toNat

def committedStop (run : RunState) : Verdict Finish :=
  match run.receipts.find? fun row =>
      (match row.decision with
      | some (.finish _) => true
      | _ => false) && (row.feedback.isAccepted || row.completion.isSome) with
  | none => .missing .absentReceipt
  | some receipt =>
    if !receipt.feedback.isAccepted then .mismatch .disposition
    else
      (acceptedReceiptFor digests run.receipts (some receipt.decisionId) none).andThen fun _ =>
        match receipt.decision, run.result with
        | some (.finish _), none => .missing .unresolved
        | some (.finish stop), some result =>
          checked
            [(.scope, stop.scope.owner = .run run.runId),
              (.generation, stop.scope.generation = run.generation),
              (.status, run.status = .closing || run.status = .terminal),
              (.disposition, stop.result = result)]
            (.proven stop)
        | _, _ => .mismatch .payload

def draining (run : RunState) : Bool :=
  match committedStop digests run with
  | .proven stop => run.status = .closing && stop.mode = .drain
  | _ => false

/-! ## Release proofs -/

def resolvedObservation : Verdict Observation :=
  if !observation.terminal || !observation.released || observation.status = .unknown ||
      observation.status = .pending then
    .missing .unresolved
  else if !observation.childrenComplete then .missing .incompleteManifest
  else .proven observation

def releaseSource (source : RequestRecord) : Verdict Observation :=
  let request := source.request
  if request.requestId.isNone then .missing .absentRequest
  else if request.scope.owner.isAttempt &&
      (request.admissionId.isNone || observation.admissionId.isNone) then
    .missing .absentEpisode
  else
    checked
      [(.requestId, request.requestId = some source.requestId),
        (.requestId, observation.requestId = source.requestId),
        (.scope, observation.scope.owner = request.scope.owner),
        (.generation, observation.scope.generation = request.scope.generation),
        (.admissionId, observation.admissionId = request.admissionId)]
      ((requestMatches digests source source.request).andThen fun _ => .proven observation)

def releaseNonownership : Bool :=
  !observation.accepted && observation.status.retryableFailure

def releasedRecord (owner : RequestRecord) : Verdict Observation :=
  match owner.observation with
  | none => .missing .absentObservation
  | some observation =>
    if (owner.lifecycle = .ownedJob || owner.lifecycle = .sessionTurn) &&
        observation.resourceId.isNone && !releaseNonownership observation then
      .missing .absentResource
    else
      (releaseSource digests observation owner).andThen fun _ => resolvedObservation observation

def uniqueSource (sources : List RequestRecord) (requestId : RequestId) :
    Verdict (Option RequestRecord) :=
  match sources.filter fun source => source.requestId = requestId with
  | [] => .proven none
  | [source] => .proven (some source)
  | _ => .mismatch .requestId

def jobReleaseBinding (owner : OwnedJob) (observation : Observation) (source : RequestRecord) :
    Verdict Observation :=
  checked
    [(.requestId, observation.requestId = owner.origin.submission),
      (.resourceId, observation.resourceId = owner.resourceId),
      (.scope, observation.scope.owner = owner.scope.owner),
      (.generation, observation.scope.generation = owner.scope.generation)]
    (let bound := match owner.origin, source.request.body with
      | .measurement _ plan, .submitMeasurement requested => decide (requested = plan)
      | .registered _ operationId _ _, .executeRegisteredOperation requested _ _ _ =>
        decide (requested = operationId)
      | _, _ => false
    if !bound then .mismatch .payload
    else if observation.status ≠ owner.status then .mismatch .status
    else if !owner.terminal || !owner.released then .missing .unresolved
    else .proven observation)

def releasedJob (owner : OwnedJob) (sources : List RequestRecord) : Verdict Observation :=
  match owner.observation with
  | none => .missing .absentObservation
  | some observation =>
    if owner.resourceId.isNone && !releaseNonownership observation then .missing .absentResource
    else
      (uniqueSource sources owner.origin.submission).andThen fun source =>
        match source with
        | none => .missing .absentRequest
        | some source =>
          (releaseSource digests observation source).andThen fun _ =>
            (jobReleaseBinding owner observation source).andThen fun _ =>
              resolvedObservation observation

def releasedChildSource (owner : ChildLease) (observation : Observation)
    (sources : List RequestRecord) : Verdict Observation :=
  (uniqueSource sources observation.requestId).andThen fun source =>
    match source with
    | none => .missing .absentRequest
    | some source =>
      (releaseSource digests observation source).andThen fun _ =>
        checked
          [(.resourceId, observation.resourceId = some owner.resourceId),
            (.scope, observation.scope.owner = owner.scope.owner),
            (.generation, observation.scope.generation = owner.scope.generation)]
          (resolvedObservation observation)

def sameIdentities {Id : Type} [DecidableEq Id] (first second : List Id) : Bool :=
  first.all (· ∈ second) && second.all (· ∈ first)

def releasedChild (owner : ChildLease) (sources : List RequestRecord) : Verdict Observation :=
  match owner.observation with
  | none => .missing .absentObservation
  | some observation =>
    if !owner.watermarkHistoryComplete ||
        !sameIdentities (owner.observationWatermarks.map (·.sourceRequest))
          owner.sourceRequests then
      .missing .incompleteHistory
    else if !owner.observationWatermarks.any fun mark => mark.observation = observation then
      .mismatch .manifest
    else
      match (owner.observationWatermarks.map fun mark =>
          releasedChildSource digests owner mark.observation sources).find?
            fun proof => !proof.isProven with
      | some failed => failed
      | none => .proven observation

def submissionIdentity : Verdict MeasurementIdentity :=
  match request.body with
  | .executeRegisteredOperation .. =>
    (operationFor digests receipts request).andThen fun operation =>
      match operation.command.registeredMeasurement with
      | some identity => .proven identity
      | none => .missing .absentDeclaration
  | .submitMeasurement plan =>
    match plan.candidate.revision? with
    | none => .missing .absentCheckpoint
    | some candidate =>
      match MeasurementIdentity.fromPlan plan candidate with
      | some identity => .proven identity
      | none => .mismatch .payload
  | _ => .missing .absentRequest

def submissionBudgetFor (budgets : List SubmissionBudget) (receipts : List DecisionReceipt) :
    Verdict SubmissionBudget :=
  match request.requestId with
  | none => .missing .absentRequest
  | some requestId =>
    (submissionIdentity digests request receipts).andThen fun identity =>
      match budgets.filter fun budget => budget.receipts.any fun receipt =>
          match receipt with
          | .prepared prepared _ _ _ => prepared = requestId
          | .historical _ _ => false with
      | [] => .missing .absentReceipt
      | [budget] =>
        checked
          [(.scope, budget.scope.owner = request.scope.owner),
            (.generation, budget.scope.generation = request.scope.generation),
            (.normalization, budget.identity = identity)]
          (.proven budget)
      | _ => .mismatch .requestId

def occupiedEpisode (slots : List Slot) (request : AdmissionRequest) : Verdict Slot :=
  let target := request.target
  match slots.filter fun slot =>
      slot.attempt.attemptId = target.attemptId || slot.admissionId = request.decisionId with
  | [] => .missing .absentResource
  | [slot] =>
    checked
      [(.scope, slot.attempt.attemptId = target.attemptId),
        (.generation, slot.attempt.generation = target.generation),
        (.admissionId, slot.admissionId = request.decisionId)]
      (if slot.pools ≠ request.pools || !slot.pools.Nodup || !request.pools.Nodup then
        .mismatch .manifest
      else .proven slot)
  | _ => .mismatch .manifest

end VibeServeCore.Proofs
