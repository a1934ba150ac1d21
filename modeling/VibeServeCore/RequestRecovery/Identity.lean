/- source: _request_recovery.py
   digest: Recovery reads of other rows only what never changes: their identity and request. -/

import VibeServeCore.RequestRecovery.Barrier

/-! Rows are looked up by identity, and their request, digest and lifecycle are read: no other
change of a row disturbs the deadline of another record. -/

namespace VibeServeCore.RequestRecovery

open Types Proofs Foundation.Ledger

structure RowIdentity where
  requestId : RequestId
  request : Request
  payloadDigest : String
  lifecycle : LifecycleClass

def identity (row : RequestRecord) : RowIdentity :=
  ⟨row.requestId, row.request, row.payloadDigest, row.lifecycle⟩

structure SameRows (before after : RecordsState) : Prop where
  record : ∀ requestId,
    (after.record requestId).map identity = (before.record requestId).map identity
  count : ∀ requestId, (after.find requestId).length = (before.find requestId).length
  children : after.children = before.children

theorem SameRows.refl (state : RecordsState) : SameRows state state :=
  ⟨fun _ => rfl, fun _ => rfl, rfl⟩

variable {first second third state : RecordsState}

private theorem record_of_find {requestId : RequestId} {row : RequestRecord}
    {rest : List RequestRecord}
    (found : state.find requestId = row :: rest) : state.record requestId = some row := by
  unfold RecordsState.record
  rw [← List.head?_filter]
  unfold RecordsState.find at found
  rw [found]
  rfl

section
variable {before after : RecordsState}

theorem SameRows.record_cases (same : SameRows before after) (requestId : RequestId) :
    (after.record requestId = none ∧ before.record requestId = none) ∨
      ∃ next row, after.record requestId = some next ∧ before.record requestId = some row ∧
        identity next = identity row := by
  have looked := same.record requestId
  cases later : after.record requestId with
  | none =>
    cases earlier : before.record requestId with
    | none => exact .inl ⟨rfl, rfl⟩
    | some row => simp [later, earlier] at looked
  | some next =>
    cases earlier : before.record requestId with
    | none => simp [later, earlier] at looked
    | some row => exact .inr ⟨next, row, rfl, rfl, by simpa [later, earlier] using looked⟩

theorem SameRows.find_cases (same : SameRows before after) (requestId : RequestId) :
    (∃ next row, after.find requestId = [next] ∧ before.find requestId = [row] ∧
      identity next = identity row) ∨
    (after.find requestId = [] ∧ before.find requestId = []) ∨
    ∃ next next' nexts row row' rows, after.find requestId = next :: next' :: nexts ∧
      before.find requestId = row :: row' :: rows := by
  have count := same.count requestId
  have looked := same.record requestId
  match later : after.find requestId, earlier : before.find requestId with
  | [], [] => exact .inr (.inl ⟨rfl, rfl⟩)
  | [next], [row] =>
    rw [record_of_find later, record_of_find earlier] at looked
    exact .inl ⟨next, row, rfl, rfl, by simpa using looked⟩
  | next :: next' :: nexts, row :: row' :: rows =>
    exact .inr (.inr ⟨next, next', nexts, row, row', rows, rfl, rfl⟩)
  | [], row :: rows => simp [later, earlier] at count
  | next :: nexts, [] => simp [later, earlier] at count
  | [next], row :: row' :: rows => simp [later, earlier] at count
  | next :: next' :: nexts, [row] => simp [later, earlier] at count

variable {next row : RequestRecord}

private theorem identity_eq (same : identity next = identity row) :
    next.requestId = row.requestId ∧ next.request = row.request ∧
      next.payloadDigest = row.payloadDigest ∧ next.lifecycle = row.lifecycle := by
  simpa [identity] using same

private theorem observationFor_identity (same : identity next = identity row)
    (observation : Observation) :
    observationFor next observation = observationFor row observation := by
  obtain ⟨requestId, request, -, -⟩ := identity_eq same
  unfold observationFor
  rw [requestId, request]

variable {digests : Digests}

private theorem requestMatches_identity (same : identity next = identity row) (expected : Request)
    (observation : Observation) :
    ((requestMatches digests next expected).andThen fun _ => .proven observation) =
      (requestMatches digests row expected).andThen fun _ => .proven observation := by
  obtain ⟨requestId, request, payloadDigest, lifecycle⟩ := identity_eq same
  unfold requestMatches checked
  rw [requestId, request, payloadDigest, lifecycle]
  dsimp only
  split_ifs
  · rfl
  · rfl
  all_goals
    split
    · rfl
    · rfl

private theorem releaseSource_identity (same : identity next = identity row)
    (observation : Observation) :
    releaseSource digests observation next = releaseSource digests observation row := by
  obtain ⟨requestId, request, payloadDigest, lifecycle⟩ := identity_eq same
  unfold releaseSource
  rw [requestMatches_identity same, requestId, request]

section
variable (same : SameRows before after)

include same

theorem SameRows.childReleased (child : ChildLease) :
    childReleased digests child after = childReleased digests child before := by
  have source : ∀ observation, releasedChildSource digests child observation after.records =
      releasedChildSource digests child observation before.records := by
    intro observation
    unfold releasedChildSource uniqueSource
    rcases same.find_cases observation.requestId with
      ⟨next, row, later, earlier, equal⟩ | ⟨later, earlier⟩ |
        ⟨next, next', nexts, row, row', rows, later, earlier⟩
    all_goals
      unfold RecordsState.find at later earlier
      rw [later, earlier]
    simp only [Verdict.andThen, releaseSource_identity equal]
  unfold RequestRecovery.childReleased releasedChild
  simp only [source]

theorem SameRows.childProven (child : ChildLease) :
    childProven child after = childProven child before := by
  have marks : markExact child after = markExact child before := by
    funext mark
    unfold markExact
    rcases same.find_cases mark.sourceRequest with
      ⟨next, row, later, earlier, equal⟩ | ⟨later, earlier⟩ |
        ⟨next, next', nexts, row, row', rows, later, earlier⟩
    all_goals rw [later, earlier]
    simp only [observationFor_identity equal, (identity_eq equal).2.1]
  unfold RequestRecovery.childProven childSources
  rw [marks]

theorem SameRows.aggregateResolution (record : RequestRecord) (context : RecordsContext) :
    aggregateResolution digests record context after =
      aggregateResolution digests record context before := by
  unfold RequestRecovery.aggregateResolution sourced leavesUnproven
  simp only [same.children, same.childProven]

/-! ## Successors of a deadline -/

theorem SameRows.deadlineResources (context : RecordsContext)
    (record : RequestRecord) (resolved : Resolution) :
    deadlineResources digests after context record resolved =
      deadlineResources digests before context record resolved := by
  unfold RequestRecovery.deadlineResources
  simp only [same.children, same.childReleased]

theorem SameRows.pendingCancellations (requests : List Request) :
    pendingCancellations after requests = pendingCancellations before requests := by
  refine congrArg (requests.filterM ·) (funext fun request => ?_)
  cases named : request.requestId with
  | none => rfl
  | some requestId =>
    rcases same.record_cases requestId with ⟨later, earlier⟩ | ⟨next, row, later, earlier, equal⟩
    · simp [later, earlier]
    · simp [later, earlier, (identity_eq equal).2.1]

end

structure SameEpoch (before after : RecordsState) : Prop extends SameRows before after where
  epoch : after.recovery.epoch = before.recovery.epoch
  gating : after.recovery.phase = .ready ↔ before.recovery.phase = .ready
  hosts : after.hosts = before.hosts

theorem SameEpoch.refl (state : RecordsState) : SameEpoch state state :=
  ⟨.refl state, rfl, Iff.rfl, rfl⟩

theorem SameEpoch.gatedBarrier (same : SameEpoch before after) (context : RecordsContext)
    (record : RequestRecord) :
    (gatedBarrier digests after context record).isOk =
      (gatedBarrier digests before context record).isOk := by
  unfold RequestRecovery.gatedBarrier
  by_cases ready : before.recovery.phase = .ready
  · simp [ready, same.gating.mpr ready, Except.isOk, Except.toBool]
  rw [if_pos ready, if_pos (fun held => ready (same.gating.mp held))]
  unfold deadlineBarrier
  rw [same.aggregateResolution]
  split_ifs
  · rfl
  dsimp only [deadlineInspection, Option.bind_some]
  rw [same.epoch]
  rcases same.record_cases
      ⟨"recovery:deadline:" ++ toString before.recovery.epoch ++ ":" ++ record.requestId.root⟩
    with ⟨later, earlier⟩ | ⟨next, row, later, earlier, equal⟩
  · rw [later, earlier]
    rfl
  · rw [later, earlier]
    simp only [(identity_eq equal).2.1]
    split_ifs <;> rfl

theorem SameRows.replaceRecord (found : state.record row.requestId = some row)
    (same : identity next = identity row) : SameRows state (replaceRecord state next) := by
  have named := (identity_eq same).1
  refine ⟨fun requestId => ?_, fun requestId => length_filter_overwrite next requestId _, rfl⟩
  by_cases own : requestId = next.requestId
  · have looked : (RequestRecovery.replaceRecord state next).record next.requestId = some next := by
      rw [← named] at found
      exact find?_overwrite_self found
    rw [own, looked, named, found]
    exact congrArg some same
  · exact congrArg (Option.map identity) (find?_overwrite_of_ne own _)

end

end VibeServeCore.RequestRecovery
