/- source: store/index.ts (`DispatchFailures`, `createListenerDelivery`, `createStore`)
   digest: A store delivers and performs a whole dispatch tree before it reports failures. -/

import Mathlib.Algebra.Order.Group.Multiset
import Mathlib.Tactic.Abel

namespace VibeServeCore.Clients.Store

open List

structure Kinds where
  State : Type
  Action : Type
  Request : Type
  Failure : Type

variable {kinds : Kinds}

/-- What a call throws: the failure of one listener, or an `AggregateError` over several. -/
inductive Cause (kinds : Kinds)
  | single (failure : kinds.Failure)
  | aggregate (first second : Cause kinds) (rest : List (Cause kinds)) (message : String)

/-- What the callbacks do and see, as they record it themselves; the store reads none of it. -/
inductive Event (kinds : Kinds)
  | called (id : Nat)
  | performed (request : kinds.Request)
  | subscribed
  | unsubscribed (id : Nat)
  | dispatched (action : kinds.Action)
  | returned (thrown : Option (Cause kinds))
  | failed (failure : kinds.Failure)

/-- The state of a store and its subscriptions, numbered in order of insertion. -/
structure View (kinds : Kinds) where
  state : kinds.State
  subscriptions : List Nat
  nextSubscription : Nat
  ordered : (subscriptions ++ [nextSubscription]).Pairwise (· < ·)

/-- The variables of a store and its helpers, with the record its callbacks keep. -/
structure World (kinds : Kinds) extends View kinds where
  depth : Nat
  subscribers : List (Cause kinds)
  log : List (Event kinds)

abbrev Effect (kinds : Kinds) := World kinds → World kinds × Option (Cause kinds)

structure Step (kinds : Kinds) where
  state : kinds.State
  requests : List kinds.Request

namespace View

variable (view : View kinds)

def subscribe : View kinds :=
  { view with
    subscriptions := view.subscriptions ++ [view.nextSubscription]
    nextSubscription := view.nextSubscription + 1
    ordered := by
      refine pairwise_append.2 ⟨view.ordered, pairwise_singleton _ _, ?_⟩
      have below := (pairwise_append.1 view.ordered).2.2
      simp only [mem_append, mem_singleton, forall_eq] at below ⊢
      rintro id (member | rfl)
      · exact Nat.lt_succ_of_lt (below id member)
      · exact Nat.lt_succ_self _ }

def unsubscribe (id : Nat) : View kinds :=
  { view with
    subscriptions := view.subscriptions.filter (· ≠ id)
    ordered := view.ordered.sublist (filter_sublist.append_right _) }

end View

def World.record (world : World kinds) (event : Event kinds) : World kinds :=
  { world with log := world.log ++ [event] }

def combinedFailure (failures : List (Cause kinds)) (message : String) : Option (Cause kinds) :=
  match failures with
  | [] => none
  | [failure] => some failure
  | first :: second :: rest => some (.aggregate first second rest message)

section
variable (listener : Nat → Effect kinds) (perform : Nat → kinds.Request → Effect kinds)

def deliver : List Nat → World kinds → World kinds × List (Cause kinds)
  | [], world => (world, [])
  | id :: rest, world =>
    let (world, thrown) := listener id world
    let (world, failures) := deliver rest world
    (world, thrown.toList ++ failures)

def notify : Effect kinds := fun world =>
  let (after, failures) := deliver listener world.subscriptions world
  (after, combinedFailure failures "multiple store subscribers failed")

/-- `DispatchFailures.notify`: what a delivery throws joins the failures of the dispatch. -/
def deferred (world : World kinds) : World kinds :=
  let (after, failure) := notify listener world
  { after with subscribers := after.subscribers ++ failure.toList }

/-- The loop over a step's requests; `perform` may do something else at every position. -/
def performAll : Nat → List kinds.Request → Effect kinds
  | _, [], world => (world, none)
  | position, request :: rest, world =>
    match perform position request world with
    | (world, none) => performAll (position + 1) rest world
    | thrown => thrown

variable [DecidableEq kinds.State] (reducer : kinds.State → kinds.Action → Step kinds)
  (action : kinds.Action)

def transition : Effect kinds := fun world =>
  let next := reducer world.state action
  performAll perform 0 next.requests <|
    if next.state = world.state then world
    else deferred listener { world with state := next.state }

def finish (owner : Bool) (actionFailure : Option (Cause kinds)) : Effect kinds := fun world =>
  if !owner then ({ world with depth := world.depth - 1 }, actionFailure)
  else ({ world with depth := world.depth - 1, subscribers := [] },
    match actionFailure,
      combinedFailure world.subscribers "multiple store subscriber deliveries failed" with
    | some action, some subscriber =>
      some (.aggregate subscriber action [] "store subscriber delivery and dispatch failed")
    | some action, none => some action
    | none, subscriber => subscriber)

def dispatch : Effect kinds := fun world =>
  let owner : Bool := world.depth = 0
  let (after, actionFailure) := transition listener perform reducer action { world with
    depth := world.depth + 1
    subscribers := if owner then [] else world.subscribers }
  finish owner actionFailure after

end

/-- What one call of a listener or of `perform` does, with what the callbacks it causes do. -/
inductive Script (kinds : Kinds) : Bool → Type
  | done {throws : Bool} : Script kinds throws
  | fail (failure : kinds.Failure) : Script kinds true
  | subscribe {throws : Bool} (rest : Script kinds throws) : Script kinds throws
  | unsubscribe {throws : Bool} (id : Nat) (rest : Script kinds throws) : Script kinds throws
  | dispatch {throws : Bool} (action : kinds.Action) (listener : Nat → Script kinds true)
    (perform : Nat → kinds.Request → Script kinds false) (rest : Script kinds throws) :
    Script kinds throws

/-- A callback runs its script and records what it does; a listener first records that it was
called, and `perform` the request it was given. -/
def Script.run [DecidableEq kinds.State] (reducer : kinds.State → kinds.Action → Step kinds)
    {throws : Bool} : Script kinds throws → Effect kinds
  | .done, world => (world, none)
  | .fail failure, world => (world.record (.failed failure), some (.single failure))
  | .subscribe rest, world =>
    rest.run reducer { world.record .subscribed with toView := world.toView.subscribe }
  | .unsubscribe id rest, world =>
    rest.run reducer { world.record (.unsubscribed id) with toView := world.toView.unsubscribe id }
  | .dispatch action listener perform rest, world =>
    match Store.dispatch (fun id world => (listener id).run reducer (world.record (.called id)))
      (fun position request world =>
        (perform position request).run reducer (world.record (.performed request)))
      reducer action (world.record (.dispatched action)) with
    | (world, none) => rest.run reducer (world.record (.returned none))
    | (world, thrown) => (world.record (.returned thrown), thrown)

/-- What a record is about: a callback's body with the failure it ends in, one call of a callback,
a step, the calls of a notification, or the requests handed on. -/
inductive Part (kinds : Kinds)
  | body (failure : Option kinds.Failure)
  | call (event : Event kinds) (failure : Option kinds.Failure)
  | step (action : kinds.Action)
  | calls (ids : List Nat)
  | hands (requests : List kinds.Request)

/-- The records of an ideal store: a step that changes the state calls every subscription present,
once and in order, then every request of the step is handed on, once and in order, and a nested
dispatch returns without a failure. -/
inductive Told (reducer : kinds.State → kinds.Action → Step kinds) :
    Part kinds → View kinds → List (Event kinds) → View kinds → Prop
  | done {view} : Told reducer (.body none) view [] view
  | failed {view failure} : Told reducer (.body (some failure)) view [.failed failure] view
  | subscribed {failure view log last} (rest : Told reducer (.body failure) view.subscribe log last) :
    Told reducer (.body failure) view (.subscribed :: log) last
  | unsubscribed {failure view id log last}
    (rest : Told reducer (.body failure) (view.unsubscribe id) log last) :
    Told reducer (.body failure) view (.unsubscribed id :: log) last
  | dispatched {failure view action log middle later last}
    (steps : Told reducer (.step action) view log middle)
    (rest : Told reducer (.body failure) middle later last) :
    Told reducer (.body failure) view (.dispatched action :: log ++ .returned none :: later) last
  | call {event failure view log last} (body : Told reducer (.body failure) view log last) :
    Told reducer (.call event failure) view (event :: log) last
  | kept {view action log last} (same : (reducer view.state action).state = view.state)
    (hands : Told reducer (.hands (reducer view.state action).requests) view log last) :
    Told reducer (.step action) view log last
  | changed {view action log middle later last}
    (differs : (reducer view.state action).state ≠ view.state)
    (calls : Told reducer (.calls view.subscriptions)
      { view with state := (reducer view.state action).state } log middle)
    (hands : Told reducer (.hands (reducer view.state action).requests) middle later last) :
    Told reducer (.step action) view (log ++ later) last
  | uncalled {view} : Told reducer (.calls []) view [] view
  | calls {id failure ids view log middle later last}
    (first : Told reducer (.call (.called id) failure) view log middle)
    (rest : Told reducer (.calls ids) middle later last) :
    Told reducer (.calls (id :: ids)) view (log ++ later) last
  | unhanded {view} : Told reducer (.hands []) view [] view
  | hands {request requests view log middle later last}
    (first : Told reducer (.call (.performed request) none) view log middle)
    (rest : Told reducer (.hands requests) middle later last) :
    Told reducer (.hands (request :: requests)) view (log ++ later) last

mutual

def Cause.leaves : Cause kinds → Multiset kinds.Failure
  | .single failure => {failure}
  | .aggregate first second rest _ => first.leaves + second.leaves + leavesOf rest

def leavesOf : List (Cause kinds) → Multiset kinds.Failure
  | [] => 0
  | cause :: rest => cause.leaves + leavesOf rest

end

theorem Cause.leaves_ne_zero : (cause : Cause kinds) → cause.leaves ≠ 0
  | .single failure => Multiset.singleton_ne_zero failure
  | .aggregate first second rest _ => fun none => by
    rw [leaves, add_assoc] at none
    exact leaves_ne_zero first (Multiset.le_zero.1 ((Multiset.le_add_right _ _).trans_eq none))

private theorem leavesOf_append (causes more : List (Cause kinds)) :
    leavesOf (causes ++ more) = leavesOf causes + leavesOf more := by
  induction causes with
  | nil => simp [leavesOf]
  | cons cause rest ih => simp [leavesOf, ih, add_assoc]

private theorem leavesOf_combined (causes : List (Cause kinds)) (message : String) :
    leavesOf (combinedFailure causes message).toList = leavesOf causes := by
  match causes with
  | [] => rfl
  | [cause] => rfl
  | first :: second :: rest => simp [combinedFailure, leavesOf, Cause.leaves, add_assoc]

private theorem leavesOf_eq_zero {causes : List (Cause kinds)} : leavesOf causes = 0 ↔ causes =
    [] := by
  cases causes with
  | nil => simp [leavesOf]
  | cons cause rest =>
    refine iff_of_false (fun none => cause.leaves_ne_zero ?_) (cons_ne_nil _ _)
    exact Multiset.le_zero.1 ((Multiset.le_add_right _ _).trans_eq none)

/-- The failures among the events. -/
def failedIn (events : List (Event kinds)) : Multiset kinds.Failure :=
  events.filterMap fun
    | .failed failure => some failure
    | _ => none

private theorem failedIn_append (events later : List (Event kinds)) :
    failedIn (events ++ later) = failedIn events + failedIn later := by
  unfold failedIn
  rw [filterMap_append]
  rfl

variable {reducer : kinds.State → kinds.Action → Step kinds}

/-- What a call leaves behind: a record of the ideal store, and every failure in it either joined the
failures of the dispatch or is still `pending`. -/
structure Turn (reducer : kinds.State → kinds.Action → Step kinds) (part : Part kinds)
    (pending : Multiset kinds.Failure) (before after : World kinds) : Prop where
  depth : after.depth = before.depth
  events : ∃ events, after.log = before.log ++ events ∧
    Told reducer part before.toView events after.toView ∧
    leavesOf after.subscribers + pending = leavesOf before.subscribers + failedIn events

section
variable {part other whole : Part kinds} {before middle after : World kinds}
  {pending more total : Multiset kinds.Failure}

theorem Turn.trans (first : Turn reducer part pending before middle)
    (second : Turn reducer other more middle after)
    (told : ∀ {log later}, Told reducer part before.toView log middle.toView →
      Told reducer other middle.toView later after.toView →
      Told reducer whole before.toView (log ++ later) after.toView)
    (all : pending + more = total) : Turn reducer whole total before after := by
  subst all
  obtain ⟨depth, events, log, early, kept⟩ := first
  obtain ⟨depth_later, later, log_later, late, kept_later⟩ := second
  refine ⟨depth_later.trans depth, events ++ later, by rw [log_later, log, append_assoc],
    told early late, ?_⟩
  rw [failedIn_append]
  calc leavesOf after.subscribers + (pending + more)
      = leavesOf after.subscribers + more + pending := by abel
    _ = leavesOf middle.subscribers + pending + failedIn later := by
      rw [kept_later]
      abel
    _ = _ := by rw [kept, add_assoc]

/-- The record starts with an entry that is no failure, made together with a change of the view. -/
theorem Turn.after_record {event : Event kinds} {view : View kinds}
    (turn : Turn reducer part pending { before.record event with toView := view } after)
    (told : ∀ {log}, Told reducer part view log after.toView →
      Told reducer whole before.toView (event :: log) after.toView)
    (quiet : failedIn [event] = 0) : Turn reducer whole pending before after := by
  obtain ⟨depth, events, log, told_, kept⟩ := turn
  refine ⟨depth, event :: events, by simp [log, World.record], told told_, ?_⟩
  rw [← singleton_append, failedIn_append, quiet, zero_add]
  exact kept

end

/-- An effect that a callback may have inside a dispatch. -/
def Answers (reducer : kinds.State → kinds.Action → Step kinds)
    (part : Option kinds.Failure → Part kinds) (throws : Bool) (effect : Effect kinds) : Prop :=
  ∀ world, 0 < world.depth → ∃ failure, (effect world).2 = failure.map .single ∧
    (throws = false → failure = none) ∧
    Turn reducer (part failure) (leavesOf (failure.map Cause.single).toList) world (effect world).1

theorem Answers.after_record {throws : Bool} {effect : Effect kinds} {event : Event kinds}
    (answers : Answers reducer .body throws effect) (quiet : failedIn [event] = 0) :
    Answers reducer (.call event) throws fun world => effect (world.record event) := by
  intro world inside
  obtain ⟨failure, thrown, silent, turn⟩ := answers (world.record event) inside
  exact ⟨failure, thrown, silent, turn.after_record .call quiet⟩

section
variable {listener : Nat → Effect kinds} {perform : Nat → kinds.Request → Effect kinds}
  (calls : ∀ id, Answers reducer (.call (.called id)) true (listener id))
  (performs : ∀ position request,
    Answers reducer (.call (.performed request)) false (perform position request))
  (world : World kinds) (inside : 0 < world.depth)
include inside

section

include calls

private theorem deliver_turn (ids : List Nat) : Turn reducer (.calls ids)
    (leavesOf (deliver listener ids world).2) world (deliver listener ids world).1 := by
  induction ids generalizing world with
  | nil => exact ⟨rfl, [], by simp [deliver], .uncalled, rfl⟩
  | cons id rest ih =>
    obtain ⟨failure, thrown, -, called⟩ := calls id world inside
    have rested := ih (listener id world).1 (called.depth ▸ inside)
    refine called.trans rested .calls ?_
    rw [← leavesOf_append, ← thrown]
    rfl

private theorem deferred_turn : Turn reducer (.calls world.subscriptions) 0 world
    (deferred listener world) := by
  obtain ⟨depth, events, log, told, kept⟩ :=
    deliver_turn calls world inside world.subscriptions
  refine ⟨depth, events, log, told, ?_⟩
  simpa [deferred, notify, leavesOf_append, leavesOf_combined] using kept

end

include performs

private theorem performAll_turn (requests : List kinds.Request) (position : Nat) :
    (performAll perform position requests world).2 = none ∧
      Turn reducer (.hands requests) 0 world (performAll perform position requests world).1 := by
  induction requests generalizing position world with
  | nil => exact ⟨rfl, rfl, [], by simp [performAll], .unhanded, rfl⟩
  | cons request rest ih =>
    obtain ⟨failure, thrown, silent, performed⟩ := performs position request world inside
    obtain rfl := silent rfl
    cases result : perform position request world with
    | mk after failed =>
      rw [result] at thrown performed
      obtain rfl : failed = none := thrown
      obtain ⟨same, rested⟩ := ih after (performed.depth ▸ inside) (position + 1)
      simp only [performAll, result]
      exact ⟨same, performed.trans rested .hands (add_zero _)⟩

include calls

variable [DecidableEq kinds.State] (action : kinds.Action)

private theorem transition_turn : (transition listener perform reducer action world).2 = none ∧
    Turn reducer (.step action) 0 world (transition listener perform reducer action world).1 := by
  unfold transition
  dsimp only
  by_cases same : (reducer world.state action).state = world.state
  · rw [if_pos same]
    obtain ⟨silent, depth, events, log, told, kept⟩ :=
      performAll_turn performs world inside (reducer world.state action).requests 0
    exact ⟨silent, depth, events, log, .kept same told, kept⟩
  · rw [if_neg same]
    have delivered := deferred_turn calls
      { world with state := (reducer world.state action).state } inside
    obtain ⟨silent, performed⟩ := performAll_turn performs _ (delivered.depth ▸ inside)
      (reducer world.state action).requests 0
    obtain ⟨depth, events, log, told, kept⟩ := delivered
    obtain ⟨depth_later, later, log_later, handed, kept_later⟩ := performed
    refine ⟨silent, depth_later.trans depth, events ++ later, ?_, .changed same told handed, ?_⟩
    · rw [log_later, log, append_assoc]
    · rw [failedIn_append, kept_later, ← add_assoc, ← kept, add_zero]

omit inside in
private theorem dispatch_nested (world : World kinds) (inside : 0 < world.depth) :
    (dispatch listener perform reducer action world).2 = none ∧
      Turn reducer (.step action) 0 world (dispatch listener perform reducer action world).1 := by
  obtain ⟨silent, depth, events, log, told, kept⟩ := transition_turn calls performs
    { world with depth := world.depth + 1 } (Nat.succ_pos _) action
  have nested : decide (world.depth = 0) = false := decide_eq_false inside.ne'
  simp only [dispatch, nested, silent, finish, Bool.false_eq_true, if_false, Bool.not_false, if_true]
  exact ⟨trivial, Nat.sub_eq_of_eq_add depth, events, log, told, kept⟩

end

variable [DecidableEq kinds.State] (reducer)

private theorem run_answers {throws : Bool} (script : Script kinds throws) :
    Answers reducer .body throws (script.run reducer) := by
  induction script with
  | done => exact fun world _ => ⟨none, rfl, fun _ => rfl, rfl, [], by simp [Script.run], .done, rfl⟩
  | fail failure =>
    exact fun world _ => ⟨some failure, rfl, nofun, rfl, [.failed failure], rfl, .failed, rfl⟩
  | subscribe rest ih =>
    intro world inside
    obtain ⟨failure, thrown, silent, turn⟩ :=
      ih { world.record .subscribed with toView := world.toView.subscribe } inside
    exact ⟨failure, thrown, silent, turn.after_record .subscribed rfl⟩
  | unsubscribe id rest ih =>
    intro world inside
    obtain ⟨failure, thrown, silent, turn⟩ :=
      ih { world.record (.unsubscribed id) with toView := world.toView.unsubscribe id } inside
    exact ⟨failure, thrown, silent, turn.after_record .unsubscribed rfl⟩
  | dispatch action listener perform rest calls performs ih =>
    intro world inside
    obtain ⟨returns, turn⟩ := dispatch_nested
      (fun id => (calls id).after_record rfl)
      (fun position request => (performs position request).after_record rfl)
      action (world.record (.dispatched action)) inside
    simp only [Script.run]
    cases result : Store.dispatch _ _ reducer action (world.record (.dispatched action)) with
    | mk middle thrown =>
      rw [result] at returns turn
      obtain rfl : thrown = none := returns
      obtain ⟨failure, thrown, silent, rested⟩ := ih (middle.record (.returned none)) (turn.depth ▸ inside)
      refine ⟨failure, thrown, silent, ?_⟩
      obtain ⟨depth, events, log, told, kept⟩ := turn
      obtain ⟨depth_later, later, log_later, told_later, kept_later⟩ := rested
      have recorded : middle.log = world.log ++ [.dispatched action] ++ events := log
      refine ⟨depth_later.trans depth, .dispatched action :: events ++ .returned none :: later,
        ?_, .dispatched told told_later, ?_⟩
      · rw [log_later, World.record, recorded]
        simp
      have failures : failedIn (.dispatched action :: events ++ .returned none :: later) =
          failedIn events + failedIn later := failedIn_append _ _
      rw [failures, ← add_assoc]
      exact kept_later.trans (congrArg (· + failedIn later) ((add_zero _).symm.trans kept))

/-- Whatever the callbacks do, an outermost dispatch leaves the record of an ideal store: everything
is delivered and handed on. Only then it throws, with all that the listeners threw, and the next one
starts with no failure. -/
theorem dispatch_delivers_then_fails {action : kinds.Action} {listener : Nat → Script kinds true}
    {perform : Nat → kinds.Request → Script kinds false} {world after : World kinds}
    {thrown : Option (Cause kinds)} (idle : world.depth = 0)
    (ran : dispatch (fun id world => (listener id).run reducer (world.record (.called id)))
      (fun position request world =>
        (perform position request).run reducer (world.record (.performed request)))
      reducer action world = (after, thrown)) :
    after.depth = 0 ∧ after.subscribers = [] ∧
      ∃ events, after.log = world.log ++ events ∧
        Told reducer (.step action) world.toView events after.toView ∧
        (thrown.isSome ↔ failedIn events ≠ 0) ∧
        ∀ cause ∈ thrown, cause.leaves = failedIn events := by
  obtain ⟨silent, depth, events, log, told, kept⟩ := transition_turn
    (fun id => (run_answers reducer (listener id)).after_record rfl)
    (fun position request => (run_answers reducer (perform position request)).after_record rfl)
    { world with depth := 0 + 1, subscribers := [] } (Nat.succ_pos _) action
  simp only [dispatch, idle, decide_true, if_true, finish, Bool.not_true, Bool.false_eq_true,
    if_false, silent, Prod.mk.injEq] at ran
  obtain ⟨rfl, rfl⟩ := ran
  have thrown := (leavesOf_combined _ "multiple store subscriber deliveries failed").trans
    ((add_zero _).symm.trans (kept.trans (zero_add _)))
  refine ⟨Nat.sub_eq_of_eq_add depth, rfl, events, log, told, ?_, ?_⟩
  · rw [← not_iff_not, Option.not_isSome_iff_eq_none, not_not, ← thrown, leavesOf_eq_zero,
      Option.toList_eq_nil_iff]
  · intro cause reported
    rw [← thrown, Option.mem_def.1 reported]
    exact (add_zero _).symm

def counter : Kinds := ⟨Nat, Nat, Nat, String⟩

instance : DecidableEq counter.State := inferInstanceAs (DecidableEq Nat)

def setTo (_ : counter.State) (action : counter.Action) : Step counter := ⟨action, [action]⟩

def twoListeners : World counter := ⟨⟨(0 : Nat), [0, 1], 2, by decide⟩, 0, [], []⟩

def failing : Nat → Script counter true
  | 0 => .dispatch (2 : Nat) (fun _ => .fail "inner") (fun _ _ => .done) .done
  | _ => .fail "outer"

def failingRun : World counter × Option (Cause counter) :=
  dispatch (fun id world => (failing id).run setTo (world.record (.called id)))
    (fun _ request world =>
      (Script.done : Script counter false).run setTo (world.record (.performed request)))
    setTo (1 : Nat) twoListeners

/-- The first listener dispatches and both fail in that delivery; then the second fails in the first
one. The nested request is performed before the outer one. -/
theorem nested_failures_reported :
    failingRun.1.log = [.called 0, .dispatched (2 : Nat), .called 0, .failed "inner", .called 1,
        .failed "inner", .performed (2 : Nat), .returned none, .called 1, .failed "outer",
        .performed (1 : Nat)] ∧
      failingRun.2.map Cause.leaves = some ({"inner", "inner", "outer"} : Multiset String) ∧
      Told setTo (.step (1 : Nat)) twoListeners.toView failingRun.1.log failingRun.1.toView := by
  have ran : failingRun = (failingRun.1, failingRun.2) := rfl
  obtain ⟨-, -, events, log, told, -⟩ := dispatch_delivers_then_fails setTo rfl ran
  exact ⟨rfl, rfl, by rwa [log]⟩

end VibeServeCore.Clients.Store
