/- source: _wait_clock.py (`credited`), _host_epochs.py, _request_recovery.py
   digest: Host downtime credited to limits against the queue credit of a pending interval. -/

import Mathlib.Algebra.Order.BigOperators.Group.List
import Mathlib.Tactic.Linarith
import VibeServeCore.Records.Finality

namespace VibeServeCore.Records

open Types Clock List Foundation.Process
open RequestRecovery (opensEpoch openHostEpoch)

inductive Shows (start : Seconds) : List HostEpoch → Seconds → Prop
  | empty : Shows start [] 0
  | single (current : HostEpoch) : Shows start [current] 0
  | before (closed current : HostEpoch) (earlier : current.startedAt ≤ start) :
      Shows start [closed, current] 0
  | within (closed current : HostEpoch) (later : start ≤ closed.aliveAt)
      (ordered : closed.aliveAt ≤ current.startedAt) :
      Shows start [closed, current] (current.startedAt - closed.aliveAt)

section
variable {start finish shown nowAt lastCommitAt : Seconds} {hosts log : List HostEpoch} {epoch : Nat}

theorem Shows.downtimeWithin (shows : Shows start hosts shown)
    (started : ∀ entry ∈ hosts, entry.startedAt ≤ finish) :
    downtimeWithin hosts start finish = shown := by
  cases shows with
  | empty | single current => rfl
  | before closed current earlier =>
    have clipped : min current.startedAt finish - max closed.aliveAt start ≤ 0 := by
      have := min_le_left current.startedAt finish
      have := le_max_right closed.aliveAt start
      linarith
    simp [Clock.downtimeWithin, pairwise, max_eq_right clipped]
  | within closed current later ordered =>
    have ends : current.startedAt ≤ finish := started current (by simp)
    have gap : 0 ≤ current.startedAt - closed.aliveAt := by linarith
    simp [Clock.downtimeWithin, pairwise, min_eq_left ends, max_eq_left later, max_eq_left gap]

theorem Shows.nonneg (shows : Shows start hosts shown) : 0 ≤ shown := by
  cases shows with
  | within closed current later ordered => linarith
  | _ => exact le_refl _

theorem Shows.renew (shows : Shows start hosts shown) {current : HostEpoch}
    (last : hosts.getLast? = some current) (aliveAt : Seconds) :
    Shows start (hosts.dropLast ++ [{ current with aliveAt }]) shown := by
  cases shows with
  | empty => cases last
  | single other => exact .single _
  | before closed other earlier =>
    cases last
    exact .before _ _ earlier
  | within closed other later ordered =>
    cases last
    exact .within closed { other with aliveAt } later ordered

theorem opened_log (opens : opened hosts epoch nowAt lastCommitAt = .ok log) :
    (hosts = [] ∧ log = [⟨epoch, nowAt, nowAt⟩]) ∨
      ∃ last, hosts.getLast? = some last ∧ last.epoch < epoch ∧
        log = [{ last with aliveAt := max last.aliveAt lastCommitAt }, ⟨epoch, nowAt, nowAt⟩] := by
  unfold opened at opens
  split at opens
  · rename_i none
    cases opens
    exact .inl ⟨getLast?_eq_none_iff.mp none, rfl⟩
  rename_i last found
  split_ifs at opens with stale
  cases opens
  refine .inr ⟨last, found, not_le.mp stale, ?_⟩
  simp [hostLogLength]

end

structure HostState where
  run : RunState
  records : RecordsState

structure Follows (state next : HostState) (nowAt : Seconds) (hosts : List HostEpoch) : Prop where
  ordered : state.run.nowAt ≤ nowAt
  clock : next.run.nowAt = nowAt
  hosts : next.records.hosts = hosts
  limits : next.run.limits = state.run.limits
  status : next.run.status = state.run.status

def restartCredit (state : HostState) (epoch : Nat) (log : List HostEpoch) : List Seconds :=
  if opensEpoch state.records.recovery epoch then
    [if state.run.status = .terminal then 0 else downtime log]
  else []

/-- Restarts and renewals of the host. -/
inductive HostStep : HostState → List Seconds → HostState → Prop
  | restarted {state next : HostState} {epoch : Nat} {nowAt : Seconds} {records : RecordsState}
      (opens : openHostEpoch state.records state.run epoch nowAt = .ok records)
      (follows : Follows state next nowAt records.hosts) :
      HostStep state (restartCredit state epoch records.hosts) next
  | renewed {state next : HostState} {epoch : Nat} {nowAt : Seconds}
      {change : AreaChange RecordsState} (renews : renewed state.records epoch nowAt = .ok change)
      (follows : Follows state next nowAt change.state.hosts) : HostStep state [] next
  | elsewhere {state next : HostState} {nowAt : Seconds}
      (follows : Follows state next nowAt state.records.hosts) : HostStep state [] next

/-- The host log is bounded and not ahead of the clock. -/
def Logged (state : HostState) : Prop :=
  state.records.hosts.length ≤ hostLogLength ∧
    ∀ entry ∈ state.records.hosts,
      entry.startedAt ≤ state.run.nowAt ∧ entry.aliveAt ≤ state.run.nowAt

structure Spans (start : Seconds) (credits : List Seconds) (state : HostState) : Prop where
  logged : Logged state
  elapsed : start ≤ state.run.nowAt
  spent : credits.sum ≤ state.run.nowAt - start
  gains : ∀ credit ∈ credits, 0 ≤ credit
  ended : state.run.status = .terminal → ∀ credit ∈ credits, credit = 0
  shown : ∃ shown, Shows start state.records.hosts shown ∧
    (state.run.status ≠ .terminal → credits.getLast?.getD 0 = shown)

section
variable {start : Seconds} {credits added : List Seconds} {state next first last : HostState}

theorem Logged.shows (logged : Logged state) : Shows state.run.nowAt state.records.hosts 0 := by
  obtain ⟨short, times⟩ := logged
  rcases hosts : state.records.hosts with _ | ⟨closed, _ | ⟨current, _ | ⟨more, rest⟩⟩⟩
  · exact .empty
  · exact .single closed
  · rw [hosts] at times
    exact .before closed current (times current (by simp)).1
  · rw [hosts] at short
    simp [hostLogLength] at short

theorem Logged.spans (logged : Logged state) : Spans state.run.nowAt [] state where
  logged := logged
  elapsed := le_refl _
  spent := by simp
  gains := by simp
  ended := by simp
  shown := ⟨0, logged.shows, fun _ => rfl⟩

variable {nowAt : Seconds}

theorem Spans.pass (spans : Spans start credits state) {hosts : List HostEpoch}
    (follows : Follows state next nowAt hosts) (logged : hosts.length ≤ hostLogLength ∧ ∀ entry ∈
      hosts, entry.startedAt ≤ nowAt ∧ entry.aliveAt ≤ nowAt)
    (shows : ∀ shown, Shows start state.records.hosts shown → Shows start hosts shown) :
    Spans start credits next := by
  obtain ⟨shown, showed, credited⟩ := spans.shown
  have ordered := follows.ordered
  have elapsed := spans.elapsed
  have spent := spans.spent
  refine ⟨?_, ?_, ?_, spans.gains, ?_, shown, ?_, ?_⟩
  · rw [Logged, follows.hosts, follows.clock]
    exact logged
  · rw [follows.clock]
    linarith
  · rw [follows.clock]
    linarith
  · rw [follows.status]
    exact spans.ended
  · rw [follows.hosts]
    exact shows shown showed
  · rw [follows.status]
    exact credited

theorem Logged.later (logged : Logged state) (ordered : state.run.nowAt ≤ nowAt) :
    state.records.hosts.length ≤ hostLogLength ∧ ∀ entry ∈ state.records.hosts,
      entry.startedAt ≤ nowAt ∧ entry.aliveAt ≤ nowAt :=
  ⟨logged.1, fun entry listed =>
    ⟨(logged.2 entry listed).1.trans ordered, (logged.2 entry listed).2.trans ordered⟩⟩

theorem Spans.renew (spans : Spans start credits state) {epoch : Nat}
    {change : AreaChange RecordsState} (renews : renewed state.records epoch nowAt = .ok change)
    (follows : Follows state next nowAt change.state.hosts) : Spans start credits next := by
  have times := spans.logged.later follows.ordered
  unfold renewed at renews
  split at renews
  · cases renews
  rename_i current found
  split_ifs at renews
  · cases renews
    exact spans.pass follows times fun _ shows => shows
  cases renews
  refine spans.pass follows ⟨?_, ?_⟩ fun shown shows => shows.renew found nowAt
  · have kept : state.records.hosts ≠ [] := by
      rintro none
      rw [none] at found
      cases found
    have := length_pos_of_ne_nil kept
    simp only [length_append, length_dropLast, length_singleton]
    omega
  · intro entry listed
    rcases mem_append.mp listed with old | renewed
    · exact times.2 entry (dropLast_subset _ old)
    · rw [mem_singleton.mp renewed]
      exact ⟨(times.2 current (mem_of_getLast? found)).1, le_refl _⟩

theorem Spans.open (spans : Spans start credits state) {epoch : Nat} {log : List HostEpoch}
    (opens : opened state.records.hosts epoch nowAt state.run.nowAt = .ok log)
    (follows : Follows state next nowAt log) :
    Spans start (credits ++ [if state.run.status = .terminal then 0 else downtime log]) next := by
  have ordered := follows.ordered
  have elapsed := spans.elapsed
  have spent := spans.spent
  have opening : (∀ entry ∈ log, entry.startedAt ≤ nowAt ∧ entry.aliveAt ≤ nowAt) ∧
      log.length ≤ hostLogLength ∧ Shows start log (downtime log) ∧
      downtime log ≤ nowAt - state.run.nowAt := by
    rcases opened_log opens with ⟨-, rfl⟩ | ⟨last, found, -, rfl⟩
    · refine ⟨?_, by simp [hostLogLength], .single _, ?_⟩
      · intro entry listed
        rw [mem_singleton.mp listed]
        exact ⟨le_refl _, le_refl _⟩
      · simpa [downtime, pairwise] using ordered
    · -- The host that closes was last proven alive by the commit the clock stands at.
      have logged := spans.logged.2 last (mem_of_getLast? found)
      rw [max_eq_right logged.2]
      have gap : downtime [{ last with aliveAt := state.run.nowAt }, ⟨epoch, nowAt, nowAt⟩] =
          nowAt - state.run.nowAt := by
        simp [downtime, pairwise, ordered]
      rw [gap]
      refine ⟨?_, by simp [hostLogLength], .within _ _ elapsed ordered, le_refl _⟩
      intro entry listed
      rcases mem_cons.mp listed with rfl | listed
      · exact ⟨logged.1.trans ordered, ordered⟩
      · rw [mem_singleton.mp listed]
        exact ⟨le_refl _, le_refl _⟩
  obtain ⟨times, short, shows, bounded⟩ := opening
  have gained := shows.nonneg
  refine ⟨?_, ?_, ?_, ?_, ?_, downtime log, ?_, ?_⟩
  · rw [Logged, follows.hosts, follows.clock]
    exact ⟨short, times⟩
  · rw [follows.clock]
    linarith
  · rw [follows.clock, sum_append, sum_singleton]
    split_ifs <;> linarith
  · intro credit listed
    rcases mem_append.mp listed with old | new
    · exact spans.gains credit old
    · rw [mem_singleton.mp new]
      split_ifs
      · exact le_refl _
      · exact gained
  · rw [follows.status]
    intro terminal credit listed
    rcases mem_append.mp listed with old | new
    · exact spans.ended terminal credit old
    · rw [mem_singleton.mp new, if_pos terminal]
  · rw [follows.hosts]
    exact shows
  · rw [follows.status]
    intro running
    simp [running]

theorem HostStep.spans (spans : Spans start credits state) (step : HostStep state added next) :
    Spans start (credits ++ added) next := by
  cases step with
  | restarted opens follows =>
    unfold openHostEpoch at opens
    split_ifs at opens with stale
    · cases opens
      rw [restartCredit, if_neg (by simpa using stale), append_nil]
      exact spans.pass follows (spans.logged.later follows.ordered) fun _ shows => shows
    rw [restartCredit, if_pos (by simpa using stale)]
    obtain ⟨log, logs, opens⟩ := bind_ok opens
    dsimp only at opens
    split_ifs at opens
    · cases opens
      exact spans.open logs follows
    · cases opens
      exact spans.open logs follows
  | renewed renews follows =>
    rw [append_nil]
    exact spans.renew renews follows
  | elsewhere follows =>
    rw [append_nil]
    exact spans.pass follows (spans.logged.later follows.ordered) fun _ shows => shows

theorem HostRun.spans {labels : List (List Seconds)} (logged : Logged first)
    (run : Run HostStep first labels last) : Spans first.run.nowAt labels.flatten last := by
  refine run.history (fun taken state => Spans first.run.nowAt taken.flatten state) ?_ logged.spans
  intro taken before added after spans step
  rw [flatten_append, flatten_singleton]
  exact step.spans spans

end

private theorem sum_dropLast_add_getLast (credits : List Seconds) :
    credits.dropLast.sum + credits.getLast?.getD 0 = credits.sum := by
  rcases eq_nil_or_concat credits with rfl | ⟨earlier, last, rfl⟩
  · simp
  · simp

/-- The credit the job would gain now. -/
def earned (job : OwnedJob) (observation : Observation) (state : HostState) : Seconds :=
  credited job observation state.run.limits state.records.hosts - job.queueCredit

section
variable {state : HostState} {job : OwnedJob} {previous observation : Observation}

private theorem earned_of_le (known : job.observation = some previous)
    (still : observation.observedAt ≤ previous.observedAt) : earned job observation state = 0 := by
  simp [earned, credited, known, still]

private theorem earned_of_lt {shown : Seconds} (known : job.observation = some previous)
    (waiting : pending job) (later : previous.observedAt < observation.observedAt)
    (down : downtimeWithin state.records.hosts previous.observedAt observation.observedAt = shown) :
    earned job observation state =
      min (max (observation.observedAt - previous.observedAt - shown) 0)
        state.run.limits.observeBackoffCap := by
  simp [earned, credited, known, waiting, not_le.mpr later, down]

/-- What the log forgot has to fit in the part of the interval the cap leaves uncredited. -/
theorem bound_iff {length shown forgotten cap : Seconds} (fits : shown ≤ length) :
    min (max (length - shown) 0) cap + (forgotten + shown) ≤ length ↔
      forgotten ≤ max 0 (length - shown - cap) := by
  rw [max_eq_left (by linarith : 0 ≤ length - shown)]
  rcases le_total (length - shown) cap with short | long
  · rw [min_eq_left short, max_eq_left (by linarith)]
    constructor <;> intro bound <;> linarith
  · rw [min_eq_right long, max_eq_right (by linarith)]
    constructor <;> intro bound <;> linarith

/-- Queue credit and credited downtime fit the interval between two facts exactly when the downtime
before its last restart does. -/
theorem queue_credit_and_downtime_fit_iff {first middle last : HostState}
    {earlier labels : List (List Seconds)} (logged : Logged first)
    (reached : Run HostStep first earlier middle) (heard : middle.run.nowAt = previous.observedAt)
    (known : job.observation = some previous) (waiting : pending job)
    (between : Run HostStep middle labels last)
    (ordered : last.run.nowAt ≤ observation.observedAt) :
    earned job observation last + labels.flatten.sum ≤
        observation.observedAt - previous.observedAt ↔
      labels.flatten.dropLast.sum ≤
        max 0 (observation.observedAt - previous.observedAt - labels.flatten.getLast?.getD 0 -
          last.run.limits.observeBackoffCap) := by
  have spans := HostRun.spans (HostRun.spans logged reached).logged between
  rw [heard] at spans
  have spent := spans.spent
  have split := sum_dropLast_add_getLast labels.flatten
  have forgotten : 0 ≤ labels.flatten.dropLast.sum :=
    sum_nonneg fun credit listed => spans.gains credit (dropLast_subset _ listed)
  have shownNonneg : 0 ≤ labels.flatten.getLast?.getD 0 := by
    cases found : labels.flatten.getLast? with
    | none => exact le_refl _
    | some credit => exact spans.gains credit (mem_of_getLast? found)
  by_cases later : previous.observedAt < observation.observedAt
  · obtain ⟨shown, shows, showing⟩ := spans.shown
    have down := shows.downtimeWithin fun entry listed =>
      (spans.logged.2 entry listed).1.trans ordered
    rw [earned_of_lt known waiting later down]
    by_cases terminal : last.run.status = .terminal
    · -- A run that ended credits no limit.
      have zero : labels.flatten.sum = 0 := sum_eq_zero (spans.ended terminal)
      have positive := shows.nonneg
      have none : labels.flatten.dropLast.sum = 0 := by linarith
      rw [zero, none]
      refine iff_of_true ?_ (le_max_left _ _)
      have capped := min_le_left (max (observation.observedAt - previous.observedAt - shown) 0)
        last.run.limits.observeBackoffCap
      have length : max (observation.observedAt - previous.observedAt - shown) 0 ≤
          observation.observedAt - previous.observedAt := max_le (by linarith) (by linarith)
      linarith
    · rw [← showing terminal, ← split]
      exact bound_iff (by linarith)
  · rw [earned_of_le known (not_lt.mp later)]
    have none : labels.flatten.dropLast.sum ≤ 0 := by linarith
    exact iff_of_true (by linarith) (none.trans (le_max_left _ _))

end

/-! ### Restarts between two polls -/

def hostAt (nowAt : Seconds) (epoch : Nat) (hosts : List HostEpoch) : HostState where
  run := { sampleRun with nowAt }
  records := { hosts, recovery := ⟨epoch, .recovering, []⟩ }

def queuedFact (sequence : Nat) (observedAt : Seconds) : Observation where
  eventId := ⟨"poll:" ++ toString sequence⟩
  requestId := ⟨"submission"⟩
  scope := sampleScope
  sequence := sequence
  observedAt := observedAt
  status := .pending
  accepted := true

def queuedJob : OwnedJob where
  origin := .registered ⟨"submission"⟩ ⟨"measure"⟩ ⟨"pool"⟩ none
  resourceId := some ⟨"job"⟩
  scope := sampleScope
  observation := some (queuedFact 0 0)
  progress := some { observationSequence := 0, observedAt := 0, state := .pending, content := ⟨""⟩ }

def firstHost : HostState := hostAt 0 1 [⟨1, 0, 0⟩]
def secondHost : HostState := hostAt 3 2 [⟨1, 0, 0⟩, ⟨2, 3, 3⟩]
def renewedHost : HostState := hostAt 6 2 [⟨1, 0, 0⟩, ⟨2, 3, 6⟩]
def thirdHost : HostState := hostAt 9 3 [⟨2, 3, 6⟩, ⟨3, 9, 9⟩]

theorem HostStep.opening {state next : HostState} {epoch : Nat} {nowAt : Seconds}
    {log : List HostEpoch} {credits : List Seconds} (opens : openHostEpoch state.records state.run
      epoch nowAt = .ok { state.records with hosts := log })
    (credited : restartCredit state epoch log = credits) (follows : Follows state next nowAt log) :
    HostStep state credits next := by
  subst credited
  exact .restarted opens follows

private theorem secondHost_starts : HostStep firstHost [3] secondHost := by
  have opens : openHostEpoch firstHost.records firstHost.run 2 3 =
      .ok { firstHost.records with hosts := secondHost.records.hosts } := by decide +kernel
  exact .opening opens (by decide +kernel) ⟨by decide +kernel, rfl, rfl, rfl, rfl⟩

private theorem secondHost_renews : HostStep secondHost [] renewedHost := by
  have renews : renewed secondHost.records 2 6 = .ok { state := renewedHost.records } := by
    decide +kernel
  exact .renewed renews ⟨by decide +kernel, rfl, rfl, rfl, rfl⟩

private theorem thirdHost_starts : HostStep renewedHost [3] thirdHost := by
  have opens : openHostEpoch renewedHost.records renewedHost.run 3 9 =
      .ok { renewedHost.records with hosts := thirdHost.records.hosts } := by decide +kernel
  exact .opening opens (by decide +kernel) ⟨by decide +kernel, rfl, rfl, rfl, rfl⟩

private theorem firstHost_logged : Logged firstHost := by
  refine ⟨by decide, fun entry listed => ?_⟩
  rw [mem_singleton.mp listed]
  exact ⟨le_refl _, le_refl _⟩

/-- Two restarts between polls at zero and ten: six seconds are credited to limits, and three of
them again as queue time, thirteen in ten. -/
theorem two_restarts_are_counted_twice :
    ∃ labels, Logged firstHost ∧ Run HostStep firstHost labels thirdHost ∧
      firstHost.run.nowAt = (queuedFact 0 0).observedAt ∧
      queuedJob.observation = some (queuedFact 0 0) ∧ pending queuedJob ∧
      thirdHost.run.nowAt ≤ (queuedFact 1 10).observedAt ∧
      earned queuedJob (queuedFact 1 10) thirdHost + labels.flatten.sum = 13 ∧
      ¬earned queuedJob (queuedFact 1 10) thirdHost + labels.flatten.sum ≤
        (queuedFact 1 10).observedAt - (queuedFact 0 0).observedAt := by
  refine ⟨[[3], [], [3]], firstHost_logged,
    .cons secondHost_starts (.cons secondHost_renews (.single thirdHost_starts)), rfl, rfl,
    by decide +kernel, by decide +kernel, by decide +kernel, by decide +kernel⟩

/-- One restart between the polls at zero and five fits. -/
theorem one_restart_is_counted_once :
    Run HostStep firstHost [[3]] secondHost ∧ earned queuedJob (queuedFact 1 5) secondHost = 2 ∧
      earned queuedJob (queuedFact 1 5) secondHost + [[(3 : Seconds)]].flatten.sum ≤
        (queuedFact 1 5).observedAt - (queuedFact 0 0).observedAt := by
  have run : Run HostStep firstHost [[3]] secondHost := .single secondHost_starts
  have heard : firstHost.run.nowAt = (queuedFact 0 0).observedAt := rfl
  have known : queuedJob.observation = some (queuedFact 0 0) := rfl
  have waiting : pending queuedJob := by decide +kernel
  have ordered : secondHost.run.nowAt ≤ (queuedFact 1 5).observedAt := by decide +kernel
  have fits := queue_credit_and_downtime_fit_iff firstHost_logged (.nil firstHost) heard known
    waiting run ordered
  exact ⟨run, by decide +kernel, fits.mpr (by decide +kernel)⟩

end VibeServeCore.Records
