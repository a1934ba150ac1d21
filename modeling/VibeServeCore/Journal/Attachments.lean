/- source: server/journal.py (`WireJournal`), server/events.py (`EventStore.append`)
   digest: When an attach that raises keeps the events the journal holds. -/

import VibeServeCore.Foundation.Process

namespace VibeServeCore.Journal

open Foundation.Process

inductive EventStatus
  | active | answered | pending | consumed | delivered | completed | failed | cancelled
  | interrupted
  deriving DecidableEq

inductive EventType
  | serverStarted
  | configurationFailed
  | invocationFinished
  | agentExecutionFinished
  | phaseFinished
  | runFailed
  | runInterrupted
  | other (value : String)
  deriving DecidableEq

structure RunEvent (Data : Type) where
  sequence : Nat := 0
  runId : String := ""
  timestamp : String
  type : EventType
  status : Option EventStatus := none
  diagnostic : Option Data := none
  data : Option Data := none
  deriving DecidableEq

inductive JournalError
  | fileNotFound (path : String)
  | unnamed
  | changed (attached requested : String)
  | emptyExplicit
  | mixed (values : List String)
  | mismatch (explicit recorded : String)
  | missing
  | pendingEvents
  | undiagnosed (type : EventType)
  | storeReadOnly
  | unreadable (path : String)
  | unwritable (path : String)
  | envelope
  deriving DecidableEq

structure EventStore (Data : Type) where
  path : String
  runId : String
  storeId : String
  readOnly : Bool
  records : List (RunEvent Data)
  nextSequence : Nat

variable {Data : Type}

abbrev Bounded (Data : Type) :=
  RunEvent Data → Except JournalError (RunEvent Data)

def RunEvent.stamped (event : RunEvent Data) (sequence : Nat) (runId : String) :
    RunEvent Data :=
  { event with sequence, runId }

namespace EventStore

def append (bounded : Bounded Data) (breaks : Bool)
    (store : EventStore Data) (event : RunEvent Data) :
    Except JournalError (EventStore Data) :=
  if store.readOnly then .error .storeReadOnly
  else do
    let recorded ← bounded (event.stamped store.nextSequence store.runId)
    if breaks then .error (.unwritable store.path)
    else
      .ok { store with
        records := store.records ++ [recorded], nextSequence := store.nextSequence + 1 }

/-- The loop of `attach`: what was appended before the write that `breaks` stays in the log. -/
def migrate (bounded : Bounded Data) (breaks : Nat → Bool)
    (store : EventStore Data) :
    List (RunEvent Data) → EventStore Data × Option JournalError
  | [] => (store, none)
  | event :: rest =>
    match store.append bounded (breaks store.nextSequence) event with
    | .error error => (store, some error)
    | .ok longer => longer.migrate bounded breaks rest

def lastSequence (store : EventStore Data) : Nat := store.nextSequence - 1

end EventStore

inductive Log (Data : Type)
  | absent
  | unreadable
  | holding (records : List (RunEvent Data))

structure WireJournal (Data : Type) where
  store : Option (EventStore Data) := none
  pendingEvents : List (RunEvent Data) := []
  readOnly : Bool := false

structure Site (Data : Type) where
  journal : WireJournal Data := {}
  disk : String → Log Data

/-- The arguments of `attach`, with the drawn identity, the time, and what fails. -/
structure Attaching where
  path : String
  runId : Option String
  readOnly : Bool := false
  storeId : String
  timestamp : String
  rereads : Bool := true
  breaks : Nat → Bool := fun _ => false

def writableRunId (attached requested : Option String) : Except JournalError String :=
  let requested := requested.getD ""
  if requested = "" then .error .unnamed
  else
    match attached with
    | none => .ok requested
    | some attached =>
      if requested ≠ attached then .error (.changed attached requested) else .ok requested

def readOnlyRunId (records : List (RunEvent Data)) (explicit : Option String) :
    Except JournalError String :=
  if explicit = some "" then .error .emptyExplicit
  else
    let recorded := ((records.map RunEvent.runId).filter fun runId => runId ≠ "").dedup
    if 1 < recorded.length then .error (.mixed recorded)
    else
      match explicit, recorded.head? with
      | some explicit, some journal =>
        if explicit ≠ journal then .error (.mismatch explicit journal) else .ok explicit
      | some explicit, none => .ok explicit
      | none, some journal => .ok journal
      | none, none => .error .missing

def diagnosticFailureEvents : List EventType :=
  [.configurationFailed, .invocationFinished, .agentExecutionFinished, .phaseFinished, .runFailed,
    .runInterrupted]

namespace Site

variable (bounded : Bounded Data) (site : Site Data) (attaching : Attaching)

def record (breaks : Nat → Bool) (site : Site Data) (event : RunEvent Data) :
    Site Data × Option JournalError :=
  if event.type ∈ diagnosticFailureEvents ∧ event.status = some .failed ∧ event.diagnostic.isNone then
    (site, some (.undiagnosed event.type))
  else if site.journal.readOnly then (site, none)
  else
    match site.journal.store with
    | none =>
      ({ site with journal.pendingEvents := site.journal.pendingEvents ++ [event] }, none)
    | some store =>
      match store.append bounded (breaks store.nextSequence) event with
      | .error error => (site, some error)
      | .ok store =>
        ({ journal := { site.journal with store := some store }
           disk := Function.update site.disk store.path (.holding store.records) }, none)

def scan (path : String) : Except JournalError (List (RunEvent Data)) :=
  match site.disk path with
  | .absent => .ok []
  | .unreadable => .error (.unreadable path)
  | .holding records => .ok records

def openDurable : Except JournalError (EventStore Data) :=
  let opened := fun (runId : String) (records : List (RunEvent Data)) =>
    { path := attaching.path, runId, storeId := attaching.storeId, readOnly := attaching.readOnly
      records, nextSequence := (records.getLast?.map RunEvent.sequence).getD 0 + 1 }
  if attaching.readOnly then do
    let records ← site.scan attaching.path
    (opened · records) <$> readOnlyRunId records attaching.runId
  else do
    let runId ← writableRunId (site.journal.store.map EventStore.runId) attaching.runId
    opened runId <$> site.scan attaching.path

def rename (previous : EventStore Data) (attaching : Attaching) : Site Data × Option JournalError :=
  match if attaching.readOnly then readOnlyRunId previous.records attaching.runId
    else writableRunId (some previous.runId) attaching.runId with
  | .error error => (site, some error)
  | .ok runId =>
    ({ site with journal :=
        { site.journal with
          store := some { previous with runId }, readOnly := attaching.readOnly } }, none)

def prepare : Except JournalError (EventStore Data × List (RunEvent Data)) := do
  let durable ← site.openDurable attaching
  match site.journal.store with
  | none =>
    let pending := site.journal.pendingEvents
    if attaching.readOnly ∧ pending ≠ [] then .error .pendingEvents else .ok (durable, pending)
  | some previous =>
    if !attaching.rereads then .error (.unreadable previous.path)
    else if attaching.readOnly ∧ previous.records ≠ [] then .error .pendingEvents
    else
      -- an empty log continues the sequences of the store that it replaces
      let storeId := if durable.lastSequence = 0 then previous.storeId else durable.storeId
      .ok ({ durable with storeId }, previous.records)

def replace : Site Data × Option JournalError :=
  match site.prepare attaching with
  | .error error => (site, some error)
  | .ok (durable, pending) =>
    let (filled, raised) := durable.migrate bounded attaching.breaks pending
    let disk := Function.update site.disk attaching.path (.holding filled.records)
    match raised with
    | some error =>
      -- `_pending_events` was emptied before the first append
      ({ journal := { site.journal with pendingEvents := [] }, disk }, some error)
    | none =>
      ({ journal := { store := some filled, readOnly := attaching.readOnly }, disk }, none)

def install : Site Data × Option JournalError :=
  match site.disk attaching.path, attaching.readOnly with
  | .absent, true => (site, some (.fileNotFound attaching.path))
  | _, _ =>
    match site.journal.store with
    | some previous =>
      if previous.path = attaching.path then site.rename previous attaching
      else site.replace bounded attaching
    | none => site.replace bounded attaching

def serverStarted (attaching : Attaching) : RunEvent Data :=
  { timestamp := attaching.timestamp, type := .serverStarted, status := some .active }

def attach : Site Data × Option JournalError :=
  match site.install bounded attaching with
  | (attached, some error) => (attached, some error)
  | (attached, none) =>
    if site.journal.store.isNone && !attaching.readOnly then
      attached.record bounded attaching.breaks (serverStarted attaching)
    else (attached, none)

def held : List (RunEvent Data) :=
  match site.journal.store with
  | some store => store.records
  | none => site.journal.pendingEvents

/-- Nothing is stored at the path yet. -/
structure Fresh (path : String) : Prop where
  elsewhere : ∀ store, site.journal.store = some store → store.path ≠ path
  empty : site.disk path = .absent ∨ site.disk path = .holding []

end Site

section
variable {bounded : Bounded Data} {store middle filled : EventStore Data}
  {events later : List (RunEvent Data)}

def recordings (bounded : Bounded Data) (runId : String) (sequence : Nat)
    (events : List (RunEvent Data)) :
    List (Except JournalError (RunEvent Data)) :=
  (events.zipIdx sequence).map fun entry => bounded (entry.1.stamped entry.2 runId)

structure Fills (bounded : Bounded Data) (store : EventStore Data)
    (events : List (RunEvent Data)) (filled : EventStore Data) :
    Prop where
  path : filled.path = store.path
  runId : filled.runId = store.runId
  nextSequence : filled.nextSequence = store.nextSequence + events.length
  records : filled.records.map .ok =
    store.records.map .ok ++ recordings bounded store.runId store.nextSequence events

private theorem append_fills {breaks : Bool} {event : RunEvent Data}
    (appended : store.append bounded breaks event = .ok filled) :
    Fills bounded store [event] filled := by
  unfold EventStore.append at appended
  split_ifs at appended with readOnly broken
  · obtain ⟨_, _, refused⟩ := bind_ok appended
    cases refused
  obtain ⟨recorded, cut, taken⟩ := bind_ok appended
  cases taken
  exact ⟨rfl, rfl, rfl, by simp [recordings, cut]⟩

theorem Fills.trans (first : Fills bounded store events middle)
    (second : Fills bounded middle later filled) : Fills bounded store (events ++ later) filled where
  path := second.path.trans first.path
  runId := second.runId.trans first.runId
  nextSequence := by
    rw [second.nextSequence, first.nextSequence, List.length_append, Nat.add_assoc]
  records := by
    rw [second.records, first.records, first.runId, first.nextSequence]
    simp [recordings, List.zipIdx_append]

private theorem migrate_fills {breaks : Nat → Bool}
    (moved : store.migrate bounded breaks events = (filled, none)) :
    Fills bounded store events filled := by
  induction events generalizing store with
  | nil =>
    cases moved
    exact ⟨rfl, rfl, rfl, by simp [recordings]⟩
  | cons event rest ih =>
    unfold EventStore.migrate at moved
    cases appended : store.append bounded (breaks store.nextSequence) event with
    | error error => simp [appended] at moved
    | ok longer =>
      rw [appended] at moved
      exact (append_fills appended).trans (ih moved)

end

/-! ## Attaching -/

namespace Site

variable {bounded : Bounded Data} {site left last : Site Data}
  {attaching failing next : Attaching} {durable : EventStore Data}
  {events : List (RunEvent Data)} {error : JournalError}

private theorem prepare_eq_ok (prepared : site.prepare attaching = .ok (durable, events)) :
    events = site.held ∧ ∃ opened, site.openDurable attaching = .ok opened ∧
      ∃ storeId, durable = { opened with storeId } := by
  obtain ⟨opened, opening, prepared⟩ := bind_ok prepared
  unfold held
  cases stored : site.journal.store with
  | none =>
    simp only [stored] at prepared
    split_ifs at prepared with refused
    cases prepared
    exact ⟨rfl, durable, opening, durable.storeId, rfl⟩
  | some previous =>
    simp only [stored] at prepared
    split_ifs at prepared with unread refused same
    all_goals
      cases prepared
      exact ⟨rfl, opened, opening, _, rfl⟩

private theorem openDurable_empty {opened : EventStore Data}
    (empty : site.disk attaching.path = .absent ∨ site.disk attaching.path = .holding [])
    (opening : site.openDurable attaching = .ok opened) :
    opened.path = attaching.path ∧ opened.records = [] ∧ opened.nextSequence = 1 := by
  have none : site.scan attaching.path = .ok [] := by
    unfold scan
    rcases empty with absent | holding
    · rw [absent]
    · rw [holding]
  unfold openDurable at opening
  rw [none] at opening
  split_ifs at opening with readOnly
  · obtain ⟨runId, _, rfl⟩ := map_ok opening
    exact ⟨rfl, rfl, rfl⟩
  obtain ⟨runId, _, opening⟩ := bind_ok opening
  cases opening
  exact ⟨rfl, rfl, rfl⟩

private theorem install_elsewhere
    (elsewhere : ∀ store, site.journal.store = some store → store.path ≠ attaching.path) :
    site.install bounded attaching = (site, some (.fileNotFound attaching.path)) ∨
      site.install bounded attaching = site.replace bounded attaching := by
  unfold install
  split
  · exact .inl rfl
  cases stored : site.journal.store with
  | none => exact .inr rfl
  | some previous => exact .inr (if_neg (elsewhere previous stored))

private theorem install_fresh (fresh : site.Fresh next.path)
    (installed : site.install bounded next = (left, none)) :
    ∃ store, left.journal.store = some store ∧ left.journal.readOnly = next.readOnly ∧
      store.path = next.path ∧ left.disk next.path = .holding store.records ∧
      store.nextSequence = 1 + site.held.length ∧
      store.records.map .ok = recordings bounded store.runId 1 site.held := by
  rcases install_elsewhere fresh.elsewhere with missing | replaced
  · rw [missing] at installed
    cases installed
  rw [replaced] at installed
  unfold replace at installed
  cases prepared : site.prepare next with
  | error error => simp [prepared] at installed
  | ok started =>
    obtain ⟨durable, events⟩ := started
    obtain ⟨rfl, opened, opening, storeId, rfl⟩ := prepare_eq_ok prepared
    obtain ⟨path, records, first⟩ := openDurable_empty fresh.empty opening
    simp only [prepared] at installed
    cases moved : EventStore.migrate bounded next.breaks { opened with storeId } site.held with
    | mk filled raised =>
      rw [moved] at installed
      cases raised with
      | some error => cases installed
      | none =>
        cases installed
        have fills := migrate_fills moved
        refine ⟨filled, rfl, rfl, fills.path.trans path, Function.update_self .., ?_, ?_⟩
        · rw [fills.nextSequence, first]
        · rw [fills.records, records, fills.runId, first]
          rfl

/-- What attaching records. -/
def recordedBy (site : Site Data) (next : Attaching) :
    List (RunEvent Data) :=
  site.held ++ if site.journal.store.isNone && !next.readOnly then [serverStarted next] else []

private theorem attach_fresh (fresh : site.Fresh next.path)
    (attached : site.attach bounded next = (last, none)) :
    ∃ store, last.journal.store = some store ∧ last.disk next.path = .holding store.records ∧
      store.records.map .ok = recordings bounded store.runId 1 (site.recordedBy next) := by
  unfold attach at attached
  cases installed : site.install bounded next with
  | mk left raised =>
    rw [installed] at attached
    cases raised with
    | some error => cases attached
    | none =>
      obtain ⟨store, stored, readOnly, path, onDisk, nextSequence, records⟩ :=
        install_fresh fresh installed
      unfold recordedBy
      dsimp only at attached
      split_ifs at attached ⊢ with announced
      · unfold record at attached
        rw [if_neg (by simp [serverStarted, diagnosticFailureEvents]), if_neg (by simp_all)] at attached
        simp only [stored] at attached
        cases appended : store.append bounded (next.breaks store.nextSequence) (serverStarted next) with
        | error error => simp [appended] at attached
        | ok longer =>
          simp only [appended] at attached
          cases attached
          have fills := append_fills appended
          refine ⟨longer, rfl, ?_, ?_⟩
          · rw [← path, ← fills.path]
            exact Function.update_self ..
          · rw [fills.records, records, fills.runId, nextSequence]
            simp [recordings, List.zipIdx_append]
      · cases attached
        exact ⟨store, stored, onDisk, by rw [records, List.append_nil]⟩

/-- A raising attach keeps the pending events: none are outside a store, or the log stays shut. -/
def Keeps (site : Site Data) (failing : Attaching) : Prop :=
  site.journal.store.isSome ∨ site.journal.pendingEvents = [] ∨ failing.readOnly ∨
    failing.runId.getD "" = "" ∨ site.disk failing.path = .unreadable

private theorem prepare_pending (unstored : site.journal.store = none)
    (pending : site.journal.pendingEvents ≠ []) :
    (∃ started, site.prepare failing = .ok started) ↔ ¬site.Keeps failing := by
  unfold Keeps prepare openDurable writableRunId scan
  cases readOnly : failing.readOnly with
  | true =>
    simp [unstored, pending]
  | false =>
    by_cases unnamed : failing.runId.getD "" = ""
    · simp [unstored, pending, unnamed]
    · cases found : site.disk failing.path <;> simp [unstored, pending, unnamed]

private theorem replace_failed (failed : site.replace bounded failing = (left, some error)) :
    (left.journal = site.journal ∧ site.Keeps failing) ∨
      (left.journal = { site.journal with pendingEvents := [] } ∧
        ∃ started, site.prepare failing = .ok started) := by
  unfold replace at failed
  cases prepared : site.prepare failing with
  | error refused =>
    rw [prepared] at failed
    cases failed
    refine .inl ⟨rfl, ?_⟩
    by_contra lost
    have unstored : site.journal.store = none := Option.not_isSome_iff_eq_none.mp fun stored =>
      lost (.inl stored)
    obtain ⟨started, ready⟩ := (prepare_pending unstored fun none => lost (.inr (.inl none))).mpr lost
    simp [prepared] at ready
  | ok started =>
    rw [prepared] at failed
    cases moved : started.1.migrate bounded failing.breaks started.2 with
    | mk filled raised =>
      simp only [moved] at failed
      cases raised with
      | none => cases failed
      | some refused =>
        cases failed
        exact .inr ⟨rfl, started, rfl⟩

private theorem install_failed (failed : site.install bounded failing = (left, some error)) :
    (left.journal = site.journal ∧ site.Keeps failing) ∨
      (left.journal = { site.journal with pendingEvents := [] } ∧
        ∃ started, site.prepare failing = .ok started) := by
  unfold install at failed
  split at failed
  · rename_i readOnly
    cases failed
    exact .inl ⟨rfl, .inr (.inr (.inl readOnly))⟩
  split at failed
  · rename_i previous stored
    split_ifs at failed with same
    · unfold rename at failed
      split at failed
      · cases failed
        exact .inl ⟨rfl, .inl (by rw [stored]; rfl)⟩
      · cases failed
    · exact replace_failed failed
  · exact replace_failed failed

/-- After an attach that raised, the next one leaves the recorded events in a fresh log, unless they
were pending and the first log opened. -/
theorem attach_after_failure_iff (failed : site.install bounded failing = (left, some error))
    (fresh : left.Fresh next.path) (attached : left.attach bounded next = (last, none)) :
    (∃ store, last.journal.store = some store ∧ last.disk next.path = .holding store.records ∧
        store.records.map .ok = recordings bounded store.runId 1 (site.recordedBy next)) ↔
      site.Keeps failing := by
  obtain ⟨store, stored, onDisk, records⟩ := attach_fresh fresh attached
  have kept (same : left.recordedBy next = site.recordedBy next) :
      ∃ store, last.journal.store = some store ∧ last.disk next.path = .holding store.records ∧
        store.records.map .ok = recordings bounded store.runId 1 (site.recordedBy next) :=
    ⟨store, stored, onDisk, same ▸ records⟩
  rcases install_failed failed with ⟨same, keeps⟩ | ⟨emptied, prepared⟩
  · exact iff_of_true (kept (by simp only [recordedBy, held, same])) keeps
  cases unstored : site.journal.store with
  | some previous =>
    exact iff_of_true (kept (by simp only [recordedBy, held, emptied, unstored]))
      (.inl (by rw [unstored]; rfl))
  | none =>
  by_cases pending : site.journal.pendingEvents = []
  · exact iff_of_true (kept (by simp only [recordedBy, held, emptied, unstored, pending]))
      (.inr (.inl pending))
  refine iff_of_false ?_ ((prepare_pending unstored pending).mp prepared)
  rintro ⟨other, again, _, expected⟩
  cases stored.symm.trans again
  -- the log has one record for each event the journal still held, which is fewer
  have lengths := congrArg List.length (records.symm.trans expected)
  simp [recordings, recordedBy, held, emptied, unstored, pending] at lengths

def waitingSite : Site Unit where
  journal.pendingEvents := [{ timestamp := "0", type := .other "output" }]
  disk := fun _ => .absent

def attachingTo (path : String) (breaks : Bool) : Attaching :=
  { path, runId := some "run", storeId := path, timestamp := "1", breaks := fun _ => breaks }

theorem unnamed_attach_keeps_the_pending_event :
    ∃ store, (waitingSite.attach .ok (attachingTo "b" false)).1.journal.store = some store ∧
      (waitingSite.attach .ok (attachingTo "b" false)).1.disk "b" = .holding store.records ∧
      store.records.map .ok =
        recordings .ok store.runId 1 (waitingSite.recordedBy (attachingTo "b" false)) := by
  have failed : waitingSite.install .ok { attachingTo "a" false with runId := none } =
      (waitingSite, some .unnamed) := rfl
  have attached : waitingSite.attach .ok (attachingTo "b" false) =
      ((waitingSite.attach .ok (attachingTo "b" false)).1, none) := rfl
  exact (attach_after_failure_iff failed ⟨nofun, .inl rfl⟩ attached).mpr
    (.inr (.inr (.inr (.inl rfl))))

/-- The write of the only pending event fails, and the log attached next begins without it. -/
theorem broken_write_loses_the_pending_event :
    (waitingSite.install .ok (attachingTo "a" true)).2 = some (.unwritable "a") ∧
      let (last, raised) := (waitingSite.install .ok (attachingTo "a" true)).1.attach .ok
        (attachingTo "b" false)
      raised = none ∧ last.journal.store.map EventStore.records =
        some [(serverStarted (attachingTo "b" false)).stamped 1 "run"] := by
  decide

end Site

end VibeServeCore.Journal
