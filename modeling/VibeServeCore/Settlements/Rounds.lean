/- source: _adoption.py, _step.py (`register_requests`)
   digest: Everything an adoption event can do, and the adoption rounds of a ledger. -/

import VibeServeCore.Registration
import VibeServeCore.Settlements.Reducer

namespace VibeServeCore.Settlements

open Types List Registration Foundation.Process
open Proofs (Digests)
open Adoption (rounds adoptId verifyId phase fencesRootMutation)

structure Open (digests : Digests) (state : SettlementState) (context : SettlementContext)
    (adoption : Adoption) : Prop where
  current : state.adoption = some adoption
  fenced : fencesRootMutation digests state context.records

structure Adopted (digests : Digests) (context : SettlementContext) (selection : Selection)
    (observation : Observation) : Prop where
  latest : observation.requestId = adoptId digests selection (latestRound context.records selection)
  known : ledgerHas context.records observation.requestId selection

structure Verified (digests : Digests) (context : SettlementContext) (selection : Selection)
    (observation : Observation) : Prop where
  latest : observation.requestId =
    verifyId digests selection (latestRound context.records selection)
  known : ledgerHas context.records observation.requestId selection

inductive Adopts (digests : Digests) (state : SettlementState) (context : SettlementContext) :
    SettlementEvent → Change → Prop
  | kept (event : SettlementEvent) : Adopts digests state context event { state := state }
  | refused (selection : Selection) (rejection : Rejected) :
      Adopts digests state context (.winnerProposed selection)
        { state, events := [.feedback (.rejected rejection)] }
  /-- The adopt request of the round is missing from the ledger. -/
  | readopted (adoption : Adoption) (current : state.adoption = some adoption)
      (adopting : phase digests state.adoption context.records = .adopting)
      (missing : ledgerHas context.records (adoptId digests adoption.selection
        (latestRound context.records adoption.selection)) adoption.selection = false) :
      Adopts digests state context (.winnerProposed adoption.selection)
        { state := state
          requests := [adopt digests context adoption.selection
            (latestRound context.records adoption.selection)] }
  /-- The verify request of the round is missing from the ledger. -/
  | reverified (adoption : Adoption) (current : state.adoption = some adoption) :
      Adopts digests state context (.winnerProposed adoption.selection)
        { state := state
          requests := [verify digests context adoption.selection
            (latestRound context.records adoption.selection)] }
  | started (selection : Selection) (unfenced : phase digests state.adoption context.records = .idle ∨
        phase digests state.adoption context.records = .failed)
      (allowed : mayStartRound context selection) :
      Adopts digests state context (.winnerProposed selection)
        (withAdoption state { selection := selection }
          [adopt digests context selection (rounds context.records selection)])
  /-- A fact about the round is recorded, and the root may have to be looked at. -/
  | noted (adoption : Adoption) (observation : Observation) (revision : Option RevisionRef)
      (requests : List Outbound) (underway : Open digests state context adoption)
      (about : Adopted digests context adoption.selection observation ∨
        adoption.observation.isSome ∧
          Verified digests context adoption.selection observation)
      (asks : requests = [] ∨ requests = [verify digests context adoption.selection
        (latestRound context.records adoption.selection)]) :
      Adopts digests state context (.adoptionObserved observation revision)
        (withAdoption state { adoption with observation := some observation } requests)
  | proven (adoption : Adoption) (observation : Observation)
      (underway : Open digests state context adoption)
      (heard : adoption.observation.isSome)
      (about : Verified digests context adoption.selection observation)
      (succeeded : observation.status = .succeeded) :
      Adopts digests state context
        (.adoptionObserved observation (some adoption.selection.revision))
        (verified state context adoption.selection observation)
  | failed (adoption : Adoption) (observation : Observation) (revision : Option RevisionRef)
      (reason : AdoptionFailureReason) (underway : Open digests state context adoption)
      (about : Adopted digests context adoption.selection observation ∨
        adoption.observation.isSome ∧
          Verified digests context adoption.selection observation) :
      Adopts digests state context (.adoptionObserved observation revision)
        (fail state context adoption observation reason)
  /-- The root could not be read: the next round starts. -/
  | retried (adoption : Adoption) (observation : Observation) (revision : Option RevisionRef)
      (underway : Open digests state context adoption)
      (heard : adoption.observation.isSome)
      (allowed : mayStartRound context adoption.selection) :
      Adopts digests state context (.adoptionObserved observation revision)
        (withAdoption state { selection := adoption.selection }
          [adopt digests context adoption.selection
            (latestRound context.records adoption.selection + 1)])

variable {digests : Digests} {state : SettlementState} {context : SettlementContext}
  {selection : Selection} {change : Change}

private theorem refuse_adopts {code : RejectionCode} {detail : String}
    (done : refuse state context selection code detail = .ok change) :
    Adopts digests state context (.winnerProposed selection) change := by
  unfold refuse at done
  split at done
  · cases done
  · cases done
    exact .refused selection _

private theorem existing_adopts
    (answered : existing digests state context selection = some (.ok change)) :
    Adopts digests state context (.winnerProposed selection) change := by
  simp only [existing] at answered
  -- A proposal of the winner under adoption is replayed, any other one refused.
  have own : ∀ {replayed : Change} {refused : Except CoreError Change},
      (if state.adoption.map Adoption.selection = some selection then some (.ok replayed)
        else some refused) = some (.ok change) →
      (∃ adoption, state.adoption = some adoption ∧ adoption.selection = selection ∧
        change = replayed) ∨ refused = .ok change := by
    intro replayed refused chosen
    split_ifs at chosen with same
    · obtain ⟨adoption, current, named⟩ := Option.map_eq_some_iff.mp same
      cases chosen
      exact .inl ⟨adoption, current, named, rfl⟩
    · exact .inr (Option.some.inj chosen)
  split at answered
  · rcases own answered with ⟨-, -, -, rfl⟩ | refused
    · exact .kept _
    · exact refuse_adopts refused
  · rename_i adopting
    rcases own answered with ⟨adoption, current, rfl, rfl⟩ | refused
    · simp only [replay, if_true]
      split_ifs with held
      · exact .kept _
      · exact .readopted adoption current adopting (Bool.eq_false_of_not_eq_true held)
    · exact refuse_adopts refused
  · rcases own answered with ⟨adoption, current, rfl, rfl⟩ | refused
    · simp only [replay, Bool.false_eq_true, if_false]
      split_ifs
      · exact .kept _
      · exact .reverified adoption current
    · exact refuse_adopts refused
  · cases answered
  · cases answered

private theorem existing_none (unanswered : existing digests state context selection = none) :
    phase digests state.adoption context.records = .idle ∨
      phase digests state.adoption context.records = .failed := by
  simp only [existing] at unanswered
  split at unanswered
  all_goals first
    | (split_ifs at unanswered)
    | (rename_i now; exact .inl now)
    | (rename_i now; exact .inr now)

theorem propose_adopts (done : propose digests state context selection = .ok change) :
    Adopts digests state context (.winnerProposed selection) change := by
  unfold propose at done
  cases met : existing digests state context selection with
  | some answer =>
    rw [met, Option.getD_some] at done
    rw [done] at met
    exact existing_adopts met
  | none =>
    rw [met, Option.getD_none] at done
    unfold start at done
    split at done
    · exact refuse_adopts done
    split_ifs at done with holder exhausted
    · exact refuse_adopts done
    · exact refuse_adopts done
    · cases done
      exact .started selection (existing_none met) (by simpa using exhausted)

variable {adoption : Adoption} {observation : Observation} {revision : Option RevisionRef}

private theorem adoptObserved_adopts (underway : Open digests state context adoption)
    (about : Adopted digests context adoption.selection observation) :
    Adopts digests state context (.adoptionObserved observation revision)
      (adoptObserved digests state context adoption observation
        (latestRound context.records adoption.selection)) := by
  simp only [adoptObserved]
  split_ifs
  · exact .noted adoption observation revision [] underway (.inl about) (.inl rfl)
  · exact .failed adoption observation revision _ underway (.inl about)
  · exact .noted adoption observation revision [] underway (.inl about) (.inl rfl)
  · exact .noted adoption observation revision _ underway (.inl about) (.inr rfl)

private theorem verifyObserved_adopts (underway : Open digests state context adoption)
    (heard : adoption.observation.isSome)
    (about : Verified digests context adoption.selection observation) :
    Adopts digests state context (.adoptionObserved observation revision)
      (verifyObserved digests state context adoption observation revision
        (latestRound context.records adoption.selection)) := by
  simp only [verifyObserved]
  split_ifs with undecided holds
  · exact .noted adoption observation revision [] underway (.inr ⟨heard, about⟩) (.inl rfl)
  · rw [Bool.and_eq_true, decide_eq_true_eq, decide_eq_true_eq] at holds
    rw [holds.2]
    exact .proven adoption observation underway heard about holds.1
  · exact .failed adoption observation revision _ underway (.inr ⟨heard, about⟩)
  · exact .failed adoption observation revision _ underway (.inr ⟨heard, about⟩)
  · rename_i allowed
    exact .retried adoption observation revision underway heard allowed
  · exact .failed adoption observation revision _ underway (.inr ⟨heard, about⟩)

private theorem observation_of_verifying {records : RecordsState}
    (verifying : phase digests (some adoption) records = .verifying) :
    adoption.observation.isSome := by
  cases said : adoption.observation with
  | some observation => rfl
  | none =>
    simp only [phase, said] at verifying
    split_ifs at verifying

theorem observe_adopts (observation : Observation) (revision : Option RevisionRef) :
    Adopts digests state context (.adoptionObserved observation revision)
      (observe digests state context observation revision) := by
  unfold observe
  split
  · exact .kept _
  rename_i adoption current
  split_ifs
  · exact .kept _
  have adopted : (observation.requestId = adoptId digests adoption.selection
      (latestRound context.records adoption.selection) &&
      ledgerHas context.records observation.requestId adoption.selection) →
      Adopted digests context adoption.selection observation := by
    intro holds
    rw [Bool.and_eq_true, decide_eq_true_eq] at holds
    exact ⟨holds.1, holds.2⟩
  dsimp only
  split
  · rename_i now
    have underway : Open digests state context adoption :=
      ⟨current, by rw [fencesRootMutation, now]; rfl⟩
    split_ifs with fresh
    · rw [Bool.and_eq_true] at fresh
      exact adoptObserved_adopts underway (adopted fresh.1)
    · exact .kept _
  · rename_i now
    have underway : Open digests state context adoption :=
      ⟨current, by rw [fencesRootMutation, now]; rfl⟩
    split_ifs with verifying corrected
    · rw [Bool.and_eq_true, Bool.and_eq_true, decide_eq_true_eq] at verifying
      rw [current] at now
      exact verifyObserved_adopts underway (observation_of_verifying now)
        ⟨verifying.1.1, verifying.1.2⟩
    · rw [Bool.and_eq_true, Bool.and_eq_true] at corrected
      exact adoptObserved_adopts underway (adopted corrected.1.1)
    · exact .kept _
  all_goals exact .kept _

def isAdoption : RequestBody → Bool
  | .adoptRevision _ | .verifyAdoption _ => true
  | _ => false

def adoptionRequests (records : RecordsState) : List (RequestId × RequestBody) :=
  (records.records.filter fun row => isAdoption row.request.body).map fun row =>
    (row.requestId, row.request.body)

def roundIds (requests : List (RequestId × RequestBody)) (selection : Selection) :
    List RequestId :=
  (requests.filter fun entry => entry.2 = .adoptRevision selection).map Prod.fst

theorem rounds_eq (records : RecordsState) (selection : Selection) :
    rounds records selection = (roundIds (adoptionRequests records) selection).length := by
  rw [roundIds, length_map, adoptionRequests, filter_map, length_map,
    filter_filter, rounds, countP_eq_length_filter]
  congr 1
  refine filter_congr fun row _ => ?_
  simp only [Function.comp_apply]
  by_cases own : row.request.body = .adoptRevision selection
  · simp [own, isAdoption]
  · simp [own]

variable {identity : RequestId} {validJson : String → Bool}

theorem ledgerHas_iff {records : RecordsState} {selection : Selection} :
    ledgerHas records identity selection ↔
      (identity, .adoptRevision selection) ∈ adoptionRequests records ∨
        (identity, .verifyAdoption selection) ∈ adoptionRequests records := by
  simp only [ledgerHas, any_eq_true, Bool.and_eq_true, Bool.or_eq_true, decide_eq_true_eq,
    adoptionRequests, mem_map, mem_filter, Prod.mk.injEq]
  constructor
  · rintro ⟨row, listed, rfl, adopts | verifies⟩
    · exact .inl ⟨row, ⟨listed, by rw [adopts]; rfl⟩, rfl, adopts⟩
    · exact .inr ⟨row, ⟨listed, by rw [verifies]; rfl⟩, rfl, verifies⟩
  · rintro (⟨row, ⟨listed, -⟩, rfl, adopts⟩ | ⟨row, ⟨listed, -⟩, rfl, verifies⟩)
    · exact ⟨row, listed, rfl, .inl adopts⟩
    · exact ⟨row, listed, rfl, .inr verifies⟩

theorem adoptId_ne_verifyId (digests : Digests) (first second : Selection) (early late : Nat) :
    adoptId digests first early ≠ verifyId digests second late := by
  intro same
  have texts : (adoptId digests first early).root.toList =
      (verifyId digests second late).root.toList := by rw [same]
  unfold adoptId verifyId at texts
  simp only [String.toList_append, append_assoc] at texts
  exact absurd (List.cons.inj texts).1 (by decide)

/-- Rounds of a selection count from zero, bounded; no adoption requests share an identity. -/
structure Numbered (digests : Digests) (limit : Nat) (requests : List (RequestId × RequestBody)) :
    Prop where
  numbered : ∀ selection, roundIds requests selection =
    (List.range (roundIds requests selection).length).map (adoptId digests selection)
  bounded : ∀ selection, (roundIds requests selection).length ≤ limit
  named : ∀ identity selection, (identity, .verifyAdoption selection) ∈ requests →
    ∃ round, identity = verifyId digests selection round
  apart : (requests.map Prod.fst).Nodup

namespace Numbered

variable {limit : Nat} {requests : List (RequestId × RequestBody)}

theorem empty (digests : Digests) (limit : Nat) : Numbered digests limit [] :=
  ⟨fun _ => rfl, fun _ => Nat.zero_le _, fun _ _ listed => (by cases listed), nodup_nil⟩

private theorem roundIds_append (added : RequestId × RequestBody) :
    roundIds (requests ++ [added]) selection =
      roundIds requests selection ++ roundIds [added] selection := by
  simp only [roundIds, filter_append, map_append]

private theorem apart_append {added : RequestId × RequestBody}
    (apart : (requests.map Prod.fst).Nodup)
    (fresh : added.1 ∉ requests.map Prod.fst) : ((requests ++ [added]).map Prod.fst).Nodup := by
  rw [map_append, map_singleton, nodup_append]
  refine ⟨apart, nodup_singleton _, ?_⟩
  rintro identity listed _ own rfl
  rw [mem_singleton.mp own] at listed
  exact fresh listed

theorem adopt (sound : Numbered digests limit requests)
    (fresh : adoptId digests selection (roundIds requests selection).length ∉ requests.map Prod.fst)
    (allowed : (roundIds requests selection).length < limit) :
    Numbered digests limit (requests ++
      [(adoptId digests selection (roundIds requests selection).length,
        .adoptRevision selection)]) := by
  have own : ∀ other, roundIds [(adoptId digests selection (roundIds requests selection).length,
      RequestBody.adoptRevision selection)] other =
      if selection = other then [adoptId digests selection (roundIds requests selection).length]
      else [] := by
    intro other
    by_cases same : selection = other <;> simp [roundIds, same]
  refine ⟨fun other => ?_, fun other => ?_, fun identity other listed => ?_,
    apart_append sound.apart fresh⟩
  · rw [roundIds_append, own]
    split_ifs with same
    · subst same
      rw [length_append, length_singleton, range_succ, map_append,
        map_singleton, ← sound.numbered]
    · rw [append_nil]
      exact sound.numbered other
  · rw [roundIds_append, own, length_append]
    split_ifs with same
    · subst same
      rw [length_singleton]
      omega
    · exact sound.bounded other
  · rcases mem_append.mp listed with listed | added
    · exact sound.named identity other listed
    · rw [mem_singleton] at added
      cases added

theorem verify (sound : Numbered digests limit requests) {round : Nat}
    (fresh : verifyId digests selection round ∉ requests.map Prod.fst) :
    Numbered digests limit (requests ++
      [(verifyId digests selection round, .verifyAdoption selection)]) := by
  have other : ∀ selected, roundIds (requests ++
      [(verifyId digests selection round, .verifyAdoption selection)]) selected =
      roundIds requests selected := by
    intro selected
    simp [roundIds]
  refine ⟨fun selected => ?_, fun selected => ?_, fun identity selected listed => ?_,
    apart_append sound.apart fresh⟩
  · rw [other]
    exact sound.numbered selected
  · rw [other]
    exact sound.bounded selected
  · rcases mem_append.mp listed with listed | added
    · exact sound.named identity selected listed
    · rw [mem_singleton] at added
      cases added
      exact ⟨round, rfl⟩

theorem latest_mem (sound : Numbered digests limit requests)
    (some : 0 < (roundIds requests selection).length) :
    (adoptId digests selection ((roundIds requests selection).length - 1),
      .adoptRevision selection) ∈ requests := by
  have listed : adoptId digests selection ((roundIds requests selection).length - 1) ∈
      roundIds requests selection := by
    rw [sound.numbered selection, length_map, length_range]
    exact mem_map_of_mem (mem_range.mpr (by omega))
  obtain ⟨entry, mem, same⟩ := mem_map.mp listed
  obtain ⟨mem, body⟩ := mem_filter.mp mem
  rw [← same, ← of_decide_eq_true body]
  exact mem

theorem pos_of_mem (listed : (identity, .adoptRevision selection) ∈ requests) :
    0 < (roundIds requests selection).length := by
  have kept : identity ∈ roundIds requests selection :=
    mem_map.mpr ⟨_, mem_filter.mpr ⟨listed, by simp⟩, rfl⟩
  exact length_pos_of_mem kept

end Numbered

/-! ## Registering the requests of one event -/

structure Files (core next : CoreState) (settlement : SettlementState)
    (added : List (RequestId × RequestBody)) : Prop where
  settlement : next.settlement = settlement
  limits : next.run.limits = core.run.limits
  rows : adoptionRequests next.records = adoptionRequests core.records ++ added
  fresh : ∀ entry ∈ added, entry.1 ∉ (adoptionRequests core.records).map Prod.fst

def isAdoptionEvent : SettlementEvent → Bool
  | .winnerProposed _ | .adoptionObserved .. => true
  | _ => false

abbrev AdoptionEvent := { event : SettlementEvent // isAdoptionEvent event = true }

def takeEvent (digests : Digests) (validJson : String → Bool) (core : CoreState)
    (event : AdoptionEvent) : Except CoreError (Change × CoreState) := do
  let change ← settle digests validJson core.settlement core.settlementContext event.1
  let scheduled ← change.requests.mapM fun outbound => resolve core outbound none
  let (next, _) ← registerRequests digests { core with settlement := change.state } scheduled
  return (change, next)

def asked (requests : List Outbound) : List (RequestId × RequestBody) :=
  requests.filterMap fun outbound =>
    outbound.request.requestId.map fun identity => (identity, outbound.request.body)

variable {core next : CoreState} {allocated : List Request}

private theorem registerRequests_nil
    (registered : registerRequests digests core [] = .ok (next, allocated)) :
    next = core := by
  cases registered
  rfl

private theorem registerRequests_one {scheduled : Scheduled}
    (own : scheduled.request.requestId = some identity) (adopts : isAdoption scheduled.request.body)
    (registered : registerRequests digests core [scheduled] = .ok (next, allocated)) :
    ∃ added, (added = [] ∨ added = [(identity, scheduled.request.body)]) ∧
      Files core next core.settlement added := by
  obtain ⟨done, ran, registered⟩ := bind_ok registered
  have turned : registerOne digests core.run.runId core.revision
      { records := core.records.records } (scheduled, 0) = .ok done := by
    obtain ⟨middle, turned, ended⟩ := bind_ok ran
    cases ended
    exact turned
  unfold registerOne at turned
  simp only [allocateId, own, Option.getD_some] at turned
  split at turned
  · split_ifs at turned
    cases turned
    cases registered
    exact ⟨[], .inl rfl, rfl, rfl, (append_nil _).symm, fun _ listed => by cases listed⟩
  · rename_i missing
    have unaddressed : scheduled.request.body.commandTarget? = none := by
      cases body : scheduled.request.body <;> rw [body] at adopts <;> first | rfl | cases adopts
    simp only [unaddressed] at turned
    cases turned
    cases registered
    refine ⟨_, .inr rfl, rfl, rfl, ?_, ?_⟩
    · simp [adoptionRequests, preparedRow, filter_append, adopts]
    intro entry listed known
    rw [mem_singleton.mp listed] at known
    obtain ⟨row, held, same⟩ := mem_map.mp known
    obtain ⟨source, mem, rfl⟩ := mem_map.mp held
    have absent := find?_eq_none.mp missing source (mem_filter.mp mem).1
    exact absent (by simpa using same)

structure Taken (digests : Digests) (core : CoreState) (event : SettlementEvent) (base change : Change)
    (next : CoreState) (added : List (RequestId × RequestBody)) : Prop where
  adopts : Adopts digests core.settlement core.settlementContext event base
  announced : change = announceFenceLift digests core.settlement core.settlementContext base
  files : Files core next base.state added
  asks : added = [] ∨ added = asked base.requests

theorem Adopts.requests {event : SettlementEvent}
    (adopts : Adopts digests state context event change) :
    change.requests = [] ∨
      (∃ selection round, change.requests = [adopt digests context selection round]) ∨
      ∃ selection round, change.requests = [verify digests context selection round] := by
  cases adopts with
  | kept | refused => exact .inl rfl
  | readopted => exact .inr (.inl ⟨_, _, rfl⟩)
  | reverified => exact .inr (.inr ⟨_, _, rfl⟩)
  | started => exact .inr (.inl ⟨_, _, rfl⟩)
  | noted adoption observation revision requests underway about asks =>
    rcases asks with rfl | rfl
    · exact .inl rfl
    · exact .inr (.inr ⟨_, _, rfl⟩)
  | proven | failed => exact .inl rfl
  | retried => exact .inr (.inl ⟨_, _, rfl⟩)

theorem announceFenceLift_state (before : SettlementState) (context : SettlementContext)
    (base : Change) : (announceFenceLift digests before context base).state = base.state := by
  unfold announceFenceLift
  split_ifs <;> rfl

private theorem announceFenceLift_requests (before : SettlementState) (context : SettlementContext)
    (base : Change) : (announceFenceLift digests before context base).requests = base.requests := by
  unfold announceFenceLift
  split_ifs <;> rfl

theorem announceFenceLift_events (before : SettlementState) (context : SettlementContext)
    (base : Change) : (announceFenceLift digests before context base).events = base.events := by
  unfold announceFenceLift
  split_ifs <;> rfl

private theorem settle_adopts {event : AdoptionEvent}
    (settled : settle digests validJson state context event.1 = .ok change) :
    ∃ base, Adopts digests state context event.1 base ∧
      change = announceFenceLift digests state context base := by
  obtain ⟨event, own⟩ := event
  cases event with
  | winnerProposed selection =>
    obtain ⟨base, proposed, rfl⟩ := map_ok settled
    exact ⟨base, propose_adopts proposed, rfl⟩
  | adoptionObserved observation revision =>
    cases settled
    exact ⟨_, observe_adopts observation revision, rfl⟩
  | assessmentSubmitted | ownershipSettled | attemptSettled => cases own

theorem takeEvent_taken {event : AdoptionEvent}
    (taken : takeEvent digests validJson core event = .ok (change, next)) :
    ∃ base added, Taken digests core event.1 base change next added := by
  obtain ⟨settled, done, taken⟩ := bind_ok taken
  obtain ⟨scheduled, resolved, taken⟩ := bind_ok taken
  obtain ⟨⟨filed, allocated⟩, registered, taken⟩ := bind_ok taken
  cases taken
  obtain ⟨base, adopts, rfl⟩ := settle_adopts done
  rw [announceFenceLift_requests] at resolved
  rw [announceFenceLift_state] at registered
  have filedOne : ∀ (outbound : Outbound) (identity : RequestId) (limit : Within),
      base.requests = [outbound] → outbound.until_ = .within limit →
      outbound.request.requestId = some identity →
      isAdoption outbound.request.body →
      ∃ added, Taken digests core event.1 base
        (announceFenceLift digests core.settlement core.settlementContext base) next added := by
    intro outbound identity limit single bound named adoption
    rw [single] at resolved
    have scheduledOne : scheduled = [⟨outbound.request, Clock.resolveUntil core.run limit, none⟩] := by
      rw [mapM_cons, mapM_nil, resolve, bound] at resolved
      cases resolved
      rfl
    rw [scheduledOne] at registered
    obtain ⟨added, asks, files⟩ := registerRequests_one named adoption registered
    refine ⟨added, adopts, rfl, ⟨files.settlement, files.limits, files.rows, files.fresh⟩, ?_⟩
    rw [single, asked, filterMap_cons, named]
    exact asks
  rcases adopts.requests with none | ⟨selection, round, one⟩ | ⟨selection, round, one⟩
  · rw [none] at resolved
    cases resolved
    obtain rfl := registerRequests_nil registered
    exact ⟨base, [], adopts, rfl,
      ⟨rfl, rfl, (append_nil _).symm, fun _ listed => by cases listed⟩, .inl rfl⟩
  · exact ⟨base, filedOne _ _ _ one rfl rfl rfl⟩
  · exact ⟨base, filedOne _ _ _ one rfl rfl rfl⟩

end VibeServeCore.Settlements
