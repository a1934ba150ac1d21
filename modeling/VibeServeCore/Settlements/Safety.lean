/- source: _adoption.py, settlement.py
   digest: One verified result per run, bounded rounds, and a fence announced as it lifts. -/

import VibeServeCore.Foundation.WriteOnce
import VibeServeCore.Records.Finality
import VibeServeCore.Settlements.Rounds

namespace VibeServeCore.Settlements

open Types List
open Proofs (Digests)
open Foundation.Process Foundation.WriteOnce
open Adoption (rounds adoptId verifyId phase observedPhase fencesRootMutation)
open Records (sampleRun sampleDigests sampleScope)

structure Sound (digests : Digests) (core : CoreState) : Prop where
  ledger : Numbered digests core.run.limits.maxAdoptionRounds (adoptionRequests core.records)
  allowed : core.settlement.adoption.isSome → 0 < core.run.limits.maxAdoptionRounds
  heard : ∀ adoption, core.settlement.adoption = some adoption →
    adoption.observation.isSome → 0 < rounds core.records adoption.selection

inductive Filed (digests : Digests) (core : CoreState) (adoption : Option Adoption) :
    List (RequestId × RequestBody) → Prop
  | nothing : Filed digests core adoption []
  | round (selection : Selection)
      (allowed : rounds core.records selection < core.run.limits.maxAdoptionRounds)
      (silent : ∀ current, adoption = some current → current.observation = none) :
      Filed digests core adoption
        [(adoptId digests selection (rounds core.records selection), .adoptRevision selection)]
  | inspection (selection : Selection) (number : Nat) :
      Filed digests core adoption [(verifyId digests selection number, .verifyAdoption selection)]

section
variable {digests : Digests} {core next : CoreState} {event : SettlementEvent}
  {base change : Change} {added : List (RequestId × RequestBody)}

variable {selection : Selection} {observation : Observation} {adoption : Adoption}
  {state : SettlementState} {context : SettlementContext}

section
variable (sound : Sound digests core)

include sound

private theorem rounds_pos_of_adopted
    (about : Adopted digests core.settlementContext selection observation) :
    0 < rounds core.records selection := by
  rw [rounds_eq]
  rcases ledgerHas_iff.mp about.known with adopts | verifies
  · exact Numbered.pos_of_mem adopts
  · obtain ⟨round, named⟩ := sound.ledger.named _ _ verifies
    exact absurd (about.latest.symm.trans named) (adoptId_ne_verifyId _ _ _ _ _)

private theorem rounds_pos_of_heard (current : core.settlement.adoption = some adoption)
    (about : Adopted digests core.settlementContext adoption.selection observation ∨
      adoption.observation.isSome ∧ Verified digests core.settlementContext
      adoption.selection observation) : 0 < rounds core.records adoption.selection := by
  rcases about with adopted | ⟨heard, -⟩
  · exact rounds_pos_of_adopted sound adopted
  · exact sound.heard adoption current heard

private theorem rounds_eq_zero_of_missing (missing : ledgerHas core.records
      (adoptId digests selection (latestRound core.records selection)) selection = false) :
    rounds core.records selection = 0 := by
  by_contra some
  have registered : 0 < (roundIds (adoptionRequests core.records) selection).length := by
    rw [← rounds_eq]
    omega
  have present := sound.ledger.latest_mem registered
  rw [← rounds_eq] at present
  have held := ledgerHas_iff.mpr (.inl present)
  rw [latestRound] at missing
  rw [missing] at held
  cases held

theorem Adopts.filed (adopts : Adopts digests core.settlement core.settlementContext event base) :
    Filed digests core base.state.adoption (asked base.requests) := by
  cases adopts with
  | kept | refused => exact .nothing
  | readopted adoption current adopting missing =>
    have none := rounds_eq_zero_of_missing sound missing
    have latest : latestRound core.records adoption.selection =
        rounds core.records adoption.selection := by rw [latestRound, none]
    have silent : ∀ other, core.settlement.adoption = some other → other.observation = Option.none := by
      intro other same
      rw [current] at same
      cases same
      by_contra heard
      have registered := sound.heard adoption current (Option.isSome_iff_ne_none.mpr heard)
      omega
    have allowed : rounds core.records adoption.selection < core.run.limits.maxAdoptionRounds := by
      rw [none]
      exact sound.allowed (by rw [current]; rfl)
    show Filed digests core core.settlement.adoption
      [(adoptId digests adoption.selection (latestRound core.records adoption.selection), _)]
    rw [latest]
    exact .round adoption.selection allowed silent
  | reverified adoption current => exact .inspection adoption.selection _
  | started selection unfenced allowed =>
    refine .round selection (of_decide_eq_true allowed) fun current same => ?_
    cases same
    rfl
  | noted adoption observation revision requests underway about asks =>
    rcases asks with rfl | rfl
    · exact .nothing
    · exact .inspection adoption.selection _
  | proven | failed => exact .nothing
  | retried adoption observation revision underway heard allowed =>
    have registered := sound.heard adoption underway.current heard
    have following : latestRound core.records adoption.selection + 1 =
        rounds core.records adoption.selection := by
      rw [latestRound]
      omega
    show Filed digests core (some { selection := adoption.selection })
      [(adoptId digests adoption.selection (latestRound core.records adoption.selection + 1), _)]
    rw [following]
    refine .round adoption.selection (of_decide_eq_true allowed) fun current same => ?_
    cases same
    rfl

theorem Taken.filed (taken : Taken digests core event base change next added) :
    Filed digests core base.state.adoption added := by
  rcases taken.asks with rfl | rfl
  · exact .nothing
  · exact taken.adopts.filed sound

end

theorem Files.rounds_le {settlement : SettlementState} (files : Files core next settlement added)
    (selection : Selection) : rounds core.records selection ≤ rounds next.records selection := by
  rw [rounds_eq, rounds_eq, files.rows, roundIds, roundIds, filter_append, map_append,
    length_append]
  exact Nat.le_add_right _ _

theorem Taken.ledger (sound : Sound digests core)
    (taken : Taken digests core event base change next added) :
    Numbered digests next.run.limits.maxAdoptionRounds (adoptionRequests next.records) := by
  have fresh := taken.files.fresh
  rw [taken.files.limits, taken.files.rows]
  cases taken.filed sound with
  | nothing =>
    rw [append_nil]
    exact sound.ledger
  | round selection allowed silent =>
    rw [rounds_eq] at allowed fresh ⊢
    exact sound.ledger.adopt (fresh _ (mem_singleton_self _)) allowed
  | inspection selection number =>
    exact sound.ledger.verify (fresh _ (mem_singleton_self _))

theorem Adopts.heard (sound : Sound digests core)
    (adopts : Adopts digests core.settlement core.settlementContext event base) :
    ∀ adoption, base.state.adoption = some adoption → adoption.observation.isSome →
      0 < rounds core.records adoption.selection := by
  intro current same heard
  cases adopts with
  | kept | refused | readopted | reverified => exact sound.heard current same heard
  | started =>
    cases same
    cases heard
  | noted adoption observation revision requests underway about asks =>
    have registered := rounds_pos_of_heard sound underway.current about
    cases same
    exact registered
  | proven adoption observation underway known about succeeded =>
    cases same
    exact sound.heard adoption underway.current known
  | failed adoption observation revision reason underway about =>
    have registered := rounds_pos_of_heard sound underway.current about
    cases same
    exact registered
  | retried =>
    cases same
    cases heard

theorem Adopts.allowed (sound : Sound digests core)
    (adopts : Adopts digests core.settlement core.settlementContext event base)
    (adopting : base.state.adoption.isSome) : 0 < core.run.limits.maxAdoptionRounds := by
  cases adopts with
  | kept | refused | readopted | reverified => exact sound.allowed adopting
  | started selection unfenced allowed =>
    exact Nat.zero_lt_of_lt (of_decide_eq_true allowed)
  | noted adoption observation revision requests underway about asks
  | proven adoption observation underway known about succeeded
  | failed adoption observation revision reason underway about
  | retried adoption observation revision underway heard allowed =>
    exact sound.allowed (by rw [underway.current]; rfl)

theorem Taken.sound (sound : Sound digests core)
    (taken : Taken digests core event base change next added) : Sound digests next := by
  refine ⟨taken.ledger sound, ?_, ?_⟩
  · rw [taken.files.settlement, taken.files.limits]
    exact taken.adopts.allowed sound
  · rw [taken.files.settlement]
    intro adoption current heard
    exact (taken.adopts.heard sound adoption current heard).trans_le
      (taken.files.rounds_le adoption.selection)

private theorem phase_congr {adoption : Option Adoption} {before after : RecordsState}
    (same : ∀ current, adoption = some current → current.observation.isSome →
      rounds after current.selection = rounds before current.selection) :
    phase digests adoption after = phase digests adoption before := by
  cases adoption with
  | none => rfl
  | some current =>
    cases said : current.observation with
    | none => simp only [phase, said]
    | some observation =>
      have unmoved := same current rfl (by rw [said]; rfl)
      simp only [phase, said, observedPhase, unmoved]

theorem Taken.phase_eq (sound : Sound digests core)
    (taken : Taken digests core event base change next added) :
    phase digests base.state.adoption next.records =
      phase digests base.state.adoption core.records := by
  refine phase_congr fun current same heard => ?_
  rw [rounds_eq, rounds_eq, taken.files.rows]
  cases taken.filed sound with
  | nothing => rw [append_nil]
  | round selection allowed silent =>
    rw [silent current same] at heard
    cases heard
  | inspection selection number => simp [roundIds]

theorem Adopts.quiet (adopts : Adopts digests state context event base) :
    base.signals.count (.scheduling .adoptionFenceLifted) = 0 := by
  have completes : ∀ selection status,
      (completion context selection status).count (.scheduling .adoptionFenceLifted) = 0 := by
    intro selection status
    unfold completion
    cases proposer context selection <;> rfl
  cases adopts with
  | proven | failed => exact completes _ _
  | _ => rfl

theorem Taken.fence (sound : Sound digests core)
    (taken : Taken digests core event base change next added) :
    change.signals.count (.scheduling .adoptionFenceLifted) =
      if fencesRootMutation digests core.settlement core.records ∧
        fencesRootMutation digests next.settlement next.records = false then 1 else 0 := by
  have after : fencesRootMutation digests next.settlement next.records =
      fencesRootMutation digests base.state core.records := by
    rw [fencesRootMutation, fencesRootMutation, taken.files.settlement, taken.phase_eq sound]
  have quiet := taken.adopts.quiet
  rw [after, taken.announced]
  unfold announceFenceLift
  split_ifs with lifts both both
  · rw [count_append, quiet]
    rfl
  · simp only [CoreState.settlementContext, Bool.and_eq_true, Bool.not_eq_true'] at lifts
    exact absurd lifts both
  · simp only [CoreState.settlementContext, Bool.and_eq_true, Bool.not_eq_true'] at lifts
    exact absurd both lifts
  · exact quiet

def resultOf : Option Adoption → Option (Selection × Observation)
  | some { selection, observation := some observation, verified := true, .. } =>
    some (selection, observation)
  | _ => none

def resultsIn (events : List StrategyEvent) : List (Selection × Observation) :=
  events.filterMap fun
    | .adoptionResult selection observation => some (selection, observation)
    | _ => none

structure Ending where
  selection : Selection
  observation : Observation
  failure : Option AdoptionFailureReason

def endingOf : Option Adoption → Option Ending
  | some { selection, observation := some observation, verified, failure } =>
    if verified || failure.isSome then some ⟨selection, observation, failure⟩ else none
  | _ => none

def endingsIn (events : List StrategyEvent) : List Ending :=
  events.filterMap fun
    | .adoptionResult selection observation => some ⟨selection, observation, none⟩
    | .adoptionFailed selection reason observation _ => some ⟨selection, observation, some reason⟩
    | _ => none

private theorem endingsIn_append (first second : List StrategyEvent) :
    endingsIn (first ++ second) = endingsIn first ++ endingsIn second :=
  filterMap_append

theorem Open.running (underway : Open digests state context adoption) :
    adoption.verified = false ∧ adoption.failure = none := by
  have fenced := underway.fenced
  rw [fencesRootMutation, underway.current] at fenced
  cases proved : adoption.verified with
  | true => simp [phase, proved] at fenced
  | false =>
    cases lost : adoption.failure with
    | some reason => simp [phase, proved, lost] at fenced
    | none => exact ⟨rfl, rfl⟩

private theorem resultOf_running (running : adoption.verified = false) :
    resultOf (some adoption) = none := by
  obtain ⟨selection, observation, verified, failure⟩ := adoption
  cases running
  cases observation <;> rfl

private theorem endingOf_running (unverified : adoption.verified = false)
    (unfailed : adoption.failure = none) : endingOf (some adoption) = none := by
  obtain ⟨selection, observation, verified, failure⟩ := adoption
  cases unverified
  cases unfailed
  cases observation <;> rfl

theorem Adopts.verified_kept (adopts : Adopts digests state context event base)
    (current : state.adoption = some adoption) (verified : adoption.verified) :
    base.state.adoption = some adoption := by
  have ended : ∀ other, Open digests state context other → False := by
    intro other underway
    have same := underway.current
    rw [current] at same
    cases same
    rw [underway.running.1] at verified
    cases verified
  cases adopts with
  | kept | refused | readopted | reverified => exact current
  | started selection unfenced allowed =>
    have done : phase digests state.adoption context.records = .done := by
      rw [current]
      simp [phase, verified]
    rw [done] at unfenced
    rcases unfenced with idle | failed
    · cases idle
    · cases failed
  | noted adoption observation revision requests underway about asks =>
    exact (ended _ underway).elim
  | proven adoption observation underway known about succeeded
  | failed adoption observation revision reason underway about
  | retried adoption observation revision underway heard allowed => exact (ended _ underway).elim

theorem Adopts.writes_result (adopts : Adopts digests state context event base) :
    Writes (resultOf state.adoption) (resultOf base.state.adoption) (resultsIn base.events) := by
  cases adopts with
  | kept | refused | readopted | reverified => exact .unchanged _
  | started selection unfenced allowed =>
    have unwritten : resultOf state.adoption = none := by
      cases current : state.adoption with
      | none => rfl
      | some adoption =>
        refine resultOf_running ?_
        rw [current] at unfenced
        cases proved : adoption.verified with
        | false => rfl
        | true => simp [phase, proved] at unfenced
    rw [unwritten]
    rfl
  | noted adoption observation revision requests underway about asks =>
    rw [underway.current, resultOf_running underway.running.1]
    have after : resultOf (some { adoption with observation := some observation }) = none :=
      resultOf_running underway.running.1
    exact congrArg Option.toList after.symm
  | proven adoption observation underway known about succeeded =>
    rw [underway.current, resultOf_running underway.running.1]
    rfl
  | failed adoption observation revision reason underway about =>
    rw [underway.current, resultOf_running underway.running.1]
    have after : resultOf (some { adoption with
        observation := some observation, failure := some reason }) = none :=
      resultOf_running underway.running.1
    exact congrArg Option.toList after.symm
  | retried adoption observation revision underway heard allowed =>
    rw [underway.current, resultOf_running underway.running.1]
    rfl

def Starts (digests : Digests) (core : CoreState) (event : SettlementEvent) (change : Change) :
    Prop :=
  (phase digests core.settlement.adoption core.records = .idle ∨
      phase digests core.settlement.adoption core.records = .failed) ∧
    ∃ selection, event = .winnerProposed selection ∧
      change.state.adoption = some { selection := selection }

/-- While no new adoption starts, the end of the current one is written and announced once. -/
theorem Adopts.writes_ending
    (adopts : Adopts digests core.settlement core.settlementContext event base)
    (continues : ¬Starts digests core event base) :
    Writes (endingOf core.settlement.adoption) (endingOf base.state.adoption)
      (endingsIn base.events) := by
  have running : ∀ adoption, Open digests core.settlement core.settlementContext adoption →
      endingOf core.settlement.adoption = none := by
    intro adoption underway
    rw [underway.current]
    exact endingOf_running underway.running.1 underway.running.2
  cases adopts with
  | kept | refused | readopted | reverified => exact .unchanged _
  | started selection unfenced allowed => exact absurd ⟨unfenced, selection, rfl, rfl⟩ continues
  | noted adoption observation revision requests underway about asks =>
    rw [running adoption underway]
    have after : endingOf (some { adoption with observation := some observation }) = none :=
      endingOf_running underway.running.1 underway.running.2
    exact congrArg Option.toList after.symm
  | proven adoption observation underway known about succeeded =>
    rw [running adoption underway]
    rfl
  | failed adoption observation revision reason underway about =>
    rw [running adoption underway]
    have after : endingOf (some { adoption with
        observation := some observation, failure := some reason }) =
        some ⟨adoption.selection, observation, some reason⟩ := by
      simp [endingOf]
    exact congrArg Option.toList after.symm
  | retried adoption observation revision underway heard allowed =>
    rw [running adoption underway]
    rfl

theorem Adopts.starts_silent
    (adopts : Adopts digests core.settlement core.settlementContext event base)
    (starts : Starts digests core event base) : endingsIn base.events = [] := by
  obtain ⟨-, selection, rfl, -⟩ := starts
  cases adopts <;> rfl

structure Proven (digests : Digests) (core : CoreState) (event : SettlementEvent)
    (selection : Selection) (observation : Observation) : Prop where
  observed : event = .adoptionObserved observation (some selection.revision)
  succeeded : observation.status = .succeeded
  current : core.settlement.adoption.map Adoption.selection = some selection
  latest : observation.requestId = verifyId digests selection (latestRound core.records selection)
  requested : ∃ row ∈ core.records.records, row.requestId = observation.requestId ∧
    row.request.body = .verifyAdoption selection

theorem Adopts.proven_of_result (sound : Sound digests core)
    (adopts : Adopts digests core.settlement core.settlementContext event base)
    (published : .adoptionResult selection observation ∈ base.events) :
    Proven digests core event selection observation ∧ base.state.adoption =
      some { selection, observation := some observation, verified := true } := by
  cases adopts with
  | proven adoption seen underway known about succeeded =>
    cases mem_singleton.mp published
    have verifies : (observation.requestId, .verifyAdoption adoption.selection) ∈
        adoptionRequests core.records := by
      rcases ledgerHas_iff.mp about.known with adopts | verifies
      · -- An adopt request bears the name of a round, never of a verification.
        have listed : observation.requestId ∈
            roundIds (adoptionRequests core.records) adoption.selection :=
          mem_map.mpr ⟨_, mem_filter.mpr ⟨adopts, by simp⟩, rfl⟩
        rw [sound.ledger.numbered] at listed
        obtain ⟨round, -, named⟩ := mem_map.mp listed
        exact absurd (named.trans about.latest) (adoptId_ne_verifyId _ _ _ _ _)
      · exact verifies
    obtain ⟨row, held, same⟩ := mem_map.mp verifies
    obtain ⟨named, body⟩ := Prod.mk.inj same
    have current : core.settlement.adoption.map Adoption.selection = some adoption.selection := by
      rw [underway.current, Option.map_some]
    exact ⟨⟨rfl, succeeded, current, about.latest, row, (mem_filter.mp held).1, named, body⟩,
      rfl⟩
  | refused | failed => cases mem_singleton.mp published
  | _ => cases published

end

structure Elsewhere (core next : CoreState) : Prop where
  adoption : next.settlement.adoption = core.settlement.adoption
  requests : adoptionRequests next.records = adoptionRequests core.records
  limits : next.run.limits = core.run.limits

inductive AdoptionLabel
  | event (event : AdoptionEvent) (change : Change)
  | elsewhere

def AdoptionLabel.events : AdoptionLabel → List StrategyEvent
  | .event _ change => change.events
  | .elsewhere => []

/-- Settlement events among steps of other areas. -/
inductive Steps (digests : Digests) (validJson : String → Bool) :
    CoreState → AdoptionLabel → CoreState → Prop
  | event {core next : CoreState} {event : AdoptionEvent} {change : Change}
      (taken : takeEvent digests validJson core event = .ok (change, next)) :
      Steps digests validJson core (.event event change) next
  | elsewhere {core next : CoreState} (kept : Elsewhere core next) :
      Steps digests validJson core .elsewhere next

section
variable {digests : Digests} {validJson : String → Bool} {core next first middle last : CoreState}
  {label : AdoptionLabel} {labels earlier later : List AdoptionLabel}

theorem Elsewhere.rounds_eq (kept : Elsewhere core next) (selection : Selection) :
    rounds next.records selection = rounds core.records selection := by
  rw [Settlements.rounds_eq, Settlements.rounds_eq, kept.requests]

theorem Elsewhere.sound (kept : Elsewhere core next) (sound : Sound digests core) :
    Sound digests next := by
  refine ⟨?_, ?_, ?_⟩
  · rw [kept.limits, kept.requests]
    exact sound.ledger
  · rw [kept.adoption, kept.limits]
    exact sound.allowed
  · rw [kept.adoption]
    intro adoption current heard
    rw [kept.rounds_eq]
    exact sound.heard adoption current heard

theorem Steps.sound (sound : Sound digests core) (step : Steps digests validJson core label next) :
    Sound digests next := by
  cases step with
  | event taken =>
    obtain ⟨base, added, taken⟩ := takeEvent_taken taken
    exact taken.sound sound
  | elsewhere kept => exact kept.sound sound

variable {event : SettlementEvent} {base change : Change} {added : List (RequestId × RequestBody)}

theorem Taken.adoption (taken : Taken digests core event base change next added) :
    next.settlement.adoption = base.state.adoption := by
  rw [taken.files.settlement]

theorem Taken.events (taken : Taken digests core event base change next added) :
    change.events = base.events := by
  rw [taken.announced, announceFenceLift_events]

theorem Steps.writes_result (step : Steps digests validJson core label next) :
    Writes (resultOf core.settlement.adoption) (resultOf next.settlement.adoption)
      (resultsIn label.events) := by
  cases step with
  | event taken =>
    obtain ⟨base, added, taken⟩ := takeEvent_taken taken
    rw [taken.adoption, AdoptionLabel.events, taken.events]
    exact taken.adopts.writes_result
  | elsewhere kept =>
    rw [kept.adoption]
    exact .unchanged _

theorem Steps.verified_kept {adoption : Adoption} (verified : adoption.verified)
    (current : core.settlement.adoption = some adoption)
    (step : Steps digests validJson core label next) :
    next.settlement.adoption = some adoption := by
  cases step with
  | event taken =>
    obtain ⟨base, added, taken⟩ := takeEvent_taken taken
    rw [taken.adoption]
    exact taken.adopts.verified_kept current verified
  | elsewhere kept => rw [kept.adoption, current]

def StartsAt (digests : Digests) (core : CoreState) : AdoptionLabel → Prop
  | .event event change => Starts digests core event.1 change
  | .elsewhere => False

/-- A step that starts no adoption. -/
def Continues (digests : Digests) (validJson : String → Bool) (core : CoreState)
    (label : AdoptionLabel) (next : CoreState) : Prop :=
  Steps digests validJson core label next ∧ ¬StartsAt digests core label

theorem Taken.starts (taken : Taken digests core event base change next added) :
    Starts digests core event change ↔ Starts digests core event base := by
  rw [Starts, Starts, taken.announced, announceFenceLift_state]

theorem Continues.writes_ending (step : Continues digests validJson core label next) :
    Writes (endingOf core.settlement.adoption) (endingOf next.settlement.adoption)
      (endingsIn label.events) := by
  obtain ⟨step, continues⟩ := step
  cases step with
  | event taken =>
    obtain ⟨base, added, taken⟩ := takeEvent_taken taken
    rw [taken.adoption, AdoptionLabel.events, taken.events]
    exact taken.adopts.writes_ending fun starts => continues (taken.starts.mpr starts)
  | elsewhere kept =>
    rw [kept.adoption]
    exact .unchanged _

theorem Steps.starts_silent (step : Steps digests validJson core label next)
    (starts : StartsAt digests core label) : endingsIn label.events = [] := by
  cases step with
  | event taken =>
    obtain ⟨base, added, taken⟩ := takeEvent_taken taken
    rw [AdoptionLabel.events, taken.events]
    exact taken.adopts.starts_silent (taken.starts.mp starts)
  | elsewhere kept => rfl

abbrev AdoptionRun (digests : Digests) (validJson : String → Bool) := Run (Steps digests validJson)

def toldBy (labels : List AdoptionLabel) : List StrategyEvent := labels.flatMap AdoptionLabel.events

theorem AdoptionRun.sound (sound : Sound digests first)
    (run : AdoptionRun digests validJson first labels last) : Sound digests last :=
  run.invariant (Sound digests) Steps.sound sound

theorem AdoptionRun.results_le (run : AdoptionRun digests validJson first labels last) :
    (resultsIn (toldBy labels)).length ≤ 1 := by
  have writes := Writes.along (fun core : CoreState => resultOf core.settlement.adoption)
    (fun label : AdoptionLabel => resultsIn label.events) (fun _ => True) (fun _ _ => trivial)
    (fun _ step => step.writes_result) run trivial
  rw [resultsIn, toldBy, filterMap_flatMap]
  exact writes.length_le

private theorem endings_le (run : Run (Continues digests validJson) first labels last) :
    (endingsIn (toldBy labels)).length ≤ 1 := by
  have writes := Writes.along (fun core : CoreState => endingOf core.settlement.adoption)
    (fun label : AdoptionLabel => endingsIn label.events) (fun _ => True) (fun _ _ => trivial)
    (fun _ step => step.writes_ending) run trivial
  rw [endingsIn, toldBy, filterMap_flatMap]
  exact writes.length_le

/-- What one event may announce of an adoption. -/
structure SafeEvent (digests : Digests) (core : CoreState) (event : SettlementEvent)
    (change : Change) (next : CoreState) : Prop where
  /-- A result rests on a proof and is the adoption's value from then on. -/
  results : ∀ selection observation, .adoptionResult selection observation ∈ change.events →
    Proven digests core event selection observation ∧ next.settlement.adoption =
      some { selection, observation := some observation, verified := true }
  /-- The fence is announced exactly as it goes from up to down. -/
  fence : change.signals.count (.scheduling .adoptionFenceLifted) =
    if fencesRootMutation digests core.settlement core.records ∧
      fencesRootMutation digests next.settlement next.records = false then 1 else 0

private theorem takeEvent_safe (sound : Sound digests core) {event : AdoptionEvent}
    (taken : takeEvent digests validJson core event = .ok (change, next)) :
    SafeEvent digests core event.1 change next := by
  obtain ⟨base, added, taken⟩ := takeEvent_taken taken
  refine ⟨fun selection observation published => ?_, taken.fence sound⟩
  rw [taken.events] at published
  rw [taken.adoption]
  exact taken.adopts.proven_of_result sound published

/-- A result is announced at most once, a verified adoption never changes, and an adoption that
starts has one end at most. -/
theorem adoption_is_safe (idle : first.settlement.adoption = none)
    (unasked : adoptionRequests first.records = [])
    (reached : AdoptionRun digests validJson first earlier middle) :
    (resultsIn (toldBy earlier)).length ≤ 1 ∧
      (∀ event change next, takeEvent digests validJson middle event = .ok (change, next) →
        SafeEvent digests middle event.1 change next) ∧
      (∀ adoption, middle.settlement.adoption = some adoption → adoption.verified →
        ∀ later last, AdoptionRun digests validJson middle later last →
          last.settlement.adoption = some adoption) ∧
      ((∀ selection, rounds middle.records selection ≤ middle.run.limits.maxAdoptionRounds) ∧
        ((adoptionRequests middle.records).map Prod.fst).Nodup) ∧
      ∀ label opened later last, Steps digests validJson middle label opened →
        StartsAt digests middle label → Run (Continues digests validJson) opened later last →
        (endingsIn (toldBy (label :: later))).length ≤ 1 := by
  have initial : Sound digests first := by
    refine ⟨by rw [unasked]; exact .empty _ _, ?_, ?_⟩
    · rw [idle]
      intro adopting
      cases adopting
    · rw [idle]
      intro adoption current
      cases current
  have sound := AdoptionRun.sound initial reached
  refine ⟨AdoptionRun.results_le reached, fun event change next taken =>
    takeEvent_safe sound taken, ?_, ⟨fun selection => ?_, sound.ledger.apart⟩, ?_⟩
  · intro adoption current verified later last continued
    exact continued.invariant (fun core => core.settlement.adoption = some adoption)
      (fun current step => step.verified_kept verified current) current
  · rw [rounds_eq]
    exact sound.ledger.bounded selection
  · intro label opened later last step starts continued
    rw [toldBy, flatMap_cons, endingsIn_append, step.starts_silent starts, nil_append]
    exact endings_le continued

end

/-! ### A winner adopted in its second round -/

def winner : Selection := .trustedBaseline sampleRun.baseline

def proposesWinner : AdoptionEvent := ⟨.winnerProposed winner, rfl⟩

def adoptionFact (requestId : RequestId) (sequence : Nat) (status : ObservationStatus)
    (revision : Option RevisionRef) : AdoptionEvent :=
  ⟨.adoptionObserved
    { eventId := ⟨"fact:" ++ toString sequence⟩, requestId, scope := sampleScope, sequence
      observedAt := 0, status, accepted := true, terminal := true } revision, rfl⟩

def winningEvents : List AdoptionEvent :=
  let adopted := adoptId sampleDigests winner
  let looked := verifyId sampleDigests winner
  [proposesWinner, adoptionFact (adopted 0) 0 .unknown none,
    adoptionFact (looked 0) 1 .unknown none, adoptionFact (adopted 0) 2 .succeeded none,
    adoptionFact (adopted 1) 3 .succeeded none,
    adoptionFact (looked 1) 4 .succeeded (some sampleRun.baseline),
    adoptionFact (looked 1) 5 .failed none, proposesWinner]

def winningCore : CoreState := { run := sampleRun }

def adoptedCore : CoreState :=
  outcome (takeEvent sampleDigests fun _ => true) Prod.snd winningCore winningEvents

theorem winner_is_adopted_once :
    ∃ labels, AdoptionRun sampleDigests (fun _ => true) winningCore labels adoptedCore ∧
      (resultsIn (toldBy labels)).length ≤ 1 ∧
      (adoptedCore.settlement.adoption.map Adoption.verified = some true) ∧
      rounds adoptedCore.records winner = 2 ∧
      ∀ selection, rounds adoptedCore.records selection ≤ 2 := by
  have takes : (execute (takeEvent sampleDigests fun _ => true) Prod.snd winningCore
      winningEvents).isOk := by decide +kernel
  obtain ⟨labels, run⟩ := Run.of_outcome takes
  have reached : AdoptionRun sampleDigests (fun _ => true) winningCore
      (labels.map fun label => .event label.1 label.2.1) adoptedCore := by
    refine run.map _ fun step => ?_
    obtain ⟨taken, rfl⟩ := step
    exact .event taken
  have safe := adoption_is_safe rfl rfl reached
  refine ⟨_, reached, safe.1, by decide +kernel, by decide +kernel, fun selection => ?_⟩
  exact safe.2.2.2.1.1 selection

end VibeServeCore.Settlements
