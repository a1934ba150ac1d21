/- source: _adoption.py
   digest: Where an adoption round stands, and the root fence it holds while under way. -/

import VibeServeCore.Proofs

namespace VibeServeCore.Adoption

open Types
open Proofs (Digests)

inductive Phase
  | idle | adopting | verifying | done | failed
  deriving DecidableEq

def rounds (records : RecordsState) (selection : Selection) : Nat :=
  records.records.countP fun row => row.request.body = .adoptRevision selection

section
variable (digests : Digests)

def key (selection : Selection) : String :=
  String.ofList ((digests.selection selection).toList.take 16)

def adoptId (selection : Selection) (round : Nat) : RequestId :=
  ⟨"adopt:" ++ key digests selection ++ ":" ++ toString round⟩

def verifyId (selection : Selection) (round : Nat) : RequestId :=
  ⟨"verify-adoption:" ++ key digests selection ++ ":" ++ toString round⟩

def awaitsInspection (observation : Observation) : Bool :=
  observation.status = .succeeded || observation.status = .unknown

def observedPhase (selection : Selection) (observation : Observation) (records : RecordsState) :
    Phase :=
  let latest := rounds records selection - 1
  -- A retryable answer is no outcome: the ledger asks again under the same identity.
  let pending := observation.status = .pending || observation.retryable
  if observation.requestId = verifyId digests selection latest then
    if pending then .verifying else .failed
  else if observation.requestId = adoptId digests selection latest then
    if pending then .adopting
    else if awaitsInspection observation then .verifying
    else .failed
  else .failed

def phase (adoption : Option Adoption) (records : RecordsState) : Phase :=
  match adoption with
  | none => .idle
  | some adoption =>
    if adoption.verified then .done
    else if adoption.failure.isSome then .failed
    else
      match adoption.observation with
      | none => .adopting
      | some observation => observedPhase digests adoption.selection observation records

def fencesRootMutation (state : SettlementState) (records : RecordsState) : Bool :=
  phase digests state.adoption records = .adopting ||
    phase digests state.adoption records = .verifying

end

end VibeServeCore.Adoption
