/- source: orchestration/dynamic/search/_parents.py (`eligible`, `ingest`), vibesys/metrics.py
   digest: The parent catalog is the same for every order in which its snapshots arrive. -/

import Mathlib.Data.Prod.Lex
import Mathlib.Data.String.Basic
import VibeServeCore.Foundation.Catalog
import VibeServeCore.Foundation.Process
import VibeServeCore.Types.Common

namespace VibeServeCore.Search.Parents

open Types Foundation
open Catalog (Lists upsert)
open Process (sequence bind_ok)

/-- A decoded reading bound to its record; `details` is what no function here looks into. -/
structure AcceptedReading where
  evidenceId : EvidenceId
  kind : EvidenceKind
  passed : Bool
  details : Payload
  sourceRequest : RequestId
  deriving DecidableEq

def AcceptedReading.key (reading : AcceptedReading) : EvidenceKey :=
  ⟨reading.sourceRequest, reading.evidenceId⟩

def AcceptedReading.label (reading : AcceptedReading) : String :=
  s!"{reading.sourceRequest.root}/{reading.evidenceId.root}"

structure ParentSnapshot where
  hypothesisId : String
  generation : Int := 0
  revision : RevisionRef
  accuracy : AcceptedReading
  benchmark : Option AcceptedReading := none
  proof : List EvidenceRef := []
  submissionIndex : Int := 0
  changeSummary : Option String := none
  deriving DecidableEq

namespace ParentSnapshot

/-- `_evidence(snapshot).get(key)`: of two records with one key the dict keeps the later. -/
def evidence (snapshot : ParentSnapshot) (key : EvidenceKey) : Option EvidenceRef :=
  snapshot.proof.reverse.find? (·.key = key)

def eligible (snapshot : ParentSnapshot) : Bool :=
  (snapshot.evidence snapshot.accuracy.key).any fun accuracy =>
    snapshot.accuracy.kind = .correctness && snapshot.accuracy.passed &&
      accuracy.candidate = snapshot.revision && accuracy.status = .succeeded &&
      accuracy.provenance = .trusted &&
      snapshot.benchmark.all fun benchmark =>
        benchmark.kind = .benchmark && (snapshot.evidence benchmark.key).any fun proof =>
          proof.candidate = snapshot.revision && proof.provenance = .trusted &&
            proof.fingerprints = accuracy.fingerprints

def identity (snapshot : ParentSnapshot) : String ×ₗ String ×ₗ String :=
  toLex (snapshot.hypothesisId, toLex (
    s!"{snapshot.revision.revisionId.root}@{snapshot.revision.digest}", snapshot.accuracy.label))

/-- A snapshot is below those that extend it by a benchmark reading. -/
instance : PartialOrder ParentSnapshot where
  le first second := first = second ∨ first = { second with benchmark := none }
  le_refl _ := .inl rfl
  le_trans := by
    rintro _ _ third (rfl | rfl) (rfl | rfl)
    · exact .inl rfl
    all_goals exact .inr rfl
  le_antisymm := by
    rintro first second (same | below) (same' | above)
    · exact same
    · exact same
    · exact same'.symm
    · rw [below, above]

private theorem identity_eq_of_le {first second : ParentSnapshot} (le : first ≤ second) :
    first.identity = second.identity := by
  rcases le with rfl | rfl <;> rfl

end ParentSnapshot

open ParentSnapshot

def ingest (catalog : List ParentSnapshot) (snapshot : ParentSnapshot) :
    Except String (List ParentSnapshot) :=
  if !snapshot.eligible then .ok catalog
  else match catalog.find? (·.identity = snapshot.identity) with
    | none => .ok (upsert identity catalog snapshot)
    | some existing =>
      if existing = snapshot ∨
          snapshot.benchmark = none ∧ { existing with benchmark := none } = snapshot then
        .ok catalog
      else if existing.benchmark.isSome ∧ snapshot.benchmark.isSome then
        .error "parent receipt identity conflicts with settled benchmark"
      else if { existing with benchmark := snapshot.benchmark } ≠ snapshot then
        .error "parent receipt identity conflicts with retained snapshot"
      else .ok (upsert identity catalog snapshot)

variable {catalog next items : List ParentSnapshot} {snapshot : ParentSnapshot}

private theorem ingest_ineligible (refused : ¬ snapshot.eligible) :
    ingest catalog snapshot = .ok catalog := by
  simp [ingest, refused]

private theorem ingest_cases (distinct : Ledger.Distinct identity catalog)
    (taken : snapshot.eligible) :
    (ingest catalog snapshot = .ok catalog ∧ ∃ row ∈ catalog, snapshot ≤ row) ∨
      (ingest catalog snapshot = .ok (upsert identity catalog snapshot) ∧ snapshot ∉ catalog ∧
        ∀ row ∈ catalog, row.identity = snapshot.identity → row ≤ snapshot) ∨
      (∃ message, ingest catalog snapshot = .error message) ∧
        ∃ row ∈ catalog, row.identity = snapshot.identity ∧
          ¬ snapshot ≤ row ∧ ¬ row ≤ snapshot := by
  cases found : catalog.find? (·.identity = snapshot.identity) with
  | none =>
    have fresh : ∀ row ∈ catalog, row.identity ≠ snapshot.identity := by simpa using found
    refine .inr (.inl ⟨by simp [ingest, taken, found], fun listed => fresh _ listed rfl, ?_⟩)
    exact fun row listed same => absurd same (fresh row listed)
  | some existing =>
    have listed := List.mem_of_find?_eq_some found
    have same : existing.identity = snapshot.identity := by simpa using List.find?_some found
    simp only [ingest, taken, found, Bool.not_true, Bool.false_eq_true, if_false]
    split_ifs with keeps settled differs
    · exact .inl ⟨rfl, existing, listed, keeps.imp Eq.symm fun bare => bare.2.symm⟩
    · refine .inr (.inr ⟨⟨_, rfl⟩, existing, listed, same, ?_, ?_⟩)
      · rintro (rfl | rfl)
        · exact keeps (.inl rfl)
        · simp at settled
      · rintro (rfl | rfl)
        · exact keeps (.inl rfl)
        · simp at settled
    · refine .inr (.inr ⟨⟨_, rfl⟩, existing, listed, same, ?_, ?_⟩)
      · rintro (rfl | rfl)
        · exact keeps (.inl rfl)
        · exact keeps (.inr ⟨rfl, rfl⟩)
      · rintro (rfl | rfl)
        · exact keeps (.inl rfl)
        · exact differs rfl
    · -- The row had no reading yet and the snapshot adds one.
      rw [not_not] at differs
      have below : existing ≤ snapshot := by
        refine .inr ?_
        rw [← differs]
        cases bare : existing.benchmark with
        | none => rw [← bare]
        | some reading =>
          have none_added : snapshot.benchmark = none := by simpa [bare] using settled
          exact absurd (.inr ⟨none_added, none_added ▸ differs⟩) keeps
      have only : ∀ row ∈ catalog, row.identity = snapshot.identity → row = existing :=
        fun row among equal => distinct.eq_of_key among listed (equal.trans same.symm)
      refine .inr (.inl ⟨rfl, fun again => keeps (.inl (only _ again rfl).symm), ?_⟩)
      exact fun row among equal => only row among equal ▸ below

section
variable (lists : Lists identity (·.eligible) items catalog)

include lists

private theorem ingest_lists (ran : ingest catalog snapshot = .ok next) :
    Lists identity (·.eligible) (items ++ [snapshot]) next := by
  by_cases taken : snapshot.eligible
  · rcases ingest_cases lists.distinct taken with
      ⟨kept, row, listed, le⟩ | ⟨replaced, -, below⟩ | ⟨⟨message, failed⟩, -⟩
    · cases kept.symm.trans ran
      exact lists.grow fun _ => ⟨row, listed, le, identity_eq_of_le le⟩
    · cases replaced.symm.trans ran
      exact lists.replace taken below
    · cases failed.symm.trans ran
  · cases (ingest_ineligible taken).symm.trans ran
    exact lists.grow fun held => absurd held taken

private theorem ingest_succeeds
    (joined : ∀ row ∈ catalog, row.identity = snapshot.identity → snapshot.eligible →
      ∃ top, row ≤ top ∧ snapshot ≤ top) : ∃ next, ingest catalog snapshot = .ok next := by
  by_cases taken : snapshot.eligible
  · rcases ingest_cases lists.distinct taken with
      ⟨kept, -⟩ | ⟨replaced, -⟩ | ⟨-, row, listed, same, not_below, not_above⟩
    · exact ⟨_, kept⟩
    · exact ⟨_, replaced⟩
    · -- Below one top there are only the top itself and the top without its reading.
      obtain ⟨top, rfl | rfl, le⟩ := joined row listed same taken
      · exact absurd le not_below
      · rcases le with rfl | rfl
        · exact absurd (.inr rfl) not_above
        · exact absurd (.inl rfl) not_below
  · exact ⟨_, ingest_ineligible taken⟩

private theorem ingest_again (known : snapshot ∈ items) :
    ingest catalog snapshot = .ok catalog := by
  by_cases taken : snapshot.eligible
  · obtain ⟨row, listed, le, same⟩ := lists.above snapshot known taken
    rcases ingest_cases lists.distinct taken with
      ⟨kept, -⟩ | ⟨-, absent, below⟩ | ⟨-, other, among, equal, not_below, -⟩
    · exact kept
    · exact absurd (le_antisymm le (below row listed same.symm) ▸ listed) absent
    · obtain rfl := lists.distinct.eq_of_key listed among (same.symm.trans equal.symm)
      exact absurd le not_below
  · exact ingest_ineligible taken

private theorem sequence_lists {rest : List ParentSnapshot}
    (ran : sequence ingest catalog rest = .ok next) :
    Lists identity (·.eligible) (items ++ rest) next := by
  induction rest generalizing items catalog with
  | nil =>
    cases ran
    rwa [List.append_nil]
  | cons snapshot rest ih =>
    obtain ⟨middle, first, ran⟩ := bind_ok ran
    simpa using ih (ingest_lists lists first) ran

end

/-- A row above every snapshot is collected, so no order finds two without a common extension. -/
theorem sequence_succeeds {all final rest : List ParentSnapshot}
    (whole : Lists identity (·.eligible) all final)
    (lists : Lists identity (·.eligible) items catalog)
    (among : ∀ item ∈ items ++ rest, item ∈ all) :
    ∃ next, sequence ingest catalog rest = .ok next := by
  induction rest generalizing items catalog with
  | nil => exact ⟨catalog, rfl⟩
  | cons snapshot rest ih =>
    obtain ⟨middle, first⟩ : ∃ middle, ingest catalog snapshot = .ok middle := by
      refine ingest_succeeds lists fun row listed same taken => ?_
      obtain ⟨known, held⟩ := lists.source row listed
      obtain ⟨top, top_listed, row_le, row_key⟩ :=
        whole.above row (among row (by simp [known])) held
      obtain ⟨other, other_listed, le, key⟩ :=
        whole.above snapshot (among snapshot (by simp)) taken
      obtain rfl := whole.distinct.eq_of_key top_listed other_listed
        (row_key.symm.trans (same.trans key))
      exact ⟨top, row_le, le⟩
    obtain ⟨next, ran⟩ := ih (ingest_lists lists first) (by simpa using among)
    exact ⟨next, by simp [Process.sequence, first, ran]⟩

/-- If one order of the snapshots raises no conflict, every order gives its catalog: one row per
identity, with the reading of any eligible snapshot. -/
theorem ingest_any_order {others : List ParentSnapshot} (order : others.Perm items)
    (ran : sequence ingest [] items = .ok catalog) :
    sequence ingest [] others = .ok catalog ∧
      catalog.Pairwise (identity · < identity ·) ∧
      (∀ snapshot ∈ items, snapshot.eligible → ∃ row ∈ catalog,
        row.identity = snapshot.identity ∧
          (snapshot.benchmark ≠ none → row.benchmark = snapshot.benchmark)) ∧
      ∀ snapshot ∈ items, ingest catalog snapshot = .ok catalog := by
  have empty : Lists identity (·.eligible) [] [] := ⟨.nil, by simp, by simp⟩
  have lists := sequence_lists empty ran
  refine ⟨?_, lists.sorted, fun snapshot known taken => ?_, fun snapshot => ingest_again lists⟩
  · obtain ⟨rows, also⟩ := sequence_succeeds lists empty fun item => order.mem_iff.1
    rw [also, lists.determined (sequence_lists empty also) fun item => order.mem_iff.symm]
  · obtain ⟨row, listed, le, same⟩ := lists.above snapshot known taken
    refine ⟨row, listed, same.symm, fun measured => ?_⟩
    rcases le with rfl | rfl
    · rfl
    · exact absurd rfl measured

/-! ## A measured parent -/

def record (name : String) (kind : EvidenceKind) : EvidenceRef where
  evidenceId := ⟨name⟩
  kind
  purpose := .official
  scope := ⟨.run ⟨"run"⟩, 0⟩
  sourceRequest := ⟨"request"⟩
  candidate := ⟨⟨"commit"⟩, "git-commit:commit"⟩
  observationSequence := 1
  fingerprints := ⟨"", "", ""⟩
  provenance := .trusted
  status := .succeeded

def proven : ParentSnapshot where
  hypothesisId := "hypothesis"
  revision := ⟨⟨"commit"⟩, "git-commit:commit"⟩
  accuracy := ⟨⟨"accuracy"⟩, .correctness, true, ⟨""⟩, ⟨"request"⟩⟩
  proof := [record "accuracy" .correctness, record "benchmark" .benchmark]

def measuredAs (kind : EvidenceKind) : ParentSnapshot :=
  { proven with benchmark := some ⟨⟨"benchmark"⟩, kind, false, ⟨""⟩, ⟨"request"⟩⟩ }

theorem measured_parent_any_order :
    sequence ingest [] [measuredAs .benchmark, proven] = .ok [measuredAs .benchmark] ∧
      sequence ingest [] [proven, measuredAs .benchmark] = .ok [measuredAs .benchmark] := by
  have first : sequence ingest [] [proven, measuredAs .benchmark] =
      .ok [measuredAs .benchmark] := by decide +kernel
  exact ⟨(ingest_any_order (.swap _ _ _) first).1, first⟩

/-- The reading of a snapshot that is not eligible is lost, though its identity is kept. -/
theorem ineligible_reading_dropped :
    sequence ingest [] [proven, measuredAs .profiling] = .ok [proven] ∧
      (measuredAs .profiling).identity = proven.identity ∧
      (measuredAs .profiling).benchmark.isSome ∧ proven.benchmark = none := by
  decide +kernel

end VibeServeCore.Search.Parents
