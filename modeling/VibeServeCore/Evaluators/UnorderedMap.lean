/- source: resources/evaluators/unordered-map (map_model.go, checker.go)
   digest: Checking a map history key by key decides linearizability against one map. -/

import VibeServeCore.Foundation.Linearizability

namespace VibeServeCore.Evaluators.UnorderedMap

open Foundation.Linearizability List

abbrev Bytes := List UInt8

inductive Kind
  | put | get | remove

structure MapInput where
  kind : Kind
  key : Bytes
  value : Bytes := []

structure MapOutput where
  ok : Bool := false
  missing : Bool := false
  value : Bytes := []
  deriving DecidableEq

structure Register where
  present : Bool := false
  value : Bytes := []

abbrev MapOperation := Operation MapInput MapOutput

def missingOutput (out : MapOutput) : Bool := out.missing && !out.ok && out.value.isEmpty

def presentOutput (out : MapOutput) (value : Bytes) : Bool :=
  out.ok && !out.missing && out.value = value

def registerStep (current : Register) (input : MapInput) (out : MapOutput) : Option Register :=
  match input.kind with
  | .put =>
    if !out.ok || out.missing || !out.value.isEmpty then none else some ⟨true, input.value⟩
  | .get =>
    if !current.present then (if missingOutput out then some current else none)
    else if !presentOutput out current.value then none
    else some current
  | .remove =>
    if !current.present then (if missingOutput out then some current else none)
    else if !presentOutput out current.value then none
    else some {}

def mapModel : Model Register MapInput MapOutput where
  init := {}
  step := registerStep

def partitions (history : List MapOperation) : List (List MapOperation) :=
  ((history.map (·.input.key)).dedup.mergeSort (· ≤ ·)).map fun key =>
    history.filter (·.input.key = key)

def checkMapHistory (decides : List MapOperation → Bool) (history : List MapOperation) : Bool :=
  (partitions history).all decides

def answer (held : Option Bytes) : Kind → MapOutput
  | .put => { ok := true }
  | .get | .remove =>
    match held with
    | none => { missing := true }
    | some value => { ok := true, value }

def settle (held : Option Bytes) (input : MapInput) : Option Bytes :=
  match input.kind with
  | .put => some input.value
  | .get => held
  | .remove => none

/-- The whole map as one object. -/
def mapSpec : Model (Bytes → Option Bytes) MapInput MapOutput where
  init := fun _ => none
  step values input out :=
    if out = answer (values input.key) input.kind then
      some (Function.update values input.key (settle (values input.key) input))
    else none

def register : Option Bytes → Register
  | none => {}
  | some value => ⟨true, value⟩

private theorem registerStep_register (held : Option Bytes) (input : MapInput) (out : MapOutput) :
    registerStep (register held) input out =
      if out = answer held input.kind then some (register (settle held input)) else none := by
  obtain ⟨ok, missing, value⟩ := out
  obtain ⟨kind, key, given⟩ := input
  cases kind <;> cases held <;> cases ok <;> cases missing <;>
    grind [registerStep, register, answer, settle, missingOutput, presentOutput]

private theorem run_registers (values : Bytes → Option Bytes) (order : List MapOperation) :
    (mapModel.keyed (·.key)).run (fun key => register (values key)) order =
      (mapSpec.run values order).map fun values key => register (values key) := by
  induction order generalizing values with
  | nil => rfl
  | cons op rest ih =>
    rw [Model.run, Model.run]
    have stepped : (mapModel.keyed (·.key)).step (fun key => register (values key)) op.input
        op.output = (mapSpec.step values op.input op.output).map fun values key =>
          register (values key) := by
      simp only [Model.keyed, mapModel, mapSpec, registerStep_register]
      split_ifs
      · refine congrArg some (funext fun key => ?_)
        by_cases same : key = op.input.key
        · subst same
          simp
        · simp [Function.update_of_ne same]
      · rfl
    rw [stepped]
    cases mapSpec.step values op.input op.output with
    | none => rfl
    | some next => exact ih next

private theorem linearizable_mapSpec_iff (history : List MapOperation) :
    mapSpec.Linearizable history ↔ (mapModel.keyed (·.key)).Linearizable history := by
  have legal : ∀ order, ((mapModel.keyed (·.key)).run (fun _ => ({} : Register)) order).isSome =
      (mapSpec.run (fun _ => none) order).isSome := by
    intro order
    rw [show (fun _ : Bytes => ({} : Register)) = fun key => register ((fun _ => none) key) from rfl,
      run_registers, Option.isSome_map]
  exact exists_congr fun order => and_congr_right fun _ => and_congr_right fun _ =>
    iff_of_eq (congrArg (· = true) (legal order).symm)

/-! ## Checking by key -/

private theorem forall_partitions_iff (history : List MapOperation)
    {holds : List MapOperation → Prop}
    (empty : holds []) :
    (∀ part ∈ partitions history, holds part) ↔
      ∀ key, holds (history.filter (·.input.key = key)) := by
  constructor
  · intro each key
    by_cases known : key ∈ history.map (·.input.key)
    · refine each _ (mem_map_of_mem ((mergeSort_perm _ _).mem_iff.mpr ?_))
      exact mem_dedup.mpr known
    · have none : history.filter (·.input.key = key) = [] := by
        refine filter_eq_nil_iff.mpr fun op mem same => known ?_
        exact of_decide_eq_true same ▸ mem_map_of_mem mem
      rwa [none]
  · intro each part mem
    obtain ⟨key, -, rfl⟩ := mem_map.mp mem
    exact each key

/-- With an exact checker of partitions, a timed history passes key by key exactly when it is
linearizable against one map. -/
theorem map_is_checked_by_key_iff (decides : List MapOperation → Bool)
    (exact_ : ∀ part, decides part ↔ mapModel.Linearizable part)
    (history : List MapOperation) (timed : ∀ op ∈ history, op.call < op.ret) :
    checkMapHistory decides history ↔ mapSpec.Linearizable history := by
  have empty : mapModel.Linearizable [] := ⟨[], .refl _, .nil, rfl⟩
  rw [linearizable_mapSpec_iff,
    Model.linearizable_keyed_iff mapModel (·.key) fun op member => (timed op member).le,
    ← forall_partitions_iff history empty]
  unfold checkMapHistory
  rw [all_eq_true]
  exact forall₂_congr fun part _ => exact_ part

def earlyGet : MapOperation := ⟨0, ⟨.get, [1], []⟩, 1, ⟨true, false, [7]⟩, 6⟩
def latePut : MapOperation := ⟨1, ⟨.put, [1], [7]⟩, 2, ⟨true, false, []⟩, 5⟩
def otherRemove : MapOperation := ⟨2, ⟨.remove, [2], []⟩, 3, ⟨false, true, []⟩, 4⟩

open Classical in
/-- The put is placed before the get; the removal, of another key, anywhere. -/
theorem overlapping_operations_are_linearizable :
    mapSpec.Linearizable [earlyGet, latePut, otherRemove] := by
  have empty : mapModel.Linearizable [] := ⟨[], .refl _, .nil, rfl⟩
  refine (map_is_checked_by_key_iff (fun part => decide (mapModel.Linearizable part))
    (fun _ => decide_eq_true_iff) _ (by simp [earlyGet, latePut, otherRemove])).mp ?_
  refine all_eq_true.mpr fun part member => decide_eq_true ?_
  refine (forall_partitions_iff [earlyGet, latePut, otherRemove] empty).mpr (fun key => ?_) part
    member
  by_cases first : key = [1]
  · subst first
    exact ⟨[latePut, earlyGet], .swap _ _ _,
      by simp [RespectsTime, Operation.Precedes, earlyGet, latePut], by decide⟩
  by_cases second : key = [2]
  · subst second
    exact ⟨[otherRemove], .refl _, .cons (by simp) .nil, by decide⟩
  · have none : [earlyGet, latePut, otherRemove].filter (·.input.key = key) = [] := by
      simp [earlyGet, latePut, otherRemove, Ne.symm first, Ne.symm second]
    rwa [none]

end VibeServeCore.Evaluators.UnorderedMap
