/- digest: Timed histories, orders that respect real time, and why linearizability is local. -/

import Mathlib.Data.List.Dedup
import Mathlib.Data.List.Sort

namespace VibeServeCore.Foundation.Linearizability

open List

variable {State Input Output Key : Type*}

structure Operation (Input Output : Type*) where
  clientId : Nat
  input : Input
  call : Int
  output : Output
  ret : Int
  deriving DecidableEq

def Operation.Precedes {Other Answer : Type*} (first : Operation Input Output)
    (second : Operation Other Answer) : Prop := first.ret < second.call

def Timed (history : List (Operation Input Output)) : Prop := ∀ op ∈ history, op.call ≤ op.ret

/-- No operation stands before one that had returned. -/
def RespectsTime (order : List (Operation Input Output)) : Prop :=
  order.Pairwise fun earlier later => ¬later.Precedes earlier

structure Model (State Input Output : Type*) where
  init : State
  step : State → Input → Output → Option State

namespace Model

variable (model : Model State Input Output)

def run : State → List (Operation Input Output) → Option State
  | state, [] => some state
  | state, op :: rest => (model.step state op.input op.output).bind fun next => run next rest

/-- Some order that respects time runs in the model. -/
def Linearizable (history : List (Operation Input Output)) : Prop :=
  ∃ order : List (Operation Input Output), order.Perm history ∧ RespectsTime order ∧
    (model.run model.init order).isSome

def keyed [DecidableEq Key] (key : Input → Key) : Model (Key → State) Input Output where
  init := fun _ => model.init
  step state input output :=
    (model.step (state (key input)) input output).map (Function.update state (key input))

end Model

/-! ## Linearization points

An order that respects real time gives every operation a point of its interval, the latest call so
far, and operations of several orders are merged by their points. -/

def stamped : Int → List (Operation Input Output) → List (Int × Operation Input Output)
  | _, [] => []
  | since, op :: rest => (max since op.call, op) :: stamped (max since op.call) rest

theorem map_snd_stamped (since : Int) (order : List (Operation Input Output)) :
    (stamped since order).map Prod.snd = order := by
  induction order generalizing since with
  | nil => rfl
  | cons op rest ih => rw [stamped, map_cons, ih]

variable {since : Int} {order history : List (Operation Input Output)}
    {point : Int × Operation Input Output} {Item : Type*}

theorem le_of_mem_stamped (mem : point ∈ stamped since order) : since ≤ point.1 := by
  induction order generalizing since with
  | nil => cases mem
  | cons op rest ih =>
    rcases mem_cons.mp mem with rfl | mem
    · exact le_max_left _ _
    · exact (le_max_left _ _).trans (ih mem)

theorem stamped_sorted (since : Int) (order : List (Operation Input Output)) :
    (stamped since order).Pairwise fun first second => first.1 ≤ second.1 := by
  induction order generalizing since with
  | nil => exact .nil
  | cons op rest ih => exact .cons (fun point mem => le_of_mem_stamped mem) (ih _)

theorem stamped_within (timed : Timed order) (started : ∀ op ∈ order, since ≤ op.ret)
    (respects : RespectsTime order) (mem : point ∈ stamped since order) :
    point.2.call ≤ point.1 ∧ point.1 ≤ point.2.ret := by
  induction order generalizing since with
  | nil => cases mem
  | cons op rest ih =>
    obtain ⟨later, restRespects⟩ := pairwise_cons.mp respects
    rcases mem_cons.mp mem with rfl | mem
    · exact ⟨le_max_right _ _, max_le (started op mem_cons_self) (timed op mem_cons_self)⟩
    refine ih (fun other listed => timed other (mem_cons_of_mem _ listed)) ?_ restRespects
      mem
    -- Nothing later in the order returned before this operation was called.
    exact fun other listed =>
      max_le (started other (mem_cons_of_mem _ listed)) (not_lt.mp (later other listed))

section
variable [DecidableEq Key]

theorem perm_of_filter (key : Item → Key) {first second : List Item}
    (parts : ∀ wanted, (first.filter (key · = wanted)).Perm (second.filter (key · = wanted))) :
    first.Perm second := by
  classical
  refine perm_iff_count.mpr fun item => ?_
  have same := (parts (key item)).count_eq item
  rwa [count_filter (by simp), count_filter (by simp)] at same

theorem filter_flatMap_parts (key : Item → Key) (parts : Key → List Item)
    (owned : ∀ wanted, ∀ item ∈ parts wanted, key item = wanted) {keys : List Key}
    (distinct : keys.Nodup) (wanted : Key) :
    (keys.flatMap parts).filter (key · = wanted) = if wanted ∈ keys then parts wanted else [] := by
  have own : ∀ first, (parts first).filter (key · = wanted) =
      if first = wanted then parts first else [] := by
    intro first
    split_ifs with same
    · subst same
      exact filter_eq_self.mpr fun item mem => by simpa using owned _ item mem
    · exact filter_eq_nil_iff.mpr fun item mem => by simpa [owned _ item mem] using same
  induction keys with
  | nil => rfl
  | cons first rest ih =>
    obtain ⟨fresh, distinctRest⟩ := nodup_cons.mp distinct
    rw [flatMap_cons, filter_append, own, ih distinctRest]
    by_cases same : first = wanted
    · subst same
      simp [fresh]
    · simp [same, Ne.symm same]

theorem exists_sorted_merge (key : Item → Key) (rank : Item → Int) (keys : List Key)
    (parts : Key → List Item) (owned : ∀ wanted, ∀ item ∈ parts wanted, key item = wanted)
    (known : ∀ wanted, parts wanted ≠ [] → wanted ∈ keys)
    (sorted : ∀ wanted, (parts wanted).Pairwise fun first second => rank first ≤ rank second) :
    ∃ merged : List Item, (merged.Pairwise fun first second => rank first ≤ rank second) ∧
      ∀ wanted, merged.filter (key · = wanted) = parts wanted := by
  let le : Item → Item → Bool := fun first second => rank first ≤ rank second
  have transitive : ∀ a b c, le a b → le b c → le a c := by
    simp only [le, decide_eq_true_eq]
    exact fun _ _ _ => le_trans
  have total : ∀ a b, (le a b || le b a) := by
    simp only [le, Bool.or_eq_true, decide_eq_true_eq]
    exact fun _ _ => le_total _ _
  have own : ∀ wanted, (keys.dedup.flatMap parts).filter (key · = wanted) = parts wanted := by
    intro wanted
    rw [filter_flatMap_parts key parts owned (nodup_dedup _)]
    split_ifs with listed
    · rfl
    · by_contra nonempty
      exact listed (mem_dedup.mpr (known wanted (Ne.symm nonempty)))
  refine ⟨(keys.dedup.flatMap parts).mergeSort le, ?_, fun wanted => ?_⟩
  · simpa only [le, decide_eq_true_eq] using pairwise_mergeSort transitive total _
  -- The sort is stable: it keeps the part, which is sorted, as a sublist.
  have kept : (parts wanted).Sublist ((keys.dedup.flatMap parts).mergeSort le) := by
    refine sublist_mergeSort transitive total ?_ (own wanted ▸ filter_sublist)
    simpa only [le, decide_eq_true_eq] using sorted wanted
  have inside := kept.filter (key · = wanted)
  rw [filter_eq_self.mpr fun item mem => by simpa using owned wanted item mem]
    at inside
  refine (inside.eq_of_length ?_).symm
  rw [((mergeSort_perm _ _).filter _).length_eq, own]

theorem exists_earliest (history : List (Operation Input Output)) :
    ∃ since : Int, ∀ op ∈ history, since ≤ op.call := by
  induction history with
  | nil => exact ⟨0, by simp⟩
  | cons op rest ih =>
    obtain ⟨since, least⟩ := ih
    exact ⟨min since op.call, forall_mem_cons.mpr
      ⟨min_le_right _ _, fun other mem => (min_le_left _ _).trans (least other mem)⟩⟩

/-- Orders per key that respect real time are the parts of one order of all operations. -/
theorem exists_merge (key : Input → Key) (timed : Timed history)
    (orders : Key → List (Operation Input Output))
    (parts : ∀ wanted, (orders wanted).Perm (history.filter (key ·.input = wanted)))
    (respects : ∀ wanted, RespectsTime (orders wanted)) :
    ∃ order : List (Operation Input Output), order.Perm history ∧ RespectsTime order ∧
      ∀ wanted, order.filter (key ·.input = wanted) = orders wanted := by
  obtain ⟨since, earliest⟩ := exists_earliest history
  have listed : ∀ {wanted op}, op ∈ orders wanted → op ∈ history ∧ key op.input = wanted := by
    intro wanted op mem
    simpa using (parts wanted).mem_iff.mp mem
  let points := fun wanted => stamped since (orders wanted)
  have snd_mem : ∀ {wanted point}, point ∈ points wanted → point.2 ∈ orders wanted := by
    intro wanted point mem
    have listed := mem_map_of_mem (f := Prod.snd) mem
    rwa [map_snd_stamped] at listed
  have within_ : ∀ wanted, ∀ point ∈ points wanted,
      point.2.call ≤ point.1 ∧ point.1 ≤ point.2.ret := by
    intro wanted point mem
    refine stamped_within (fun op found => timed op (listed found).1) (fun op found => ?_)
      (respects wanted) mem
    exact (earliest op (listed found).1).trans (timed op (listed found).1)
  obtain ⟨merged, sorted, split⟩ := exists_sorted_merge
    (fun point : Int × Operation Input Output => key point.2.input) Prod.fst
    (history.map (key ·.input)) points (fun wanted point mem => (listed (snd_mem mem)).2)
    (fun wanted nonempty => by
      obtain ⟨point, mem⟩ := exists_mem_of_ne_nil _ nonempty
      obtain ⟨found, same⟩ := listed (snd_mem mem)
      exact same ▸ mem_map_of_mem found)
    fun wanted => stamped_sorted since (orders wanted)
  have parted : ∀ wanted, (merged.map Prod.snd).filter (key ·.input = wanted) = orders wanted := by
    intro wanted
    rw [filter_map, ← map_snd_stamped since (orders wanted)]
    exact congrArg (List.map Prod.snd) (split wanted)
  refine ⟨merged.map Prod.snd, ?_, ?_, parted⟩
  · refine perm_of_filter (fun op => key op.input) fun wanted => ?_
    rw [parted]
    exact parts wanted
  refine pairwise_map.mpr (sorted.imp_of_mem ?_)
  intro first second firstIn secondIn before precedes
  have inside : ∀ point ∈ merged, point.2.call ≤ point.1 ∧ point.1 ≤ point.2.ret := by
    intro point mem
    refine within_ (key point.2.input) point ?_
    rw [← split]
    exact mem_filter.mpr ⟨mem, by simp⟩
  have early := (inside first firstIn).1
  have late := (inside second secondIn).2
  exact absurd precedes (not_lt.mpr (early.trans (before.trans late)))

end

/-! ## Locality -/

namespace Model

variable [DecidableEq Key] (model : Model State Input Output) (key : Input → Key)

theorem run_keyed_isSome (state : Key → State) (order : List (Operation Input Output)) :
    ((model.keyed key).run state order).isSome ↔
      ∀ wanted, (model.run (state wanted) (order.filter (key ·.input = wanted))).isSome := by
  induction order generalizing state with
  | nil => simp [run]
  | cons op rest ih =>
    cases taken : model.step (state (key op.input)) op.input op.output with
    | none =>
      refine iff_of_false (by simp [run, keyed, taken]) fun each => ?_
      simpa [run, taken] using each (key op.input)
    | some next =>
      have unfolded : (model.keyed key).run state (op :: rest) =
          (model.keyed key).run (Function.update state (key op.input) next) rest := by
        simp [run, keyed, taken]
      rw [unfolded, ih]
      refine forall_congr' fun wanted => ?_
      by_cases same : key op.input = wanted
      · subst same
        simp [run, taken]
      · simp [same, Function.update_of_ne (Ne.symm same)]

/-- Locality: a history is linearizable exactly when it is for every key. -/
theorem linearizable_keyed_iff (timed : Timed history) :
    (model.keyed key).Linearizable history ↔
      ∀ wanted, model.Linearizable (history.filter (key ·.input = wanted)) := by
  constructor
  · rintro ⟨order, same, respects, legal⟩ wanted
    exact ⟨_, same.filter _, respects.filter _, (run_keyed_isSome model key _ _).mp legal wanted⟩
  intro each
  choose orders parts respects legal using each
  obtain ⟨order, same, ordered, split⟩ := exists_merge key timed orders parts respects
  refine ⟨order, same, ordered, (run_keyed_isSome model key _ _).mpr fun wanted => ?_⟩
  rw [split]
  exact legal wanted

end Model

end VibeServeCore.Foundation.Linearizability
