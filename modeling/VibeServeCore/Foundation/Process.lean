/- digest: Fallible sequential computations and labelled runs of a transition relation. -/

import Mathlib.Data.List.Basic

namespace VibeServeCore.Foundation.Process

section

universe u v

variable {Error : Type u} {First Second State : Type v} {Item : Type*} {value : Except Error First}
  {next : First → Except Error Second} {rewrite : First → Second} {result : Second}

@[simp] theorem bind_eq_ok :
    (value >>= next) = .ok result ↔ ∃ middle, value = .ok middle ∧ next middle = .ok result := by
  cases value <;> simp [bind, Except.bind]

@[simp] theorem map_eq_ok :
    value.map rewrite = .ok result ↔ ∃ middle, value = .ok middle ∧ rewrite middle = result := by
  cases value <;> simp [Except.map]

theorem bind_ok (ran : (value >>= next) = .ok result) :
    ∃ middle, value = .ok middle ∧ next middle = .ok result := bind_eq_ok.mp ran

theorem map_ok (ran : value.map rewrite = .ok result) :
    ∃ middle, value = .ok middle ∧ rewrite middle = result := map_eq_ok.mp ran

def sequence (step : State → Item → Except Error State) :
    State → List Item → Except Error State
  | state, [] => .ok state
  | state, item :: rest => step state item >>= fun next => sequence step next rest

theorem sequence_induction {step : State → Item → Except Error State}
    (holds : List Item → State → Prop) (turn : ∀ {item rest current next}, holds (item :: rest)
      current → step current item = .ok next → holds rest next) {items : List Item}
    {state final : State} (initial : holds items state)
    (ran : sequence step state items = .ok final) : holds [] final := by
  induction items generalizing state with
  | nil =>
    cases ran
    exact initial
  | cons item rest ih =>
    obtain ⟨next, stepped, ran⟩ := bind_ok ran
    exact ih (turn initial stepped) ran

/-- The first computation is the second one, or stops short of it with `error`. -/
def Stops (error : Error) (stopped free : Except Error First) : Prop :=
  stopped = .error error ∨ stopped = free

theorem Stops.refl (error : Error) (free : Except Error First) : Stops error free free := .inr rfl

theorem Stops.bind {error : Error} {stopped : Except Error First}
    {short : First → Except Error Second} (head : Stops error stopped value)
    (tail : ∀ middle, Stops error (short middle) (next middle)) :
    Stops error (stopped >>= short) (value >>= next) := by
  rcases head with rfl | rfl
  · exact .inl rfl
  · cases stopped with
    | error error => exact .inr rfl
    | ok middle => exact tail middle

theorem Stops.sequence {error : Error} {short step : State → Item → Except Error State}
    (turn : ∀ state item, Stops error (short state item) (step state item)) (state : State)
    (items : List Item) : Stops error (sequence short state items) (sequence step state items) := by
  induction items generalizing state with
  | nil => exact .refl _ _
  | cons item rest ih => exact (turn state item).bind ih

theorem foldl_induction {step : State → Item → State} (holds : List Item → State → Prop)
    (turn : ∀ {item rest current}, holds (item :: rest) current → holds rest (step current item))
    {items : List Item} {state : State} (initial : holds items state) :
    holds [] (items.foldl step state) := by
  induction items generalizing state with
  | nil => exact initial
  | cons item rest ih => exact ih (turn initial)

end

section
variable {State Label : Type*}

/-- Labelled runs of a relation. -/
inductive Run (step : State → Label → State → Prop) : State → List Label → State → Prop
  | nil (state : State) : Run step state [] state
  | cons {first second last : State} {label : Label} {labels : List Label}
      (head : step first label second) (tail : Run step second labels last) :
      Run step first (label :: labels) last

namespace Run

variable {step : State → Label → State → Prop}

variable {first last : State} {labels : List Label}

theorem single {label : Label} (head : step first label last) :
    Run step first [label] last := .cons head (.nil last)

theorem append {middle : State} {before after : List Label} (left : Run step first before middle)
    (right : Run step middle after last) : Run step first (before ++ after) last := by
  induction left with
  | nil _ => exact right
  | cons head _ ih => exact .cons head (ih right)

theorem map {Other : Type*} {other : State → Other → State → Prop} (relabel : Label → Other)
    (each : ∀ {first label last}, step first label last → other first (relabel label) last)
    (run : Run step first labels last) : Run other first (labels.map relabel) last := by
  induction run with
  | nil state => exact .nil state
  | cons head _ ih => exact .cons (each head) ih

theorem invariant (holds : State → Prop)
    (preserved : ∀ {first label last}, holds first → step first label last → holds last)
    (run : Run step first labels last) (initial : holds first) : holds last := by
  induction run with
  | nil _ => exact initial
  | cons head _ ih => exact ih (preserved initial head)

theorem history (holds : List Label → State → Prop) (extended : ∀ {labels first label last}, holds
      labels first → step first label last → holds (labels ++ [label]) last)
    (run : Run step first labels last) (initial : holds [] first) : holds labels last := by
  suffices grown : ∀ taken, holds taken first → holds (taken ++ labels) last from
    grown [] initial
  clear initial
  induction run with
  | nil _ =>
    intro taken held
    rwa [List.append_nil]
  | cons head _ ih =>
    intro taken held
    rw [List.append_cons]
    exact ih _ (extended held head)

theorem related (holds : State → Prop) (related : State → State → Prop)
    (stable : ∀ state, related state state) (compose : ∀ ⦃first second third⦄, related first second
      → related second third → related first third)
    (preserved : ∀ {first label last}, holds first → step first label last → holds last)
    (follows : ∀ {first label last}, holds first → step first label last → related first last)
    (run : Run step first labels last) (initial : holds first) : related first last := by
  induction run with
  | nil state => exact stable state
  | cons head _ ih =>
    exact compose (follows initial head) (ih (preserved initial head))

end Run

/-! ## Executions -/

variable {Input Output Error : Type*}

/-- The step succeeds with the label's output. -/
def Produces (step : State → Input → Except Error Output) (after : Output → State)
    (first : State) (label : Input × Output) (last : State) : Prop :=
  step first label.1 = .ok label.2 ∧ last = after label.2

/-- Runs the step over all inputs, with what each one gave. -/
def execute (step : State → Input → Except Error Output) (after : Output → State) :
    State → List Input → Except Error (List (Input × Output) × State)
  | state, [] => .ok ([], state)
  | state, input :: rest =>
    match step state input with
    | .error error => .error error
    | .ok output =>
      (execute step after (after output) rest).map fun later => ((input, output) :: later.1, later.2)

variable {step : State → Input → Except Error Output} {after : Output → State} {first last : State}
  {inputs : List Input}

theorem Run.of_execute {labels : List (Input × Output)}
    (ran : execute step after first inputs = .ok (labels, last)) :
    Run (Produces step after) first labels last := by
  induction inputs generalizing first labels with
  | nil =>
    cases ran
    exact .nil _
  | cons input rest ih =>
    unfold execute at ran
    split at ran
    · cases ran
    · rename_i output stepped
      obtain ⟨⟨later, final⟩, continued, same⟩ := map_ok ran
      cases same
      exact .cons ⟨stepped, rfl⟩ (ih continued)

def guarded (allowed : State → Input → Bool) (refusal : Error)
    (step : State → Input → Except Error Output) (state : State) (input : Input) :
    Except Error Output :=
  if allowed state input then step state input else .error refusal

theorem Produces.of_guarded {allowed : State → Input → Bool} {refusal : Error}
    {label : Input × Output}
    (taken : Produces (guarded allowed refusal step) after first label last) :
    allowed first label.1 ∧ Produces step after first label last := by
  obtain ⟨stepped, same⟩ := taken
  unfold guarded at stepped
  split_ifs at stepped with holds
  exact ⟨holds, stepped, same⟩

def outcome (step : State → Input → Except Error Output) (after : Output → State)
    (first : State) (inputs : List Input) : State :=
  match execute step after first inputs with
  | .ok ran => ran.2
  | .error _ => first

theorem execute_inputs {labels : List (Input × Output)}
    (ran : execute step after first inputs = .ok (labels, last)) :
    labels.map Prod.fst = inputs := by
  induction inputs generalizing first labels with
  | nil =>
    cases ran
    rfl
  | cons input rest ih =>
    unfold execute at ran
    split at ran
    · cases ran
    · obtain ⟨⟨later, final⟩, continued, same⟩ := map_ok ran
      cases same
      rw [List.map_cons, ih continued]

theorem Run.of_inputs (succeeds : (execute step after first inputs).isOk) :
    ∃ labels, labels.map Prod.fst = inputs ∧
      Run (Produces step after) first labels (outcome step after first inputs) := by
  unfold outcome
  cases ran : execute step after first inputs with
  | error error =>
    rw [ran] at succeeds
    cases succeeds
  | ok result => exact ⟨result.1, execute_inputs ran, .of_execute ran⟩

theorem Run.of_outcome (succeeds : (execute step after first inputs).isOk) :
    ∃ labels, Run (Produces step after) first labels (outcome step after first inputs) :=
  (Run.of_inputs succeeds).imp fun _ => And.right

end

end VibeServeCore.Foundation.Process
