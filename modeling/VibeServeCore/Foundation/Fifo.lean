/- digest: First-in-first-out accounting: every occurrence in a queue has exactly one fate. -/

import Mathlib.Data.List.Basic

namespace VibeServeCore.Foundation.Fifo

open List

variable {Item : Type*}

structure Move (Item : Type*) where
  retired : Item → Bool
  arrived : List Item
  admitted : List Item

def Move.Takes (move : Move Item) (before after : List Item) : Prop :=
  (before.filter fun item => !move.retired item) ++ move.arrived = move.admitted ++ after

inductive Fate
  | waiting
  | admitted (turn : Nat)
  | retired (turn : Nat)
  deriving DecidableEq

namespace Fate

def left : Fate → Option Nat
  | .waiting => none
  | .admitted turn | .retired turn => some turn

def isAdmitted : Fate → Bool
  | .admitted _ => true
  | _ => false

def GoneBy (fate : Fate) (turn : Nat) : Prop := ∃ earlier ≤ turn, fate.left = some earlier

theorem GoneBy.ne_waiting {fate : Fate} {turn : Nat} (gone : fate.GoneBy turn) :
    fate ≠ .waiting := by
  rintro rfl
  obtain ⟨_, _, left⟩ := gone
  cases left

theorem left_of_ne_waiting {fate : Fate} (gone : fate ≠ .waiting) :
    ∃ turn, fate.left = some turn := by
  cases fate with
  | waiting => exact absurd rfl gone
  | admitted turn | retired turn => exact ⟨turn, rfl⟩

theorem isAdmitted_iff {fate : Fate} : fate.isAdmitted ↔ ∃ turn, fate = .admitted turn := by
  cases fate <;> simp [isAdmitted]

end Fate

abbrev Entry (Item : Type*) := Item × Fate

def withFate (fate : Fate) (entries : List (Entry Item)) : List Item :=
  (entries.filter fun entry => entry.2 = fate).map Prod.fst

def everAdmitted (entries : List (Entry Item)) : List Item :=
  (entries.filter fun entry => entry.2.isAdmitted).map Prod.fst

def enteredBy (start : List Item) (moves : List (Move Item)) (turn : Nat) : List Item :=
  start ++ (moves.take (turn + 1)).flatMap Move.arrived

/-- Each occurrence that ever entered, in order, with its one fate over a run of moves. -/
structure Account (start : List Item) (moves : List (Move Item)) (entries : List (Entry Item))
    (rest : List Item) : Prop where
  /-- The entries are the initial occurrences and the arrivals, in order. -/
  entered : entries.map Prod.fst = start ++ moves.flatMap Move.arrived
  /-- Exactly the waiting occurrences are in the queue. -/
  waiting : rest = withFate .waiting entries
  /-- Each turn admits exactly the occurrences whose fate says so. -/
  admitted : ∀ turn move, moves[turn]? = some move →
    move.admitted = withFate (.admitted turn) entries
  /-- All admissions of the run, in their order, are the admitted occurrences in entry order. -/
  served : moves.flatMap Move.admitted = everAdmitted entries
  /-- An occurrence is retired only by a turn whose test names it. -/
  retired : ∀ entry ∈ entries, ∀ turn, entry.2 = .retired turn →
    ∃ move, moves[turn]? = some move ∧ move.retired entry.1
  /-- Nothing leaves before it entered, nor after the last turn. -/
  present : ∀ (position : Nat) (entry : Entry Item) (turn : Nat), entries[position]? = some entry →
    entry.2.left = some turn → turn < moves.length ∧
      position < (enteredBy start moves turn).length
  /-- No occurrence is admitted while an earlier one still waits. -/
  order : entries.Pairwise fun earlier later =>
    ∀ turn, later.2 = .admitted turn → earlier.2.GoneBy turn

section
variable {fate : Fate} {entry : Entry Item} {entries before after : List (Entry Item)}

@[simp] theorem withFate_append :
    withFate fate (before ++ after) = withFate fate before ++ withFate fate after := by
  simp [withFate]

theorem withFate_cons : withFate fate (entry :: entries) =
    if entry.2 = fate then entry.1 :: withFate fate entries else withFate fate entries := by
  unfold withFate
  split_ifs with same <;> simp [same]

theorem withFate_eq_nil : withFate fate entries = [] ↔ ∀ entry ∈ entries, entry.2 ≠ fate := by
  simp [withFate]

@[simp] theorem everAdmitted_append :
    everAdmitted (before ++ after) = everAdmitted before ++ everAdmitted after := by
  simp [everAdmitted]

theorem everAdmitted_eq_nil : everAdmitted entries = [] ↔
    ∀ entry ∈ entries, entry.2.isAdmitted = false := by
  simp [everAdmitted]

end

theorem split_front {entries : List (Entry Item)} {item : Item} {after : List Item}
    (waits : withFate .waiting entries = item :: after) :
    ∃ gone behind, entries = gone ++ (item, .waiting) :: behind ∧
      (∀ entry ∈ gone, entry.2 ≠ .waiting) ∧ withFate .waiting behind = after := by
  induction entries with
  | nil => cases waits
  | cons entry entries ih =>
    rw [withFate_cons] at waits
    split_ifs at waits with first
    · obtain ⟨rfl, rest⟩ := List.cons.inj waits
      exact ⟨[], entries, by rw [← first]; rfl, by simp, rest⟩
    obtain ⟨gone, behind, rfl, passed, rest⟩ := ih waits
    refine ⟨entry :: gone, behind, rfl, ?_, rest⟩
    intro earlier mem
    rcases mem_cons.mp mem with rfl | mem
    · exact first
    · exact passed earlier mem

theorem getElem?_middle_cases {gone behind : List (Entry Item)} {middle entry : Entry Item}
    {position : Nat} (found : (gone ++ middle :: behind)[position]? = some entry) :
    (∀ other, (gone ++ other :: behind)[position]? = some entry) ∨
      (position = gone.length ∧ middle = entry) := by
  rcases Nat.lt_trichotomy position gone.length with before | rfl | later
  · rw [getElem?_append_left before] at found
    exact .inl fun other => by rw [getElem?_append_left before, found]
  · simp only [getElem?_append_right (Nat.le_refl _), Nat.sub_self,
      getElem?_cons_zero, Option.some.injEq] at found
    exact .inr ⟨rfl, found⟩
  obtain ⟨offset, rfl⟩ := Nat.exists_eq_add_of_lt later
  refine .inl fun other => ?_
  rw [getElem?_append_right (by omega)] at found ⊢
  have shift : gone.length + offset + 1 - gone.length = offset + 1 := by omega
  rw [shift, getElem?_cons_succ] at found ⊢
  exact found

variable {moves : List (Move Item)} {last : Move Item} {turn : Nat} {start : List Item}

theorem getElem?_concat_cases {move : Move Item} (found : (moves ++ [last])[turn]? = some move) :
    (turn < moves.length ∧ moves[turn]? = some move) ∨ (turn = moves.length ∧ move = last) := by
  rcases Nat.lt_trichotomy turn moves.length with earlier | rfl | later
  · rw [getElem?_append_left earlier] at found
    exact .inl ⟨earlier, found⟩
  · rw [getElem?_concat_length] at found
    exact .inr ⟨rfl, (Option.some.inj found).symm⟩
  · rw [getElem?_eq_none (by rw [length_append, length_singleton]; omega)] at found
    cases found

theorem enteredBy_concat (within : turn < moves.length) :
    enteredBy start (moves ++ [last]) turn = enteredBy start moves turn := by
  unfold enteredBy
  rw [take_append_of_le_length (by omega)]

theorem enteredBy_admitted {admitted : List Item} :
    enteredBy start (moves ++ [{ last with admitted }]) turn =
      enteredBy start (moves ++ [last]) turn := by
  simp only [enteredBy, flatMap_def, map_take, map_append, map_cons,
    map_nil]

theorem enteredBy_last :
    enteredBy start (moves ++ [last]) moves.length =
      start ++ moves.flatMap Move.arrived ++ last.arrived := by
  unfold enteredBy
  rw [take_of_length_le (by simp)]
  simp

namespace Account

variable {start rest after : List Item} {moves : List (Move Item)} {last : Move Item}
  {entries : List (Entry Item)}

theorem nil (start : List Item) :
    Account start [] (start.map fun item => (item, .waiting)) start where
  entered := by simp [Function.comp_def]
  waiting := by simp [withFate, filter_map, Function.comp_def]
  admitted := by simp
  served := by simp [everAdmitted, filter_map, Function.comp_def, Fate.isAdmitted]
  retired := by
    rintro entry mem turn fate
    obtain ⟨item, _, rfl⟩ := mem_map.mp mem
    cases fate
  present := by
    rintro position entry turn found left
    obtain ⟨item, _, rfl⟩ := mem_map.mp (mem_of_getElem? found)
    cases left
  order := by
    refine pairwise_map.mpr (pairwise_of_forall fun earlier later turn fate => ?_)
    cases fate

variable {entry : Entry Item} {turn : Nat} {retired : Item → Bool}

theorem turn_lt (account : Account start moves entries rest) (mem : entry ∈ entries)
    (left : entry.2.left = some turn) : turn < moves.length := by
  obtain ⟨position, found⟩ := mem_iff_getElem?.mp mem
  exact (account.present position entry turn found left).1

theorem length_entries (account : Account start moves entries rest) :
    entries.length = (start ++ moves.flatMap Move.arrived).length := by
  rw [← account.entered, length_map]

def retire (turn : Nat) (retired : Item → Bool) (entry : Entry Item) : Entry Item :=
  if entry.2 = .waiting ∧ retired entry.1 = true then (entry.1, .retired turn) else entry

theorem retire_fst (turn : Nat) (retired : Item → Bool) (entry : Entry Item) :
    (retire turn retired entry).1 = entry.1 := by
  unfold retire
  split_ifs <;> rfl

theorem retire_admitted {admission : Nat} :
    (retire turn retired entry).2 = .admitted admission ↔ entry.2 = .admitted admission := by
  unfold retire
  split_ifs with ends
  · simp [ends.1]
  · rfl

theorem retire_left {leaving : Nat} (left : (retire turn retired entry).2.left = some leaving) :
    entry.2.left = some leaving ∨ leaving = turn := by
  unfold retire at left
  split_ifs at left with ends
  · exact .inr (Option.some.inj left).symm
  · exact .inl left

theorem withFate_retire_waiting (turn : Nat) (retired : Item → Bool) (entries : List (Entry Item)) :
    withFate .waiting (entries.map (retire turn retired)) =
      (withFate .waiting entries).filter fun item => !retired item := by
  induction entries with
  | nil => rfl
  | cons entry entries ih =>
    rw [map_cons, withFate_cons, withFate_cons, ih]
    by_cases waits : entry.2 = .waiting <;> by_cases ends : retired entry.1 = true <;>
      simp [retire, waits, ends]

theorem withFate_retire_admitted (turn admission : Nat) (retired : Item → Bool)
    (entries : List (Entry Item)) :
    withFate (.admitted admission) (entries.map (retire turn retired)) =
      withFate (.admitted admission) entries := by
  induction entries with
  | nil => rfl
  | cons entry entries ih =>
    simp only [map_cons, withFate_cons, ih, retire_admitted, retire_fst]

theorem everAdmitted_retire (turn : Nat) (retired : Item → Bool) (entries : List (Entry Item)) :
    everAdmitted (entries.map (retire turn retired)) = everAdmitted entries := by
  unfold everAdmitted
  rw [filter_map, map_map]
  congr 1
  · funext entry
    exact retire_fst turn retired entry
  · refine filter_congr fun entry _ => ?_
    rw [Bool.eq_iff_iff]
    simp only [Function.comp_apply, Fate.isAdmitted_iff, retire_admitted]

theorem retiring (account : Account start moves entries rest) (retired : Item → Bool) :
    Account start (moves ++ [⟨retired, [], []⟩]) (entries.map (retire moves.length retired))
      (rest.filter fun item => !retired item) where
  entered := by
    rw [map_map, flatMap_append, ← append_assoc, ← account.entered]
    simp [Function.comp_def, retire_fst]
  waiting := by rw [account.waiting, withFate_retire_waiting]
  admitted := by
    intro turn move found
    rw [withFate_retire_admitted]
    rcases getElem?_concat_cases found with ⟨_, earlier⟩ | ⟨rfl, rfl⟩
    · exact account.admitted turn move earlier
    · refine (withFate_eq_nil.mpr fun entry mem fate => ?_).symm
      have within : moves.length < moves.length := account.turn_lt mem (by rw [fate]; rfl)
      exact absurd within (Nat.lt_irrefl _)
  served := by simp [everAdmitted_retire, account.served]
  retired := by
    intro entry mem turn fate
    obtain ⟨old, oldMember, rfl⟩ := mem_map.mp mem
    rw [retire_fst]
    unfold retire at fate
    split_ifs at fate with ends
    · cases fate
      exact ⟨_, getElem?_concat_length, ends.2⟩
    · obtain ⟨move, found, named⟩ := account.retired old oldMember turn fate
      have within := account.turn_lt oldMember (by rw [fate]; rfl)
      exact ⟨move, by rw [getElem?_append_left within, found], named⟩
  present := by
    intro position entry turn found left
    obtain ⟨old, foundOld, rfl⟩ := Option.map_eq_some_iff.mp (getElem?_map ▸ found)
    rcases retire_left left with earlier | rfl
    · obtain ⟨within, entered⟩ := account.present position old turn foundOld earlier
      rw [enteredBy_concat within]
      exact ⟨by simp; omega, entered⟩
    · refine ⟨by simp, ?_⟩
      rw [enteredBy_last, append_nil, ← account.length_entries]
      exact (List.getElem?_eq_some_iff.mp foundOld).1
  order := by
    refine pairwise_map.mpr (account.order.imp fun {earlier later} before turn fate => ?_)
    obtain ⟨leaving, early, left⟩ := before turn (retire_admitted.mp fate)
    refine ⟨leaving, early, ?_⟩
    unfold retire
    rw [if_neg, left]
    rintro ⟨waits, _⟩
    rw [waits] at left
    cases left

theorem arriving (account : Account start (moves ++ [⟨retired, [], []⟩]) entries rest)
    (arrived : List Item) :
    Account start (moves ++ [⟨retired, arrived, []⟩])
      (entries ++ arrived.map fun item => (item, .waiting)) (rest ++ arrived) where
  entered := by
    have entered := account.entered
    simp only [flatMap_append, flatMap_singleton, append_nil] at entered ⊢
    rw [map_append, entered, map_map, ← append_assoc]
    simp [Function.comp_def]
  waiting := by
    rw [withFate_append, ← account.waiting]
    simp [withFate, filter_map, Function.comp_def]
  admitted := by
    intro turn move found
    have none_arrived : withFate (.admitted turn)
        (arrived.map fun item => ((item, .waiting) : Entry Item)) = [] :=
      withFate_eq_nil.mpr (by simp)
    rw [withFate_append, none_arrived, append_nil]
    rcases getElem?_concat_cases found with ⟨within, earlier⟩ | ⟨rfl, rfl⟩
    · exact account.admitted turn move (by rw [getElem?_append_left within, earlier])
    · exact account.admitted moves.length ⟨retired, [], []⟩ getElem?_concat_length
  served := by
    have none_arrived : everAdmitted
        (arrived.map fun item => ((item, .waiting) : Entry Item)) = [] :=
      everAdmitted_eq_nil.mpr (by simp [Fate.isAdmitted])
    rw [everAdmitted_append, none_arrived, append_nil, ← account.served]
    simp
  retired := by
    intro entry mem turn fate
    rcases mem_append.mp mem with old | new
    · obtain ⟨move, found, named⟩ := account.retired entry old turn fate
      rcases getElem?_concat_cases found with ⟨within, earlier⟩ | ⟨rfl, rfl⟩
      · exact ⟨move, by rw [getElem?_append_left within, earlier], named⟩
      · exact ⟨_, getElem?_concat_length, named⟩
    · obtain ⟨item, _, rfl⟩ := mem_map.mp new
      cases fate
  present := by
    intro position entry turn found left
    have old : entries[position]? = some entry := by
      rw [getElem?_append] at found
      split_ifs at found
      · exact found
      · obtain ⟨item, _, rfl⟩ := mem_map.mp (mem_of_getElem? found)
        cases left
    obtain ⟨within, entered⟩ := account.present position entry turn old left
    refine ⟨by simpa using within, ?_⟩
    rcases Nat.lt_or_ge turn moves.length with earlier | latest
    · rw [enteredBy_concat earlier] at entered ⊢
      exact entered
    have same : turn = moves.length := by simp at within; omega
    subst same
    rw [enteredBy_last] at entered ⊢
    simp only [length_append, length_nil] at entered ⊢
    omega
  order := by
    refine pairwise_append.mpr ⟨account.order, ?_, ?_⟩
    · refine pairwise_map.mpr (pairwise_of_forall fun earlier later turn fate => ?_)
      cases fate
    · intro earlier _ later new turn fate
      obtain ⟨item, _, rfl⟩ := mem_map.mp new
      cases fate

theorem front {item : Item} (account : Account start moves entries (item :: after)) :
    ∃ gone behind, entries = gone ++ (item, .waiting) :: behind ∧
      (∀ entry ∈ gone, entry.2 ≠ .waiting) ∧
      (∀ entry ∈ behind, entry.2.isAdmitted = false) ∧ withFate .waiting behind = after := by
  obtain ⟨gone, behind, rfl, passed, rest⟩ := split_front account.waiting.symm
  refine ⟨gone, behind, rfl, passed, fun entry mem => ?_, rest⟩
  by_contra admitted
  obtain ⟨turn, fate⟩ := Fate.isAdmitted_iff.mp (Bool.not_eq_false _ ▸ admitted)
  have waited := (pairwise_cons.mp (pairwise_append.mp account.order).2.1).1
  exact (waited entry mem turn fate).ne_waiting rfl

theorem admitting {item : Item} (account : Account start (moves ++ [last]) entries (item :: after)) :
    ∃ next, Account start (moves ++ [{ last with admitted := last.admitted ++ [item] }]) next
      after := by
  obtain ⟨gone, behind, rfl, passed, none_behind, rest⟩ := account.front
  refine ⟨gone ++ (item, .admitted moves.length) :: behind, ?_⟩
  exact {
    entered := by
      have entered := account.entered
      simpa using entered
    waiting := by
      rw [withFate_append, withFate_cons, withFate_eq_nil.mpr passed, if_neg (by simp)]
      exact rest.symm
    admitted := by
      intro turn move found
      have behind_none : ∀ turn, withFate (.admitted turn) behind = [] := fun turn =>
        withFate_eq_nil.mpr fun entry mem fate => by
          simpa [fate, Fate.isAdmitted] using none_behind entry mem
      rw [withFate_append, withFate_cons, behind_none]
      rcases getElem?_concat_cases found with ⟨within, earlier⟩ | ⟨rfl, rfl⟩
      · have before := account.admitted turn move
          (by rw [getElem?_append_left within, earlier])
        rw [withFate_append, withFate_cons, behind_none] at before
        rw [if_neg (by simp; omega), before]
        simp
      · have before := account.admitted moves.length last getElem?_concat_length
        rw [withFate_append, withFate_cons, behind_none, if_neg (by simp)] at before
        rw [if_pos rfl, before]
        simp
    served := by
      have served := account.served
      have front_waits : everAdmitted ((item, Fate.waiting) :: behind) = [] :=
        everAdmitted_eq_nil.mpr (by
          rintro entry (_ | ⟨_, mem⟩)
          · rfl
          · exact none_behind entry mem)
      have front_served : everAdmitted ((item, Fate.admitted moves.length) :: behind) = [item] := by
        simpa [everAdmitted, Fate.isAdmitted] using none_behind
      rw [everAdmitted_append, front_waits, append_nil] at served
      rw [everAdmitted_append, front_served, ← served]
      simp
    retired := by
      intro entry mem turn fate
      have old : entry ∈ gone ++ (item, .waiting) :: behind := by
        rcases mem_append.mp mem with old | new
        · exact mem_append_left _ old
        · rcases mem_cons.mp new with rfl | new
          · cases fate
          · exact mem_append_right _ (mem_cons_of_mem _ new)
      obtain ⟨move, found, named⟩ := account.retired entry old turn fate
      rcases getElem?_concat_cases found with ⟨within, earlier⟩ | ⟨rfl, rfl⟩
      · exact ⟨move, by rw [getElem?_append_left within, earlier], named⟩
      · exact ⟨_, getElem?_concat_length, named⟩
    present := by
      intro position entry turn found left
      rw [enteredBy_admitted]
      rcases getElem?_middle_cases found with same | ⟨rfl, rfl⟩
      · simpa using account.present position entry turn (same _) left
      cases left
      refine ⟨by simp, ?_⟩
      have total := account.length_entries
      rw [enteredBy_last]
      simp only [length_append, length_cons, flatMap_append,
        flatMap_singleton] at total ⊢
      omega
    order := by
      obtain ⟨earlier, later, across⟩ := pairwise_append.mp account.order
      obtain ⟨_, behindOrder⟩ := pairwise_cons.mp later
      have unadmitted : ∀ entry ∈ behind, ∀ turn, entry.2 ≠ .admitted turn := by
        intro entry mem turn fate
        simpa [fate, Fate.isAdmitted] using none_behind entry mem
      refine pairwise_append.mpr ⟨earlier, pairwise_cons.mpr ⟨?_, behindOrder⟩, ?_⟩
      · intro entry mem turn fate
        exact absurd fate (unadmitted entry mem turn)
      intro first mem second memberSecond turn fate
      rcases mem_cons.mp memberSecond with rfl | memberSecond
      · cases fate
        obtain ⟨leaving, left⟩ := Fate.left_of_ne_waiting (passed first mem)
        have within := account.turn_lt (mem_append_left _ mem) left
        exact ⟨leaving, by simp at within; omega, left⟩
      · exact absurd fate (unadmitted second memberSecond turn) }

theorem admittingAll {admitted : List Item}
    (account : Account start (moves ++ [last]) entries (admitted ++ after)) :
    ∃ next, Account start (moves ++ [{ last with admitted := last.admitted ++ admitted }]) next
      after := by
  induction admitted generalizing last entries with
  | nil => exact ⟨entries, by simpa using account⟩
  | cons item admitted ih =>
    obtain ⟨next, served⟩ := account.admitting
    obtain ⟨final, done⟩ := ih served
    exact ⟨final, by simpa using done⟩

theorem extend (account : Account start moves entries rest) {move : Move Item}
    (takes : move.Takes rest after) : ∃ next, Account start (moves ++ [move]) next after := by
  have arrived := (account.retiring move.retired).arriving move.arrived
  rw [takes] at arrived
  obtain ⟨next, served⟩ := arrived.admittingAll
  exact ⟨next, served⟩

end Account

end VibeServeCore.Foundation.Fifo
