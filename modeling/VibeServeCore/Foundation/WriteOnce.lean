/- digest: Registers written at most once whose writes are published, alone and in keyed tables. -/

import VibeServeCore.Foundation.Ledger
import VibeServeCore.Foundation.Process

namespace VibeServeCore.Foundation.WriteOnce

open List Foundation.Ledger Foundation.Process

variable {Value Row Key : Type*}

/-- A value is written once and published when written. -/
def Writes (before after : Option Value) (published : List Value) : Prop :=
  match before with
  | some value => after = some value ∧ published = []
  | none => published = after.toList

theorem Writes.unchanged (register : Option Value) : Writes register register [] := by
  cases register with
  | none => rfl
  | some value => exact ⟨rfl, rfl⟩

theorem Writes.trans {before middle after : Option Value} {first second : List Value}
    (left : Writes before middle first) (right : Writes middle after second) :
    Writes before after (first ++ second) := by
  cases before with
  | some value =>
    obtain ⟨rfl, rfl⟩ := left
    obtain ⟨rfl, rfl⟩ := right
    exact ⟨rfl, rfl⟩
  | none =>
    obtain rfl : first = middle.toList := left
    cases middle with
    | none => exact right
    | some value =>
      obtain ⟨rfl, rfl⟩ := right
      rfl

theorem Writes.length_le {before after : Option Value} {published : List Value}
    (writes : Writes before after published) : published.length ≤ 1 := by
  cases before with
  | some value => simp [writes.2]
  | none =>
    obtain rfl : published = after.toList := writes
    cases after <;> simp

theorem Writes.perm {before after : Option Value} {published others : List Value}
    (writes : Writes before after published) (same : others.Perm published) :
    Writes before after others := by
  have alike : others = published := by
    match published, writes.length_le with
    | [], _ => exact same.eq_nil
    | [value], _ => exact same.eq_singleton
  rwa [alike]

/-- The run rule: what every step writes at most once, the run writes and publishes once. -/
theorem Writes.along {State Label : Type*} {step : State → Label → State → Prop}
    (register : State → Option Value) (output : Label → List Value) (holds : State → Prop)
    (preserved : ∀ {first label last}, holds first → step first label last → holds last)
    (each : ∀ {first label last}, holds first → step first label last →
      Writes (register first) (register last) (output label))
    {first last : State} {labels : List Label} (run : Run step first labels last)
    (initial : holds first) : Writes (register first) (register last) (labels.flatMap output) := by
  induction run with
  | nil state => exact .unchanged _
  | cons head _ ih => exact (each initial head).trans (ih (preserved initial head))

section
variable {First Second : Type*} {related : First → Second → Prop}

theorem forall₂_source {rows : List First} {entries : List Second}
    (each : List.Forall₂ related rows entries) {entry : Second} (listed : entry ∈ entries) :
    ∃ row ∈ rows, related row entry := by
  induction each with
  | nil => cases listed
  | cons head _ ih =>
    cases listed with
    | head => exact ⟨_, mem_cons_self, head⟩
    | tail _ later =>
      obtain ⟨row, mem, turn⟩ := ih later
      exact ⟨row, mem_cons_of_mem _ mem, turn⟩

theorem forall₂_target {rows : List First} {entries : List Second}
    (each : List.Forall₂ related rows entries) {row : First} (mem : row ∈ rows) :
    ∃ entry ∈ entries, related row entry := by
  induction each with
  | nil => cases mem
  | cons head _ ih =>
    cases mem with
    | head => exact ⟨_, mem_cons_self, head⟩
    | tail _ later =>
      obtain ⟨entry, listed, turn⟩ := ih later
      exact ⟨entry, mem_cons_of_mem _ listed, turn⟩

end

theorem forall₂_of_mapM {Error : Type*} {First Second : Type} {related : First → Second → Prop}
    {turn : First → Except Error Second} (each : ∀ row entry, turn row = .ok entry →
      related row entry) {rows : List First} {entries : List Second}
    (ran : rows.mapM turn = .ok entries) : List.Forall₂ related rows entries := by
  induction rows generalizing entries with
  | nil =>
    cases ran
    exact .nil
  | cons row rows ih =>
    rw [mapM_cons] at ran
    obtain ⟨entry, turned, ran⟩ := bind_ok ran
    obtain ⟨later, continued, ran⟩ := bind_ok ran
    cases ran
    exact .cons (each row entry turned) (ih continued)

/-! ## A keyed table of registers -/

section
variable [DecidableEq Key] (key : Row → Key) (cell : Row → Option Value) (name : Value → Key)

def register (rows : List Row) (wanted : Key) : Option Value :=
  (rows.find? fun row => key row = wanted).bind cell

def about (published : List Value) (wanted : Key) : List Value :=
  published.filter fun value => name value = wanted

theorem about_append (first second : List Value) (wanted : Key) :
    about name (first ++ second) wanted = about name first wanted ++ about name second wanted :=
  filter_append _ _

/-- One turn keeps the key, writes the register at most once and names the row it publishes. -/
structure Turned (old : Row) (turned : Row × Option Value) : Prop where
  sameKey : key turned.1 = key old
  writes : Writes (cell old) (cell turned.1) turned.2.toList
  named : ∀ value ∈ turned.2, name value = key old

variable {key cell name}

theorem about_turned_of_absent {before : List Row} {turned : List (Row × Option Value)}
    (each : List.Forall₂ (Turned key cell name) before turned) {wanted : Key}
    (absent : ∀ row ∈ before, key row ≠ wanted) :
    about name (turned.filterMap Prod.snd) wanted = [] := by
  rw [about, filter_eq_nil_iff]
  intro value published
  obtain ⟨entry, listed, spoken⟩ := mem_filterMap.mp published
  obtain ⟨row, mem, turn⟩ := forall₂_source each listed
  rw [turn.named value spoken]
  simpa using absent row mem

/-- The loop rule: a loop writes each register at most once and publishes what it wrote. -/
theorem register_turned {before : List Row} {turned : List (Row × Option Value)}
    (each : List.Forall₂ (Turned key cell name) before turned)
    (distinct : Distinct key before) (wanted : Key) :
    Writes (register key cell before wanted) (register key cell (turned.map Prod.fst) wanted)
      (about name (turned.filterMap Prod.snd) wanted) := by
  induction each with
  | nil => exact .unchanged _
  | @cons old entry before turned head tail ih =>
    obtain ⟨others, distinct⟩ := nodup_cons.mp distinct
    have split : (entry :: turned).filterMap Prod.snd =
        entry.2.toList ++ turned.filterMap Prod.snd := by
      cases said : entry.2 <;> simp [said]
    rw [split, about_append]
    by_cases own : key old = wanted
    · -- The row of the key: no other row shares it, so the rest is silent about it.
      have silent : about name (turned.filterMap Prod.snd) wanted = [] := by
        refine about_turned_of_absent tail fun row mem same => others ?_
        rw [own, ← same]
        exact mem_map_of_mem mem
      have spoken : about name entry.2.toList wanted = entry.2.toList := by
        refine filter_eq_self.mpr fun value said => ?_
        rw [head.named value (by simpa using said), own, decide_eq_true_eq]
      have found : register key cell (old :: before) wanted = cell old := by
        simp [register, own]
      have foundNext : register key cell ((entry :: turned).map Prod.fst) wanted =
          cell entry.1 := by
        simp [register, head.sameKey, own]
      rw [silent, spoken, found, foundNext, append_nil]
      exact head.writes
    · have silent : about name entry.2.toList wanted = [] := by
        refine filter_eq_nil_iff.mpr fun value said => ?_
        rw [head.named value (by simpa using said), decide_eq_true_eq]
        exact own
      have found : register key cell (old :: before) wanted =
          register key cell before wanted := by
        simp [register, own]
      have foundNext : register key cell ((entry :: turned).map Prod.fst) wanted =
          register key cell (turned.map Prod.fst) wanted := by
        simp [register, head.sameKey, own]
      rw [silent, found, foundNext, nil_append]
      exact ih distinct

theorem register_map {rewrite : Row → Row} (keys : ∀ row, key (rewrite row) = key row)
    (cells : ∀ row, cell (rewrite row) = cell row) (rows : List Row) (wanted : Key) :
    register key cell (rows.map rewrite) wanted = register key cell rows wanted := by
  unfold register
  rw [find?_map]
  have same : ((fun row => decide (key row = wanted)) ∘ rewrite) =
      fun row => decide (key row = wanted) := funext fun row => by simp [keys]
  rw [same]
  cases rows.find? (fun row => decide (key row = wanted)) with
  | none => rfl
  | some row => exact cells row

theorem register_concat {rows : List Row} {added : Row} {published : List Value}
    (fresh : ∀ row ∈ rows, key row ≠ key added) (said : published = (cell added).toList)
    (named : ∀ value ∈ published, name value = key added) (wanted : Key) :
    Writes (register key cell rows wanted) (register key cell (rows ++ [added]) wanted)
      (about name published wanted) := by
  by_cases own : key added = wanted
  · have missing : rows.find? (fun row => decide (key row = wanted)) = none := by
      simpa [← own] using fresh
    have spoken : about name published wanted = published := by
      refine filter_eq_self.mpr fun value mem => ?_
      rw [named value mem, own, decide_eq_true_eq]
    rw [spoken, said]
    simp [register, missing, own, Writes]
  · have silent : about name published wanted = [] := by
      refine filter_eq_nil_iff.mpr fun value mem => ?_
      rw [named value mem, decide_eq_true_eq]
      exact own
    have same : register key cell (rows ++ [added]) wanted = register key cell rows wanted := by
      simp [register, find?_append, own]
    rw [silent, same]
    exact .unchanged _

theorem register_append {rows added : List Row} (distinct : Distinct key (rows ++ added))
    (named : ∀ row ∈ added, ∀ value ∈ cell row, name value = key row) (wanted : Key) :
    Writes (register key cell rows wanted) (register key cell (rows ++ added) wanted)
      (about name (added.filterMap cell) wanted) := by
  induction added generalizing rows with
  | nil =>
    rw [append_nil]
    exact .unchanged _
  | cons row added ih =>
    have fresh : ∀ earlier ∈ rows, key earlier ≠ key row := by
      intro earlier mem same
      rw [Distinct, map_append, map_cons] at distinct
      refine disjoint_of_nodup_append distinct (mem_map_of_mem mem) ?_
      rw [same]
      exact mem_cons_self
    have split : (row :: added).filterMap cell = (cell row).toList ++ added.filterMap cell := by
      cases written : cell row <;> simp [written]
    have first : Writes (register key cell rows wanted) (register key cell (rows ++ [row]) wanted)
        (about name (cell row).toList wanted) :=
      register_concat fresh rfl
        (fun value mem => named row mem_cons_self value (by simpa using mem)) wanted
    have later : Writes (register key cell (rows ++ [row]) wanted)
        (register key cell (rows ++ [row] ++ added) wanted)
        (about name (added.filterMap cell) wanted) :=
      ih (by simpa using distinct) fun other mem => named other (mem_cons_of_mem _ mem)
    rw [split, about_append]
    rw [append_assoc, singleton_append] at later
    exact first.trans later

end

end VibeServeCore.Foundation.WriteOnce
