/- digest: Keyed row ledgers: overwriting by key, row-wise evolution, append-only growth. -/

import Mathlib.Data.List.Nodup

namespace VibeServeCore.Foundation.Ledger

open List

variable {Row Key Proj : Type*}

/-! ## Row-wise evolution

A ledger evolves when every row keeps its position and changes only as the row relation allows;
new rows may only follow the old ones. -/

/-- Each row keeps its place and changes as allowed. -/
def Evolves (allowed : Row → Row → Prop) (before after : List Row) : Prop :=
  ∀ (position : Nat) (row : Row), before[position]? = some row →
    ∃ next, after[position]? = some next ∧ allowed row next

variable {allowed : Row → Row → Prop} {before after rows : List Row} {row old : Row}

theorem Evolves.refl (stable : ∀ row, allowed row row) (rows : List Row) :
    Evolves allowed rows rows :=
  fun _ row found => ⟨row, found, stable row⟩

theorem Evolves.trans {later whole : Row → Row → Prop}
    (compose : ∀ ⦃first second third⦄, allowed first second → later second third →
      whole first third) {middle : List Row} (first : Evolves allowed before middle)
    (second : Evolves later middle after) : Evolves whole before after := by
  intro position row found
  obtain ⟨next, foundNext, step⟩ := first position row found
  obtain ⟨last, foundLast, stepLast⟩ := second position next foundNext
  exact ⟨last, foundLast, compose step stepLast⟩

theorem Evolves.mono {weak strong : Row → Row → Prop}
    (weaken : ∀ ⦃row next⦄, strong row next → weak row next)
    (evolves : Evolves strong before after) : Evolves weak before after := by
  intro position row found
  obtain ⟨next, foundNext, step⟩ := evolves position row found
  exact ⟨next, foundNext, weaken step⟩

theorem Evolves.mem (evolves : Evolves allowed before after) (mem : row ∈ before) :
    ∃ next ∈ after, allowed row next := by
  obtain ⟨position, found⟩ := mem_iff_getElem?.mp mem
  obtain ⟨next, foundNext, step⟩ := evolves position row found
  exact ⟨next, mem_of_getElem? foundNext, step⟩

theorem Evolves.map (rewrite : Row → Row) (rows : List Row)
    (each : ∀ row ∈ rows, allowed row (rewrite row)) : Evolves allowed rows (rows.map rewrite) := by
  intro position row found
  refine ⟨rewrite row, ?_, each row (mem_of_getElem? found)⟩
  rw [getElem?_map, found, Option.map_some]

theorem Evolves.append (stable : ∀ row, allowed row row) (rows added : List Row) :
    Evolves allowed rows (rows ++ added) := by
  intro position row found
  have bound : position < rows.length := (List.getElem?_eq_some_iff.mp found).1
  exact ⟨row, by rw [getElem?_append_left bound, found], stable row⟩

theorem Evolves.prefix_map (project : Row → Proj)
    (preserved : ∀ ⦃row next⦄, allowed row next → project next = project row)
    (evolves : Evolves allowed before after) : before.map project <+: after.map project := by
  rw [prefix_iff_getElem?]
  intro position bound
  rw [length_map] at bound
  obtain ⟨next, found, step⟩ :=
    evolves position before[position] (getElem?_eq_getElem bound)
  rw [getElem?_map, found, Option.map_some, preserved step, getElem_map]

structure Rewrites (allowed : Row → Row → Prop) (before after : List Row) : Prop where
  evolves : Evolves allowed before after
  length : after.length = before.length

theorem Rewrites.refl (stable : ∀ row, allowed row row) (rows : List Row) :
    Rewrites allowed rows rows :=
  ⟨.refl stable rows, rfl⟩

theorem Rewrites.trans {later whole : Row → Row → Prop}
    (compose : ∀ ⦃first second third⦄, allowed first second → later second third →
      whole first third) {middle : List Row} (first : Rewrites allowed before middle)
    (second : Rewrites later middle after) : Rewrites whole before after :=
  ⟨first.evolves.trans compose second.evolves, second.length.trans first.length⟩

theorem Rewrites.map (rewrite : Row → Row) (rows : List Row)
    (each : ∀ row ∈ rows, allowed row (rewrite row)) : Rewrites allowed rows (rows.map rewrite) :=
  ⟨.map rewrite rows each, length_map _⟩

theorem Rewrites.cons {next : Row} (head : allowed row next)
    (tail : Rewrites allowed before after) : Rewrites allowed (row :: before) (next :: after) := by
  refine ⟨fun position old found => ?_, by simp [tail.length]⟩
  cases position with
  | zero =>
    cases found
    exact ⟨next, rfl, head⟩
  | succ position => exact tail.evolves position old found

theorem Rewrites.append (stable : ∀ row, allowed row row) (rewrites : Rewrites allowed before after)
    (added : List Row) : Rewrites allowed (before ++ added) (after ++ added) := by
  refine ⟨fun position old found => ?_, by simp [rewrites.length]⟩
  rw [getElem?_append, rewrites.length]
  rw [getElem?_append] at found
  split_ifs at found ⊢
  · exact rewrites.evolves position old found
  · exact ⟨old, found, stable old⟩

theorem Rewrites.source (rewrites : Rewrites allowed before after) {next : Row}
    (mem : next ∈ after) : ∃ row ∈ before, allowed row next := by
  obtain ⟨position, found⟩ := mem_iff_getElem?.mp mem
  have bound : position < before.length := by
    rw [← rewrites.length]
    exact (List.getElem?_eq_some_iff.mp found).1
  obtain ⟨other, foundOther, step⟩ :=
    rewrites.evolves position before[position] (getElem?_eq_getElem bound)
  have same : other = next := by
    rw [foundOther] at found
    exact Option.some.inj found
  exact ⟨before[position], getElem_mem bound, same ▸ step⟩

theorem Rewrites.map_eq (project : Row → Proj)
    (preserved : ∀ ⦃row next⦄, allowed row next → project next = project row)
    (rewrites : Rewrites allowed before after) : after.map project = before.map project := by
  have grown := rewrites.evolves.prefix_map project preserved
  refine (List.IsPrefix.eq_of_length grown ?_).symm
  rw [length_map, length_map, rewrites.length]

theorem Rewrites.of_forall₂ (each : List.Forall₂ allowed before after) :
    Rewrites allowed before after := by
  induction each with
  | nil => exact ⟨by simp [Evolves], rfl⟩
  | cons head _ ih => exact ih.cons head

theorem Rewrites.replace [DecidableEq Row] {next : Row} (stable : ∀ row, allowed row row)
    (step : allowed old next) (rows : List Row) : Rewrites allowed rows (rows.replace old next) := by
  induction rows with
  | nil => exact .refl stable []
  | cons row rows ih =>
    by_cases same : old = row
    · subst same
      rw [replace_cons_self]
      exact (Rewrites.refl stable rows).cons step
    · rw [replace_cons, beq_false_of_ne same]
      exact ih.cons (stable row)

/-! ## Overwriting by key -/

variable (key : Row → Key)

/-- The rows have pairwise distinct keys. -/
def Distinct (rows : List Row) : Prop := (rows.map key).Nodup

variable {key}

theorem Distinct.eq_of_key (distinct : Distinct key rows) {first second : Row}
    (memberFirst : first ∈ rows) (memberSecond : second ∈ rows) (same : key first = key second) :
    first = second :=
  inj_on_of_nodup_map distinct memberFirst memberSecond same

theorem Distinct.rewrites (distinct : Distinct key before) (rewrites : Rewrites allowed before after)
    (same : ∀ ⦃row next⦄, allowed row next → key next = key row) : Distinct key after := by
  unfold Distinct
  rw [rewrites.map_eq key same]
  exact distinct

theorem Distinct.concat (distinct : Distinct key rows) (fresh : ∀ old ∈ rows, key old ≠ key row) :
    Distinct key (rows ++ [row]) := by
  unfold Distinct
  rw [map_append, nodup_append]
  refine ⟨distinct, nodup_singleton _, fun name inside other single => ?_⟩
  obtain ⟨old, mem, rfl⟩ := mem_map.mp inside
  rw [mem_singleton.mp single]
  exact fresh old mem

variable [DecidableEq Key]

instance (rows : List Row) : Decidable (Distinct key rows) :=
  inferInstanceAs (Decidable (rows.map key).Nodup)

variable (key)

def overwrite (row : Row) (rows : List Row) : List Row :=
  rows.map fun old => if key old = key row then row else old

def upsert (rows : List Row) (row : Row) : List Row :=
  if rows.any fun old => key old = key row then overwrite key row rows else rows ++ [row]

variable {key}

theorem rewrites_overwrite (stable : ∀ old, key old ≠ key row → allowed old old)
    (each : ∀ old ∈ rows, key old = key row → allowed old row) :
    Rewrites allowed rows (overwrite key row rows) := by
  refine Rewrites.map _ rows fun old mem => ?_
  by_cases same : key old = key row
  · simpa only [same, if_true] using each old mem same
  · simpa only [same, if_false] using stable old same

theorem Distinct.rewrites_overwrite (stable : ∀ old, key old ≠ key row → allowed old old)
    (distinct : Distinct key rows) (mem : old ∈ rows) (same : key row = key old)
    (step : allowed old row) :
    Rewrites allowed rows (overwrite key row rows) := by
  refine Ledger.rewrites_overwrite stable fun other memberOther sameOther => ?_
  have : other = old := distinct.eq_of_key memberOther mem (sameOther.trans same)
  rw [this]
  exact step

theorem map_key_overwrite (row : Row) (rows : List Row) :
    (overwrite key row rows).map key = rows.map key := by
  simp only [overwrite, map_map]
  refine map_congr_left fun old _ => ?_
  by_cases same : key old = key row <;> simp [same]

theorem Distinct.overwrite (distinct : Distinct key rows) (row : Row) :
    Distinct key (Ledger.overwrite key row rows) := by
  unfold Distinct
  rw [map_key_overwrite]
  exact distinct

theorem mem_overwrite {other : Row} (mem : other ∈ overwrite key row rows) :
    (other = row ∧ ∃ old ∈ rows, key old = key row) ∨ (other ∈ rows ∧ key other ≠ key row) := by
  obtain ⟨old, memberOld, rfl⟩ := mem_map.mp mem
  by_cases same : key old = key row
  · rw [if_pos same]
    exact .inl ⟨rfl, old, memberOld, same⟩
  · rw [if_neg same]
    exact .inr ⟨memberOld, same⟩

theorem mem_overwrite_self (mem : old ∈ rows) (same : key old = key row) :
    row ∈ overwrite key row rows :=
  mem_map.mpr ⟨old, mem, if_pos same⟩

theorem mem_overwrite_of_ne {other : Row} (mem : other ∈ rows)
    (different : key other ≠ key row) : other ∈ overwrite key row rows :=
  mem_map.mpr ⟨other, mem, if_neg different⟩

theorem Distinct.find? (distinct : Distinct key rows) (mem : row ∈ rows) :
    rows.find? (fun other => key other = key row) = some row := by
  cases found : rows.find? (fun other => key other = key row) with
  | none => exact absurd (find?_eq_none.mp found row mem) (by simp)
  | some other =>
    have same : key other = key row := by simpa using find?_some found
    rw [distinct.eq_of_key (mem_of_find?_eq_some found) mem same]

theorem Distinct.filter_key (distinct : Distinct key rows) (mem : row ∈ rows) :
    rows.filter (fun other => key other = key row) = [row] := by
  induction rows with
  | nil => cases mem
  | cons first rest ih =>
    have apart : key first ∉ rest.map key := (nodup_cons.mp distinct).1
    have distinctRest : Distinct key rest := (nodup_cons.mp distinct).2
    rcases mem_cons.mp mem with rfl | later
    · rw [filter_cons_of_pos (by simp), filter_eq_nil_iff.mpr]
      intro other listed
      simp only [decide_eq_true_eq]
      exact fun same => apart (same ▸ mem_map_of_mem listed)
    · have differs : key first ≠ key row := fun same =>
        apart (same ▸ mem_map_of_mem later)
      rw [filter_cons_of_neg (by simpa using differs)]
      exact ih distinctRest later

theorem find?_overwrite_self (found : rows.find? (fun other => key other = key row) = some old) :
    (overwrite key row rows).find? (fun other => key other = key row) = some row := by
  induction rows with
  | nil => cases found
  | cons first rest ih =>
    by_cases same : key first = key row
    · simp [overwrite, same]
    · simp only [find?_cons, same, decide_false] at found
      simpa [overwrite, same] using ih found

theorem find?_overwrite_of_ne {wanted : Key} (other : wanted ≠ key row) (rows : List Row) :
    (overwrite key row rows).find? (fun old => key old = wanted) =
      rows.find? fun old => key old = wanted := by
  induction rows with
  | nil => rfl
  | cons first rest ih =>
    by_cases same : key first = key row
    · have skipped : ¬key row = wanted := fun equal => other equal.symm
      have skippedFirst : ¬key first = wanted := fun equal => other (equal.symm.trans same)
      simpa [overwrite, same, skipped, skippedFirst] using ih
    · by_cases hit : key first = wanted
      · simp [overwrite, hit, other]
      · simpa [overwrite, same, hit] using ih

theorem length_filter_overwrite (row : Row) (wanted : Key) (rows : List Row) :
    ((overwrite key row rows).filter fun old => key old = wanted).length =
      (rows.filter fun old => key old = wanted).length := by
  have keys : ∀ rows : List Row, (rows.filter fun old => key old = wanted).length =
      (rows.map key).count wanted := by
    intro rows
    rw [List.count, countP_map, countP_eq_length_filter]
    refine congrArg (fun kept => (List.filter kept rows).length) (funext fun old => ?_)
    rfl
  rw [keys, keys, map_key_overwrite]

end VibeServeCore.Foundation.Ledger
