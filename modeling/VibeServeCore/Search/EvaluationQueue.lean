/- source: src/vibesys/orchestration/dynamic/search/_queue.py
   digest: The queue of candidates: one fate and one verdict each, and none waits past its turn. -/

import Mathlib.Data.List.Induction
import Mathlib.Data.List.Sort

namespace VibeServeCore.Search

open List

inductive WorkKind
  | implement | profile | merge
  deriving DecidableEq

inductive DropReason
  | superseded | stopped | restarted

inductive PickPolicy
  | newest | ranked

structure Submission (Revision : Type) where
  key : String
  workId : String
  kind : WorkKind
  candidate : Revision
  parent : Revision
  deriving DecidableEq

structure Queued (Revision : Type) where
  submission : Submission Revision
  order : Nat
  deriving DecidableEq

structure Dropped where
  reason : DropReason
  by_ : Option String := none

inductive SlotVerdict
  | bound
  | dropped (dropped : Dropped)

inductive Fact (Revision : Type)
  | submitted (entry : Queued Revision)
  | bound (entry : Queued Revision)
  | dropped (entry : Queued Revision) (dropped : Dropped)
  | forgotten (entry : Queued Revision)

/-- `journal` and `handed` are ghosts: every fact so far, and every verdict handed over. -/
structure EvaluationQueue (Revision : Type) where
  slots : Nat
  policy : PickPolicy := .newest
  pending : List (Queued Revision) := []
  holding : List String := []
  ranking : List String := []
  dropped : List (Queued Revision × Dropped) := []
  lastBound : Option (Queued Revision) := none
  received : Nat := 0
  builtOn : List (Revision × Revision) := []
  overtaken : String → Nat := fun _ => 0
  undelivered : List (String × SlotVerdict) := []
  journal : List (Fact Revision) := []
  handed : List (String × SlotVerdict) := []

namespace EvaluationQueue

variable {Revision : Type} [DecidableEq Revision] (queue : EvaluationQueue Revision)

def free : Nat := queue.slots - queue.holding.length

def hold (key : String) : EvaluationQueue Revision :=
  if key ∈ queue.holding then queue else { queue with holding := queue.holding ++ [key] }

def parentOf (revision : Revision) : Option Revision :=
  (queue.builtOn.find? (·.1 = revision)).map (·.2)

def ancestorsFrom : Nat → List Revision → Revision → List Revision
  | 0, found, _ => found
  | turns + 1, found, current =>
    if current ∈ found then found
    else
      match queue.parentOf current with
      | none => current :: found
      | some parent => ancestorsFrom turns (current :: found) parent

def ancestors (revision : Revision) : List Revision :=
  queue.ancestorsFrom (queue.builtOn.length + 1) [] revision

def supersedes (newer older : Queued Revision) : Bool :=
  older.submission.kind = .implement &&
    (older.submission.workId = newer.submission.workId ||
      older.submission.candidate ∈ queue.ancestors newer.submission.parent)

def drop (entry : Queued Revision) (dropped : Dropped) : EvaluationQueue Revision :=
  { queue with
    pending := queue.pending.erase entry
    overtaken := Function.update queue.overtaken entry.submission.key 0
    dropped := queue.dropped ++ [(entry, dropped)]
    undelivered := queue.undelivered ++ [(entry.submission.key, .dropped dropped)]
    journal := queue.journal ++ [.dropped entry dropped] }

def dropAll (dropped : Dropped) (entries : List (Queued Revision)) : EvaluationQueue Revision :=
  entries.foldl (fun queue entry => queue.drop entry dropped) queue

def enter (entry : Queued Revision) : EvaluationQueue Revision :=
  { queue with pending := queue.pending ++ [entry], journal := queue.journal ++ [.submitted entry] }

def recordLine (submission : Submission Revision) : EvaluationQueue Revision :=
  { queue with
    builtOn := (submission.candidate, submission.parent) ::
      queue.builtOn.filter (·.1 ≠ submission.candidate) }

def submit (submission : Submission Revision) : EvaluationQueue Revision :=
  let counted := { queue with received := queue.received + 1 }
  let entry : Queued Revision := ⟨submission, counted.received⟩
  if submission.kind = .implement && submission.candidate ≠ submission.parent then
    let recorded := counted.recordLine submission
    (recorded.dropAll ⟨.superseded, some submission.workId⟩
      (recorded.pending.filter (recorded.supersedes entry))).enter entry
  else counted.enter entry

def rank (order : List String) : EvaluationQueue Revision := { queue with ranking := order }

def isDue (entry : Queued Revision) : Bool := queue.slots ≤ queue.overtaken entry.submission.key

def rankOf (workId : String) : Nat :=
  match queue.ranking.reverse.idxOf? workId with
  | none => queue.ranking.dedup.length
  | some place => queue.ranking.length - 1 - place

def inOrder : List (Queued Revision) :=
  let due := (queue.pending.filter queue.isDue).insertionSort (·.order ≤ ·.order)
  let rest := queue.pending.filter (· ∉ due)
  let newest := rest.insertionSort (fun first second => second.order ≤ first.order)
  match queue.policy with
  | .newest => due ++ newest
  | .ranked => due ++ newest.insertionSort fun first second =>
      queue.rankOf first.submission.workId ≤ queue.rankOf second.submission.workId

def countPassed (chosen : Queued Revision) (counts : String → Nat) (older : Queued Revision) :
    String → Nat :=
  if older.order < chosen.order then
    Function.update counts older.submission.key (counts older.submission.key + 1)
  else counts

def bindChosen (chosen : Queued Revision) : EvaluationQueue Revision :=
  let left := queue.pending.erase chosen
  { queue with
    pending := left
    overtaken := left.foldl (countPassed chosen)
      (Function.update queue.overtaken chosen.submission.key 0)
    holding := queue.holding ++ [chosen.submission.key]
    lastBound := some chosen
    undelivered := queue.undelivered ++ [(chosen.submission.key, .bound)]
    journal := queue.journal ++ [.bound chosen] }

def bindLoop : Nat → EvaluationQueue Revision → EvaluationQueue Revision
  | 0, queue => queue
  | turns + 1, queue =>
    if queue.free = 0 then queue
    else
      match queue.inOrder with
      | [] => queue
      | chosen :: _ => bindLoop turns (queue.bindChosen chosen)

def bind : EvaluationQueue Revision := bindLoop queue.pending.length queue

def stop : EvaluationQueue Revision := queue.dropAll ⟨.stopped, none⟩ queue.pending

def release (key : String) : EvaluationQueue Revision :=
  { queue with holding := queue.holding.erase key }

def forget (key : String) : EvaluationQueue Revision :=
  let released := queue.release key
  { released with
    pending := queue.pending.filter (·.submission.key ≠ key)
    overtaken := Function.update queue.overtaken key 0
    undelivered := queue.undelivered.filter (·.1 ≠ key)
    journal := queue.journal ++ (queue.pending.filter (·.submission.key = key)).map .forgotten }

def handOver : EvaluationQueue Revision :=
  { queue with undelivered := [], handed := queue.handed ++ queue.undelivered }

def resumed : EvaluationQueue Revision := { queue with undelivered := [] }

/-- What a caller does with the queue. -/
inductive Operation (Revision : Type)
  | submit (submission : Submission Revision)
  | rank (order : List String)
  | bind
  | release (key : String)
  | forget (key : String)
  | stop
  | handOver
  | resume

def apply : Operation Revision → EvaluationQueue Revision
  | .submit submission => queue.submit submission
  | .rank order => queue.rank order
  | .bind => queue.bind
  | .release key => queue.release key
  | .forget key => queue.forget key
  | .stop => queue.stop
  | .handOver => queue.handOver
  | .resume => queue.resumed

def run (slots : Nat) (policy : PickPolicy) (input : Option String)
    (operations : List (Operation Revision)) : EvaluationQueue Revision :=
  let fresh : EvaluationQueue Revision := { slots, policy }
  operations.foldl apply (input.elim fresh fresh.hold)

end EvaluationQueue

namespace Fact

variable {Revision : Type}

def entering : Fact Revision → Option (Queued Revision)
  | .submitted entry => some entry
  | _ => none

def leaving : Fact Revision → Option (Queued Revision)
  | .submitted _ => none
  | .bound entry | .dropped entry _ | .forgotten entry => some entry

def verdict : Fact Revision → Option (String × SlotVerdict)
  | .bound entry => some (entry.submission.key, .bound)
  | .dropped entry cause => some (entry.submission.key, .dropped cause)
  | _ => none

/-- The slot that a fact takes. -/
def seated : Fact Revision → Option String
  | .bound entry => some entry.submission.key
  | _ => none

def discarded : Fact Revision → Option (Queued Revision × Dropped)
  | .dropped entry cause => some (entry, cause)
  | _ => none

def passes (entry : Queued Revision) : Fact Revision → Bool
  | .bound chosen => entry.order < chosen.order
  | _ => false

private theorem filterMap_leaving_dropped (cause : Dropped) (entries : List (Queued Revision)) :
    (entries.map (Fact.dropped · cause)).filterMap Fact.leaving = entries := by
  rw [filterMap_map]
  exact filterMap_some

private theorem verdicts_sublist (journal : List (Fact Revision)) :
    ((journal.filterMap verdict).map Prod.fst).Sublist
      ((journal.filterMap leaving).map (·.submission.key)) := by
  induction journal with
  | nil => exact .slnil
  | cons fact rest ih =>
    cases fact with
    | submitted entry => exact ih
    | bound entry => exact ih.cons_cons _
    | dropped entry cause => exact ih.cons_cons _
    | forgotten entry => exact ih.cons _

end Fact

section
variable {Revision : Type} [DecidableEq Revision]

/-- How often later entries were bound before it. -/
def overtakes (journal : List (Fact Revision)) (entry : Queued Revision) : Nat :=
  (journal.takeWhile (·.leaving ≠ some entry)).countP (·.passes entry)

private theorem overtakes_concat (journal : List (Fact Revision)) (fact : Fact Revision)
    (entry : Queued Revision) :
    overtakes (journal ++ [fact]) entry = overtakes journal entry +
      if entry ∉ journal.filterMap Fact.leaving ∧ fact.leaving ≠ some entry ∧ fact.passes entry then 1
      else 0 := by
  induction journal with
  | nil => by_cases leaves : fact.leaving = some entry <;> simp [overtakes, leaves, countP_cons]
  | cons first rest ih =>
    unfold overtakes at ih ⊢
    by_cases leaves : first.leaving = some entry
    · simp [leaves]
    rw [cons_append, takeWhile_cons_of_pos (by simpa using leaves),
      takeWhile_cons_of_pos (by simpa using leaves), countP_cons, countP_cons, ih]
    have same : entry ∉ (first :: rest).filterMap Fact.leaving ↔
        entry ∉ rest.filterMap Fact.leaving := by
      simp [mem_filterMap, leaves]
    simp only [same]
    omega

private theorem overtakes_append (journal : List (Fact Revision)) {facts : List (Fact Revision)}
    (entry : Queued Revision) (idle : ∀ fact ∈ facts, fact.passes entry = false) :
    overtakes (journal ++ facts) entry = overtakes journal entry := by
  induction facts generalizing journal with
  | nil => rw [append_nil]
  | cons fact rest ih =>
    rw [← singleton_append, ← append_assoc,
      ih _ fun later mem => idle later (mem_cons_of_mem _ mem), overtakes_concat]
    simp [idle fact mem_cons_self]

end

namespace EvaluationQueue

variable {Revision : Type} [DecidableEq Revision] {queue next : EvaluationQueue Revision}

def submitted (queue : EvaluationQueue Revision) : List (Queued Revision) :=
  queue.journal.filterMap Fact.entering

def departed (queue : EvaluationQueue Revision) : List (Queued Revision) :=
  queue.journal.filterMap Fact.leaving

structure Sound (queue : EvaluationQueue Revision) : Prop where
  within : queue.holding.length ≤ queue.slots
  fates : queue.submitted.Perm (queue.pending ++ queue.departed)
  keys : (queue.submitted.map (·.submission.key)).Nodup
  numbered : ∀ entry ∈ queue.submitted, entry.order ≤ queue.received
  counted : ∀ entry ∈ queue.pending,
    queue.overtaken entry.submission.key = overtakes queue.journal entry
  uncounted : ∀ key ∉ queue.pending.map (·.submission.key), queue.overtaken key = 0
  patient : ∀ entry ∈ queue.submitted, overtakes queue.journal entry ≤ queue.slots
  delivered : (queue.handed ++ queue.undelivered).Sublist (queue.journal.filterMap Fact.verdict)

theorem Sound.distinct (sound : queue.Sound) :
    ((queue.pending ++ queue.departed).map (·.submission.key)).Nodup :=
  (sound.fates.map _).nodup_iff.mp sound.keys

theorem Sound.pendingKeys (sound : queue.Sound) : (queue.pending.map (·.submission.key)).Nodup := by
  have distinct := sound.distinct
  rw [map_append] at distinct
  exact distinct.of_append_left

variable {entry : Queued Revision} {operation : Operation Revision} {slots : Nat}

theorem Sound.waiting (sound : queue.Sound) (mem : entry ∈ queue.pending) :
    entry ∉ queue.departed := by
  have distinct := sound.distinct.of_map
  exact fun gone => (nodup_append.mp distinct).2.2 entry mem entry gone rfl

theorem Sound.leave (sound : queue.Sound) (facts : List (Fact Revision))
    (split : queue.pending.Perm (facts.filterMap Fact.leaving ++ next.pending))
    (journal : next.journal = queue.journal ++ facts)
    (idle : ∀ fact ∈ facts, fact.entering = none ∧ ∀ entry, fact.passes entry = false)
    (slots : next.slots = queue.slots) (received : next.received = queue.received)
    (holding : next.holding.length ≤ queue.holding.length) (counts : ∀ key, next.overtaken key = if
      key ∈ (facts.filterMap Fact.leaving).map (·.submission.key) then 0 else queue.overtaken key)
    (delivered : (next.handed ++ next.undelivered).Sublist (next.journal.filterMap Fact.verdict)) :
    next.Sound := by
  generalize leaving : facts.filterMap Fact.leaving = gone at split counts
  have entering : facts.filterMap Fact.entering = [] :=
    filterMap_eq_nil_iff.mpr fun fact mem => (idle fact mem).1
  have same : next.submitted = queue.submitted := by
    rw [submitted, journal, filterMap_append, entering, append_nil, submitted]
  have kept : ∀ entry, overtakes next.journal entry = overtakes queue.journal entry :=
    fun entry => journal ▸ overtakes_append _ entry fun fact mem => (idle fact mem).2 entry
  have apart : ∀ entry ∈ next.pending, entry.submission.key ∉ gone.map (·.submission.key) := by
    intro entry mem named
    have distinct := (split.map (·.submission.key)).nodup_iff.mp sound.pendingKeys
    rw [map_append] at distinct
    exact (nodup_append.mp distinct).2.2 _ named _ (mem_map_of_mem mem) rfl
  have left : ∀ entry, entry ∈ queue.pending ↔ entry ∈ gone ∨ entry ∈ next.pending :=
    fun entry => by rw [split.mem_iff, mem_append]
  refine ⟨slots ▸ holding.trans sound.within, ?_, same ▸ sound.keys, ?_, ?_, ?_, ?_, delivered⟩
  · rw [same, departed, journal, filterMap_append, leaving, ← departed]
    refine sound.fates.trans ((split.append_right _).trans ?_)
    rw [append_assoc]
    exact perm_append_comm.trans (by rw [append_assoc])
  · rw [same, received]
    exact sound.numbered
  · intro entry mem
    rw [counts, if_neg (apart entry mem), kept]
    exact sound.counted entry ((left entry).mpr (.inr mem))
  · intro key unnamed
    rw [counts]
    split_ifs with named
    · rfl
    refine sound.uncounted key fun listed => ?_
    obtain ⟨entry, mem, rfl⟩ := mem_map.mp listed
    rcases (left entry).mp mem with away | waits
    · exact named (mem_map_of_mem away)
    · exact unnamed (mem_map_of_mem waits)
  · rw [same, slots]
    exact fun entry mem => kept entry ▸ sound.patient entry mem

private theorem dropAll_eq (queue : EvaluationQueue Revision) (dropped : Dropped)
    (entries : List (Queued Revision)) :
    queue.dropAll dropped entries =
      { queue with
        pending := queue.pending.diff entries
        overtaken := fun key =>
          if key ∈ entries.map (·.submission.key) then 0 else queue.overtaken key
        dropped := queue.dropped ++ entries.map (·, dropped)
        undelivered := queue.undelivered ++
          entries.map fun entry => (entry.submission.key, .dropped dropped)
        journal := queue.journal ++ entries.map (.dropped · dropped) } := by
  induction entries generalizing queue with
  | nil => simp [dropAll]
  | cons entry rest ih =>
    have step : queue.dropAll dropped (entry :: rest) = (queue.drop entry dropped).dropAll dropped rest :=
      rfl
    rw [step, ih]
    simp only [drop, diff_cons, map_cons, append_assoc, singleton_append,
      EvaluationQueue.mk.injEq, and_true, true_and]
    funext key
    by_cases same : key = entry.submission.key
    · simp [same]
    · simp [same]

theorem Sound.dropAll (sound : queue.Sound) (dropped : Dropped) {entries : List (Queued Revision)}
    (waiting : entries.Sublist queue.pending) : (queue.dropAll dropped entries).Sound := by
  rw [dropAll_eq]
  refine sound.leave (entries.map (.dropped · dropped)) ?_ rfl ?_ rfl rfl le_rfl ?_ ?_
  · rw [Fact.filterMap_leaving_dropped]
    exact (subperm_append_diff_self_of_count_le
      (subperm_ext_iff.mp waiting.subperm)).symm
  · intro fact mem
    obtain ⟨entry, -, rfl⟩ := mem_map.mp mem
    exact ⟨rfl, fun _ => rfl⟩
  · intro key
    rw [Fact.filterMap_leaving_dropped]
  · rw [filterMap_append, filterMap_map, ← append_assoc]
    refine sound.delivered.append ?_
    rw [← filterMap_eq_map]
    exact List.Sublist.refl _

theorem Sound.enter (sound : queue.Sound)
    (fresh : entry.submission.key ∉ queue.submitted.map (·.submission.key))
    (latest : ∀ other ∈ queue.submitted, other.order < entry.order)
    (numbered : entry.order ≤ queue.received) : (queue.enter entry).Sound := by
  have added : (queue.enter entry).submitted = queue.submitted ++ [entry] := by
    simp [submitted, EvaluationQueue.enter, Fact.entering]
  have left : (queue.enter entry).departed = queue.departed := by
    simp [departed, EvaluationQueue.enter, Fact.leaving]
  have kept : ∀ other, overtakes (queue.enter entry).journal other = overtakes queue.journal other :=
    fun other => overtakes_append _ other (by simp [Fact.passes])
  -- Nothing received later was bound before the entry came.
  have first : overtakes queue.journal entry = 0 := by
    refine countP_eq_zero.mpr fun fact mem passes => ?_
    have listed := ( takeWhile_prefix _).subset mem
    cases fact with
    | bound chosen =>
      have gone : chosen ∈ queue.departed := mem_filterMap.mpr ⟨_, listed, rfl⟩
      have earlier := latest chosen (sound.fates.mem_iff.mpr (mem_append_right _ gone))
      simp only [Fact.passes, decide_eq_true_eq] at passes
      omega
    | _ => cases passes
  have unwaited : entry.submission.key ∉ queue.pending.map (·.submission.key) := fun named =>
    fresh ((sound.fates.map _).mem_iff.mpr (by
      rw [map_append]
      exact mem_append_left _ named))
  refine ⟨sound.within, ?_, ?_, ?_, ?_, ?_, ?_, ?_⟩
  · rw [added, left]
    refine (sound.fates.append_right _).trans ?_
    simp only [EvaluationQueue.enter, append_assoc]
    exact perm_append_comm.append_left _
  · rw [added, map_append, nodup_append]
    refine ⟨sound.keys, nodup_singleton _, fun key mem other last => ?_⟩
    rw [mem_singleton.mp last]
    rintro rfl
    exact fresh mem
  · rw [added]
    intro other mem
    rcases mem_append.mp mem with mem | last
    · exact sound.numbered other mem
    · exact mem_singleton.mp last ▸ numbered
  · intro other mem
    rw [kept]
    rcases mem_append.mp mem with mem | last
    · exact sound.counted other mem
    · rw [mem_singleton.mp last, first]
      exact sound.uncounted _ unwaited
  · intro key unnamed
    refine sound.uncounted key fun named => unnamed ?_
    rw [EvaluationQueue.enter, map_append]
    exact mem_append_left _ named
  · rw [added]
    intro other mem
    rw [kept]
    rcases mem_append.mp mem with mem | last
    · exact sound.patient other mem
    · rw [mem_singleton.mp last, first]
      exact Nat.zero_le _
  · simpa [EvaluationQueue.enter, filterMap_cons, Fact.verdict] using sound.delivered

omit [DecidableEq Revision] in
private theorem foldl_countPassed (chosen : Queued Revision) (counts : String → Nat)
    {left : List (Queued Revision)} (distinct : (left.map (·.submission.key)).Nodup)
    (key : String) :
    left.foldl (countPassed chosen) counts key = counts key +
      if ∃ older ∈ left, older.submission.key = key ∧ older.order < chosen.order then 1 else 0 := by
  induction left generalizing counts with
  | nil => simp
  | cons older rest ih =>
    obtain ⟨alone, distinct⟩ := nodup_cons.mp distinct
    rw [foldl_cons, ih _ distinct]
    by_cases same : older.submission.key = key
    · have others : ¬∃ other ∈ rest, other.submission.key = key ∧ other.order < chosen.order := by
        rintro ⟨other, mem, named, -⟩
        exact alone (mem_map.mpr ⟨other, mem, named.trans same.symm⟩)
      by_cases passed : older.order < chosen.order <;> simp [countPassed, passed, same, others]
    · have unchanged : countPassed chosen counts older key = counts key := by
        unfold countPassed
        split_ifs
        · exact Function.update_of_ne (Ne.symm same) _ _
        · rfl
      simp [unchanged, same]

private theorem mem_inOrder (entry : Queued Revision) :
    entry ∈ queue.inOrder ↔ entry ∈ queue.pending := by
  unfold inOrder
  cases queue.policy <;> cases due : queue.isDue entry <;> simp [due]

private theorem inOrder_fair {chosen : Queued Revision} {rest : List (Queued Revision)}
    (ordered : queue.inOrder = chosen :: rest) (mem : entry ∈ queue.pending)
    (earlier : entry.order < chosen.order) :
    queue.overtaken entry.submission.key < queue.slots := by
  by_contra due
  have listed : entry ∈ (queue.pending.filter queue.isDue).insertionSort
      (·.order ≤ ·.order) := by
    simpa [isDue, mem] using due
  have sorted : ((queue.pending.filter queue.isDue).insertionSort (·.order ≤ ·.order)).Pairwise
      (·.order ≤ ·.order) := by
    have : Std.Total fun first second : Queued Revision => first.order ≤ second.order :=
      ⟨fun _ _ => Nat.le_total _ _⟩
    have : IsTrans (Queued Revision) fun first second => first.order ≤ second.order :=
      ⟨fun _ _ _ => Nat.le_trans⟩
    exact pairwise_insertionSort _ _
  unfold inOrder at ordered
  generalize (queue.pending.filter queue.isDue).insertionSort (·.order ≤ ·.order) = dues at *
  cases dues with
  | nil => cases listed
  | cons first others =>
    have same : first = chosen := by
      cases policy : queue.policy <;> simp only [policy, cons_append] at ordered <;>
        exact (List.cons.inj ordered).1
    subst same
    rcases mem_cons.mp listed with rfl | later
    · omega
    · exact absurd ((pairwise_cons.mp sorted).1 entry later) (by omega)

theorem Sound.bindChosen (sound : queue.Sound) {chosen : Queued Revision}
    {rest : List (Queued Revision)} (ordered : queue.inOrder = chosen :: rest)
    (free : queue.free ≠ 0) : (queue.bindChosen chosen).Sound := by
  have mem : chosen ∈ queue.pending := by
    rw [← mem_inOrder, ordered]
    exact mem_cons_self
  have split : queue.pending.Perm (chosen :: queue.pending.erase chosen) :=
    perm_cons_erase mem
  have distinct := (split.map (·.submission.key)).nodup_iff.mp sound.pendingKeys
  obtain ⟨alone, distinct⟩ := nodup_cons.mp distinct
  have same : (queue.bindChosen chosen).submitted = queue.submitted := by
    simp [submitted, EvaluationQueue.bindChosen, Fact.entering]
  have waits : ∀ {entry}, entry ∈ queue.pending.erase chosen → entry ∈ queue.pending :=
    mem_of_mem_erase
  have apart : ∀ entry ∈ queue.pending.erase chosen,
      entry.submission.key ≠ chosen.submission.key :=
    fun entry kept named => alone (mem_map.mpr ⟨entry, kept, named⟩)
  have journal : ∀ entry, overtakes (queue.bindChosen chosen).journal entry = _ :=
    overtakes_concat queue.journal (.bound chosen)
  have counts : ∀ key, (queue.bindChosen chosen).overtaken key = _ :=
    foldl_countPassed chosen _ distinct
  have passed : ∀ entry ∈ queue.pending.erase chosen,
      overtakes (queue.bindChosen chosen).journal entry = overtakes queue.journal entry +
        if entry.order < chosen.order then 1 else 0 := by
    intro entry kept
    have other : chosen ≠ entry := fun same => apart entry kept (same ▸ rfl)
    rw [journal, ← departed]
    simp [sound.waiting (waits kept), Fact.leaving, Fact.passes, other]
  refine ⟨?_, ?_, same ▸ sound.keys, same ▸ sound.numbered, ?_, ?_, ?_, ?_⟩
  · unfold EvaluationQueue.free at free
    simp only [EvaluationQueue.bindChosen, length_append, length_singleton]
    omega
  · have left : (queue.bindChosen chosen).departed = queue.departed ++ [chosen] := by
      simp [departed, EvaluationQueue.bindChosen, Fact.leaving]
    rw [same, left]
    refine sound.fates.trans ((split.append_right _).trans ?_)
    exact perm_middle.symm.trans ((perm_append_singleton _ _).symm.append_left _)
  · intro entry kept
    have own : (∃ older ∈ queue.pending.erase chosen,
        older.submission.key = entry.submission.key ∧ older.order < chosen.order) ↔
          entry.order < chosen.order := by
      constructor
      · rintro ⟨older, mem, named, earlier⟩
        rwa [← inj_on_of_nodup_map distinct mem kept named]
      · exact fun earlier => ⟨entry, kept, rfl, earlier⟩
    rw [passed entry kept, counts]
    simp only [own, Function.update_of_ne (apart entry kept), sound.counted entry (waits kept)]
  · intro key unnamed
    rw [counts]
    have none : ¬∃ older ∈ queue.pending.erase chosen,
        older.submission.key = key ∧ older.order < chosen.order := by
      rintro ⟨older, mem, named, -⟩
      exact unnamed (mem_map.mpr ⟨older, mem, named⟩)
    rw [if_neg none, Nat.add_zero]
    by_cases own : key = chosen.submission.key
    · rw [own, Function.update_self]
    rw [Function.update_of_ne own]
    refine sound.uncounted key fun named => unnamed ?_
    rcases mem_cons.mp ((split.map _).mem_iff.mp named) with first | others
    · exact absurd first own
    · exact others
  · intro entry mem
    rw [same] at mem
    by_cases kept : entry ∈ queue.pending.erase chosen
    · rw [passed entry kept]
      split_ifs with earlier
      · have fair := inOrder_fair ordered (waits kept) earlier
        rwa [sound.counted entry (waits kept)] at fair
      · exact sound.patient entry mem
    · -- The others left the queue, now or before.
      rw [journal, if_neg, Nat.add_zero]
      · exact sound.patient entry mem
      rintro ⟨stays, other, -⟩
      rcases mem_append.mp (sound.fates.mem_iff.mp mem) with waiting | gone
      · rcases mem_cons.mp (split.mem_iff.mp waiting) with rfl | still
        · exact other rfl
        · exact kept still
      · exact stays gone
  · simp only [EvaluationQueue.bindChosen, filterMap_append, ← append_assoc]
    exact sound.delivered.append (List.Sublist.refl _)

theorem Sound.bindLoop (turns : Nat) (sound : queue.Sound) : (bindLoop turns queue).Sound := by
  induction turns generalizing queue with
  | zero => exact sound
  | succ turns ih =>
    unfold EvaluationQueue.bindLoop
    split_ifs with free
    · exact sound
    · split
      · exact sound
      · rename_i chosen rest ordered
        exact ih (sound.bindChosen ordered free)

private theorem bindLoop_full (turns : Nat) (queue : EvaluationQueue Revision)
    (enough : queue.pending.length ≤ turns) :
    (bindLoop turns queue).free = 0 ∨ (bindLoop turns queue).pending = [] := by
  induction turns generalizing queue with
  | zero => exact .inr (length_eq_zero_iff.mp (Nat.le_zero.mp enough))
  | succ turns ih =>
    unfold EvaluationQueue.bindLoop
    split_ifs with free
    · exact .inl free
    split
    · rename_i none
      refine .inr (eq_nil_iff_forall_not_mem.mpr fun entry mem => ?_)
      rw [← mem_inOrder, none] at mem
      cases mem
    · rename_i chosen rest ordered
      refine ih _ ?_
      have mem : chosen ∈ queue.pending := by
        rw [← mem_inOrder, ordered]
        exact mem_cons_self
      rw [bindChosen, length_erase_of_mem mem]
      omega

theorem Sound.forget (sound : queue.Sound) (key : String) : (queue.forget key).Sound := by
  have leaving : ((queue.pending.filter (·.submission.key = key)).map Fact.forgotten).filterMap
      Fact.leaving = queue.pending.filter (·.submission.key = key) := by
    rw [filterMap_map]
    exact filterMap_some
  refine sound.leave ((queue.pending.filter (·.submission.key = key)).map .forgotten) ?_ rfl ?_ rfl
    rfl (length_erase_le) ?_ ?_
  · rw [leaving]
    have parts := filter_append_perm (·.submission.key = key) queue.pending
    simpa [EvaluationQueue.forget] using parts.symm
  · intro fact mem
    obtain ⟨entry, -, rfl⟩ := mem_map.mp mem
    exact ⟨rfl, fun _ => rfl⟩
  · intro other
    rw [leaving]
    by_cases same : other = key
    · subst same
      have zero : (queue.forget other).overtaken other = 0 := Function.update_self _ _ _
      rw [zero]
      split_ifs with named
      · rfl
      · -- Nothing waits under the key, so it was not counted either.
        refine (sound.uncounted other fun listed => named ?_).symm
        obtain ⟨entry, mem, own⟩ := mem_map.mp listed
        exact mem_map.mpr ⟨entry, mem_filter.mpr ⟨mem, decide_eq_true own⟩, own⟩
    · rw [if_neg]
      · exact Function.update_of_ne same _ _
      · intro listed
        obtain ⟨entry, mem, own⟩ := mem_map.mp listed
        exact same (own.symm.trans (of_decide_eq_true (mem_filter.mp mem).2))
  · rw [show (queue.forget key).journal = queue.journal ++ _ from rfl, filterMap_append]
    refine List.Sublist.trans ?_ (sublist_append_left _ _)
    exact (filter_sublist.append_left _).trans sound.delivered

def BuiltOn (journal : List (Fact Revision)) (newer older : Revision) : Prop :=
  ∃ entry, Fact.submitted entry ∈ journal ∧ entry.submission.kind = .implement ∧
    entry.submission.candidate = newer ∧ entry.submission.parent = older

/-- A later implementation of the same line. -/
structure Supersedes (journal : List (Fact Revision)) (newer older : Queued Revision) : Prop where
  later : older.order < newer.order
  implements : newer.submission.kind = .implement
  line : older.submission.workId = newer.submission.workId ∨
    Relation.TransGen (BuiltOn journal) newer.submission.candidate older.submission.candidate

/-- Every superseded entry has a later one of its line. -/
structure Justified (queue : EvaluationQueue Revision) : Prop where
  lines : ∀ pair ∈ queue.builtOn, BuiltOn queue.journal pair.1 pair.2
  drops : ∀ entry cause, .dropped entry cause ∈ queue.journal → cause.reason = .superseded →
    ∃ newer ∈ queue.submitted, cause.by_ = some newer.submission.workId ∧
      Supersedes queue.journal newer entry

omit [DecidableEq Revision] in
theorem BuiltOn.append {journal : List (Fact Revision)} {newer older : Revision}
    (built : BuiltOn journal newer older) (facts : List (Fact Revision)) :
    BuiltOn (journal ++ facts) newer older := by
  obtain ⟨entry, listed, rest⟩ := built
  exact ⟨entry, mem_append_left _ listed, rest⟩

omit [DecidableEq Revision] in
theorem Supersedes.append {journal : List (Fact Revision)} {newer older : Queued Revision}
    (known : Supersedes journal newer older) (facts : List (Fact Revision)) :
    Supersedes (journal ++ facts) newer older where
  later := known.later
  implements := known.implements
  line := known.line.imp_right fun built =>
    Relation.TransGen.mono (fun _ _ step => BuiltOn.append step facts) _ _ built

private theorem reaches_of_mem_ancestorsFrom (queue : EvaluationQueue Revision) {turns : Nat}
    {found : List Revision} {current revision : Revision}
    (mem : revision ∈ queue.ancestorsFrom turns found current) :
    revision ∈ found ∨
      Relation.ReflTransGen (fun newer older => (newer, older) ∈ queue.builtOn) current revision := by
  induction turns generalizing found current with
  | zero => exact .inl mem
  | succ turns ih =>
    unfold ancestorsFrom at mem
    split_ifs at mem
    · exact .inl mem
    have visited : revision ∈ current :: found → revision ∈ found ∨ Relation.ReflTransGen
        (fun newer older => (newer, older) ∈ queue.builtOn) current revision := by
      intro listed
      rcases mem_cons.mp listed with rfl | listed
      · exact .inr .refl
      · exact .inl listed
    split at mem
    · exact visited mem
    rename_i parent recorded
    obtain ⟨⟨newer, _⟩, listed, rfl⟩ := Option.map_eq_some_iff.mp recorded
    have named : newer = current := by simpa using find?_some listed
    rcases ih mem with early | reached
    · exact visited early
    · exact .inr (.head (named ▸ mem_of_find?_eq_some listed) reached)

omit [DecidableEq Revision] in
theorem Justified.extend (known : queue.Justified) {facts : List (Fact Revision)}
    (journal : next.journal = queue.journal ++ facts) (lines : next.builtOn = queue.builtOn)
    (others : ∀ entry cause, .dropped entry cause ∈ facts → cause.reason ≠ .superseded) :
    next.Justified where
  lines pair mem := journal ▸ (known.lines pair (lines ▸ mem)).append facts
  drops entry cause listed superseded := by
    rw [journal] at listed
    rcases mem_append.mp listed with old | new
    · obtain ⟨newer, mem, named, over_⟩ := known.drops entry cause old superseded
      refine ⟨newer, ?_, named, journal ▸ over_.append facts⟩
      rw [submitted, journal, filterMap_append]
      exact mem_append_left _ mem
    · exact absurd superseded (others entry cause new)

private theorem submit_eq (queue : EvaluationQueue Revision) (submission : Submission Revision) :
    ∃ (recorded : EvaluationQueue Revision) (doomed : List (Queued Revision)),
      queue.submit submission =
        (recorded.dropAll ⟨.superseded, some submission.workId⟩ doomed).enter
          ⟨submission, queue.received + 1⟩ ∧
      recorded = { queue with received := queue.received + 1, builtOn := recorded.builtOn } ∧
      doomed.Sublist queue.pending ∧
      (∀ pair ∈ recorded.builtOn, pair ∈ queue.builtOn ∨
        submission.kind = .implement ∧ pair = (submission.candidate, submission.parent)) ∧
      ∀ older ∈ doomed, submission.kind = .implement ∧
        (older.submission.workId = submission.workId ∨
          older.submission.candidate ∈ recorded.ancestors submission.parent) := by
  unfold submit
  split_ifs with continues
  · simp only [Bool.and_eq_true, decide_eq_true_eq] at continues
    refine ⟨_, _, rfl, rfl, filter_sublist, fun pair mem => ?_, fun older mem => ?_⟩
    · rcases mem_cons.mp mem with rfl | old
      · exact .inr ⟨continues.1, rfl⟩
      · exact .inl (mem_of_mem_filter old)
    · have passed := (mem_filter.mp mem).2
      simp only [supersedes, Bool.and_eq_true, Bool.or_eq_true, decide_eq_true_eq] at passed
      exact ⟨continues.1, passed.2⟩
  · exact ⟨{ queue with received := queue.received + 1 }, [], rfl, rfl, nil_sublist _,
      fun pair mem => .inl mem, by simp⟩

theorem Sound.submit (sound : queue.Sound) {submission : Submission Revision}
    (fresh : submission.key ∉ queue.submitted.map (·.submission.key)) :
    (queue.submit submission).Sound := by
  obtain ⟨recorded, doomed, done, same, waiting, -, -⟩ := submit_eq queue submission
  have counted : recorded.Sound := by
    rw [same]
    exact ⟨sound.within, sound.fates, sound.keys,
      fun entry mem => (sound.numbered entry mem).trans (Nat.le_succ _), sound.counted,
      sound.uncounted, sound.patient, sound.delivered⟩
  have listed : (recorded.dropAll ⟨.superseded, some submission.workId⟩ doomed).submitted =
      queue.submitted := by
    rw [dropAll_eq, same]
    simp [submitted, Fact.entering, Function.comp_def]
  rw [done]
  refine (counted.dropAll _ (by rw [same]; exact waiting)).enter ?_ ?_ ?_
  · rwa [listed]
  · rw [listed]
    exact fun other mem => Nat.lt_succ_of_le (sound.numbered other mem)
  · rw [dropAll_eq, same]

theorem Justified.submit (known : queue.Justified) (sound : queue.Sound)
    (submission : Submission Revision) : (queue.submit submission).Justified := by
  obtain ⟨recorded, doomed, done, same, waiting, lines, superseded⟩ := submit_eq queue submission
  generalize entered : (⟨submission, queue.received + 1⟩ : Queued Revision) = entry at done
  have journal : (queue.submit submission).journal = queue.journal ++
      (doomed.map (.dropped · ⟨.superseded, some submission.workId⟩) ++ [.submitted entry]) := by
    rw [done, dropAll_eq, same]
    simp [enter]
  have built : (queue.submit submission).builtOn = recorded.builtOn := by
    rw [done, dropAll_eq]
    rfl
  have last : .submitted entry ∈ (queue.submit submission).journal := by simp [journal]
  have recordedLines : ∀ pair ∈ recorded.builtOn,
      BuiltOn (queue.submit submission).journal pair.1 pair.2 := by
    intro pair mem
    rcases lines pair mem with old | ⟨implements, rfl⟩
    · exact journal ▸ (known.lines pair old).append _
    · subst entered
      exact ⟨_, last, implements, rfl, rfl⟩
  refine ⟨built ▸ recordedLines, fun older cause listed dropped => ?_⟩
  rw [journal] at listed
  rcases mem_append.mp listed with old | new
  · obtain ⟨newer, mem, named, over_⟩ := known.drops older cause old dropped
    refine ⟨newer, ?_, named, journal ▸ over_.append _⟩
    rw [submitted, journal, filterMap_append]
    exact mem_append_left _ mem
  · have gone : older ∈ doomed ∧ cause = ⟨.superseded, some submission.workId⟩ := by
      simpa [eq_comm] using new
    obtain ⟨gone, rfl⟩ := gone
    subst entered
    obtain ⟨implements, line⟩ := superseded older gone
    have numbered := sound.numbered older (sound.fates.mem_iff.mpr
      (mem_append_left _ (waiting.subset gone)))
    refine ⟨_, mem_filterMap.mpr ⟨_, last, rfl⟩, rfl, Nat.lt_succ_of_le numbered, implements, ?_⟩
    refine line.imp_right fun ancestor => ?_
    -- The candidate was built on its parent, and that one on the older candidate.
    rcases reaches_of_mem_ancestorsFrom recorded ancestor with none | reached
    · cases none
    · refine .head' ⟨_, last, implements, rfl, rfl⟩ ?_
      exact Relation.ReflTransGen.mono (fun _ _ step => recordedLines _ step) _ _ reached

/-! ## Whole runs -/

def Operation.submits : Operation Revision → Option String
  | .submit submission => some submission.key
  | _ => none

structure Quiet (queue next : EvaluationQueue Revision) : Prop where
  slots : next.slots = queue.slots
  lines : next.builtOn = queue.builtOn
  journal : ∃ facts, next.journal = queue.journal ++ facts ∧ ∀ fact ∈ facts,
    fact.entering = none ∧ ∀ entry cause, fact = .dropped entry cause → cause.reason ≠ .superseded

omit [DecidableEq Revision] in
theorem Quiet.same (slots : next.slots = queue.slots) (lines : next.builtOn = queue.builtOn)
    (journal : next.journal = queue.journal) : Quiet queue next :=
  ⟨slots, lines, [], by simp [journal], by simp⟩

omit [DecidableEq Revision] in
theorem Quiet.trans {last : EvaluationQueue Revision} (first : Quiet queue next)
    (second : Quiet next last) : Quiet queue last := by
  obtain ⟨facts, journal, quiet⟩ := first.journal
  obtain ⟨more, rest, also⟩ := second.journal
  refine ⟨second.slots.trans first.slots, second.lines.trans first.lines, facts ++ more, ?_, ?_⟩
  · rw [rest, journal, append_assoc]
  · exact fun fact mem => (mem_append.mp mem).elim (quiet fact) (also fact)

private theorem bindLoop_quiet (turns : Nat) (queue : EvaluationQueue Revision) :
    Quiet queue (bindLoop turns queue) := by
  induction turns generalizing queue with
  | zero => exact .same rfl rfl rfl
  | succ turns ih =>
    unfold bindLoop
    split_ifs
    · exact .same rfl rfl rfl
    split
    · exact .same rfl rfl rfl
    · rename_i chosen rest ordered
      have step : Quiet queue (queue.bindChosen chosen) :=
        ⟨rfl, rfl, [.bound chosen], rfl, by simp [Fact.entering]⟩
      exact step.trans (ih _)

private theorem apply_quiet (queue : EvaluationQueue Revision) (silent : operation.submits = none) :
    Quiet queue (queue.apply operation) := by
  cases operation with
  | submit submission => cases silent
  | rank order => exact .same rfl rfl rfl
  | bind => exact bindLoop_quiet _ queue
  | release key => exact .same rfl rfl rfl
  | forget key =>
    refine ⟨rfl, rfl, _, rfl, fun fact mem => ?_⟩
    obtain ⟨entry, -, rfl⟩ := mem_map.mp mem
    exact ⟨rfl, by simp⟩
  | stop =>
    rw [apply, stop, dropAll_eq]
    exact ⟨rfl, rfl, _, rfl, by simp [Fact.entering]⟩
  | handOver | resume => exact .same rfl rfl rfl

theorem Sound.apply (sound : queue.Sound)
    (fresh : ∀ key ∈ operation.submits, key ∉ queue.submitted.map (·.submission.key)) :
    (queue.apply operation).Sound := by
  cases operation with
  | submit submission => exact sound.submit (fresh _ rfl)
  | rank order => exact { sound with }
  | bind => exact sound.bindLoop _
  | release key => exact { sound with within := length_erase_le.trans sound.within }
  | forget key => exact sound.forget key
  | stop => exact sound.dropAll _ (List.Sublist.refl _)
  | handOver =>
    have delivered := sound.delivered
    exact { sound with delivered := by simpa [EvaluationQueue.apply, handOver] using delivered }
  | resume =>
    have delivered := (sublist_append_left _ _).trans sound.delivered
    exact { sound with delivered := by simpa [EvaluationQueue.apply, resumed] using delivered }

private theorem submitted_apply (queue : EvaluationQueue Revision)
    (operation : Operation Revision) :
    (queue.apply operation).submitted.map (·.submission.key) =
      queue.submitted.map (·.submission.key) ++ operation.submits.toList := by
  cases silent : operation.submits with
  | none =>
    obtain ⟨facts, journal, quiet⟩ := (apply_quiet queue silent).journal
    have none : facts.filterMap Fact.entering = [] :=
      filterMap_eq_nil_iff.mpr fun fact mem => (quiet fact mem).1
    simp [submitted, journal, none]
  | some key =>
    cases operation with
    | submit submission =>
      obtain ⟨recorded, doomed, done, same, -, -, -⟩ := submit_eq queue submission
      cases silent
      rw [apply, done, dropAll_eq, same]
      simp [submitted, enter, Fact.entering, Function.comp_def]
    | _ => cases silent

/-- What an operation leaves of the slots taken and of the verdicts not yet handed over. -/
def Operation.leaves (holding : List String) : Operation Revision → List String
  | .release key | .forget key => holding.erase key
  | _ => holding

def Operation.retains (undelivered : List (String × SlotVerdict)) :
    Operation Revision → List (String × SlotVerdict)
  | .forget key => undelivered.filter (·.1 ≠ key)
  | .handOver | .resume => []
  | _ => undelivered

/-- Every new fact of the journal is told: a bound one by its slot and its verdict, a dropped one by
its verdict and among the dropped. -/
structure Tells (facts : List (Fact Revision)) (holding : List String)
    (undelivered : List (String × SlotVerdict)) (queue next : EvaluationQueue Revision) : Prop where
  journal : next.journal = queue.journal ++ facts
  holding : next.holding = holding ++ facts.filterMap Fact.seated
  undelivered : next.undelivered = undelivered ++ facts.filterMap Fact.verdict
  dropped : next.dropped = queue.dropped ++ facts.filterMap Fact.discarded

omit [DecidableEq Revision] in
theorem Tells.trans {last : EvaluationQueue Revision} {early later : List (Fact Revision)}
    {holding : List String} {undelivered : List (String × SlotVerdict)}
    (first : Tells early holding undelivered queue next)
    (second : Tells later next.holding next.undelivered next last) :
    Tells (early ++ later) holding undelivered queue last where
  journal := by rw [second.journal, first.journal, append_assoc]
  holding := by rw [second.holding, first.holding, filterMap_append, append_assoc]
  undelivered := by rw [second.undelivered, first.undelivered, filterMap_append, append_assoc]
  dropped := by rw [second.dropped, first.dropped, filterMap_append, append_assoc]

private theorem dropAll_tells (queue : EvaluationQueue Revision) (dropped : Dropped)
    (entries : List (Queued Revision)) :
    Tells (entries.map (.dropped · dropped)) queue.holding queue.undelivered queue
      (queue.dropAll dropped entries) := by
  rw [dropAll_eq]
  refine ⟨rfl, ?_, ?_, ?_⟩ <;>
    simp [Fact.seated, Fact.verdict, Fact.discarded, Function.comp_def]

private theorem bindLoop_tells (turns : Nat) (queue : EvaluationQueue Revision) :
    ∃ facts, Tells facts queue.holding queue.undelivered queue (bindLoop turns queue) := by
  have idle : ∃ facts, Tells facts queue.holding queue.undelivered queue queue :=
    ⟨[], by constructor <;> simp⟩
  induction turns generalizing queue with
  | zero => exact idle
  | succ turns ih =>
    unfold bindLoop
    split_ifs
    · exact idle
    split
    · exact idle
    · rename_i chosen rest ordered
      have step : Tells [.bound chosen] queue.holding queue.undelivered queue
          (queue.bindChosen chosen) := ⟨rfl, rfl, rfl, by simp [bindChosen, Fact.discarded]⟩
      obtain ⟨facts, rest⟩ := ih (queue.bindChosen chosen) ⟨[], by constructor <;> simp⟩
      exact ⟨_, step.trans rest⟩

private theorem apply_tells (queue : EvaluationQueue Revision) (operation : Operation Revision) :
    ∃ facts, Tells facts (operation.leaves queue.holding) (operation.retains queue.undelivered)
      queue (queue.apply operation) := by
  cases operation with
  | submit submission =>
    obtain ⟨recorded, doomed, done, same, -, -, -⟩ := submit_eq queue submission
    obtain ⟨journal, holding, undelivered, drops⟩ : recorded.journal = queue.journal ∧
        recorded.holding = queue.holding ∧ recorded.undelivered = queue.undelivered ∧
        recorded.dropped = queue.dropped := by
      rw [same]
      exact ⟨rfl, rfl, rfl, rfl⟩
    have superseded := dropAll_tells recorded ⟨.superseded, some submission.workId⟩ doomed
    have first : Tells _ queue.holding queue.undelivered queue _ :=
      ⟨journal ▸ superseded.journal, holding ▸ superseded.holding,
        undelivered ▸ superseded.undelivered, drops ▸ superseded.dropped⟩
    have last : ∀ (queue : EvaluationQueue Revision) entry,
        Tells [.submitted entry] queue.holding queue.undelivered queue (queue.enter entry) := by
      intro queue entry
      constructor <;> simp [enter, Fact.seated, Fact.verdict, Fact.discarded]
    rw [apply, done]
    exact ⟨_, first.trans (last _ _)⟩
  | bind => exact bindLoop_tells _ queue
  | stop => exact ⟨_, dropAll_tells queue _ _⟩
  | forget key =>
    refine ⟨(queue.pending.filter (·.submission.key = key)).map .forgotten, rfl, ?_, ?_, ?_⟩ <;>
      simp [apply, forget, release, Operation.leaves, Operation.retains, Fact.seated, Fact.verdict,
        Fact.discarded, Function.comp_def]
  | rank | release | handOver | resume =>
    refine ⟨[], ?_⟩
    constructor <;> simp [apply, rank, release, handOver, resumed, Operation.leaves,
      Operation.retains]

structure Fair (slots : Nat) (queue : EvaluationQueue Revision) : Prop where
  same : queue.slots = slots
  sound : queue.Sound
  justified : queue.Justified

private theorem start_fair (policy : PickPolicy) {holding : List String}
    (few : holding.length ≤ slots) :
    Fair slots ({ slots, policy, holding } : EvaluationQueue Revision) where
  same := rfl
  sound := by constructor <;> simp [submitted, departed, few]
  justified := by constructor <;> simp

theorem Fair.apply (fair : Fair slots queue)
    (fresh : ∀ key ∈ operation.submits, key ∉ queue.submitted.map (·.submission.key)) :
    Fair slots (queue.apply operation) := by
  cases silent : operation.submits with
  | none =>
    have quiet := apply_quiet queue silent
    obtain ⟨facts, journal, others⟩ := quiet.journal
    exact ⟨quiet.slots.trans fair.same, fair.sound.apply fresh,
      fair.justified.extend journal quiet.lines fun entry cause mem =>
        (others _ mem).2 entry cause rfl⟩
  | some key =>
    cases operation with
    | submit submission =>
      obtain ⟨recorded, doomed, done, same, -, -, -⟩ := submit_eq queue submission
      refine ⟨?_, fair.sound.apply fresh, fair.justified.submit fair.sound submission⟩
      rw [EvaluationQueue.apply, done, dropAll_eq, same]
      exact fair.same
    | _ => cases silent

private theorem run_fair (positive : 0 < slots) (policy : PickPolicy) (input : Option String)
    {operations : List (Operation Revision)}
    (once : (operations.filterMap Operation.submits).Nodup) :
    Fair slots (run slots policy input operations) ∧
      (run slots policy input operations).submitted.map (·.submission.key) =
        operations.filterMap Operation.submits := by
  induction operations using List.reverseRecOn with
  | nil =>
    cases input with
    | none => exact ⟨start_fair policy (Nat.zero_le _), rfl⟩
    | some key =>
      have few : [key].length ≤ slots := positive
      exact ⟨start_fair policy few, rfl⟩
  | append_singleton operations operation ih =>
    rw [filterMap_append, nodup_append] at once
    obtain ⟨fair, listed⟩ := ih once.1
    have step : run slots policy input (operations ++ [operation]) =
        (run slots policy input operations).apply operation := by
      rw [run, foldl_append]
      rfl
    rw [step, submitted_apply, listed, filterMap_append]
    refine ⟨fair.apply fun key submits named => ?_, ?_⟩
    · rw [listed] at named
      refine once.2.2 key named key ?_ rfl
      exact mem_filterMap.mpr ⟨operation, mem_singleton_self _, submits⟩
    · cases submits : operation.submits <;> simp [submits]

end EvaluationQueue

open EvaluationQueue in
/-- Slots are never exceeded nor idle while a submission waits; each gets one verdict and sees at
most as many later ones bound as slots. -/
theorem evaluation_queue_is_fair {Revision : Type} [DecidableEq Revision] (slots : Nat)
    (positive : 0 < slots) (policy : PickPolicy) (input : Option String)
    (operations : List (EvaluationQueue.Operation Revision))
    (once : (operations.filterMap Operation.submits).Nodup) :
    let queue := run slots policy input operations
    queue.holding.length ≤ slots ∧
    (queue.bind.free = 0 ∨ queue.bind.pending = []) ∧
    queue.submitted.map (·.submission.key) = operations.filterMap Operation.submits ∧
    queue.submitted.Perm (queue.pending ++ queue.departed) ∧
    ((queue.pending ++ queue.departed).map (·.submission.key)).Nodup ∧
    ((queue.handed ++ queue.undelivered).map Prod.fst).Nodup ∧
    (∀ entry cause, .dropped entry cause ∈ queue.journal → cause.reason = .superseded →
      ∃ newer ∈ queue.submitted, cause.by_ = some newer.submission.workId ∧
        Supersedes queue.journal newer entry) ∧
    (∀ entry ∈ queue.submitted, overtakes queue.journal entry ≤ slots) ∧
    ∀ operation, ∃ facts, Tells facts (operation.leaves queue.holding)
      (operation.retains queue.undelivered) queue (queue.apply operation) := by
  intro queue
  obtain ⟨⟨same, sound, justified⟩, listed⟩ := run_fair positive policy input once
  refine ⟨same ▸ sound.within, bindLoop_full _ queue le_rfl, listed, sound.fates, sound.distinct,
    ?_, justified.drops, same ▸ sound.patient, apply_tells queue⟩
  have departures := sound.distinct
  rw [map_append] at departures
  exact departures.of_append_right.sublist
    ((sound.delivered.map _).trans (Fact.verdicts_sublist queue.journal))

/-- The newest candidate is bound first, and the one it overtook next, before a still newer one. -/
theorem overtaken_candidate_is_due :
    let queue := EvaluationQueue.run 1 .newest none
      [.submit ⟨"a", "first", .implement, 1, 0⟩, .submit ⟨"b", "second", .implement, 2, 0⟩, .bind,
        .release "b", .submit ⟨"c", "third", .implement, 3, 0⟩, .bind]
    queue.holding = ["a"] ∧ queue.holding.length ≤ 1 := by
  intro queue
  exact ⟨by decide, (evaluation_queue_is_fair 1 (by decide) .newest none _ (by decide)).1⟩

end VibeServeCore.Search
