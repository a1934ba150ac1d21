/- source: _values.py (`emit_fragment`, `_Fragments`, `encode_json`)
   digest: What a walk emits, and that the spliced text is the plain text. -/

import VibeServeCore.Values.Templates

namespace VibeServeCore.Values

open Foundation.Json Values.Json List Foundation.Process

def emittedTexts (memo : Memo) : Parts → List Text
  | .done => []
  | .raw _ rest | .string _ rest => emittedTexts memo rest
  | .frozen model body rest =>
    match memo model.identity with
    | some _ => body.plain :: emittedTexts memo rest
    | none =>
      if model.independent then emittedTexts memo body ++ body.plain :: emittedTexts memo rest
      else emittedTexts memo body ++ emittedTexts memo rest

/-- The tokens that strings of a tree spell: of the values resolved in order, then those outside. -/
def spelledIn (memo : Memo) : Parts → List Text × List Text
  | .done => ([], [])
  | .raw _ rest => spelledIn memo rest
  | .string text rest =>
    ((spelledIn memo rest).1, (spells text).toList ++ (spelledIn memo rest).2)
  | .frozen model body rest =>
    match memo model.identity with
    | some _ => spelledIn memo rest
    | none =>
      if model.independent then
        ((spelledIn memo body).1 ++ (spelledIn memo body).2 ++ (spelledIn memo rest).1,
          (spelledIn memo rest).2)
      else
        ((spelledIn memo body).1 ++ (spelledIn memo rest).1,
          (spelledIn memo body).2 ++ (spelledIn memo rest).2)

def spelled (memo : Memo) (parts : Parts) : List Text :=
  (spelledIn memo parts).1 ++ (spelledIn memo parts).2

def Parts.Places (truth : Nat → Text) : Parts → Prop
  | .done => True
  | .raw _ rest | .string _ rest => rest.Places truth
  | .frozen model body rest =>
    body.plain = truth model.identity ∧ body.Places truth ∧ rest.Places truth

/-- The memo only holds true texts. -/
def Remembers (truth : Nat → Text) (memo : Memo) : Prop :=
  ∀ identity text, memo identity = some text → text = truth identity

structure Emission (truth : Nat → Text) (base : Nat) (plain : Text) (values done own : List Text)
    (data : List Written) (texts : List Text) (pending : List Pending) : Prop where
  size : texts.length = values.length
  counted : (pending.flatMap fun entry => made entry.data).length + (made data).length =
    values.length
  resolved : (pending.flatMap fun entry => spelledBy entry.data) = done
  outer : spelledBy data = own
  below : ∀ index ∈ made data, index < base + values.length
  ordered : pending.Pairwise fun first second => first.index < second.index
  within : ∀ entry ∈ pending, base ≤ entry.index ∧ entry.index < base + values.length
  children : ∀ entry ∈ pending, ∀ index ∈ made entry.data, index < entry.index
  known : ∀ offset, (∀ entry ∈ pending, entry.index ≠ base + offset) →
    texts[offset]? = values[offset]?
  filled : ∀ right : Nat → Text,
    (∀ offset text, values[offset]? = some text → right (base + offset) = text) →
      fill right data = plain ∧ ∀ entry ∈ pending,
        fill right entry.data = truth entry.model.identity ∧
          right entry.index = truth entry.model.identity

namespace Emission

variable {truth : Nat → Text} {base : Nat} {plain other : Text}
  {values done own values' done' own' : List Text} {data data' : List Written}
  {texts texts' : List Text} {pending pending' : List Pending}

private theorem nil : Emission truth base [] [] [] [] [] [] [] := by
  constructor <;> simp [made, spelledBy, fill]

private theorem raw (bare : Raw) : Emission truth base bare.text [] [] [] [.raw bare] [] [] := by
  constructor <;> simp [made, spelledBy, fill, Written.text]

private theorem string (text : Text) :
    Emission truth base (literal text) [] [] (spells text).toList [.string text] [] [] := by
  constructor <;> simp [made, spelledBy, fill, Written.text]

private theorem token (text : Text) : Emission truth base text [text] [] [] [.token base] [text]
    [] := by
  constructor
  case filled =>
    intro right agrees
    have here : right base = text := agrees 0 text rfl
    simp [fill, here]
  all_goals simp [made, spelledBy]

private theorem wrap (inner : Emission truth base plain values done own data texts pending)
    (model : Frozen) (placed : plain = truth model.identity) :
    Emission truth base plain (values ++ [plain]) (done ++ own) []
      [.token (base + values.length)] (texts ++ [[]])
      (pending ++ [⟨base + values.length, model, data⟩]) where
  size := by simp [inner.size]
  counted := by
    have := inner.counted
    simp [made] at this ⊢
    omega
  resolved := by simp [inner.resolved, inner.outer]
  outer := rfl
  below := by simp [made]
  ordered := by
    refine pairwise_append.mpr ⟨inner.ordered, by simp, ?_⟩
    intro entry mem last same
    cases mem_singleton.mp same
    exact (inner.within entry mem).2
  within := by
    intro entry mem
    rw [length_append, length_singleton]
    rcases mem_append.mp mem with earlier | last
    · have := inner.within entry earlier
      omega
    · cases mem_singleton.mp last
      dsimp only
      omega
  children := by
    intro entry mem
    rcases mem_append.mp mem with earlier | last
    · exact inner.children entry earlier
    · cases mem_singleton.mp last
      exact inner.below
  known := by
    intro offset unlisted
    have earlier := inner.known offset fun entry mem =>
      unlisted entry (mem_append_left _ mem)
    have apart : offset ≠ values.length := by
      rintro rfl
      exact unlisted ⟨base + values.length, model, data⟩ (by simp) rfl
    by_cases below : offset < values.length
    · rw [getElem?_append_left below, getElem?_append_left (inner.size ▸ below), earlier]
    · have := inner.size
      rw [getElem?_eq_none (by simp; omega), getElem?_eq_none (by simp; omega)]
  filled := by
    intro right agrees
    have last : right (base + values.length) = plain := agrees values.length plain (by simp)
    obtain ⟨body, listed⟩ := inner.filled right fun offset text found =>
      agrees offset text ((getElem?_append_left (List.getElem?_eq_some_iff.mp found).1).trans
        found)
    refine ⟨by simp [fill, last], ?_⟩
    intro entry mem
    rcases mem_append.mp mem with earlier | new
    · exact listed entry earlier
    · cases mem_singleton.mp new
      exact ⟨body.trans placed, last.trans placed⟩

private theorem append (first : Emission truth base plain values done own data texts pending)
    (second : Emission truth (base + values.length) other values' done' own' data' texts'
      pending') :
    Emission truth base (plain ++ other) (values ++ values') (done ++ done') (own ++ own')
      (data ++ data') (texts ++ texts') (pending ++ pending') where
  size := by simp [first.size, second.size]
  counted := by
    have := first.counted
    have := second.counted
    simp only [flatMap_append, length_append, made_append]
    omega
  resolved := by simp [first.resolved, second.resolved]
  outer := by simp [first.outer, second.outer]
  below := by
    intro index mem
    rw [length_append]
    rcases mem_append.mp (made_append ▸ mem) with left | right
    · have := first.below index left
      omega
    · have := second.below index right
      omega
  ordered := by
    refine pairwise_append.mpr ⟨first.ordered, second.ordered, ?_⟩
    intro earlier left later right
    exact (first.within earlier left).2.trans_le (second.within later right).1
  within := by
    intro entry mem
    rw [length_append]
    rcases mem_append.mp mem with left | right
    · have := first.within entry left
      omega
    · have := second.within entry right
      omega
  children := by
    intro entry mem
    rcases mem_append.mp mem with left | right
    · exact first.children entry left
    · exact second.children entry right
  known := by
    intro offset unlisted
    have size := first.size
    by_cases below : offset < values.length
    · rw [getElem?_append_left below, getElem?_append_left (size ▸ below)]
      exact first.known offset fun entry mem => unlisted entry (mem_append_left _ mem)
    · rw [getElem?_append_right (by omega), getElem?_append_right (by omega), size]
      refine second.known (offset - values.length) fun entry mem => ?_
      have := unlisted entry (mem_append_right _ mem)
      omega
  filled := by
    intro right agrees
    obtain ⟨left, listed⟩ := first.filled right fun offset text found =>
      agrees offset text ((getElem?_append_left (List.getElem?_eq_some_iff.mp found).1).trans
        found)
    obtain ⟨after, listed'⟩ := second.filled right fun offset text found => by
      have there : (values ++ values')[values.length + offset]? = some text := by
        rw [getElem?_append_right (by omega), Nat.add_sub_cancel_left]
        exact found
      rw [Nat.add_assoc]
      exact agrees _ text there
    refine ⟨by rw [fill_append, left, after], ?_⟩
    intro entry mem
    rcases mem_append.mp mem with left | right
    · exact listed entry left
    · exact listed' entry right

end Emission

section
variable {truth : Nat → Text} {memo : Memo}

private theorem emitFragments_emission (remembers : Remembers truth memo) (parts : Parts)
    (placed : parts.Places truth) (fragments : Fragments) :
    ∃ texts pending,
      (emitFragments memo parts fragments).2 =
          ⟨fragments.texts ++ texts, fragments.pending ++ pending⟩ ∧
        Emission truth fragments.texts.length parts.plain (emittedTexts memo parts)
          (spelledIn memo parts).1 (spelledIn memo parts).2 (emitFragments memo parts fragments).1
          texts pending := by
  induction parts generalizing fragments with
  | done => exact ⟨[], [], by simp [emitFragments], .nil⟩
  | raw bare rest ih =>
    obtain ⟨texts, pending, after, emission⟩ := ih placed fragments
    exact ⟨texts, pending, after, (Emission.raw bare).append emission⟩
  | string text rest ih =>
    obtain ⟨texts, pending, after, emission⟩ := ih placed fragments
    exact ⟨texts, pending, after, (Emission.string text).append emission⟩
  | frozen model body rest inner outer =>
    obtain ⟨here, below, later⟩ := placed
    unfold emitFragments emittedTexts spelledIn
    cases known : memo model.identity with
    | some text =>
      have same : text = body.plain := (remembers _ _ known).trans here.symm
      obtain ⟨texts, pending, after, emission⟩ := outer later (fragments.emitKnown text)
      have grown : (emitFragments memo rest (fragments.emitKnown text)).2 =
          ⟨fragments.texts ++ ([text] ++ texts), fragments.pending ++ pending⟩ := by
        rw [after, ← append_assoc]
        rfl
      refine ⟨[text] ++ texts, pending, grown, ?_⟩
      rw [same] at emission ⊢
      simp only [Fragments.emitKnown, length_append] at emission
      exact (Emission.token body.plain).append emission
    | none =>
      obtain ⟨first, waiting, emitted, emission⟩ := inner below fragments
      have length : (emitFragments memo body fragments).2.texts.length =
          fragments.texts.length + (emittedTexts memo body).length := by
        rw [emitted, length_append, emission.size]
      by_cases independent : model.independent
      · simp only [if_pos independent]
        obtain ⟨texts, pending, after, rests⟩ := outer later
          ((emitFragments memo body fragments).2.emitNew model
            (emitFragments memo body fragments).1)
        refine ⟨first ++ [[]] ++ texts, waiting ++
          [⟨fragments.texts.length + (emittedTexts memo body).length, model,
            (emitFragments memo body fragments).1⟩] ++ pending, ?_, ?_⟩
        · rw [after]
          simp only [Fragments.emitNew, length]
          simp only [emitted, append_assoc]
        · have wrapped := emission.wrap model here
          simp only [Fragments.emitNew, length_append, length_singleton, length,
            Nat.add_assoc] at rests
          have both := wrapped.append (by simpa [Nat.add_assoc] using rests)
          simpa [length, Fragments.emitNew, Parts.plain] using both
      · simp only [if_neg independent]
        obtain ⟨texts, pending, after, rests⟩ := outer later (emitFragments memo body fragments).2
        refine ⟨first ++ texts, waiting ++ pending, ?_, ?_⟩
        · rw [after]
          simp only [emitted, append_assoc]
        · rw [length] at rests
          exact emission.append rests

end

section
variable {right : Nat → Text} {size : Nat} {texts : List Text}

private theorem splice_append {first second : List Piece} {left after : Text} {used more : Nat}
    (before : splice texts first = .ok (left, used)) (later : splice texts second = .ok (after, more)) :
    splice texts (first ++ second) = .ok (left ++ after, used + more) := by
  induction first generalizing left used with
  | nil =>
    cases before
    rw [Nat.zero_add]
    exact later
  | cons piece first ih =>
    cases piece with
    | char char =>
      obtain ⟨⟨text, count⟩, ran, same⟩ := map_ok before
      cases same
      simp [splice, ih ran, Except.map]
    | token digits =>
      obtain ⟨text, read, continued⟩ := bind_ok before
      obtain ⟨⟨rest, count⟩, ran, same⟩ := map_ok continued
      cases same
      simp only [cons_append, splice, read, ih ran, Except.map, bind, Except.bind,
        append_assoc, Nat.add_right_comm]

private theorem splice_chars (text : Text) : splice texts (text.map .char) = .ok (text, 0) := by
  induction text with
  | nil => rfl
  | cons char text ih => simp [splice, ih, Except.map]

private theorem expand_fill {data : List Written} (few : texts.length ≤ 10 ^ maxStrDigits)
    (unspelled : spelledBy data = []) (known : ∀ index ∈ made data, texts[index]? = some (right index)) :
    ∃ used, expand texts (dumpJson data) = .ok (fill right data, used) := by
  unfold expand
  rw [split_dumpJson]
  induction data with
  | nil => exact ⟨0, rfl⟩
  | cons written data ih =>
    obtain ⟨here, later⟩ := append_eq_nil_iff.mp unspelled
    have onward : (∀ index ∈ made data, texts[index]? = some (right index)) →
        ∃ used, splice texts (data.flatMap Written.pieces) = .ok (fill right data, used) :=
      ih later
    cases written with
    | raw bare =>
      obtain ⟨used, rest⟩ := onward known
      exact ⟨_, splice_append (splice_chars bare.text) rest⟩
    | string text =>
      obtain ⟨used, rest⟩ := onward known
      have plain : spells text = none := by simpa using here
      have cut : Written.pieces (.string text) = (literal text).map .char :=
        literalPieces_plain plain
      exact ⟨_, cut ▸ splice_append (splice_chars (literal text)) rest⟩
    | token index =>
      obtain ⟨first, later⟩ := forall_mem_cons.mp known
      obtain ⟨used, rest⟩ := onward later
      have within : index < texts.length := (List.getElem?_eq_some_iff.mp first).1
      obtain ⟨text, found, read⟩ := textAt_known (refusal_made within few)
      rw [Nat.ofDigitChars_toDigits (by decide) (by decide), first] at found
      cases found
      have single : splice texts [.token (Nat.toDigits 10 index)] = .ok (right index, 1) := by
        simp [splice, read, bind, Except.bind, Except.map]
      exact ⟨_, splice_append single rest⟩

/-- Each pending value is resolved after those its data names, so resolved texts are right. -/
theorem resolvePending_right {pending : List Pending} (few : size ≤ 10 ^ maxStrDigits)
    (length : texts.length = size) (unspelled : ∀ entry ∈ pending, spelledBy entry.data = [])
    (ordered : pending.Pairwise fun first second => first.index < second.index)
    (within : ∀ entry ∈ pending, entry.index < size)
    (children : ∀ entry ∈ pending, ∀ index ∈ made entry.data, index < entry.index)
    (filled : ∀ entry ∈ pending, fill right entry.data = right entry.index)
    (known : ∀ index < size, (∀ entry ∈ pending, entry.index ≠ index) →
      texts[index]? = some (right index)) :
    ∃ resolved used, resolvePending pending texts = .ok (resolved, used) ∧
      ∀ index < size, resolved[index]? = some (right index) := by
  induction pending generalizing texts with
  | nil => exact ⟨texts, 0, rfl, fun index below => known index below (by simp)⟩
  | cons entry rest ih =>
    obtain ⟨earlier, ordered⟩ := pairwise_cons.mp ordered
    have here : entry.index < size := within entry mem_cons_self
    have named : ∀ index ∈ made entry.data, texts[index]? = some (right index) := by
      intro index mem
      have below := children entry mem_cons_self index mem
      refine known index (below.trans here) ?_
      intro other listed same
      rcases mem_cons.mp listed with rfl | later
      · omega
      · have := earlier other later
        omega
    obtain ⟨used, expanded⟩ := expand_fill (length ▸ few)
      (unspelled entry mem_cons_self) named
    rw [filled entry mem_cons_self] at expanded
    have settled : ∀ index < size, (∀ entry ∈ rest, entry.index ≠ index) →
        (texts.set entry.index (right entry.index))[index]? = some (right index) := by
      intro index below unlisted
      by_cases same : entry.index = index
      · subst same
        exact getElem?_set_self (length ▸ below)
      rw [getElem?_set_ne same]
      refine known index below fun other listed => ?_
      rcases mem_cons.mp listed with rfl | later
      · exact same
      · exact unlisted other later
    obtain ⟨resolved, more, ran, all⟩ := ih (by rw [length_set, length])
      (forall_mem_cons.mp unspelled).2 ordered (forall_mem_cons.mp within).2
      (forall_mem_cons.mp children).2 (forall_mem_cons.mp filled).2 settled
    refine ⟨resolved, used + more, ?_, all⟩
    simp [resolvePending, expanded, ran, bind, Except.bind, Except.map]

private theorem remember_remembers {truth : Nat → Text} {pending : List Pending}
    (texts_right : ∀ entry ∈ pending, texts[entry.index]? = some (truth entry.model.identity))
    {memo : Memo} (remembers : Remembers truth memo) :
    Remembers truth (remember memo texts pending) := by
  unfold remember
  induction pending generalizing memo with
  | nil => exact remembers
  | cons entry rest ih =>
    obtain ⟨here, later⟩ := forall_mem_cons.mp texts_right
    rw [foldl_cons]
    refine ih later ?_
    split
    · intro identity text known
      by_cases same : identity = entry.model.identity
      · subst same
        rw [Function.update_self, here] at known
        exact (Option.some.inj known).symm
      · rw [Function.update_of_ne same] at known
        exact remembers identity text known
    · exact remembers

end

/-! ## Encoding -/

def Parts.values : Parts → Nat
  | .done => 0
  | .raw _ rest | .string _ rest => rest.values
  | .frozen _ body rest => body.values + 1 + rest.values

private theorem emittedTexts_length (memo : Memo) (parts : Parts) :
    (emittedTexts memo parts).length ≤ parts.values := by
  induction parts with
  | done => exact le_refl _
  | raw bare rest ih | string text rest ih => exact ih
  | frozen model body rest inner outer =>
    unfold emittedTexts Parts.values
    split
    · rw [length_cons]
      omega
    split
    · rw [length_append, length_cons]
      omega
    · rw [length_append]
      omega

def verdict (memo : Memo) (parts : Parts) : Option ExpandError :=
  (spelled memo parts).findSome? (refusal (emittedTexts memo parts).length)

section
variable {truth : Nat → Text} {memo : Memo} {parts : Parts}

/-- Where no string spells a token, splicing gives the plain text of every value. -/
theorem resolve_right {base : List Written} {texts : List Text} {pending : List Pending}
    {values done own : List Text} {plain : Text}
    (emission : Emission truth 0 plain values done own base texts pending)
    (few : values.length ≤ 10 ^ maxStrDigits) (unspelled : done ++ own = []) :
    ∃ resolved, resolve ⟨texts, pending⟩ (dumpJson base) = .ok resolved ∧ resolved.text = plain ∧
      ∀ entry ∈ pending, resolved.texts[entry.index]? = some (truth entry.model.identity) := by
  obtain ⟨noneResolved, noneOuter⟩ := append_eq_nil_iff.mp unspelled
  obtain ⟨whole, each⟩ := emission.filled (fun index => values.getD index []) fun offset text found => by
    simp [found]
  have within : ∀ entry ∈ pending, entry.index < values.length := by
    intro entry mem
    have := (emission.within entry mem).2
    omega
  have known : ∀ index < values.length, (∀ entry ∈ pending, entry.index ≠ index) →
      texts[index]? = some (values.getD index []) := by
    intro index below unlisted
    have same := emission.known index (by simpa using unlisted)
    simpa [getElem?_eq_getElem below, below] using same
  have plainData : ∀ entry ∈ pending, spelledBy entry.data = [] :=
    flatMap_eq_nil_iff.mp (emission.resolved.trans noneResolved)
  obtain ⟨resolved, used, ran, all⟩ := resolvePending_right few emission.size plainData
    emission.ordered within emission.children
    (fun entry mem => (each entry mem).1.trans (each entry mem).2.symm) known
  have length : resolved.length = values.length := by
    rw [resolvePending_length ran, emission.size]
  obtain ⟨more, expanded⟩ := expand_fill (length ▸ few) (emission.outer.trans noneOuter)
    fun index mem => all index (by simpa using emission.below index mem)
  rw [whole] at expanded
  refine ⟨⟨plain, resolved, used + more⟩, ?_, rfl, ?_⟩
  · simp [resolve, ran, expanded, bind, Except.bind, Except.map]
  · intro entry mem
    rw [← (each entry mem).2]
    exact all entry.index (within entry mem)

private theorem resolve_outcome {base : List Written} {texts : List Text} {pending : List Pending}
    {values done own : List Text} {plain : Text}
    (emission : Emission truth 0 plain values done own base texts pending)
    (few : values.length ≤ 10 ^ maxStrDigits) :
    match (done ++ own).findSome? (refusal values.length) with
    | some error => resolve ⟨texts, pending⟩ (dumpJson base) = .error error
    | none => ∃ resolved, resolve ⟨texts, pending⟩ (dumpJson base) = .ok resolved ∧
        (resolved.used = texts.length → resolved.text = plain ∧ ∀ entry ∈ pending,
          resolved.texts[entry.index]? = some (truth entry.model.identity)) := by
  have outer : ∀ index ∈ made base, index < values.length := by
    intro index mem
    simpa using emission.below index mem
  have inner : ∀ entry ∈ pending, ∀ index ∈ made entry.data, index < values.length := by
    intro entry mem index named
    have := emission.children entry mem index named
    have := (emission.within entry mem).2
    omega
  have uses := resolve_uses ⟨texts, pending⟩ base
  unfold Uses at uses
  rw [emission.size, refused_templates inner outer few, emission.resolved, emission.outer] at uses
  cases refused : (done ++ own).findSome? (refusal values.length) with
  | some error => simpa [refused] using uses
  | none =>
    rw [refused] at uses
    obtain ⟨resolved, ran, counted⟩ := uses
    refine ⟨resolved, ran, fun all => ?_⟩
    have total : resolved.used = values.length + (done ++ own).length := by
      rw [counted, templateTokens_length, emission.resolved, emission.outer, emission.counted]
    have unspelled : done ++ own = [] := by
      apply eq_nil_of_length_eq_zero
      have := emission.size
      omega
    obtain ⟨same, again, right⟩ := resolve_right emission few unspelled
    rw [ran] at again
    cases again
    exact right

private theorem encodeParts_outcome (remembers : Remembers truth memo) (placed : parts.Places truth)
    (few : parts.values ≤ 10 ^ maxStrDigits) :
    if verdict memo parts = some .value then encodeParts memo parts = .error .value
    else ∃ after, encodeParts memo parts = .ok ⟨parts.plain, after⟩ ∧ Remembers truth after := by
  obtain ⟨texts, pending, emitted, emission⟩ :=
    emitFragments_emission remembers parts placed .empty
  have outcome := resolve_outcome emission ((emittedTexts_length memo parts).trans few)
  have fragments : (emitFragments memo parts .empty).2 = ⟨texts, pending⟩ := emitted
  unfold encodeParts
  simp only [fragments]
  unfold verdict spelled
  cases refused : ((spelledIn memo parts).1 ++ (spelledIn memo parts).2).findSome?
      (refusal (emittedTexts memo parts).length) with
  | some error =>
    rw [refused] at outcome
    cases error with
    | value => simp [outcome]
    | index => simpa [outcome] using remembers
  | none =>
    rw [refused] at outcome
    obtain ⟨resolved, ran, right⟩ := outcome
    simp only [ran]
    by_cases all : resolved.used = texts.length
    · obtain ⟨same, each⟩ := right all
      simpa [all, same] using remember_remembers each remembers
    · simpa [all] using remembers

end

def Node.Places (truth : Nat → Text) (node : Node) : Prop := (node.parts .done).Places truth

def Node.values (node : Node) : Nat := (node.parts .done).values

def Node.Readable (memo : Memo) (node : Node) : Prop :=
  verdict memo (node.parts .done) ≠ some .value

/-- Runs of the encoder with its memo. -/
abbrev EncodeRun := Run (Produces encodeJson Encoded.memo)

section
variable {truth : Nat → Text} {memo : Memo} {node : Node}

private theorem encodeJson_plain (remembers : Remembers truth memo) (placed : node.Places truth)
    (few : node.values ≤ 10 ^ maxStrDigits) {encoded : Encoded}
    (ran : encodeJson memo node = .ok encoded) :
    encoded.text = node.plain ∧ Remembers truth encoded.memo := by
  have outcome := encodeParts_outcome remembers placed few
  have same : encodeParts memo (node.parts .done) = .ok encoded := ran
  rw [same] at outcome
  split at outcome
  · cases outcome
  · obtain ⟨after, wrote, kept⟩ := outcome
    cases wrote
    exact ⟨rfl, kept⟩

private theorem encodeJson_plain_iff (remembers : Remembers truth memo) (placed : node.Places truth)
    (few : node.values ≤ 10 ^ maxStrDigits) :
    (∃ after, encodeJson memo node = .ok ⟨node.plain, after⟩ ∧ Remembers truth after) ↔
      node.Readable memo := by
  have outcome := encodeParts_outcome remembers placed few
  unfold encodeJson Node.Readable
  constructor
  · rintro ⟨after, ran, -⟩ refused
    rw [if_pos refused, ran] at outcome
    cases outcome
  · intro readable
    rwa [if_neg readable] at outcome

end

/-- Encodes write and remember the plain text of every tree, unless `int` refuses a token one of the
strings spells. -/
theorem fragments_encode_plainly_iff {truth : Nat → Text} {first memo : Memo}
    {labels : List (Node × Encoded)} (run : EncodeRun first labels memo)
    (remembers : Remembers truth first)
    (placed : ∀ label ∈ labels, label.1.Places truth ∧ label.1.values ≤ 10 ^ maxStrDigits) :
    (∀ label ∈ labels, label.2.text = label.1.plain) ∧ Remembers truth memo ∧
      ∀ node : Node, node.Places truth → node.values ≤ 10 ^ maxStrDigits →
        ((∃ after, encodeJson memo node = .ok ⟨node.plain, after⟩ ∧ Remembers truth after) ↔
          node.Readable memo) := by
  suffices whole : (∀ label ∈ labels, label.2.text = label.1.plain) ∧ Remembers truth memo from
    ⟨whole.1, whole.2, fun node => encodeJson_plain_iff whole.2⟩
  induction run with
  | nil state => exact ⟨by simp, remembers⟩
  | cons head tail ih =>
    obtain ⟨⟨here, few⟩, later⟩ := forall_mem_cons.mp placed
    obtain ⟨ran, rfl⟩ := head
    obtain ⟨wrote, kept⟩ := encodeJson_plain remembers here few ran
    obtain ⟨rest, last⟩ := ih kept later
    exact ⟨forall_mem_cons.mpr ⟨wrote, rest⟩, last⟩

def spelling (digits : Text) : Node :=
  .frozen ⟨0, true, true⟩ (.string (nul :: 'F' :: (digits ++ [nul])))

private theorem spelling_places (digits : Text) :
    (spelling digits).Places fun _ => (spelling digits).plain :=
  ⟨(append_nil _).symm, trivial, trivial⟩

private theorem remembers_nothing (truth : Nat → Text) : Remembers truth fun _ => none := by
  intro identity text known
  cases known

private theorem spelling_fails {digits : Text} (each : ∀ char ∈ digits, char.isDigit)
    (long : maxStrDigits < digits.length) :
    encodeJson (fun _ => none) (spelling digits) = .error .value := by
  have few : (spelling digits).values ≤ 10 ^ maxStrDigits := Nat.one_le_pow _ _ (by decide)
  have some_digit : digits ≠ [] := by
    rintro rfl
    exact absurd long (by decide)
  have token : spells (nul :: 'F' :: (digits ++ [nul])) = some digits := by
    rw [spells, wholeToken_digits each some_digit]
    rfl
  have refused : verdict (fun _ => none) ((spelling digits).parts .done) = some .value := by
    simp [verdict, spelled, spelledIn, spelling, Node.parts, token, refusal, long]
  have outcome := encodeParts_outcome (remembers_nothing _) (spelling_places digits) few
  rwa [if_pos refused] at outcome

/-- One digit more than `int` takes: nothing is encoded, although nothing was remembered. -/
theorem overlong_token_is_not_encoded :
    Remembers (fun _ => (spelling (List.replicate 4301 '1')).plain) (fun _ => none) ∧
      (spelling (List.replicate 4301 '1')).Places
        (fun _ => (spelling (List.replicate 4301 '1')).plain) ∧
      encodeJson (fun _ => none) (spelling (List.replicate 4301 '1')) = .error .value := by
  refine ⟨remembers_nothing _, spelling_places _, spelling_fails ?_ ?_⟩
  · intro char member
    rw [eq_of_mem_replicate member]
    decide
  · rw [length_replicate]
    decide

def pair : Node :=
  .frozen ⟨1, true, true⟩
    (.array [.frozen ⟨0, true, true⟩ (.string ['x']), .frozen ⟨0, true, true⟩ (.string ['x'])])

def keyed : Node := .frozen ⟨2, true, true⟩ (.object [(tokenText 0, pair), (['y'], pair)])

def pairTruth : Nat → Text
  | 0 => (Node.string ['x']).plain
  | 1 => pair.plain
  | _ => keyed.plain

def pairMemo : Memo := ((encodeJson (fun _ => none) pair).toOption.map Encoded.memo).getD default

theorem shared_values_are_encoded_plainly :
    EncodeRun (fun _ => none) [(pair, ⟨pair.plain, pairMemo⟩)] pairMemo ∧
      pairMemo 1 = some pair.plain ∧
        ∃ after, encodeJson pairMemo keyed = .ok ⟨keyed.plain, after⟩ ∧
          Remembers pairTruth after := by
  have few : 10 ≤ 10 ^ maxStrDigits := Nat.le_self_pow (by decide) 10
  have placed : pair.Places pairTruth := ⟨rfl, ⟨rfl, trivial, rfl, trivial, trivial⟩, trivial⟩
  have both : keyed.Places pairTruth := ⟨rfl, ⟨rfl, placed.2.1, rfl, placed.2.1, trivial⟩, trivial⟩
  have run : EncodeRun (fun _ => none) [(pair, ⟨pair.plain, pairMemo⟩)] pairMemo :=
    .single ⟨rfl, rfl⟩
  obtain ⟨-, -, next⟩ := fragments_encode_plainly_iff run (remembers_nothing pairTruth)
    (by simpa using ⟨placed, le_trans (by decide) few⟩)
  refine ⟨run, rfl, (next keyed both (le_trans (by decide) few)).mpr ?_⟩
  unfold Node.Readable
  decide

end VibeServeCore.Values
