/- source: _values.py (`_Fragments`, `emit_fragment`, `encode_json`)
   digest: Encoding frozen values from remembered texts, and the tokens a template shows. -/

import VibeServeCore.Foundation.Json.Strings
import VibeServeCore.Foundation.Process

namespace VibeServeCore.Values.Json

open Foundation.Json List

def opening : Text := [backslash, 'u', '0', '0', '0', '0', 'F']
def closing : Text := [backslash, 'u', '0', '0', '0', '0', quote]

def tokenAfter (text : Text) : Option (Text × Text) :=
  match strip opening text with
  | none => none
  | some body =>
    if body.takeWhile Char.isDigit = [] then none
    else (strip closing (body.dropWhile Char.isDigit)).map fun rest =>
      (body.takeWhile Char.isDigit, rest)

inductive Piece where
  | char (char : Char)
  | token (digits : Text)

def splitWithin : Nat → Text → List Piece
  | 0, _ => []
  | _, [] => []
  | fuel + 1, char :: rest =>
    match (if char = quote then tokenAfter rest else none) with
    | some (digits, after) => .token digits :: splitWithin fuel after
    | none => .char char :: splitWithin fuel rest

def split (text : Text) : List Piece := splitWithin text.length text

variable {text rest digits : Text} {char : Char} {pieces : List Piece}

private theorem strip_length {expected : Text} (stripped : strip expected text = some rest) :
    text.length = expected.length + rest.length := by
  induction expected generalizing text with
  | nil =>
    cases stripped
    simp
  | cons wanted expected ih =>
    cases text with
    | nil => cases stripped
    | cons char text =>
      unfold strip at stripped
      split at stripped
      · have := ih stripped
        simp only [length_cons]
        omega
      · cases stripped

private theorem tokenAfter_length (found : tokenAfter text = some (digits, rest)) :
    rest.length ≤ text.length := by
  unfold tokenAfter at found
  split at found
  · cases found
  rename_i body stripped
  split at found
  · cases found
  obtain ⟨after, closed, same⟩ := Option.map_eq_some_iff.mp found
  cases same
  have whole := strip_length stripped
  have tail := strip_length closed
  have shorter := (dropWhile_suffix Char.isDigit (l := body)).length_le
  omega

private theorem splitWithin_eq {fuel : Nat} (enough : text.length ≤ fuel) :
    splitWithin fuel text = split text := by
  suffices same : ∀ (bound : Nat) (text : Text), text.length ≤ bound → ∀ fuel,
      text.length ≤ fuel → splitWithin fuel text = splitWithin text.length text from
    same text.length text (le_refl _) fuel enough
  intro bound
  induction bound with
  | zero =>
    intro text short fuel _
    cases length_eq_zero_iff.mp (Nat.le_zero.mp short)
    cases fuel <;> rfl
  | succ bound ih =>
    intro text short fuel enough
    match text, fuel with
    | [], 0 => rfl
    | [], _ + 1 => rfl
    | char :: rest, 0 => simp at enough
    | char :: rest, fuel + 1 =>
      simp only [length_cons, Nat.add_le_add_iff_right] at short enough
      have onward : splitWithin fuel rest = splitWithin rest.length rest :=
        ih rest short fuel enough
      simp only [splitWithin, length_cons, onward]
      split
      · rename_i digits after found
        have within : after.length ≤ rest.length := by
          split at found
          · exact tokenAfter_length found
          · cases found
        rw [ih after (within.trans short) fuel (within.trans enough),
          ih after (within.trans short) rest.length within]
      · rfl

@[simp] theorem split_nil : split [] = [] := rfl

private theorem split_char (other : char ≠ quote) : split
    (char :: rest) = .char char :: split rest := by
  simp [split, splitWithin, other]

private theorem split_quote (plain : tokenAfter rest = none) :
    split (quote :: rest) = .char quote :: split rest := by
  simp [split, splitWithin, plain]

private theorem split_token {after : Text} (found : tokenAfter rest = some (digits, after)) :
    split (quote :: rest) = .token digits :: split after := by
  have enough := tokenAfter_length found
  simp [split, splitWithin, found, splitWithin_eq enough]

def wholeToken (text : Text) : Option Text :=
  match strip [nul, 'F'] text with
  | none => none
  | some body =>
    if body.takeWhile Char.isDigit = [] then none
    else if body.dropWhile Char.isDigit = [nul] then some (body.takeWhile Char.isDigit)
    else none

def innerToken : Text → Option Text
  | [] => none
  | char :: rest => (if char = quote then wholeToken rest else none).or (innerToken rest)

def spells (text : Text) : Option Text := (wholeToken text).or (innerToken text)

section
variable {char : Char} {text rest : Text}

private theorem escapeChar_nul : escapeChar nul = [backslash, 'u', '0', '0', '0', '0'] := by decide

private theorem escapeChar_digit (digit : char.isDigit) : escapeChar char = [char] := by
  have bounds : 48 ≤ char.toNat ∧ char.toNat ≤ 57 := Char.isDigit_iff_toNat.mp digit
  have apart : ∀ other : Char, other.toNat < 48 ∨ 57 < other.toNat → char ≠ other := by
    rintro other outside rfl
    omega
  unfold escapeChar
  rw [if_neg (apart _ (by decide)), if_neg (apart _ (by decide)), if_neg (apart _ (by decide)),
    if_neg (apart _ (by decide)), if_neg (apart _ (by decide)), if_neg (apart _ (by decide)),
    if_neg (apart _ (by decide)), if_neg (by omega)]

private theorem strip_escapeChar (other : char ≠ nul) :
    strip (escapeChar nul) (escapeChar char ++ rest) = none := by
  have positive : char.toNat ≠ 0 := by
    intro zero
    exact other (Char.toNat_inj.mp zero)
  have apart : ('u' : Char) ≠ quote ∧ ('u' : Char) ≠ backslash := by decide
  rw [escapeChar_nul]
  unfold escapeChar
  by_cases quoted : char = quote
  · simp [strip, quoted, apart.1]
  by_cases escaped : char = backslash
  · rw [if_neg quoted, if_pos escaped]
    simp [strip, apart.2]
  split_ifs with _ _ _ _ _ low
  iterate 5 · simp [strip]
  · have digits : char.toNat < 16 → char.toNat % 16 ≠ 0 := by omega
    simpa [strip] using digits
  · simp [strip, Ne.symm escaped]

@[simp] theorem strip_append {first second : Text} :
    strip (first ++ second) text = (strip first text).bind (strip second) := by
  induction first generalizing text with
  | nil => rfl
  | cons wanted first ih =>
    cases text with
    | nil => rfl
    | cons char text =>
      simp only [cons_append, strip]
      split
      · exact ih
      · rfl

private theorem strip_nul_literal :
    strip (escapeChar nul) (escape text ++ quote :: rest) =
      (strip [nul] text).map fun body => escape body ++ quote :: rest := by
  cases text with
  | nil =>
    have apart : backslash ≠ quote := by decide
    simp [escapeChar_nul, strip, apart]
  | cons first body =>
    by_cases started : first = nul
    · subst started
      simp [escapeChar_nul, strip]
    · simp [strip_escapeChar started, strip, Ne.symm started]

private theorem strip_char_literal {wanted : Char} (written : wanted ≠ quote)
    (unescaped : escapeChar wanted = [wanted]) :
    strip [wanted] (escape text ++ quote :: rest) =
      (strip [wanted] text).map fun body => escape body ++ quote :: rest := by
  cases text with
  | nil => simp [strip, written]
  | cons first body =>
    by_cases started : first = wanted
    · subst started
      simp [unescaped, strip]
    rcases escapeChar_shape first with ⟨itself, -, -⟩ | ⟨more, escaped⟩
    · simp [itself, strip, Ne.symm started]
    have apart : wanted ≠ backslash := by
      rintro rfl
      revert unescaped
      decide
    simp [escaped, strip, apart, Ne.symm started]

private theorem strip_quote_literal :
    strip [quote] (escape text ++ quote :: rest) = if text = [] then some rest else none := by
  cases text with
  | nil => simp [strip]
  | cons first body =>
    have apart : quote ≠ backslash := by decide
    rcases escapeChar_shape first with ⟨itself, other, -⟩ | ⟨more, escaped⟩
    · simp [itself, strip, Ne.symm other]
    · simp [escaped, strip, apart]

private theorem strip_closing :
    strip closing (escape text ++ quote :: rest) = if text = [nul] then some rest else none := by
  have closed : closing = escapeChar nul ++ [quote] := by decide
  rw [closed, strip_append, strip_nul_literal]
  cases text with
  | nil => simp [strip]
  | cons first body =>
    by_cases started : first = nul
    · subst started
      simpa [strip] using strip_quote_literal
    · simp [strip, started, Ne.symm started]

private theorem digits_literal :
    (escape text ++ quote :: rest).takeWhile Char.isDigit = text.takeWhile Char.isDigit ∧
      (escape text ++ quote :: rest).dropWhile Char.isDigit =
        escape (text.dropWhile Char.isDigit) ++ quote :: rest := by
  induction text with
  | nil =>
    have other : quote.isDigit = false := by decide
    simp [other]
  | cons first body ih =>
    by_cases digit : first.isDigit
    · simpa [escapeChar_digit digit, digit] using ih
    · rcases escapeChar_shape first with ⟨itself, -, -⟩ | ⟨more, escaped⟩
      · simp [itself, digit]
      · have other : backslash.isDigit = false := by decide
        simp [escaped, digit, other]

private theorem tokenAfter_literal :
    tokenAfter (escape text ++ quote :: rest) =
      (wholeToken text).map fun digits => (digits, rest) := by
  have opened : opening = escapeChar nul ++ ['F'] := by decide
  have started : strip opening (escape text ++ quote :: rest) =
      (strip [nul, 'F'] text).map fun body => escape body ++ quote :: rest := by
    rw [opened, strip_append, strip_nul_literal, show [nul, 'F'] = [nul] ++ ['F'] from rfl,
      strip_append]
    cases strip [nul] text with
    | none => rfl
    | some body => exact strip_char_literal (by decide) (by decide)
  unfold tokenAfter wholeToken
  rw [started]
  cases strip [nul, 'F'] text with
  | none => rfl
  | some body =>
    simp only [Option.map_some, digits_literal, strip_closing]
    split_ifs <;> rfl

end

def tokens (pieces : List Piece) : List Text :=
  pieces.filterMap fun
    | .char _ => none
    | .token digits => some digits

def innerPieces : Text → List Piece
  | [] => [.char quote]
  | char :: rest =>
    if char = quote then
      .char backslash ::
        match wholeToken rest with
        | some digits => [.token digits]
        | none => .char quote :: innerPieces rest
    else (escapeChar char).map .char ++ innerPieces rest

def literalPieces (text : Text) : List Piece :=
  match wholeToken text with
  | some digits => [.token digits]
  | none => .char quote :: innerPieces text

section
variable {text rest : Text}

@[simp] theorem tokens_nil : tokens [] = [] := rfl

@[simp] theorem tokens_append {first second : List Piece} :
    tokens (first ++ second) = tokens first ++ tokens second := by
  simp [tokens]

@[simp] theorem tokens_char : tokens (.char char :: pieces) = tokens pieces := rfl

@[simp] theorem tokens_token : tokens (.token digits :: pieces) = digits :: tokens pieces := rfl

@[simp] theorem tokens_chars : tokens (text.map .char) = [] := by
  induction text with
  | nil => rfl
  | cons char text ih => exact ih

private theorem escapeChar_unquoted (other : char ≠ quote) :
    ∀ written ∈ escapeChar char, written ≠ quote := by
  have apart : backslash ≠ quote := by decide
  have hexadecimal : ∀ code < 32, Nat.digitChar (code / 16) ≠ quote ∧
      Nat.digitChar (code % 16) ≠ quote := by decide
  unfold escapeChar
  rw [if_neg other]
  split_ifs with _ _ _ _ _ _ low
  · simp [apart]
  iterate 5
    · simp only [mem_cons, not_mem_nil, or_false, forall_eq_or_imp, forall_eq]
      decide
  · have := hexadecimal _ low
    simp [apart, this]
    decide
  · simpa using other

private theorem split_unquoted (unquoted : ∀ char ∈ text, char ≠ quote) :
    split (text ++ rest) = text.map .char ++ split rest := by
  induction text with
  | nil => rfl
  | cons char text ih =>
    have onward := ih fun other mem => unquoted other (mem_cons_of_mem _ mem)
    rw [cons_append, split_char (unquoted char mem_cons_self), onward]
    rfl

private theorem tokenAfter_none (ends : rest.head? ≠ some backslash) : tokenAfter rest = none := by
  cases rest with
  | nil => rfl
  | cons char rest =>
    have other : backslash ≠ char := by
      rintro rfl
      exact ends rfl
    simp [tokenAfter, opening, strip, other]

private theorem split_inner (ends : rest.head? ≠ some backslash) :
    split (escape text ++ quote :: rest) = innerPieces text ++ split rest := by
  induction text with
  | nil => exact split_quote (tokenAfter_none ends)
  | cons char text ih =>
    rw [escape_cons, append_assoc]
    unfold innerPieces
    by_cases quoted : char = quote
    · subst quoted
      have written : escapeChar quote = [backslash, quote] := by decide
      have apart : backslash ≠ quote := by decide
      rw [if_pos rfl, written, cons_append, split_char apart, cons_append]
      congr 1
      cases found : wholeToken text with
      | some digits =>
        exact split_token (by rw [nil_append, tokenAfter_literal, found]; rfl)
      | none =>
        have onward : split (quote :: (escape text ++ quote :: rest)) =
            .char quote :: split (escape text ++ quote :: rest) :=
          split_quote (by rw [tokenAfter_literal, found]; rfl)
        rwa [ih] at onward
    · rw [if_neg quoted, split_unquoted (escapeChar_unquoted quoted), ih, append_assoc]

private theorem split_literal (ends : rest.head? ≠ some backslash) :
    split (literal text ++ rest) = literalPieces text ++ split rest := by
  have whole : literal text ++ rest = quote :: (escape text ++ quote :: rest) := by
    simp [literal]
  rw [whole]
  unfold literalPieces
  cases found : wholeToken text with
  | some digits => exact split_token (by rw [tokenAfter_literal, found]; rfl)
  | none =>
    rw [split_quote (by rw [tokenAfter_literal, found]; rfl), split_inner ends]
    rfl

private theorem tokens_innerPieces : tokens (innerPieces text) = (innerToken text).toList := by
  induction text with
  | nil => rfl
  | cons char text ih =>
    unfold innerPieces innerToken
    by_cases quoted : char = quote
    · cases found : wholeToken text with
      | some digits => simp [quoted]
      | none => simp [quoted, ih]
    · simp [quoted, ih]

private theorem tokens_literalPieces : tokens (literalPieces text) = (spells text).toList := by
  unfold literalPieces spells
  cases found : wholeToken text with
  | some digits => rfl
  | none => exact tokens_innerPieces

private theorem innerPieces_plain (plain : innerToken text = none) :
    innerPieces text = (escape text ++ [quote]).map .char := by
  induction text with
  | nil => rfl
  | cons char text ih =>
    obtain ⟨here, later⟩ := Option.or_eq_none_iff.mp plain
    unfold innerPieces
    by_cases quoted : char = quote
    · subst quoted
      rw [if_pos rfl] at here
      have written : escapeChar quote = [backslash, quote] := by decide
      simp [here, ih later, written]
    · simp [quoted, ih later]

theorem literalPieces_plain (plain : spells text = none) :
    literalPieces text = (literal text).map .char := by
  obtain ⟨whole, inner⟩ := Option.or_eq_none_iff.mp plain
  simp [literalPieces, whole, innerPieces_plain inner, literal]

end

end VibeServeCore.Values.Json

namespace VibeServeCore.Values

open Foundation.Json Values.Json

structure Raw where
  text : Text
  bare : ∀ char ∈ text, char ≠ quote ∧ char ≠ backslash

def Raw.comma : Raw := ⟨[','], by simp [quote, backslash]⟩
def Raw.colon : Raw := ⟨[':'], by simp [quote, backslash]⟩
def Raw.openArray : Raw := ⟨['['], by simp [quote, backslash]⟩
def Raw.closeArray : Raw := ⟨[']'], by simp [quote, backslash]⟩
def Raw.openObject : Raw := ⟨['\x7b'], by simp [quote, backslash]⟩
def Raw.closeObject : Raw := ⟨['\x7d'], by simp [quote, backslash]⟩

/-- Which object it is, whether its text is position-free, and whether all below is immutable. -/
structure Frozen where
  identity : Nat
  independent : Bool
  immutable : Bool

inductive Node where
  | scalar (bare : Raw)
  | string (text : Text)
  | array (items : List Node)
  | object (fields : List (Text × Node))
  | frozen (model : Frozen) (body : Node)

inductive Parts where
  | done
  | raw (bare : Raw) (rest : Parts)
  | string (text : Text) (rest : Parts)
  | frozen (model : Frozen) (body rest : Parts)

mutual

def Node.parts : Node → Parts → Parts
  | .scalar bare, rest => .raw bare rest
  | .string text, rest => .string text rest
  | .array items, rest => .raw .openArray (itemParts items (.raw .closeArray rest))
  | .object fields, rest => .raw .openObject (fieldParts fields (.raw .closeObject rest))
  | .frozen model body, rest => .frozen model (body.parts .done) rest

def itemParts : List Node → Parts → Parts
  | [], rest => rest
  | [item], rest => item.parts rest
  | item :: next :: items, rest => item.parts (.raw .comma (itemParts (next :: items) rest))

def fieldParts : List (Text × Node) → Parts → Parts
  | [], rest => rest
  | [(key, value)], rest => .string key (.raw .colon (value.parts rest))
  | (key, value) :: next :: fields, rest =>
    .string key (.raw .colon (value.parts (.raw .comma (fieldParts (next :: fields) rest))))

end

def Parts.plain : Parts → Text
  | .done => []
  | .raw bare rest => bare.text ++ rest.plain
  | .string text rest => literal text ++ rest.plain
  | .frozen _ body rest => body.plain ++ rest.plain

def Node.plain (node : Node) : Text := (node.parts .done).plain

abbrev Memo := Nat → Option Text

/-- One part of the plain data a handler returned; a token is a string like any other. -/
inductive Written where
  | raw (bare : Raw)
  | string (text : Text)
  | token (index : Nat)

def tokenText (index : Nat) : Text := nul :: 'F' :: (Nat.toDigits 10 index ++ [nul])

def Written.text : Written → Text
  | .raw bare => bare.text
  | .string text => literal text
  | .token index => literal (tokenText index)

def dumpJson (data : List Written) : Text := data.flatMap Written.text

structure Pending where
  index : Nat
  model : Frozen
  data : List Written

structure Fragments where
  texts : List Text
  pending : List Pending

namespace Fragments

def empty : Fragments := ⟨[], []⟩

def emitKnown (fragments : Fragments) (text : Text) : Fragments :=
  { fragments with texts := fragments.texts ++ [text] }

def emitNew (fragments : Fragments) (model : Frozen) (data : List Written) : Fragments where
  texts := fragments.texts ++ [[]]
  pending := fragments.pending ++ [⟨fragments.texts.length, model, data⟩]

end Fragments

def emitFragments (memo : Memo) : Parts → Fragments → List Written × Fragments
  | .done, fragments => ([], fragments)
  | .raw bare rest, fragments =>
    let after := emitFragments memo rest fragments
    (.raw bare :: after.1, after.2)
  | .string text rest, fragments =>
    let after := emitFragments memo rest fragments
    (.string text :: after.1, after.2)
  | .frozen model body rest, fragments =>
    match memo model.identity with
    | some text =>
      let after := emitFragments memo rest (fragments.emitKnown text)
      (.token fragments.texts.length :: after.1, after.2)
    | none =>
      let inner := emitFragments memo body fragments
      if model.independent then
        let after := emitFragments memo rest (inner.2.emitNew model inner.1)
        (.token inner.2.texts.length :: after.1, after.2)
      else
        let after := emitFragments memo rest inner.2
        (inner.1 ++ after.1, after.2)

inductive ExpandError where
  | value
  | index
  deriving DecidableEq

def maxStrDigits : Nat := 4300

def textAt (texts : List Text) (digits : Text) : Except ExpandError Text :=
  if maxStrDigits < digits.length then .error .value
  else
    match texts[Nat.ofDigitChars 10 digits 0]? with
    | some text => .ok text
    | none => .error .index

def splice (texts : List Text) : List Piece → Except ExpandError (Text × Nat)
  | [] => .ok ([], 0)
  | .char char :: rest => (splice texts rest).map fun (text, used) => (char :: text, used)
  | .token digits :: rest =>
    textAt texts digits >>= fun text =>
      (splice texts rest).map fun (after, used) => (text ++ after, used + 1)

def expand (texts : List Text) (template : Text) : Except ExpandError (Text × Nat) :=
  splice texts (split template)

def resolvePending : List Pending → List Text → Except ExpandError (List Text × Nat)
  | [], texts => .ok (texts, 0)
  | pending :: rest, texts =>
    expand texts (dumpJson pending.data) >>= fun (text, used) =>
      (resolvePending rest (texts.set pending.index text)).map fun (resolved, more) =>
        (resolved, used + more)

structure Resolved where
  text : Text
  texts : List Text
  used : Nat

def resolve (fragments : Fragments) (document : Text) : Except ExpandError Resolved :=
  resolvePending fragments.pending fragments.texts >>= fun (texts, used) =>
    (expand texts document).map fun (text, more) => ⟨text, texts, used + more⟩

def remember (memo : Memo) (texts : List Text) (pending : List Pending) : Memo :=
  pending.foldl
    (fun memo entry =>
      if entry.model.immutable then Function.update memo entry.model.identity texts[entry.index]?
      else memo)
    memo

structure Encoded where
  text : Text
  memo : Memo

def encodeParts (memo : Memo) (parts : Parts) : Except ExpandError Encoded :=
  let emitted := emitFragments memo parts .empty
  match resolve emitted.2 (dumpJson emitted.1) with
  | .error .value => .error .value
  | .error .index => .ok ⟨parts.plain, memo⟩
  | .ok resolved =>
    if resolved.used = emitted.2.texts.length then
      .ok ⟨resolved.text, remember memo resolved.texts emitted.2.pending⟩
    else .ok ⟨parts.plain, memo⟩

def encodeJson (memo : Memo) (node : Node) : Except ExpandError Encoded :=
  encodeParts memo (node.parts .done)

open List Foundation.Process

def made (data : List Written) : List Nat :=
  data.filterMap fun
    | .token index => some index
    | _ => none

def spelledBy (data : List Written) : List Text :=
  data.flatMap fun
    | .string text => (spells text).toList
    | _ => []

def fill (right : Nat → Text) (data : List Written) : Text :=
  data.flatMap fun
    | .token index => right index
    | written => written.text

variable {first second : List Written}

variable {index : Nat} {data document : List Written}

@[simp] theorem made_append :
    made (first ++ second) = made first ++ made second := filterMap_append

@[simp] theorem made_token : made (.token index :: data) = index :: made data := rfl

@[simp] theorem spelledBy_append :
    spelledBy (first ++ second) = spelledBy first ++ spelledBy second := flatMap_append

@[simp] theorem fill_append {right : Nat → Text} :
    fill right (first ++ second) = fill right first ++ fill right second := flatMap_append

def Written.pieces : Written → List Piece
  | .raw bare => bare.text.map .char
  | .string text => literalPieces text
  | .token index => [.token (Nat.toDigits 10 index)]

section
variable {data : List Written} {index : Nat}

theorem wholeToken_digits {digits : Text} (each : ∀ char ∈ digits, char.isDigit)
    (some_digit : digits ≠ []) : wholeToken (nul :: 'F' :: (digits ++ [nul])) = some digits := by
  have other : nul.isDigit = false := by decide
  have taken : (digits ++ [nul]).takeWhile Char.isDigit = digits := by
    rw [takeWhile_append_of_pos each]
    simp [other]
  have dropped : (digits ++ [nul]).dropWhile Char.isDigit = [nul] := by
    rw [dropWhile_append_of_pos each]
    simp [other]
  have stripped : strip [nul, 'F'] (nul :: 'F' :: (digits ++ [nul])) = some (digits ++ [nul]) := by
    simp [strip]
  unfold wholeToken
  simp [stripped, taken, dropped, some_digit]

private theorem wholeToken_tokenText : wholeToken (tokenText index) = some
    (Nat.toDigits 10 index) :=
  wholeToken_digits
    (fun _ mem => Nat.isDigit_of_mem_toDigits (by decide) (by decide) mem)
    Nat.toDigits_ne_nil

private theorem dumpJson_head : (dumpJson data).head? ≠ some backslash := by
  have apart : quote ≠ backslash := by decide
  induction data with
  | nil => simp [dumpJson]
  | cons written data ih =>
    cases written with
    | raw bare =>
      cases text : bare.text with
      | nil => simpa [dumpJson, Written.text, text] using ih
      | cons char rest =>
        have outside := (bare.bare char (by simp [text])).2
        simpa [dumpJson, Written.text, text] using outside
    | string text => simp [dumpJson, Written.text, literal, apart]
    | token index => simp [dumpJson, Written.text, literal, apart]

theorem split_dumpJson : split (dumpJson data) = data.flatMap Written.pieces := by
  induction data with
  | nil => rfl
  | cons written data ih =>
    have onward : dumpJson (written :: data) = written.text ++ dumpJson data := rfl
    rw [onward, flatMap_cons, ← ih]
    cases written with
    | raw bare => exact split_unquoted fun char mem => (bare.bare char mem).1
    | string text => exact split_literal dumpJson_head
    | token index =>
      have whole : literalPieces (tokenText index) = [.token (Nat.toDigits 10 index)] := by
        simp [literalPieces, wholeToken_tokenText]
      have cut : split (literal (tokenText index) ++ dumpJson data) =
          literalPieces (tokenText index) ++ split (dumpJson data) :=
        split_literal dumpJson_head
      rwa [whole] at cut

private theorem tokens_dumpJson_length :
    (tokens (split (dumpJson data))).length = (made data).length + (spelledBy data).length := by
  rw [split_dumpJson]
  induction data with
  | nil => rfl
  | cons written data ih =>
    cases written with
    | raw bare => simpa [Written.pieces, made, spelledBy] using ih
    | string text =>
      simp only [flatMap_cons, tokens_append, length_append, ih, Written.pieces,
        tokens_literalPieces, made, spelledBy, filterMap_cons]
      omega
    | token index =>
      simp only [flatMap_cons, tokens_append, length_append, ih, Written.pieces,
        tokens_token, tokens_nil, made, spelledBy, filterMap_cons, length_cons,
        length_nil, nil_append]
      omega

end

/-! ## Failures -/

def refusal (size : Nat) (digits : Text) : Option ExpandError :=
  if maxStrDigits < digits.length then some .value
  else if Nat.ofDigitChars 10 digits 0 < size then none
  else some .index

def Uses {Result : Type} (size : Nat) (used : Result → Nat) (digits : List Text)
    (outcome : Except ExpandError Result) : Prop :=
  match digits.findSome? (refusal size) with
  | some error => outcome = .error error
  | none => ∃ result, outcome = .ok result ∧ used result = digits.length

namespace Uses

variable {First Second Result : Type} {size : Nat} {first second : List Text}
  {usedFirst : First → Nat} {usedSecond : Second → Nat} {used : Result → Nat}

private theorem none {result : Result} (unused : used result = 0) : Uses size used []
    (.ok result) :=
  ⟨result, rfl, unused⟩

private theorem map {outcome : Except ExpandError First} {rewrite : First → Result}
    (uses : Uses size usedFirst first outcome)
    (kept : ∀ result, used (rewrite result) = usedFirst result) :
    Uses size used first (outcome.map rewrite) := by
  unfold Uses at uses ⊢
  split at uses
  · rw [uses]
    rfl
  · obtain ⟨result, rfl, counted⟩ := uses
    exact ⟨rewrite result, rfl, (kept result).trans counted⟩

private theorem bind {outcome : Except ExpandError First} {next : First → Except ExpandError Second}
    {combine : First → Second → Result} (before : Uses size usedFirst first outcome)
    (after : ∀ result, outcome = .ok result → Uses size usedSecond second (next result))
    (added : ∀ result later, used (combine result later) = usedFirst result + usedSecond later) :
    Uses size used (first ++ second)
      (outcome >>= fun result => (next result).map (combine result)) := by
  unfold Uses at before
  cases refused : first.findSome? (refusal size) with
  | some error =>
    rw [refused] at before
    unfold Uses
    rw [findSome?_append, refused, before]
    rfl
  | none =>
    rw [refused] at before
    obtain ⟨result, rfl, counted⟩ := before
    have later := after result rfl
    have onward : (.ok result >>= fun result => (next result).map (combine result)) =
        (next result).map (combine result) := rfl
    unfold Uses at later ⊢
    rw [findSome?_append, refused, Option.none_or, onward]
    split at later
    · rw [later]
      rfl
    · obtain ⟨last, ran, countedLast⟩ := later
      refine ⟨combine result last, by rw [ran]; rfl, ?_⟩
      rw [added, counted, countedLast, length_append]

end Uses

section
variable {texts : List Text} {digits : Text}

private theorem textAt_refused {error : ExpandError}
    (refused : refusal texts.length digits = some error) :
    textAt texts digits = .error error := by
  unfold refusal at refused
  unfold textAt
  split_ifs at refused with long known
  · cases refused
    rw [if_pos long]
  · cases refused
    rw [if_neg long, getElem?_eq_none (by omega)]

theorem textAt_known (known : refusal texts.length digits = none) :
    ∃ text, texts[Nat.ofDigitChars 10 digits 0]? = some text ∧ textAt texts digits = .ok text := by
  unfold refusal at known
  unfold textAt
  split_ifs at known with long within
  refine ⟨texts[Nat.ofDigitChars 10 digits 0], getElem?_eq_getElem within, ?_⟩
  rw [if_neg long, getElem?_eq_getElem within]

private theorem textAt_uses : Uses texts.length (fun _ => 1) [digits] (textAt texts digits) := by
  unfold Uses
  cases refused : refusal texts.length digits with
  | some error => simpa [refused] using textAt_refused refused
  | none =>
    obtain ⟨text, -, read⟩ := textAt_known refused
    simp [refused, read]

private theorem splice_uses (pieces : List Piece) :
    Uses texts.length Prod.snd (tokens pieces) (splice texts pieces) := by
  induction pieces with
  | nil => exact .none rfl
  | cons piece rest ih =>
    cases piece with
    | char char => exact ih.map fun _ => rfl
    | token digits =>
      refine textAt_uses.bind (fun _ _ => ih) ?_
      intro text after
      exact Nat.add_comm after.2 1

private theorem expand_uses (template : Text) :
    Uses texts.length Prod.snd (tokens (split template)) (expand texts template) :=
  splice_uses (split template)

private theorem resolvePending_uses (pending : List Pending) :
    Uses texts.length Prod.snd (pending.flatMap fun entry => tokens (split (dumpJson entry.data)))
      (resolvePending pending texts) := by
  induction pending generalizing texts with
  | nil => exact .none rfl
  | cons entry rest ih =>
    refine (expand_uses _).bind (fun found _ => ?_) fun _ _ => rfl
    have same : (texts.set entry.index found.1).length = texts.length := length_set
    exact same ▸ ih

variable {pending : List Pending} {size : Nat}

theorem resolvePending_length {resolved : List Text} {used : Nat}
    (ran : resolvePending pending texts = .ok (resolved, used)) :
    resolved.length = texts.length := by
  induction pending generalizing texts used with
  | nil =>
    cases ran
    rfl
  | cons entry rest ih =>
    obtain ⟨found, -, continued⟩ := bind_ok ran
    obtain ⟨⟨later, more⟩, resolved, same⟩ := map_ok continued
    cases same
    rw [ih resolved, length_set]

def templateTokens (pending : List Pending) (document : List Written) : List Text :=
  (pending.flatMap fun entry => tokens (split (dumpJson entry.data))) ++
    tokens (split (dumpJson document))

theorem resolve_uses (fragments : Fragments) (document : List Written) :
    Uses fragments.texts.length Resolved.used (templateTokens fragments.pending document)
      (resolve fragments (dumpJson document)) := by
  refine (resolvePending_uses fragments.pending).bind (fun found ran => ?_) fun _ _ => rfl
  have same : found.1.length = fragments.texts.length := resolvePending_length ran
  exact same ▸ expand_uses (dumpJson document)

theorem refusal_made (within : index < size) (few : size ≤ 10 ^ maxStrDigits) :
    refusal size (Nat.toDigits 10 index) = none := by
  have short : (Nat.toDigits 10 index).length ≤ maxStrDigits :=
    (Nat.length_toDigits_le_iff (by decide) (by decide)).mpr (within.trans_le few)
  have read : Nat.ofDigitChars 10 (Nat.toDigits 10 index) 0 = index :=
    Nat.ofDigitChars_toDigits (by decide) (by decide)
  unfold refusal
  rw [if_neg (Nat.not_lt.mpr short), read, if_pos within]

private theorem refused_dumpJson (within : ∀ index ∈ made data, index < size)
    (few : size ≤ 10 ^ maxStrDigits) :
    (tokens (split (dumpJson data))).findSome? (refusal size) =
      (spelledBy data).findSome? (refusal size) := by
  rw [split_dumpJson]
  induction data with
  | nil => rfl
  | cons written data ih =>
    rw [flatMap_cons, tokens_append, findSome?_append]
    cases written with
    | raw bare => simpa [Written.pieces, spelledBy] using ih within
    | string text =>
      rw [ih within]
      simp [Written.pieces, tokens_literalPieces, spelledBy]
    | token index =>
      obtain ⟨here, later⟩ := forall_mem_cons.mp within
      rw [ih later]
      simp [Written.pieces, refusal_made here few, spelledBy]

theorem refused_templates (within : ∀ entry ∈ pending, ∀ index ∈ made entry.data, index < size)
    (outer : ∀ index ∈ made document, index < size) (few : size ≤ 10 ^ maxStrDigits) :
    (templateTokens pending document).findSome? (refusal size) =
      ((pending.flatMap fun entry => spelledBy entry.data) ++ spelledBy document).findSome?
        (refusal size) := by
  unfold templateTokens
  rw [findSome?_append, findSome?_append, refused_dumpJson outer few]
  congr 1
  induction pending with
  | nil => rfl
  | cons entry rest ih =>
    have later := ih fun entry mem => within entry (mem_cons_of_mem _ mem)
    rw [flatMap_cons, flatMap_cons, findSome?_append, findSome?_append, later,
      refused_dumpJson (within entry mem_cons_self) few]

theorem templateTokens_length :
    (templateTokens pending document).length =
      ((pending.flatMap fun entry => made entry.data).length + (made document).length) +
        ((pending.flatMap fun entry => spelledBy entry.data) ++ spelledBy document).length := by
  unfold templateTokens
  induction pending with
  | nil => simp [tokens_dumpJson_length]
  | cons entry rest ih =>
    simp only [flatMap_cons, length_append, tokens_dumpJson_length] at ih ⊢
    omega

end

end VibeServeCore.Values
