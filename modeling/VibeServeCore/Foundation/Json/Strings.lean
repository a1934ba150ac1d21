/- digest: JSON strings: how they are written. -/

import Mathlib.Data.Nat.Digits.Defs

namespace VibeServeCore.Foundation.Json

abbrev Text := List Char

def nul : Char := '\x00'
def quote : Char := '\x22'
def backslash : Char := '\x5c'

def escapeChar (char : Char) : Text :=
  if char = quote then [backslash, quote]
  else if char = backslash then [backslash, backslash]
  else if char = '\x08' then [backslash, 'b']
  else if char = '\x09' then [backslash, 't']
  else if char = '\x0a' then [backslash, 'n']
  else if char = '\x0c' then [backslash, 'f']
  else if char = '\x0d' then [backslash, 'r']
  else if char.toNat < 32 then
    [backslash, 'u', '0', '0', Nat.digitChar (char.toNat / 16), Nat.digitChar (char.toNat % 16)]
  else [char]

def escape (text : Text) : Text := text.flatMap escapeChar

def literal (text : Text) : Text := quote :: (escape text ++ [quote])

def strip : Text → Text → Option Text
  | [], text => some text
  | _ :: _, [] => none
  | wanted :: expected, char :: text => if wanted = char then strip expected text else none

@[simp] theorem escape_nil : escape [] = [] := rfl

@[simp] theorem escape_cons {char : Char} {text : Text} :
    escape (char :: text) = escapeChar char ++ escape text := rfl

theorem escapeChar_shape (char : Char) :
    (escapeChar char = [char] ∧ char ≠ quote ∧ char ≠ backslash) ∨
      ∃ more, escapeChar char = backslash :: more := by
  unfold escapeChar
  by_cases quoted : char = quote
  · exact .inr ⟨_, if_pos quoted⟩
  by_cases escaped : char = backslash
  · exact .inr ⟨_, by rw [if_neg quoted, if_pos escaped]⟩
  split_ifs
  case neg => exact .inl ⟨rfl, quoted, escaped⟩
  all_goals exact .inr ⟨_, rfl⟩

end VibeServeCore.Foundation.Json
