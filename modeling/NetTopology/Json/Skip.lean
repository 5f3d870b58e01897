/-
# Values that are passed over

The value of an unknown field is not wanted, but it has to be JSON. It is
passed over without recursion: the open brackets are kept on a stack, so values
may nest as deep as they like. Nothing in them is valued, so neither the size
of numbers nor the pairing of surrogates matters.
-/

import NetTopology.Json.Number
import NetTopology.Json.Text

namespace NetTopology.Json

theorem length_lt_of_skipBlanks_eq_cons {text rest : List Char} {c : Char}
    (h : skipBlanks text = c :: rest) : rest.length < text.length := by
  have := length_skipBlanks_le text
  rw [h, List.length_cons] at this
  omega

namespace Numeral

theorem length_spanDigits_lt {text rest : List Char} {digit : Nat} {digits : List Nat}
    (h : spanDigits text = (digit :: digits, rest)) : rest.length < text.length := by
  cases text with
  | nil => simp [spanDigits] at h
  | cons c tail =>
    simp only [spanDigits] at h
    split at h
    · have := length_spanDigits_le tail
      simp only [Prod.mk.injEq] at h
      simp only [← h.2, List.length_cons]
      omega
    · simp at h

theorem length_spanWhole_lt {text rest : List Char} {digits : List Nat}
    (h : spanWhole text = .ok (digits, rest)) : rest.length < text.length := by
  unfold spanWhole at h
  split at h
  · simp at h
  · simp at h
  · rename_i digits' rest' hempty _ hspan
    simp only [Except.ok.injEq, Prod.mk.injEq] at h
    cases digits' with
    | nil => exact (hempty rfl).elim
    | cons digit digits' => exact h.2 ▸ length_spanDigits_lt hspan

theorem length_spanFraction_le {text rest : List Char} {digits : Option (List Nat)}
    (h : spanFraction text = .ok (digits, rest)) : rest.length ≤ text.length := by
  unfold spanFraction at h
  split at h
  · rename_i tail
    have := length_spanDigits_le tail
    split at h
    · simp at h
    · rename_i hspan
      simp only [hspan] at this
      simp only [Except.ok.injEq, Prod.mk.injEq] at h
      simp only [← h.2, List.length_cons]
      omega
  · simp_all

theorem length_spanSign_le (text : List Char) : (spanSign text).2.length ≤ text.length := by
  unfold spanSign
  split <;> simp

theorem length_spanExponent_le {text rest : List Char} {digits : Option (Bool × List Nat)}
    (h : spanExponent text = .ok (digits, rest)) : rest.length ≤ text.length := by
  unfold spanExponent at h
  split at h
  · simp_all
  · rename_i c tail
    split at h
    · have hsign := length_spanSign_le tail
      have hdigits := length_spanDigits_le (spanSign tail).2
      dsimp only at h
      split at h
      · simp at h
      · rename_i hspan
        simp only [hspan] at hdigits
        simp only [Except.ok.injEq, Prod.mk.injEq] at h
        simp only [← h.2, List.length_cons]
        omega
    · simp_all

theorem length_spanUnsigned_lt {negative : Bool} {text rest : List Char} {numeral : Numeral}
    (h : spanUnsigned negative text = .ok (numeral, rest)) : rest.length < text.length := by
  unfold spanUnsigned at h
  cases hwhole : spanWhole text with
  | error => simp [hwhole, bind, Except.bind] at h
  | ok whole =>
    cases hfraction : spanFraction whole.2 with
    | error => simp [hwhole, hfraction, bind, Except.bind] at h
    | ok fraction =>
      cases hexponent : spanExponent fraction.2 with
      | error => simp [hwhole, hfraction, hexponent, bind, Except.bind] at h
      | ok exponent =>
        simp only [hwhole, hfraction, hexponent, bind, Except.bind, pure, Except.pure,
          Except.ok.injEq, Prod.mk.injEq] at h
        have := length_spanWhole_lt hwhole
        have := length_spanFraction_le hfraction
        have := length_spanExponent_le hexponent
        have := congrArg List.length h.2
        omega

theorem length_span_le {c : Char} {text rest : List Char} {numeral : Numeral}
    (h : span c text = .ok (numeral, rest)) : rest.length ≤ text.length := by
  unfold span at h
  split at h
  · exact Nat.le_of_lt (length_spanUnsigned_lt h)
  · exact Nat.le_of_lt_succ (length_spanUnsigned_lt h)

end Numeral

/-- Pass over a value without brackets that starts with the given character. A
number that breaks off is malformed here. -/
def skipScalar (c : Char) (text : List Char) : Except Fault (List Char) :=
  if c = 'n' then readWord ['u', 'l', 'l'] text
  else if c = 't' then readWord ['r', 'u', 'e'] text
  else if c = 'f' then readWord ['a', 'l', 's', 'e'] text
  else if c = '"' then skipQuoted text
  else if Numeral.startsWith c then
    match Numeral.span c text with
    | .ok (_, rest) => .ok rest
    | .error _ => .error .malformed
  else .error .malformed

theorem length_skipScalar_le {c : Char} {text rest : List Char}
    (h : skipScalar c text = .ok rest) : rest.length ≤ text.length := by
  unfold skipScalar at h
  split at h
  · exact length_readWord_le h
  split at h
  · exact length_readWord_le h
  split at h
  · exact length_readWord_le h
  split at h
  · exact length_skipQuoted_le h
  split at h
  · split at h
    · rename_i hspan
      exact Except.ok.inj h ▸ Numeral.length_span_le hspan
    · simp at h
  · simp at h

/-- Pass over the colon between a key and its value. -/
def readColon (text : List Char) : Except Fault (List Char) :=
  match skipBlanks text with
  | [] => .error .truncated
  | c :: rest => if c = ':' then .ok rest else .error .malformed

theorem length_readColon_lt {text rest : List Char} (h : readColon text = .ok rest) :
    rest.length < text.length := by
  unfold readColon at h
  split at h
  · simp at h
  · rename_i hblanks
    split at h
    · exact Except.ok.inj h ▸ length_lt_of_skipBlanks_eq_cons hblanks
    · simp at h

/-- Pass over a key and the colon after it. -/
def skipKey (text : List Char) : Except Fault (List Char) :=
  match skipBlanks text with
  | [] => .error .truncated
  | c :: rest => if c = '"' then (skipQuoted rest).bind readColon else .error .malformed

theorem length_skipKey_lt {text rest : List Char} (h : skipKey text = .ok rest) :
    rest.length < text.length := by
  unfold skipKey at h
  split at h
  · simp at h
  · rename_i tail hblanks
    split at h
    · cases hquoted : skipQuoted tail with
      | error => simp [hquoted, Except.bind] at h
      | ok unquoted =>
        simp only [hquoted, Except.bind] at h
        have := length_lt_of_skipBlanks_eq_cons hblanks
        have := length_skipQuoted_le hquoted
        have := length_readColon_lt h
        omega
    · simp at h

/-- A bracket that is still open. -/
inductive Bracket where
  /-- The bracket of an array. -/
  | square
  /-- The bracket of an object. -/
  | curly

/-- The character that closes a bracket. -/
def Bracket.closing : Bracket → Char
  | square => ']'
  | curly => '\x7d'

/-- What comes next inside open brackets. -/
inductive Place where
  /-- A value. -/
  | value
  /-- A comma or the end of the innermost bracket. -/
  | next

/-- Pass over the rest of a value that has the given brackets open. -/
def skipInside (place : Place) (inside : List Bracket) (text : List Char) :
    Except Fault (List Char) :=
  match place, inside with
  | .next, [] => .ok text
  | .next, bracket :: outside =>
    match _h : skipBlanks text with
    | [] => .error .truncated
    | c :: rest =>
      if c = bracket.closing then skipInside .next outside rest
      else if c = ',' then
        match bracket with
        | .square => skipInside .value inside rest
        | .curly =>
          match _k : skipKey rest with
          | .error fault => .error fault
          | .ok rest => skipInside .value inside rest
      else .error .malformed
  | .value, inside =>
    match _h : skipBlanks text with
    | [] => .error .truncated
    | c :: rest =>
      if c = '[' then
        match _d : skipBlanks rest with
        | [] => .error .truncated
        | d :: tail =>
          if d = ']' then skipInside .next inside tail
          else skipInside .value (.square :: inside) rest
      else if c = '\x7b' then
        match _d : skipBlanks rest with
        | [] => .error .truncated
        | d :: tail =>
          if d = '\x7d' then skipInside .next inside tail
          else
            match _k : skipKey rest with
            | .error fault => .error fault
            | .ok rest => skipInside .value (.curly :: inside) rest
      else
        match _k : skipScalar c rest with
        | .error fault => .error fault
        | .ok rest => skipInside .next inside rest
termination_by text.length
decreasing_by
  all_goals
    have := length_lt_of_skipBlanks_eq_cons _h
    first
      | omega
      | (have hshort := length_lt_of_skipBlanks_eq_cons _d; omega)
      | (have hshort := length_skipKey_lt _k; omega)
      | (have hshort := length_skipScalar_le _k; omega)

/-- Passing over a value takes at least one character of the text, and passing
over the rest of one gives none back. -/
theorem length_skipInside {place : Place} {inside : List Bracket} {text rest : List Char}
    (h : skipInside place inside text = .ok rest) :
    rest.length ≤ text.length ∧ (place = .value → rest.length < text.length) := by
  fun_induction skipInside place inside text generalizing rest <;>
    grind [→ length_lt_of_skipBlanks_eq_cons, → length_skipKey_lt, → length_skipScalar_le]

end NetTopology.Json
