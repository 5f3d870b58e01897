/-
# Texts in documents

The characters between quote marks, with their escapes undone. Two surrogate
escapes in a row give one character; a surrogate without its partner is a fault
where the text is wanted and is passed over where it is not. Each reading
function comes with the fact that it leaves no more text than it was given.
-/

import NetTopology.Json.Fault

namespace NetTopology.Json

/-- Whether a character is a blank of JSON. -/
def isBlank (c : Char) : Bool :=
  c = ' ' || c = '\n' || c = '\t' || c = '\r'

/-- The text without the blanks at its head. -/
def skipBlanks (text : List Char) : List Char :=
  text.dropWhile isBlank

theorem length_skipBlanks_le (text : List Char) : (skipBlanks text).length ≤ text.length :=
  (List.dropWhile_suffix isBlank).length_le

/-- Read the rest of a word that is already certain from its first character. -/
def readWord : List Char → List Char → Except Fault (List Char)
  | [], text => .ok text
  | _ :: _, [] => .error .truncated
  | c :: word, d :: text => if c = d then readWord word text else .error .malformed

theorem length_readWord_le {word text rest : List Char} (h : readWord word text = .ok rest) :
    rest.length ≤ text.length := by
  fun_induction readWord word text with
  | case1 text => simp_all
  | case2 => simp at h
  | case3 c word text ih => exact Nat.le_succ_of_le (ih h)
  | case4 => simp at h

/-- The value of a hexadecimal digit. -/
def hexValue? (c : Char) : Option Nat :=
  if c.isDigit then some (c.toNat - '0'.toNat)
  else if 'a' ≤ c ∧ c ≤ 'f' then some (c.toNat - 'a'.toNat + 10)
  else if 'A' ≤ c ∧ c ≤ 'F' then some (c.toNat - 'A'.toNat + 10)
  else none

def byteSize (text : List Char) : Nat :=
  text.foldl (fun size c => size + c.utf8Size) 0

/-- Four hexadecimal digits. With less than four bytes left the text ends too
early; with four bytes that are no digits it is malformed. -/
def readHex (text : List Char) : Except Fault (Nat × List Char) :=
  match text with
  | a :: b :: c :: d :: rest =>
    match hexValue? a, hexValue? b, hexValue? c, hexValue? d with
    | some a, some b, some c, some d => .ok (16 * (16 * (16 * a + b) + c) + d, rest)
    | _, _, _, _ => .error .malformed
  | short => if byteSize short < 4 then .error .truncated else .error .malformed

theorem length_readHex_le {text rest : List Char} {value : Nat}
    (h : readHex text = .ok (value, rest)) : rest.length ≤ text.length := by
  unfold readHex at h
  split at h
  · split at h
    · simp only [Except.ok.injEq, Prod.mk.injEq] at h
      simp only [← h.2, List.length_cons]
      omega
    · simp at h
  · split at h <;> simp at h

/-- Whether a number is the first half of a surrogate pair. -/
def isHighSurrogate (value : Nat) : Bool :=
  0xD800 ≤ value && value ≤ 0xDBFF

/-- Whether a number is the second half of a surrogate pair. -/
def isLowSurrogate (value : Nat) : Bool :=
  0xDC00 ≤ value && value ≤ 0xDFFF

/-- The character of a surrogate pair. -/
def joinSurrogates (high low : Nat) : Char :=
  Char.ofNat (0x10000 + 0x400 * (high - 0xD800) + (low - 0xDC00))

/-- The second half of a surrogate pair, which has to follow the first one. -/
def readLowSurrogate (high : Nat) (text : List Char) : Except Fault (Char × List Char) :=
  match text with
  | [] => .error .truncated
  | ['\\'] => .error .truncated
  | '\\' :: 'u' :: rest =>
    match readHex rest with
    | .error fault => .error fault
    | .ok (low, rest) =>
      if isLowSurrogate low then .ok (joinSurrogates high low, rest) else .error .malformed
  | _ => .error .malformed

theorem length_readLowSurrogate_le {high : Nat} {text rest : List Char} {c : Char}
    (h : readLowSurrogate high text = .ok (c, rest)) : rest.length ≤ text.length := by
  unfold readLowSurrogate at h
  split at h
  · simp at h
  · simp at h
  · split at h
    · simp at h
    · rename_i hhex
      split at h
      · simp only [Except.ok.injEq, Prod.mk.injEq] at h
        have := length_readHex_le hhex
        simp only [← h.2, List.length_cons]
        omega
      · simp at h
  · simp at h

/-- The character that one letter after a backslash stands for. -/
def simpleEscape? (c : Char) : Option Char :=
  if c = '"' then some '"'
  else if c = '\\' then some '\\'
  else if c = '/' then some '/'
  else if c = 'b' then some '\x08'
  else if c = 'f' then some '\x0c'
  else if c = 'n' then some '\n'
  else if c = 'r' then some '\r'
  else if c = 't' then some '\t'
  else none

/-- The character that an escape stands for; the backslash is already read. -/
def readEscape (text : List Char) : Except Fault (Char × List Char) :=
  match text with
  | [] => .error .truncated
  | c :: rest =>
    if c = 'u' then
      match readHex rest with
      | .error fault => .error fault
      | .ok (value, rest) =>
        if isLowSurrogate value then .error .malformed
        else if isHighSurrogate value then readLowSurrogate value rest
        else .ok (Char.ofNat value, rest)
    else
      match simpleEscape? c with
      | some c => .ok (c, rest)
      | none => .error .malformed

theorem length_readEscape_le {text rest : List Char} {c : Char}
    (h : readEscape text = .ok (c, rest)) : rest.length ≤ text.length := by
  unfold readEscape at h
  split at h
  · simp at h
  · rename_i d tail
    split at h
    · split at h
      · simp at h
      · rename_i hhex
        have htail := length_readHex_le hhex
        split at h
        · simp at h
        · split at h
          · have := length_readLowSurrogate_le h
            simp only [List.length_cons]
            omega
          · simp only [Except.ok.injEq, Prod.mk.injEq] at h
            simp only [← h.2, List.length_cons]
            omega
    · split at h
      · simp only [Except.ok.injEq, Prod.mk.injEq] at h
        simp [← h.2]
      · simp at h

/-- Pass over an escape without asking for its character. -/
def skipEscape (text : List Char) : Except Fault (List Char) :=
  match text with
  | [] => .error .truncated
  | c :: rest =>
    if c = 'u' then (readHex rest).map Prod.snd
    else if (simpleEscape? c).isSome then .ok rest
    else .error .malformed

theorem length_skipEscape_le {text rest : List Char} (h : skipEscape text = .ok rest) :
    rest.length ≤ text.length := by
  unfold skipEscape at h
  split at h
  · simp at h
  · rename_i c tail
    split at h
    · cases hhex : readHex tail with
      | error fault => simp [hhex, Except.map] at h
      | ok read =>
        have := length_readHex_le hhex
        simp only [hhex, Except.map, Except.ok.injEq] at h
        simp only [← h, List.length_cons]
        omega
    · split at h
      · simp_all
      · simp at h

/-- The characters up to the closing quote mark; the opening one is already read. -/
def readQuoted (text : List Char) : Except Fault (List Char × List Char) :=
  match text with
  | [] => .error .truncated
  | c :: rest =>
    if c = '"' then .ok ([], rest)
    else if c = '\\' then
      match _h : readEscape rest with
      | .error fault => .error fault
      | .ok (d, rest) => (readQuoted rest).map fun (chars, rest) => (d :: chars, rest)
    else if c.toNat < 32 then .error .malformed
    else (readQuoted rest).map fun (chars, rest) => (c :: chars, rest)
termination_by text.length
decreasing_by
  · have := length_readEscape_le _h
    simp only [List.length_cons]
    omega
  · simp

theorem length_readQuoted_le {text rest chars : List Char}
    (h : readQuoted text = .ok (chars, rest)) : rest.length ≤ text.length := by
  fun_induction readQuoted text generalizing chars rest with
  | case1 => simp at h
  | case2 => simp_all
  | case3 => simp at h
  | case4 tail d tail' hescape hquote ih =>
    cases hread : readQuoted tail' with
    | error fault => simp [hread, Except.map] at h
    | ok read =>
      have hshort := length_readEscape_le hescape
      have hread' := ih hread
      simp only [hread, Except.map, Except.ok.injEq, Prod.mk.injEq] at h
      simp only [← h.2, List.length_cons]
      omega
  | case5 => simp at h
  | case6 c tail hc hb hcontrol ih =>
    cases hread : readQuoted tail with
    | error fault => simp [hread, Except.map] at h
    | ok read =>
      have hread' := ih hread
      simp only [hread, Except.map, Except.ok.injEq, Prod.mk.injEq] at h
      simp only [← h.2, List.length_cons]
      omega

/-- Pass over the characters up to the closing quote mark. -/
def skipQuoted (text : List Char) : Except Fault (List Char) :=
  match text with
  | [] => .error .truncated
  | c :: rest =>
    if c = '"' then .ok rest
    else if c = '\\' then
      match _h : skipEscape rest with
      | .error fault => .error fault
      | .ok rest => skipQuoted rest
    else if c.toNat < 32 then .error .malformed
    else skipQuoted rest
termination_by text.length
decreasing_by
  · have := length_skipEscape_le _h
    simp only [List.length_cons]
    omega
  · simp

theorem length_skipQuoted_le {text rest : List Char} (h : skipQuoted text = .ok rest) :
    rest.length ≤ text.length := by
  fun_induction skipQuoted text generalizing rest with
  | case1 => simp at h
  | case2 => simp_all
  | case3 => simp at h
  | case4 tail tail' hescape hquote ih =>
    have := length_skipEscape_le hescape
    have := ih h
    simp only [List.length_cons]
    omega
  | case5 => simp at h
  | case6 c tail hc hb hcontrol ih => exact Nat.le_succ_of_le (ih h)

end NetTopology.Json
