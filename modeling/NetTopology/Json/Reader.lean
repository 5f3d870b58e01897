/-
# Typed readers

A reader takes one value of a known shape from the head of a text. Shapes are
put together from readers of texts and numbers by optional values, arrays and
objects; `Reader.shorter` says that each reader takes at least one character,
which is why arrays and objects end. Readers work in one pass, so the first
fault in the text is the one that is reported.

A value of the wrong shape is looked at only as far as it takes to know its
shape: an array or object by its bracket, everything else whole.
-/

import NetTopology.Json.Skip
import NetTopology.Address

namespace NetTopology.Json

universe u v w

/-- The fault of a reading; a value that can be read has the wrong shape. -/
def faultOf {α : Type u} : Except Fault α → Fault
  | .error fault => fault
  | .ok _ => .misshapen none

/-- The fault of a value that starts with the given character but should have
another shape. -/
def unexpected (c : Char) (text : List Char) : Fault :=
  if c = 'n' then faultOf (readWord ['u', 'l', 'l'] text)
  else if c = 't' then faultOf (readWord ['r', 'u', 'e'] text)
  else if c = 'f' then faultOf (readWord ['a', 'l', 's', 'e'] text)
  else if c = '"' then faultOf (readQuoted text)
  else if Numeral.startsWith c then
    match Numeral.span c text with
    | .error fault => fault
    | .ok (numeral, _) => if numeral.value?.isSome then .misshapen none else .malformed
  else if c = '[' ∨ c = '\x7b' then .misshapen none
  else .malformed

/-- A reader of values at the head of a text. -/
structure Reader (α : Type u) where
  /-- The value at the head of a text and what follows it. -/
  run : List Char → Except Fault (α × List Char)
  /-- A value takes at least one character. -/
  shorter : ∀ {text rest : List Char} {value : α},
    run text = .ok (value, rest) → rest.length < text.length

namespace Reader

variable {α : Type u} {β : Type v} {σ : Type w}

/-- Read a value by its first character; blanks before it are passed over. -/
def runHead (read : Char → List Char → Except Fault (α × List Char)) (text : List Char) :
    Except Fault (α × List Char) :=
  match skipBlanks text with
  | [] => .error .truncated
  | c :: rest => read c rest

theorem length_runHead_lt {read : Char → List Char → Except Fault (α × List Char)}
    (shrinks : ∀ {c : Char} {text rest : List Char} {value : α},
      read c text = .ok (value, rest) → rest.length ≤ text.length)
    {text rest : List Char} {value : α} (h : runHead read text = .ok (value, rest)) :
    rest.length < text.length := by
  unfold runHead at h
  split at h
  · simp at h
  · rename_i hblanks
    have := shrinks h
    have := length_lt_of_skipBlanks_eq_cons hblanks
    omega

/-- A reader that looks at the first character that is no blank. -/
def ofHead (read : Char → List Char → Except Fault (α × List Char))
    (shrinks : ∀ {c : Char} {text rest : List Char} {value : α},
      read c text = .ok (value, rest) → rest.length ≤ text.length) : Reader α where
  run := runHead read
  shorter h := length_runHead_lt shrinks h

/-- Continue with the value that was read, which may turn out not to fit. -/
def runAndThen (reader : Reader α) (use : α → Except Fault β) (text : List Char) :
    Except Fault (β × List Char) :=
  match reader.run text with
  | .error fault => .error fault
  | .ok (value, rest) =>
    match use value with
    | .error fault => .error fault
    | .ok result => .ok (result, rest)

/-- A reader whose value is checked or changed after it is read. -/
def andThen (reader : Reader α) (use : α → Except Fault β) : Reader β where
  run := runAndThen reader use
  shorter h := by
    unfold runAndThen at h
    split at h
    · simp at h
    · rename_i hrun
      split at h
      · simp at h
      · simp only [Except.ok.injEq, Prod.mk.injEq] at h
        exact h.2 ▸ reader.shorter hrun

/-- A reader whose value is changed after it is read. -/
def map (use : α → β) (reader : Reader α) : Reader β :=
  reader.andThen fun value => .ok (use value)

/-- The text between quote marks. -/
def readText (c : Char) (text : List Char) : Except Fault (List Char × List Char) :=
  if c = '"' then readQuoted text else .error (unexpected c text)

/-- A text, as characters. -/
def chars : Reader (List Char) :=
  ofHead readText fun h => by
    unfold readText at h
    split at h
    · exact length_readQuoted_le h
    · simp at h

def text : Reader String :=
  chars.map String.ofList

/-- The number that starts with the given character. -/
def readNumber (c : Char) (text : List Char) : Except Fault (Number × List Char) :=
  if Numeral.startsWith c then
    match Numeral.span c text with
    | .error fault => .error fault
    | .ok (numeral, rest) =>
      match numeral.value? with
      | some number => .ok (number, rest)
      | none => .error .malformed
  else .error (unexpected c text)

def number : Reader Number :=
  ofHead readNumber fun h => by
    unfold readNumber at h
    split at h
    · split at h
      · simp at h
      · rename_i hspan
        split at h
        · simp only [Except.ok.injEq, Prod.mk.injEq] at h
          exact h.2 ▸ Numeral.length_span_le hspan
        · simp at h
    · simp at h

/-- A whole number that is not negative and below the limit. -/
def natural (limit : Nat) : Reader Nat :=
  number.andThen fun
    | .natural value => if value < limit then .ok value else .error (.misshapen none)
    | _ => .error (.misshapen none)

/-- A whole number that fits in a signed word of 64 bits. -/
def integer : Reader Int64 :=
  number.andThen fun
    | .natural value =>
      if value < 1 <<< 63 then .ok (Int64.ofNat value) else .error (.misshapen none)
    | .negative value => .ok (-Int64.ofNat value)
    | .double _ => .error (.misshapen none)

def double : Reader Float :=
  number.map fun
    | .natural value => Float.ofNat value
    | .negative value => -Float.ofNat value
    | .double value => value

/-- An IPv4 address in its dotted form. -/
def address : Reader Address :=
  chars.andThen fun chars =>
    match Address.ofText? chars with
    | some address => .ok address
    | none => .error (.misshapen (some .badAddress))

/-- A value or null. -/
def readOptional (reader : Reader α) (c : Char) (text : List Char) :
    Except Fault (Option α × List Char) :=
  if c = 'n' then
    match readWord ['u', 'l', 'l'] text with
    | .error fault => .error fault
    | .ok rest => .ok (none, rest)
  else
    match reader.run (c :: text) with
    | .error fault => .error fault
    | .ok (value, rest) => .ok (some value, rest)

/-- A value that may be null. -/
def optional (reader : Reader α) : Reader (Option α) :=
  ofHead (readOptional reader) fun h => by
    unfold readOptional at h
    split at h
    · split at h
      · simp at h
      · rename_i hword
        simp only [Except.ok.injEq, Prod.mk.injEq] at h
        exact h.2 ▸ length_readWord_le hword
    · split at h
      · simp at h
      · rename_i hrun
        simp only [Except.ok.injEq, Prod.mk.injEq] at h
        exact Nat.le_of_lt_succ (h.2 ▸ reader.shorter hrun)

/-- Null and nothing else. -/
def readNull (c : Char) (text : List Char) : Except Fault (Unit × List Char) :=
  if c = 'n' then (readWord ['u', 'l', 'l'] text).map fun rest => ((), rest)
  else .error (unexpected c text)

def null : Reader Unit :=
  ofHead readNull fun {c text rest _} h => by
    unfold readNull at h
    split at h
    · cases hword : readWord ['u', 'l', 'l'] text with
      | error => simp [hword, Except.map] at h
      | ok tail =>
        simp only [hword, Except.map, Except.ok.injEq, Prod.mk.injEq] at h
        exact h.2 ▸ length_readWord_le hword
    · simp at h

/-- The items of an array up to its end; the head of the text is an item. -/
def readItems (item : Reader α) (text : List Char) : Except Fault (List α × List Char) :=
  match _h : item.run text with
  | .error fault => .error fault
  | .ok (value, rest) =>
    match _k : skipBlanks rest with
    | [] => .error .truncated
    | c :: tail =>
      if c = ']' then .ok ([value], tail)
      else if c = ',' then
        match skipBlanks tail with
        | [] => .error .truncated
        | ']' :: _ => .error .malformed
        | _ =>
          match readItems item tail with
          | .error fault => .error fault
          | .ok (values, rest) => .ok (value :: values, rest)
      else .error .malformed
termination_by text.length
decreasing_by
  have := item.shorter _h
  have := length_lt_of_skipBlanks_eq_cons _k
  omega

theorem length_readItems_lt {item : Reader α} {text rest : List Char} {values : List α}
    (h : readItems item text = .ok (values, rest)) : rest.length < text.length := by
  fun_induction readItems item text generalizing values rest <;>
    grind [→ length_lt_of_skipBlanks_eq_cons, → Reader.shorter]

/-- An array after its first character. -/
def readArray (item : Reader α) (c : Char) (text : List Char) :
    Except Fault (List α × List Char) :=
  if c = '[' then
    match skipBlanks text with
    | [] => .error .truncated
    | ']' :: rest => .ok ([], rest)
    | _ => readItems item text
  else .error (unexpected c text)

def array (item : Reader α) : Reader (List α) :=
  ofHead (readArray item) fun h => by
    unfold readArray at h
    split at h
    · split at h
      · simp at h
      · rename_i hblanks
        simp only [Except.ok.injEq, Prod.mk.injEq] at h
        exact h.2 ▸ Nat.le_of_lt (length_lt_of_skipBlanks_eq_cons hblanks)
      · exact Nat.le_of_lt (length_readItems_lt h)
    · simp at h

/-- Any value, passed over. -/
def readIgnored (text : List Char) : Except Fault (Unit × List Char) :=
  match skipInside .value [] text with
  | .error fault => .error fault
  | .ok rest => .ok ((), rest)

/-- Any value. -/
def ignored : Reader Unit where
  run := readIgnored
  shorter h := by
    unfold readIgnored at h
    split at h
    · simp at h
    · rename_i hskip
      simp only [Except.ok.injEq, Prod.mk.injEq] at h
      exact h.2 ▸ (length_skipInside hskip).2 rfl

/-- The key at the head of a text. -/
def readKey (text : List Char) : Except Fault (String × List Char) :=
  match skipBlanks text with
  | [] => .error .truncated
  | c :: rest =>
    if c = '"' then
      match readQuoted rest with
      | .error fault => .error fault
      | .ok (chars, rest) => .ok (String.ofList chars, rest)
    else .error .malformed

theorem length_readKey_lt {text rest : List Char} {key : String}
    (h : readKey text = .ok (key, rest)) : rest.length < text.length := by
  unfold readKey at h
  grind [→ length_lt_of_skipBlanks_eq_cons, → length_readQuoted_le]

/-- The members of an object up to its end; the head of the text is a key. What
was read so far and the key say how the value of the key is read. -/
def readMembers (member : σ → String → Except Fault (Reader σ)) (state : σ)
    (text : List Char) : Except Fault (σ × List Char) :=
  match _h : readKey text with
  | .error fault => .error fault
  | .ok (key, rest) =>
    match member state key with
    | .error fault => .error fault
    | .ok reader =>
      match _c : readColon rest with
      | .error fault => .error fault
      | .ok rest =>
        match _r : reader.run rest with
        | .error fault => .error fault
        | .ok (state, rest) =>
          match _k : skipBlanks rest with
          | [] => .error .truncated
          | c :: rest =>
            if c = '\x7d' then .ok (state, rest)
            else if c = ',' then readMembers member state rest
            else .error .malformed
termination_by text.length
decreasing_by
  have := length_readKey_lt _h
  have := length_readColon_lt _c
  have := reader.shorter _r
  have := length_lt_of_skipBlanks_eq_cons _k
  omega

theorem length_readMembers_lt {member : σ → String → Except Fault (Reader σ)} {state result : σ}
    {text rest : List Char} (h : readMembers member state text = .ok (result, rest)) :
    rest.length < text.length := by
  fun_induction readMembers member state text generalizing result rest <;>
    grind [→ length_lt_of_skipBlanks_eq_cons, → length_readKey_lt, → length_readColon_lt,
      → Reader.shorter]

/-- The members of an object after its opening bracket. -/
def readObject (member : σ → String → Except Fault (Reader σ)) (start : σ)
    (text : List Char) : Except Fault (σ × List Char) :=
  match skipBlanks text with
  | [] => .error .truncated
  | c :: rest => if c = '\x7d' then .ok (start, rest) else readMembers member start text

theorem length_readObject_le {member : σ → String → Except Fault (Reader σ)} {start result : σ}
    {text rest : List Char} (h : readObject member start text = .ok (result, rest)) :
    rest.length ≤ text.length := by
  unfold readObject at h
  grind [→ length_lt_of_skipBlanks_eq_cons, → length_readMembers_lt]

/-- The table of an object whose values have one shape, after its first character. -/
def readTable (value : Reader α) (c : Char) (text : List Char) :
    Except Fault (Std.ExtTreeMap String α × List Char) :=
  if c = '\x7b' then
    readObject (fun table key => .ok (value.map fun value => table.insert key value)) ∅ text
  else .error (unexpected c text)

/-- An object whose values have one shape, as a table; a repeated key has its last value. -/
def table (value : Reader α) : Reader (Std.ExtTreeMap String α) :=
  ofHead (readTable value) fun h => by
    unfold readTable at h
    split at h
    · exact length_readObject_le h
    · simp at h

/-- Read a whole document: one value and nothing but blanks after it. -/
def document (reader : Reader α) (document : String) : Except Fault α :=
  match reader.run document.toList with
  | .error fault => .error fault
  | .ok (value, rest) =>
    match skipBlanks rest with
    | [] => .ok value
    | _ :: _ => .error .malformed

end Reader

end NetTopology.Json
