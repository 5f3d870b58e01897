/-
# Readers of records

A record is an object with fixed fields, each with a reader and perhaps a
default. Unknown fields are passed over, a field given twice is a fault at its
second key, and a field without default that is absent is a fault at the closing
bracket; of several absent ones the first declared is reported. The same record
may be written as an array of its fields in the order of declaration, where
fields with a default may be left out at the end.

The values of `Fields α` are read into a nested pair, which the record's own
module turns into its structure.
-/

import NetTopology.Json.Reader

namespace NetTopology.Json

inductive Fields : Type → Type 1 where
  /-- No fields. -/
  | done : Fields Unit
  /-- A field with its reader, its default and the value read so far, and the
  fields after it. -/
  | field {α β : Type} (name : String) (reader : Reader α) (absent : Option α)
      (held : Option α) (rest : Fields β) : Fields (α × β)

namespace Fields

variable {α β : Type}

/-- A field that has to be given, in front of others. -/
def required (name : String) (reader : Reader α) (rest : Fields β) : Fields (α × β) :=
  field name reader none none rest

/-- A field that may be left out, in front of others. -/
def default (name : String) (reader : Reader α) (absent : α) (rest : Fields β) :
    Fields (α × β) :=
  field name reader (some absent) none rest

/-- How the value of a known key is read; nothing for an unknown key. -/
def member? : {β : Type} → Fields β → String → Option (Except Fault (Reader (Fields β)))
  | _, done, _ => none
  | _, field name reader absent held rest, key =>
    if name = key then
      match held with
      | some _ => some (.error (.misshapen (some (.duplicateField name))))
      | none => some (.ok (reader.map fun value => field name reader absent (some value) rest))
    else
      (rest.member? key).map fun member =>
        member.map fun reader' => reader'.map fun rest => field name reader absent held rest

/-- How the value of a key is read; that of an unknown key is passed over. -/
def member (fields : Fields β) (key : String) : Except Fault (Reader (Fields β)) :=
  match fields.member? key with
  | some member => member
  | none => .ok (Reader.ignored.map fun _ => fields)

/-- The values of the fields, once all that are given have been read. -/
def values : {β : Type} → Fields β → Except Fault β
  | _, done => .ok ()
  | _, field name _ absent held rest =>
    match held, absent with
    | some value, _ | none, some value =>
      match rest.values with
      | .error fault => .error fault
      | .ok values => .ok (value, values)
    | none, none => .error (.misshapen (some (.missingField name)))

/-- Go on to the next item of an array. Nothing is returned at its end; before
the first item there is no comma. -/
def nextItem (isFirst : Bool) (text : List Char) : Except Fault (Option (List Char)) :=
  match skipBlanks text with
  | [] => .error .truncated
  | c :: rest =>
    if c = ']' then .ok none
    else if isFirst then .ok (some text)
    else if c = ',' then
      match skipBlanks rest with
      | [] => .error .truncated
      | ']' :: _ => .error .malformed
      | _ => .ok (some rest)
    else .error .malformed

/-- The closing bracket after the last field. -/
def endItems (text : List Char) : Except Fault (List Char) :=
  match skipBlanks text with
  | [] => .error .truncated
  | c :: rest => if c = ']' then .ok rest else .error .malformed

/-- The values of the fields from the items of an array. -/
def readItems : {β : Type} → Fields β → Bool → List Char → Except Fault (β × List Char)
  | _, done, _, text => (endItems text).map fun rest => ((), rest)
  | _, field _ reader absent _ rest, isFirst, text =>
    match nextItem isFirst text with
    | .error fault => .error fault
    | .ok (some text) =>
      match reader.run text with
      | .error fault => .error fault
      | .ok (value, text) =>
        (rest.readItems false text).map fun (values, text) => ((value, values), text)
    | .ok none =>
      match absent with
      | none => .error (.misshapen none)
      | some value =>
        (rest.readItems isFirst text).map fun (values, text) => ((value, values), text)

theorem length_nextItem_le {isFirst : Bool} {text rest : List Char}
    (h : nextItem isFirst text = .ok (some rest)) : rest.length ≤ text.length := by
  unfold nextItem at h
  grind [→ length_lt_of_skipBlanks_eq_cons]

theorem length_endItems_le {text rest : List Char} (h : endItems text = .ok rest) :
    rest.length ≤ text.length := by
  unfold endItems at h
  grind [→ length_lt_of_skipBlanks_eq_cons]

/-- What a mapped reading returns was read. -/
theorem exists_of_map_eq_ok {α β : Type} {read : Except Fault α} {use : α → β} {value : β}
    (h : read.map use = .ok value) : ∃ read', read = .ok read' ∧ use read' = value := by
  cases read with
  | error => simp [Except.map] at h
  | ok read' => exact ⟨read', rfl, by simpa [Except.map] using h⟩

theorem length_readItems_le {fields : Fields β} {isFirst : Bool} {text rest : List Char}
    {values : β} (h : fields.readItems isFirst text = .ok (values, rest)) :
    rest.length ≤ text.length := by
  induction fields generalizing isFirst text rest with
  | done =>
    obtain ⟨tail, hend, heq⟩ := exists_of_map_eq_ok h
    have := length_endItems_le hend
    simp_all
  | field name reader absent held others ih =>
    unfold readItems at h
    split at h
    · simp at h
    · rename_i text' hnext
      have := length_nextItem_le hnext
      split at h
      · simp at h
      · rename_i hrun
        obtain ⟨⟨values', tail⟩, hread, heq⟩ := exists_of_map_eq_ok h
        have := reader.shorter hrun
        have := ih hread
        simp only [Prod.mk.injEq] at heq
        have := congrArg List.length heq.2
        omega
    · split at h
      · simp at h
      · obtain ⟨⟨values', tail⟩, hread, heq⟩ := exists_of_map_eq_ok h
        have := ih hread
        simp only [Prod.mk.injEq] at heq
        have := congrArg List.length heq.2
        omega

/-- A record after its first character. -/
def read (fields : Fields β) (c : Char) (text : List Char) : Except Fault (β × List Char) :=
  if c = '\x7b' then
    match Reader.readObject member fields text with
    | .error fault => .error fault
    | .ok (filled, rest) =>
      match filled.values with
      | .error fault => .error fault
      | .ok values => .ok (values, rest)
  else if c = '[' then fields.readItems true text
  else .error (unexpected c text)

def reader (fields : Fields β) : Reader β :=
  Reader.ofHead fields.read fun h => by
    unfold read at h
    split at h
    · split at h
      · simp at h
      · rename_i hobject
        split at h
        · simp at h
        · simp only [Except.ok.injEq, Prod.mk.injEq] at h
          exact h.2 ▸ Reader.length_readObject_le hobject
    · split at h
      · exact length_readItems_le h
      · simp at h

end Fields

end NetTopology.Json
