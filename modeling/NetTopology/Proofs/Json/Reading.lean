/-
# Readers read back what is spelled

A reader accepts a value when it takes it from every text that spells it, blanks
before the value included, and leaves the rest of the text. The condition on the
rest is that of numbers, the only values that what follows could change; commas
and closing brackets satisfy it, so it is met wherever a value stands in another.
Readers of arrays and objects accept a value when their parts do.
-/

import NetTopology.Json.Reader
import NetTopology.Proofs.Address.Reading
import NetTopology.Proofs.Json.Spelling
import NetTopology.Proofs.Json.Tokens
import NetTopology.Proofs.LastWrite

namespace NetTopology.Json

universe u v w

theorem EndsNumber.append {gap rest : List Char} (hgap : Blank gap) (hrest : EndsNumber rest) :
    EndsNumber (gap ++ rest) := by
  cases gap with
  | nil => exact hrest
  | cons c later =>
      intro d hd
      obtain rfl : c = d := Option.some.inj hd
      have hblank : isBlank c := hgap c List.mem_cons_self
      refine ⟨?_, ?_, ?_, ?_⟩
      · rw [Bool.eq_false_iff]
        intro hdigit
        rw [isBlank_eq_false_of_isDigit hdigit] at hblank
        cases hblank
      all_goals
        rintro rfl
        cases hblank

theorem endsNumber_nil : EndsNumber [] := by
  intro c hc
  cases hc

theorem endsNumber_cons {c : Char} (hc : c.isDigit = false ∧ c ≠ '.' ∧ c ≠ 'e' ∧ c ≠ 'E')
    (rest : List Char) : EndsNumber (c :: rest) := by
  intro d hd
  obtain rfl : c = d := Option.some.inj hd
  exact hc

namespace Reader

variable {α : Type u} {β : Type v} {σ : Type w}

/-- The reader takes the value from every text that spells it. -/
def Accepts (reader : Reader α) (json : Json) (value : α) : Prop :=
  ∀ ⦃gap text rest : List Char⦄, Blank gap → Spells json text → EndsNumber rest →
    reader.run (gap ++ (text ++ rest)) = .ok (value, rest)

theorem runHead_append_cons {read : Char → List Char → Except Fault (α × List Char)}
    {gap : List Char} (hgap : Blank gap) {c : Char} (hc : isBlank c = false) (text : List Char) :
    runHead read (gap ++ c :: text) = read c text := by
  rw [runHead, skipBlanks_append_cons hgap hc]

/-! Values that are checked or changed after they are read. -/

theorem Accepts.andThen {reader : Reader α} {use : α → Except Fault β} {json : Json} {value : α}
    {result : β} (haccepts : reader.Accepts json value) (huse : use value = .ok result) :
    (reader.andThen use).Accepts json result := by
  intro gap text rest hgap hspells hrest
  show runAndThen reader use _ = _
  rw [runAndThen, haccepts hgap hspells hrest]
  simp only [huse]

theorem Accepts.map {reader : Reader α} {json : Json} {value : α}
    (haccepts : reader.Accepts json value) (use : α → β) :
    (reader.map use).Accepts json (use value) :=
  haccepts.andThen rfl

/-! Texts and numbers. -/

theorem accepts_chars (value : String) : chars.Accepts (.str value) value.toList := by
  intro gap text rest hgap hspells hrest
  cases hspells
  rw [toList_quoted, List.cons_append, List.append_assoc]
  show runHead readText _ = _
  rw [runHead_append_cons hgap rfl, readText, if_pos rfl]
  exact readQuoted_quoted value.toList rest

theorem accepts_text (value : String) : Reader.text.Accepts (.str value) value := by
  have haccepts := (accepts_chars value).map String.ofList
  rwa [String.ofList_toList] at haccepts

theorem accepts_address (address : Address) :
    Reader.address.Accepts (.str address.toText) address := by
  apply (accepts_chars address.toText).andThen
  simp only [Address.ofText?_toText]

theorem accepts_number {n : Nat} (hfits : n < 1 <<< 64) :
    number.Accepts (.int n) (.natural n) := by
  intro gap text rest hgap hspells hrest
  cases hspells
  obtain ⟨c, later, hdigits, hdigit⟩ := exists_toDigits_eq_cons n
  have htext : (toString (n : Int)).toList = c :: later := (toList_toString_nat n).trans hdigits
  have hstarts : Numeral.startsWith c := by
    simp [Numeral.startsWith, hdigit]
  have hspan : Numeral.span c (later ++ rest) = .ok (.ofNat n, rest) := by
    rw [Numeral.span, if_neg (ne_of_isDigit hdigit rfl), ← List.cons_append, ← hdigits]
    exact Numeral.spanUnsigned_toDigits hrest
  rw [htext, List.cons_append]
  show runHead readNumber _ = _
  rw [runHead_append_cons hgap (isBlank_eq_false_of_isDigit hdigit), readNumber, if_pos hstarts]
  simp only [hspan, Numeral.value?_ofNat hfits]

theorem accepts_natural {n limit : Nat} (hlimit : n < limit) (hfits : n < 1 <<< 64) :
    (natural limit).Accepts (.int n) n :=
  (accepts_number hfits).andThen (if_pos hlimit)

/-! Arrays. -/

theorem readItems_of_close {item : Reader α} {text rest tail : List Char} {value : α}
    (hitem : item.run text = .ok (value, rest)) (hclose : skipBlanks rest = ']' :: tail) :
    readItems item text = .ok ([value], tail) := by
  rw [readItems, hitem]
  dsimp only
  rw [hclose]
  rfl

theorem readItems_of_comma {item : Reader α} {text rest tail later : List Char} {value : α}
    {c : Char} (hitem : item.run text = .ok (value, rest))
    (hcomma : skipBlanks rest = ',' :: tail) (hnext : skipBlanks tail = c :: later)
    (hc : c ≠ ']') :
    readItems item text =
      (readItems item tail).map fun (values, rest) => (value :: values, rest) := by
  rw [readItems]
  grind [Except.map]

theorem readItems_eq_of_separated {item : Reader α} {items : List Json} {values : List α}
    {inner : List Char} (hinner : Separated Spells items inner)
    (haccepts : List.Forall₂ item.Accepts items values) (hnonempty : items ≠ [])
    (rest : List Char) : readItems item (inner ++ ']' :: rest) = .ok (values, rest) := by
  induction hinner generalizing values with
  | none hgap => exact absurd rfl hnonempty
  | last hbefore hvalue hafter =>
      obtain _ | ⟨hfirst, hnone⟩ := haccepts
      cases hnone
      rw [List.append_assoc, List.append_assoc]
      exact readItems_of_close
        (hfirst hbefore hvalue ((endsNumber_cons (by decide) rest).append hafter))
        (skipBlanks_append_cons hafter rfl rest)
  | next hbefore hvalue hafter hinner ih =>
      obtain _ | ⟨hfirst, hlater⟩ := haccepts
      obtain ⟨c, later, hnext, hc⟩ :=
        hinner.exists_skipBlanks_eq (fun _ _ => Spells.exists_eq_cons) (']' :: rest)
      rw [List.append_assoc, List.append_assoc, List.append_assoc, List.cons_append]
      rw [readItems_of_comma (hfirst hbefore hvalue ((endsNumber_cons (by decide) _).append hafter))
        (skipBlanks_append_cons hafter rfl _) hnext hc, ih hlater (List.cons_ne_nil _ _)]
      rfl

/-- An array of values that are accepted. -/
theorem accepts_array {item : Reader α} {items : List Json} {values : List α}
    (haccepts : List.Forall₂ item.Accepts items values) :
    (array item).Accepts (.arr items) values := by
  intro gap text rest hgap hspells hrest
  cases hspells with
  | arr hitems =>
      rw [List.cons_append, List.append_assoc, List.singleton_append]
      show runHead (readArray item) _ = _
      rw [runHead_append_cons hgap rfl, readArray, if_pos rfl]
      cases haccepts with
      | nil =>
          cases hitems with
          | none hinner =>
              rw [skipBlanks_append_cons hinner rfl]
              rfl
      | cons hfirst hlater =>
          obtain ⟨c, later, hnext, hc⟩ :=
            hitems.exists_skipBlanks_eq (fun _ _ => Spells.exists_eq_cons) (']' :: rest)
          rw [hnext, readItems_eq_of_separated hitems (.cons hfirst hlater) (List.cons_ne_nil _ _)]
          -- The array is not empty, since no value starts with the closing bracket.
          split
          · rename_i hempty
            cases hempty
          · rename_i hclose
            exact absurd (List.cons.inj hclose).1 hc
          · rfl

/-! Objects. -/

/-- Reading the members one after the other leads from one state to the other. -/
inductive Gathers (member : σ → String → Except Fault (Reader σ)) :
    σ → List (String × Json) → σ → Prop where
  | nil (state : σ) : Gathers member state [] state
  | cons {state next final : σ} {name : String} {json : Json} {members : List (String × Json)}
      {reader : Reader σ} (hmember : member state name = .ok reader)
      (hvalue : reader.Accepts json next) (hmembers : Gathers member next members final) :
      Gathers member state ((name, json) :: members) final

theorem readKey_append {before : List Char} (hbefore : Blank before) (name : String)
    (rest : List Char) : readKey (before ++ ((quoted name).toList ++ rest)) = .ok (name, rest) := by
  rw [toList_quoted, List.cons_append, List.append_assoc, List.singleton_append, readKey,
    skipBlanks_append_cons hbefore rfl]
  dsimp only
  rw [if_pos rfl, readQuoted_quoted]
  simp only [String.ofList_toList]

theorem readColon_append {before : List Char} (hbefore : Blank before) (rest : List Char) :
    readColon (before ++ ':' :: rest) = .ok rest := by
  rw [readColon, skipBlanks_append_cons hbefore rfl]
  rfl

/-- A member is read by the reader of its value, and what follows it decides
whether there is another one. -/
theorem readMembers_append {member : σ → String → Except Fault (Reader σ)} {state next : σ}
    {name : String} {json : Json} {reader : Reader σ} {before text rest tail : List Char} {c : Char}
    (hbefore : Blank before) (hspells : SpellsMember (name, json) text)
    (hmember : member state name = .ok reader) (haccepts : reader.Accepts json next)
    (hrest : EndsNumber rest) (hnext : skipBlanks rest = c :: tail) :
    readMembers member state (before ++ (text ++ rest)) =
      if c = '\x7d' then .ok (next, tail)
      else if c = ',' then readMembers member next tail
      else .error .malformed := by
  obtain ⟨_, hcolon, hgap, hvalue⟩ := hspells
  rename_i colon gap value
  have hparts : before ++ ((quoted name).toList ++ (colon ++ ':' :: (gap ++ value)) ++ rest) =
      before ++ ((quoted name).toList ++ (colon ++ ':' :: (gap ++ (value ++ rest)))) := by
    simp only [List.append_assoc, List.cons_append]
  rw [hparts, readMembers, readKey_append hbefore]
  dsimp only
  rw [hmember]
  dsimp only
  rw [readColon_append hcolon]
  dsimp only
  rw [haccepts hgap hvalue hrest]
  dsimp only
  rw [hnext]

theorem readMembers_eq_of_separated {member : σ → String → Except Fault (Reader σ)}
    {state final : σ} {members : List (String × Json)} {inner : List Char}
    (hinner : Separated SpellsMember members inner) (hgathers : Gathers member state members final)
    (hnonempty : members ≠ []) (rest : List Char) :
    readMembers member state (inner ++ '\x7d' :: rest) = .ok (final, rest) := by
  -- Each member changes the state, so the statement is about every state to begin with.
  induction hinner generalizing state with
  | none hgap => exact absurd rfl hnonempty
  | last hbefore hvalue hafter =>
      cases hgathers with
      | cons hmember haccepts hnone =>
          cases hnone
          rw [List.append_assoc, List.append_assoc]
          rw [readMembers_append hbefore hvalue hmember haccepts
            ((endsNumber_cons (by decide) rest).append hafter)
            (skipBlanks_append_cons hafter rfl rest)]
          rfl
  | next hbefore hvalue hafter hinner ih =>
      cases hgathers with
      | cons hmember haccepts hlater =>
          rw [List.append_assoc, List.append_assoc, List.append_assoc, List.cons_append]
          rw [readMembers_append hbefore hvalue hmember haccepts
            ((endsNumber_cons (by decide) _).append hafter) (skipBlanks_append_cons hafter rfl _)]
          exact ih hlater (List.cons_ne_nil _ _)

/-- An object whose members are gathered is read after its opening bracket. -/
theorem readObject_eq_of_separated {member : σ → String → Except Fault (Reader σ)}
    {start final : σ} {members : List (String × Json)} {inner : List Char}
    (hinner : Separated SpellsMember members inner) (hgathers : Gathers member start members final)
    (rest : List Char) : readObject member start (inner ++ '\x7d' :: rest) = .ok (final, rest) := by
  cases hgathers with
  | nil =>
      cases hinner with
      | none hgap =>
          rw [readObject, skipBlanks_append_cons hgap rfl]
          rfl
  | cons hmember haccepts hlater =>
      obtain ⟨c, later, hnext, hc⟩ :=
        hinner.exists_skipBlanks_eq (fun _ _ => SpellsMember.exists_eq_cons) ('\x7d' :: rest)
      rw [readObject, hnext]
      dsimp only
      rw [if_neg hc]
      exact readMembers_eq_of_separated hinner (.cons hmember haccepts hlater)
        (List.cons_ne_nil _ _) rest

/-! Tables. -/

/-- Values under their keys are gathered by writing them in order. -/
theorem gathers_writeAll {value : Reader α} {toJson : α → Json} {pairs : List (String × α)}
    (haccepts : ∀ pair ∈ pairs, value.Accepts (toJson pair.2) pair.2)
    (table : Std.ExtTreeMap String α) :
    Gathers (fun table key => .ok (value.map fun value => table.insert key value)) table
      (pairs.map fun pair => (pair.1, toJson pair.2)) (writeAll table pairs) := by
  induction pairs generalizing table with
  | nil => exact .nil table
  | cons pair rest ih =>
      obtain ⟨hpair, hrest⟩ := List.forall_mem_cons.mp haccepts
      exact .cons rfl (hpair.map _) (ih hrest _)

/-- A table is read back from an object of its values. -/
theorem accepts_table {value : Reader α} {toJson : α → Json} (table : Std.ExtTreeMap String α)
    (haccepts : ∀ pair ∈ table.toList, value.Accepts (toJson pair.2) pair.2) :
    (Reader.table value).Accepts
      (.obj (table.toList.map fun pair => (pair.1, toJson pair.2))) table := by
  intro gap text rest hgap hspells hrest
  have hgathers := gathers_writeAll haccepts ∅
  rw [← lastWrites, lastWrites_toList] at hgathers
  cases hspells with
  | obj hmembers =>
      rw [List.cons_append, List.append_assoc, List.singleton_append]
      show runHead (readTable value) _ = _
      rw [runHead_append_cons hgap rfl, readTable, if_pos rfl]
      exact readObject_eq_of_separated hmembers hgathers rest

/-- A document is its value with nothing but blanks around it. -/
theorem document_eq_ok {reader : Reader α} {json : Json} {value : α} {document : String}
    (haccepts : reader.Accepts json value) (hspells : Spells json document.toList) :
    reader.document document = .ok value := by
  have hrun := haccepts blank_nil hspells endsNumber_nil
  rw [List.nil_append, List.append_nil] at hrun
  rw [Reader.document, hrun]
  rfl

end Reader

end NetTopology.Json
