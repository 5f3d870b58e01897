/-
# The texts that spell a value

A value has many texts: between its tokens there may be any number of blanks.
`Spells` is the grammar of these texts, with the values themselves written as
they are always written. Both layouts are spellings, and readers do not care
which spelling they are given, so nothing about reading has to be proved for
one layout and then again for the other.
-/

import NetTopology.Json
import NetTopology.Json.Skip
import NetTopology.Proofs.Decimal

namespace NetTopology.Json

universe u

/-- A text of blanks. -/
def Blank (text : List Char) : Prop :=
  ∀ c ∈ text, isBlank c

theorem blank_nil : Blank [] :=
  List.forall_mem_nil _

theorem skipBlanks_append {gap : List Char} (hgap : Blank gap) (text : List Char) :
    skipBlanks (gap ++ text) = skipBlanks text :=
  List.dropWhile_append_of_pos hgap

theorem skipBlanks_cons {c : Char} (hc : isBlank c = false) (text : List Char) :
    skipBlanks (c :: text) = c :: text :=
  List.dropWhile_cons_of_neg (by simp [hc])

theorem skipBlanks_append_cons {gap : List Char} (hgap : Blank gap) {c : Char}
    (hc : isBlank c = false) (text : List Char) : skipBlanks (gap ++ c :: text) = c :: text := by
  rw [skipBlanks_append hgap, skipBlanks_cons hc]

theorem ne_of_isDigit {c other : Char} (hc : c.isDigit) (hother : other.isDigit = false) :
    c ≠ other := by
  rintro rfl
  rw [hother] at hc
  cases hc

theorem isBlank_eq_false_of_isDigit {c : Char} (hc : c.isDigit) : isBlank c = false := by
  simp [isBlank, ne_of_isDigit hc]

/-- What stands between brackets: values with commas between them, and blanks
around each of them. -/
inductive Separated {α : Type u} (spells : α → List Char → Prop) : List α → List Char → Prop where
  | none {gap : List Char} (hgap : Blank gap) : Separated spells [] gap
  | last {value : α} {before text after : List Char} (hbefore : Blank before)
      (hvalue : spells value text) (hafter : Blank after) :
      Separated spells [value] (before ++ (text ++ after))
  | next {value other : α} {values : List α} {before text after inner : List Char}
      (hbefore : Blank before) (hvalue : spells value text) (hafter : Blank after)
      (hinner : Separated spells (other :: values) inner) :
      Separated spells (value :: other :: values) (before ++ (text ++ (after ++ ',' :: inner)))

mutual

/-- A text spells a value. -/
inductive Spells : Json → List Char → Prop where
  | null : Spells .null ['n', 'u', 'l', 'l']
  | true : Spells (.bool Bool.true) ['t', 'r', 'u', 'e']
  | false : Spells (.bool Bool.false) ['f', 'a', 'l', 's', 'e']
  | int (value : Int) : Spells (.int value) (toString value).toList
  | str (value : String) : Spells (.str value) (quoted value).toList
  | arr {items : List Json} {inner : List Char} (hitems : Separated Spells items inner) :
      Spells (.arr items) ('[' :: (inner ++ [']']))
  | obj {members : List (String × Json)} {inner : List Char}
      (hmembers : Separated SpellsMember members inner) :
      Spells (.obj members) ('\x7b' :: (inner ++ ['\x7d']))

/-- A text spells a member of an object. -/
inductive SpellsMember : String × Json → List Char → Prop where
  | pair (name : String) {value : Json} {before after text : List Char} (hbefore : Blank before)
      (hafter : Blank after) (hvalue : Spells value text) :
      SpellsMember (name, value) ((quoted name).toList ++ (before ++ ':' :: (after ++ text)))

end

theorem toList_quoted (text : String) :
    (quoted text).toList = '"' :: (text.toList.flatMap escaped ++ ['"']) := by
  simp [quoted, String.toList_append]

/-- A number starts with a digit or a minus sign. -/
theorem exists_toList_toString_int (value : Int) :
    ∃ c rest, (toString value).toList = c :: rest ∧ (c = '-' ∨ c.isDigit) := by
  cases value with
  | ofNat n =>
      obtain ⟨c, rest, hdigits, hc⟩ := exists_toDigits_eq_cons n
      exact ⟨c, rest, (toList_toString_nat n).trans hdigits, .inr hc⟩
  | negSucc n =>
      exact ⟨'-', (toString (n + 1)).toList, String.toList_append, .inl rfl⟩

/-- The first character of a value is no blank, and it does not close an array. -/
theorem Spells.exists_eq_cons {value : Json} {text : List Char} (hspells : Spells value text) :
    ∃ c rest, text = c :: rest ∧ isBlank c = Bool.false ∧ c ≠ ']' := by
  cases hspells with
  | null => exact ⟨_, _, rfl, rfl, by decide⟩
  | true => exact ⟨_, _, rfl, rfl, by decide⟩
  | false => exact ⟨_, _, rfl, rfl, by decide⟩
  | int value =>
      obtain ⟨c, rest, hdigits, hc⟩ := exists_toList_toString_int value
      refine ⟨c, rest, hdigits, ?_⟩
      rcases hc with rfl | hc
      · exact ⟨rfl, by decide⟩
      · exact ⟨isBlank_eq_false_of_isDigit hc, ne_of_isDigit hc rfl⟩
  | str value => exact ⟨_, _, toList_quoted value, rfl, by decide⟩
  | arr hitems => exact ⟨_, _, rfl, rfl, by decide⟩
  | obj hmembers => exact ⟨_, _, rfl, rfl, by decide⟩

/-- The first character of a member is the quote mark of its name. -/
theorem SpellsMember.exists_eq_cons {member : String × Json} {text : List Char}
    (hspells : SpellsMember member text) :
    ∃ c rest, text = c :: rest ∧ isBlank c = Bool.false ∧ c ≠ '\x7d' := by
  cases hspells with
  | pair name hbefore hafter hvalue => exact ⟨'"', _, by rw [toList_quoted]; rfl, rfl, by decide⟩

/-- What stands between brackets starts with the first character of the first value. -/
theorem Separated.exists_skipBlanks_eq {α : Type u} {spells : α → List Char → Prop}
    {property : Char → Prop} {value : α} {values : List α} {inner : List Char}
    (hinner : Separated spells (value :: values) inner)
    (hhead : ∀ ⦃value text⦄, spells value text →
      ∃ c rest, text = c :: rest ∧ isBlank c = Bool.false ∧ property c) (rest : List Char) :
    ∃ c later, skipBlanks (inner ++ rest) = c :: later ∧ property c := by
  cases hinner with
  | last hbefore hvalue hafter =>
      obtain ⟨c, tail, rfl, hc, hproperty⟩ := hhead hvalue
      rw [List.append_assoc, List.cons_append]
      exact ⟨c, _, skipBlanks_append_cons hbefore hc _, hproperty⟩
  | next hbefore hvalue hafter hinner =>
      obtain ⟨c, tail, rfl, hc, hproperty⟩ := hhead hvalue
      rw [List.append_assoc, List.cons_append]
      exact ⟨c, _, skipBlanks_append_cons hbefore hc _, hproperty⟩

/-! Both layouts are spellings. -/

mutual

theorem spells_compact : ∀ value : Json, Spells value value.compact.toList
  | .null => .null
  | .bool true => .true
  | .bool false => .false
  | .int value => .int value
  | .str value => .str value
  | .arr items => by
      simpa [compact, String.toList_append] using Spells.arr (separated_compactItems items)
  | .obj members => by
      simpa [compact, String.toList_append] using Spells.obj (separated_compactMembers members)

theorem separated_compactItems :
    ∀ items : List Json, Separated Spells items (compactItems items).toList
  | [] => .none blank_nil
  | [item] => by
      simpa [compactItems] using Separated.last blank_nil (spells_compact item) blank_nil
  | item :: other :: rest => by
      simpa [compactItems, String.toList_append] using
        Separated.next blank_nil (spells_compact item) blank_nil
          (separated_compactItems (other :: rest))

theorem separated_compactMembers : ∀ members : List (String × Json),
    Separated SpellsMember members (compactMembers members).toList
  | [] => .none blank_nil
  | [(name, value)] => by
      simpa [compactMembers, String.toList_append] using
        Separated.last blank_nil (.pair name blank_nil blank_nil (spells_compact value))
          blank_nil
  | (name, value) :: other :: rest => by
      simpa [compactMembers, String.toList_append] using
        Separated.next blank_nil (.pair name blank_nil blank_nil (spells_compact value))
          blank_nil (separated_compactMembers (other :: rest))

end

theorem blank_newline (depth : Nat) : Blank (newline depth).toList := by
  intro c hmem
  simp only [newline, String.toList_append, List.mem_append, String.toList_ofList] at hmem
  rcases hmem with hmem | hmem
  · obtain rfl : c = '\n' := by simpa using hmem
    rfl
  · rw [List.eq_of_mem_replicate hmem]
    rfl

theorem blank_space : Blank [' '] :=
  List.forall_mem_singleton.mpr rfl

mutual

theorem spells_pretty (depth : Nat) : ∀ value : Json, Spells value (value.pretty depth).toList
  | .null => by simpa [pretty] using Spells.null
  | .bool true => by simpa [pretty] using Spells.true
  | .bool false => by simpa [pretty] using Spells.false
  | .int value => by simpa [pretty] using Spells.int value
  | .str value => by simpa [pretty] using Spells.str value
  | .arr [] => by simpa [pretty] using Spells.arr (.none blank_nil)
  | .arr (item :: rest) => by
      simpa [pretty, String.toList_append] using
        Spells.arr (separated_prettyItems (depth + 1) (blank_newline depth) (item :: rest))
  | .obj [] => by simpa [pretty] using Spells.obj (.none blank_nil)
  | .obj (member :: rest) => by
      simpa [pretty, String.toList_append] using
        Spells.obj (separated_prettyMembers (depth + 1) (blank_newline depth) (member :: rest))

theorem separated_prettyItems (depth : Nat) {gap : List Char} (hgap : Blank gap) :
    ∀ items : List Json, Separated Spells items ((prettyItems depth items).toList ++ gap)
  | [] => by simpa [prettyItems] using Separated.none hgap
  | [item] => by
      simpa [prettyItems, String.toList_append] using
        Separated.last (blank_newline depth) (spells_pretty depth item) hgap
  | item :: other :: rest => by
      simpa [prettyItems, String.toList_append] using
        Separated.next (blank_newline depth) (spells_pretty depth item) blank_nil
          (separated_prettyItems depth hgap (other :: rest))

theorem separated_prettyMembers (depth : Nat) {gap : List Char} (hgap : Blank gap) :
    ∀ members : List (String × Json),
      Separated SpellsMember members ((prettyMembers depth members).toList ++ gap)
  | [] => by simpa [prettyMembers] using Separated.none hgap
  | [(name, value)] => by
      simpa [prettyMembers, String.toList_append] using
        Separated.last (blank_newline depth)
          (SpellsMember.pair name blank_nil blank_space (spells_pretty depth value)) hgap
  | (name, value) :: other :: rest => by
      simpa [prettyMembers, String.toList_append] using
        Separated.next (blank_newline depth)
          (SpellsMember.pair name blank_nil blank_space (spells_pretty depth value))
          blank_nil (separated_prettyMembers depth hgap (other :: rest))

end

end NetTopology.Json
