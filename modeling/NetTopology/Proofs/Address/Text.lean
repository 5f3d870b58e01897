/-
# Addresses with the same text are equal

The text of an address consists of digits and points, and its points stand
exactly between the octets. Reading up to the first character that is no digit
therefore recovers an octet, and two addresses with the same text agree on all
four octets. The same holds of a longer text in which the address is followed
by a character that is neither a digit nor a point.
-/

import NetTopology.Address
import NetTopology.Proofs.Decimal
import Mathlib.Data.List.TakeWhile
import Mathlib.Logic.Function.Basic

namespace NetTopology

/-- A text whose characters have a property ends at the first character without it. -/
theorem eq_and_eq_of_append_cons_eq {property : Char → Bool} {separator : Char}
    {first second rest other : List Char} (hfirst : ∀ c ∈ first, property c)
    (hsecond : ∀ c ∈ second, property c) (hseparator : property separator = false)
    (heq : first ++ separator :: rest = second ++ separator :: other) :
    first = second ∧ rest = other := by
  have htake {text later : List Char} (htext : ∀ c ∈ text, property c) :
      (text ++ separator :: later).takeWhile property = text := by
    rw [List.takeWhile_append_of_pos htext, List.takeWhile_cons_of_neg (by simp [hseparator]),
      List.append_nil]
  have hsame : first = second := by
    rw [← htake hfirst, heq, htake hsecond]
  subst hsame
  exact ⟨rfl, (List.cons.inj (List.append_cancel_left heq)).2⟩

namespace Address

theorem toList_octetText (o : BitVec 8) : (octetText o).toList = Nat.toDigits 10 o.toNat :=
  toList_toString_nat o.toNat

theorem eq_of_toList_octetText_eq {first second : BitVec 8}
    (heq : (octetText first).toList = (octetText second).toList) : first = second := by
  rw [toList_octetText, toList_octetText] at heq
  apply BitVec.eq_of_toNat_eq
  rw [← Nat.ofDigitChars_ten_toDigits (n := first.toNat), heq, Nat.ofDigitChars_ten_toDigits]

theorem isDigit_of_mem_octetText {o : BitVec 8} {c : Char} (hmem : c ∈ (octetText o).toList) :
    c.isDigit := by
  rw [toList_octetText] at hmem
  exact isDigit_of_mem_toDigits_ten hmem

/-- An address consists of its octets. -/
theorem eq_of_octet_eq {a b : Address} (hoctet : ∀ i < 4, a.octet i = b.octet i) : a = b := by
  have hbit (i : Nat) (hi : i < 32) : a.bits.getLsbD i = b.bits.getLsbD i := by
    have hsame := congrArg (fun o => o.getLsbD (i % 8)) (hoctet (3 - i / 8) (by omega))
    have hplace : 24 - 8 * (3 - i / 8) + i % 8 = i := by omega
    have hinside : i % 8 < 8 := Nat.mod_lt i (by decide)
    simpa only [octet, BitVec.getLsbD_extractLsb', hplace, hinside, decide_true,
      Bool.true_and] using hsame
  exact eq_of_bits_eq (BitVec.eq_of_getLsbD_eq hbit)

theorem toList_toText (a : Address) :
    a.toText.toList = (octetText (a.octet 0)).toList ++ '.' ::
      ((octetText (a.octet 1)).toList ++ '.' ::
        ((octetText (a.octet 2)).toList ++ '.' :: (octetText (a.octet 3)).toList)) := by
  simp [toText, String.toList_append]

/-- An address has a text of its own. -/
theorem toText_injective : Function.Injective toText := by
  intro a b heq
  have htext : a.toText.toList = b.toText.toList := congrArg String.toList heq
  rw [toList_toText, toList_toText] at htext
  have hdigits (o : BitVec 8) : ∀ c ∈ (octetText o).toList, c.isDigit := fun _ hmem =>
    isDigit_of_mem_octetText hmem
  have hpoint : Char.isDigit '.' = false := by decide
  obtain ⟨hfirst, htext⟩ := eq_and_eq_of_append_cons_eq (hdigits _) (hdigits _) hpoint htext
  obtain ⟨hsecond, htext⟩ := eq_and_eq_of_append_cons_eq (hdigits _) (hdigits _) hpoint htext
  obtain ⟨hthird, hfourth⟩ := eq_and_eq_of_append_cons_eq (hdigits _) (hdigits _) hpoint htext
  apply eq_of_octet_eq
  intro i hi
  apply eq_of_toList_octetText_eq
  match i, hi with
  | 0, _ => exact hfirst
  | 1, _ => exact hsecond
  | 2, _ => exact hthird
  | 3, _ => exact hfourth

/-- Whether a character occurs in texts of addresses. -/
def isTextChar (c : Char) : Bool :=
  c.isDigit || c == '.'

theorem isTextChar_of_mem_toText {a : Address} {c : Char} (hmem : c ∈ a.toText.toList) :
    isTextChar c := by
  have hdigit {o : BitVec 8} (hoctet : c ∈ (octetText o).toList) : isTextChar c := by
    simp [isTextChar, isDigit_of_mem_octetText hoctet]
  rw [toList_toText] at hmem
  simp only [List.mem_append, List.mem_cons] at hmem
  rcases hmem with hmem | rfl | hmem | rfl | hmem | rfl | hmem
  · exact hdigit hmem
  · rfl
  · exact hdigit hmem
  · rfl
  · exact hdigit hmem
  · rfl
  · exact hdigit hmem

/-- A text with a character of another sort is not that of an address. -/
theorem ne_toText_of_mem {text : String} {c : Char} (hmem : c ∈ text.toList)
    (hc : isTextChar c = false) (a : Address) : text ≠ a.toText := by
  rintro rfl
  rw [isTextChar_of_mem_toText hmem] at hc
  cases hc

/-- After an address a text goes on at the first character of another sort. -/
theorem eq_and_eq_of_toText_append_eq {a b : Address} {separator : Char} {rest other : List Char}
    (hseparator : isTextChar separator = false)
    (heq : a.toText.toList ++ separator :: rest = b.toText.toList ++ separator :: other) :
    a = b ∧ rest = other := by
  obtain ⟨htext, hrest⟩ := eq_and_eq_of_append_cons_eq
    (fun _ => isTextChar_of_mem_toText) (fun _ => isTextChar_of_mem_toText) hseparator heq
  exact ⟨toText_injective (String.toList_injective htext), hrest⟩

end Address

end NetTopology
