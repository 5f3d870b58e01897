/-
# Decimal digits

The digits that a number is written with have that number as their value, and
the first of them is no zero unless the number is zero. Addresses and the
numbers of documents are both read by cutting such digits out of a text, so
reading them back rests on these two facts.
-/

import Mathlib.Data.List.Basic

namespace NetTopology

/-- The value of a character as a decimal digit. -/
def digitValue (c : Char) : Nat :=
  c.toNat - '0'.toNat

/-- The values of the digits that a number is written with. -/
def decimalDigits (n : Nat) : List Nat :=
  (Nat.toDigits 10 n).map digitValue

theorem toList_toString_nat (n : Nat) : (toString n).toList = Nat.toDigits 10 n := by
  rw [Nat.toString_eq_ofList_toDigits, String.toList_ofList]

theorem isDigit_of_mem_toDigits_ten {n : Nat} {c : Char} (hmem : c ∈ Nat.toDigits 10 n) :
    c.isDigit :=
  Nat.isDigit_of_mem_toDigits (by decide) (by decide) hmem

theorem exists_toDigits_eq_cons (n : Nat) :
    ∃ c rest, Nat.toDigits 10 n = c :: rest ∧ c.isDigit := by
  obtain ⟨c, rest, hdigits⟩ := List.exists_cons_of_ne_nil (Nat.toDigits_ne_nil (n := n) (b := 10))
  exact ⟨c, rest, hdigits, isDigit_of_mem_toDigits_ten (hdigits ▸ List.mem_cons_self)⟩

/-- The digits of a number spell it. -/
theorem foldl_decimalDigits (n : Nat) :
    (decimalDigits n).foldl (fun total digit => 10 * total + digit) 0 = n := by
  rw [decimalDigits, List.foldl_map]
  exact Nat.ofDigitChars_eq_foldl.symm.trans Nat.ofDigitChars_ten_toDigits

theorem decimalDigits_ne_nil (n : Nat) : decimalDigits n ≠ [] := by
  rw [decimalDigits, ne_eq, List.map_eq_nil_iff]
  exact Nat.toDigits_ne_nil

theorem digitChar_ne_zero : ∀ digit < 10, 0 < digit → digit.digitChar ≠ '0' := by
  decide

theorem head?_toDigits_ne {n : Nat} (hpos : 0 < n) : (Nat.toDigits 10 n).head? ≠ some '0' := by
  induction n using Nat.strongRecOn with
  | ind n ih =>
      rw [Nat.toDigits_eq_if (by decide)]
      split
      · rename_i hsmall
        rw [List.head?_cons, ne_eq, Option.some.injEq]
        exact digitChar_ne_zero n hsmall hpos
      · rw [List.head?_append_of_ne_nil _ Nat.toDigits_ne_nil]
        exact ih (n / 10) (Nat.div_lt_self hpos (by decide)) (by omega)

/-- A number of several digits does not start with a zero. -/
theorem length_eq_one_or_head?_ne (n : Nat) :
    (Nat.toDigits 10 n).length = 1 ∨ (Nat.toDigits 10 n).head? ≠ some '0' := by
  rcases Nat.eq_zero_or_pos n with rfl | hpos
  · exact .inl (by rw [Nat.toDigits_zero]; rfl)
  · exact .inr (head?_toDigits_ne hpos)

theorem eq_zero_of_digitValue_eq {c : Char} (hc : c.isDigit) (hvalue : digitValue c = 0) :
    c = '0' := by
  simp only [Char.isDigit, Bool.and_eq_true, decide_eq_true_eq] at hc
  have hlower : '0'.toNat ≤ c.toNat := hc.1
  exact Char.toNat_inj.mp (Nat.le_antisymm (Nat.sub_eq_zero_iff_le.mp hvalue) hlower)

theorem decimalDigits_ne_zero_cons (n digit : Nat) (later : List Nat) :
    decimalDigits n ≠ 0 :: digit :: later := by
  intro hdigits
  obtain ⟨c, rest, htext, hvalue, hrest⟩ := List.map_eq_cons_iff.mp hdigits
  obtain rfl : c = '0' :=
    eq_zero_of_digitValue_eq (isDigit_of_mem_toDigits_ten (htext ▸ List.mem_cons_self)) hvalue
  have hlength := congrArg List.length hrest
  rcases length_eq_one_or_head?_ne n with hone | hhead
  · simp_all
  · exact hhead (htext ▸ rfl)

end NetTopology
