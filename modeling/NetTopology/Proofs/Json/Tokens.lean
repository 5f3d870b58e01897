/-
# Tokens are read back

A text between quote marks is read back whatever stands after it, since only
the closing quote mark ends it. A number has no such mark: it is read back when
what follows does not go on with it, and as a whole number when it is small
enough that no digit is turned into an exponent.
-/

import NetTopology.Json
import NetTopology.Json.Skip
import NetTopology.Proofs.Decimal

namespace NetTopology.Json

theorem hexValue?_hexDigit : ∀ value < 16, hexValue? (hexDigit value) = some value := by
  decide

/-- A control character is read back from its escape. -/
theorem readEscape_control {c : Char} (hcontrol : c.toNat < 32) (rest : List Char) :
    readEscape ('u' :: '0' :: '0' :: hexDigit (c.toNat / 16) :: hexDigit (c.toNat % 16) :: rest) =
      .ok (c, rest) := by
  have hzero : hexValue? '0' = some 0 := by decide
  have hhigh := hexValue?_hexDigit (c.toNat / 16) (by omega)
  have hlow := hexValue?_hexDigit (c.toNat % 16) (by omega)
  have hvalue : 16 * (16 * (16 * 0 + 0) + c.toNat / 16) + c.toNat % 16 = c.toNat := by omega
  have hhex : readHex ('0' :: '0' :: hexDigit (c.toNat / 16) :: hexDigit (c.toNat % 16) :: rest) =
      .ok (c.toNat, rest) := by
    simp only [readHex, hzero, hhigh, hlow, hvalue]
  have hnotLow : isLowSurrogate c.toNat = false := by
    simp only [isLowSurrogate, Bool.and_eq_false_iff, decide_eq_false_iff_not]
    omega
  have hnotHigh : isHighSurrogate c.toNat = false := by
    simp only [isHighSurrogate, Bool.and_eq_false_iff, decide_eq_false_iff_not]
    omega
  simp [readEscape, hhex, hnotLow, hnotHigh, Char.ofNat_toNat]

/-- A backslash and what stands after it are read as one character. -/
theorem readQuoted_backslash {text rest : List Char} {c : Char}
    (hescape : readEscape text = .ok (c, rest)) :
    readQuoted ('\\' :: text) = (readQuoted rest).map fun (chars, rest) => (c :: chars, rest) := by
  rw [readQuoted, if_neg (by decide), if_pos rfl]
  split
  · rename_i hfault
    rw [hescape] at hfault
    cases hfault
  · rename_i hread
    obtain ⟨rfl, rfl⟩ := Prod.mk.inj (Except.ok.inj (hescape.symm.trans hread))
    rfl

/-- One character is read back from what is written for it. -/
theorem readQuoted_escaped (c : Char) (text : List Char) :
    readQuoted (escaped c ++ text) =
      (readQuoted text).map fun (chars, rest) => (c :: chars, rest) := by
  unfold escaped
  -- Seven characters have a letter of their own.
  iterate 7
    split
    · subst_vars
      exact readQuoted_backslash rfl
  split
  · rename_i hcontrol
    exact readQuoted_backslash (readEscape_control hcontrol text)
  · rename_i hquote hbackslash _ _ _ _ _ hplain
    rw [List.singleton_append, readQuoted, if_neg hquote, if_neg hbackslash, if_neg hplain]

/-- A text is read back from between its quote marks. -/
theorem readQuoted_quoted (chars rest : List Char) :
    readQuoted (chars.flatMap escaped ++ '"' :: rest) = .ok (chars, rest) := by
  induction chars with
  | nil => rw [List.flatMap_nil, List.nil_append, readQuoted, if_pos rfl]
  | cons c later ih => rw [List.flatMap_cons, List.append_assoc, readQuoted_escaped, ih]; rfl

/-- A text that does not go on with a number. -/
def EndsNumber (text : List Char) : Prop :=
  ∀ c ∈ text.head?, c.isDigit = false ∧ c ≠ '.' ∧ c ≠ 'e' ∧ c ≠ 'E'

theorem spanDigits_eq_nil {rest : List Char} (hrest : ∀ c ∈ rest.head?, c.isDigit = false) :
    spanDigits rest = ([], rest) := by
  cases rest with
  | nil => rfl
  | cons c tail =>
      have hc : c.isDigit = false := hrest c rfl
      rw [spanDigits, if_neg (by simp [hc])]

theorem spanDigits_append {digits rest : List Char} (hdigits : ∀ c ∈ digits, c.isDigit)
    (hrest : ∀ c ∈ rest.head?, c.isDigit = false) :
    spanDigits (digits ++ rest) = (digits.map digitValue, rest) := by
  induction digits with
  | nil => exact spanDigits_eq_nil hrest
  | cons c later ih =>
      obtain ⟨hc, hlater⟩ := List.forall_mem_cons.mp hdigits
      rw [List.cons_append, spanDigits, if_pos hc, ih hlater]
      rfl

theorem le_foldl_digits (total : Nat) (digits : List Nat) :
    total ≤ digits.foldl (fun total digit => 10 * total + digit) total := by
  induction digits generalizing total with
  | nil => exact Nat.le_refl total
  | cons digit rest ih => exact Nat.le_trans (by omega) (ih (10 * total + digit))

/-- Digits of a number that fits in a word are all appended. -/
theorem appendDigits_eq {total : Nat} {digits : List Nat}
    (hfits : digits.foldl (fun total digit => 10 * total + digit) total < 1 <<< 64) :
    appendDigits total digits =
      (digits.foldl (fun total digit => 10 * total + digit) total, 0) := by
  induction digits generalizing total with
  | nil => rfl
  | cons digit rest ih =>
      have hbelow : 10 * total + digit < 1 <<< 64 :=
        Nat.lt_of_le_of_lt (le_foldl_digits _ rest) hfits
      rw [appendDigits, if_pos hbelow, ih hfits, List.foldl_cons]

namespace Numeral

/-- The digits of a number without fraction and exponent. -/
def ofNat (n : Nat) : Numeral where
  negative := false
  whole := decimalDigits n
  fraction := none
  exponent := none

theorem value?_ofNat {n : Nat} (hfits : n < 1 <<< 64) : (ofNat n).value? = some (.natural n) := by
  have hdigits : appendDigits 0 (decimalDigits n) = (n, 0) := by
    rw [appendDigits_eq (by rwa [foldl_decimalDigits]), foldl_decimalDigits]
  have hsignificand : (ofNat n).significand = (n, 0) := by
    simp [significand, ofNat, hdigits]
  have hwhole : (ofNat n).isWhole := by
    rw [isWhole, hsignificand]
    rfl
  have hnatural : ¬(ofNat n).negative = true := Bool.false_ne_true
  rw [value?, if_pos hwhole, if_neg hnatural, hsignificand]

theorem spanWhole_toDigits {n : Nat} {rest : List Char}
    (hrest : ∀ c ∈ rest.head?, c.isDigit = false) :
    spanWhole (Nat.toDigits 10 n ++ rest) = .ok (decimalDigits n, rest) := by
  have hspan : spanDigits (Nat.toDigits 10 n ++ rest) = (decimalDigits n, rest) :=
    spanDigits_append (fun _ => isDigit_of_mem_toDigits_ten) hrest
  unfold spanWhole
  rw [hspan]
  split
  · rename_i hempty
    exact absurd (congrArg Prod.fst hempty) (decimalDigits_ne_nil n)
  · rename_i hzero
    exact absurd (congrArg Prod.fst hzero) (decimalDigits_ne_zero_cons n _ _)
  · rename_i hread
    rw [hread]

theorem spanUnsigned_toDigits {n : Nat} {rest : List Char} (hrest : EndsNumber rest) :
    spanUnsigned false (Nat.toDigits 10 n ++ rest) = .ok (ofNat n, rest) := by
  have hfraction : spanFraction rest = .ok (none, rest) := by
    unfold spanFraction
    split
    · exact absurd rfl (hrest '.' rfl).2.1
    · rfl
  have hexponent : spanExponent rest = .ok (none, rest) := by
    unfold spanExponent
    split
    · rfl
    · rename_i c tail
      obtain ⟨-, -, hlower, hupper⟩ := hrest c rfl
      rw [if_neg (not_or.mpr ⟨hlower, hupper⟩)]
  rw [spanUnsigned, spanWhole_toDigits fun c hc => (hrest c hc).1]
  simp only [bind, Except.bind, hfraction, hexponent]
  rfl

end Numeral

end NetTopology.Json
