/-
# Addresses are read from their texts

The octets of an address have no leading zeros and no points in them, so the
points of its text cut it into the octets again.
-/

import NetTopology.Proofs.Address.Text

namespace NetTopology

namespace Address

theorem splitPoints_eq_of_forall_ne {part : List Char} (hpart : ∀ c ∈ part, c ≠ '.') :
    splitPoints part = [part] := by
  induction part with
  | nil => rfl
  | cons c rest ih =>
      obtain ⟨hc, hrest⟩ := List.forall_mem_cons.mp hpart
      rw [splitPoints, if_neg hc, ih hrest]

theorem splitPoints_append_cons {part rest : List Char} (hpart : ∀ c ∈ part, c ≠ '.') :
    splitPoints (part ++ '.' :: rest) = part :: splitPoints rest := by
  induction part with
  | nil => rw [List.nil_append, splitPoints, if_pos rfl]
  | cons c later ih =>
      obtain ⟨hc, hlater⟩ := List.forall_mem_cons.mp hpart
      rw [List.cons_append, splitPoints, if_neg hc, ih hlater]

theorem ne_point_of_mem_octetText {o : BitVec 8} {c : Char} (hmem : c ∈ (octetText o).toList) :
    c ≠ '.' := by
  rintro rfl
  cases isDigit_of_mem_octetText hmem

theorem mapM_digit?_eq {text : List Char} (hdigits : ∀ c ∈ text, c.isDigit) :
    text.mapM digit? = some (text.map digitValue) := by
  induction text with
  | nil => rfl
  | cons c rest ih =>
      obtain ⟨hc, hrest⟩ := List.forall_mem_cons.mp hdigits
      have hdigit : digit? c = some (digitValue c) := if_pos hc
      rw [List.mapM_cons, hdigit, ih hrest]
      rfl

theorem octet?_octetText (o : BitVec 8) : octet? (octetText o).toList = some o := by
  have hbound : o.toNat ≤ 255 := Nat.le_of_lt_succ o.isLt
  have hlength : (Nat.toDigits 10 o.toNat).length ≤ 3 :=
    (Nat.length_toDigits_le_iff (by decide) (by decide)).mpr (by omega)
  have hread : (Nat.toDigits 10 o.toNat).mapM digit? = some (decimalDigits o.toNat) :=
    mapM_digit?_eq fun _ hmem => isDigit_of_mem_toDigits_ten hmem
  rw [toList_octetText]
  simp [octet?, guard, hlength, length_eq_one_or_head?_ne, hread, decimalDigits_ne_nil,
    foldl_decimalDigits, hbound]

theorem ofOctets_octet (a : Address) :
    ofOctets (a.octet 0) (a.octet 1) (a.octet 2) (a.octet 3) = a := by
  have hbits : a.octet 0 ++ a.octet 1 ++ a.octet 2 ++ a.octet 3 = a.bits := by
    apply BitVec.eq_of_getLsbD_eq
    intro i hi
    simp only [octet, BitVec.getLsbD_append, BitVec.getLsbD_extractLsb']
    grind
  exact congrArg mk hbits

/-- An address is read from its text. -/
theorem ofText?_toText (a : Address) : ofText? a.toText.toList = some a := by
  have hparts : splitPoints a.toText.toList = [(octetText (a.octet 0)).toList,
      (octetText (a.octet 1)).toList, (octetText (a.octet 2)).toList,
      (octetText (a.octet 3)).toList] := by
    have hpoint {o : BitVec 8} : ∀ c ∈ (octetText o).toList, c ≠ '.' := fun _ =>
      ne_point_of_mem_octetText
    rw [toList_toText, splitPoints_append_cons hpoint, splitPoints_append_cons hpoint,
      splitPoints_append_cons hpoint, splitPoints_eq_of_forall_ne hpoint]
  rw [ofText?, hparts]
  simp only [octet?_octetText]
  exact congrArg some (ofOctets_octet a)

end Address

end NetTopology
