/-
# Catalogs from tables

A document gives all declarations at once, so the check that no two devices
share an administrative address runs over the finished table: the declarations
are walked in the order of names, and the first one whose address was seen
before is the error, reported with the name that had the address first.
`SeparatesIps` holds exactly of the tables that pass; only the direction that
builds a catalog is stated here.
-/

import NetTopology.Catalog

namespace NetTopology

namespace DeclarationTable

/-- The first repeated address among declarations, where `seen` holds the
addresses of the declarations before them. -/
def firstClash (seen : Std.ExtTreeMap Address String) :
    List (String × Declaration) → Option CatalogError
  | [] => none
  | (name, declaration) :: rest =>
    match seen[declaration.ip]? with
    | some first => some (.duplicateAdminIp declaration.ip first name)
    | none => firstClash (seen.insert declaration.ip name) rest

/-- The first repeated address of a table. -/
def clash? (table : DeclarationTable) : Option CatalogError :=
  firstClash ∅ table.toList

/-- Declarations without a clash have addresses that were not seen and that
differ from each other. -/
theorem not_seen_and_pairwise_of_firstClash_eq_none
    {seen : Std.ExtTreeMap Address String} {named : List (String × Declaration)}
    (hnone : firstClash seen named = none) :
    (∀ entry ∈ named, seen[entry.2.ip]? = none) ∧
      named.Pairwise fun first second => first.2.ip ≠ second.2.ip := by
  induction named generalizing seen with
  | nil => simp
  | cons entry rest ih =>
    obtain ⟨name, declaration⟩ := entry
    simp only [firstClash] at hnone
    split at hnone
    · simp at hnone
    · rename_i hunseen
      obtain ⟨hrest, hpairs⟩ := ih hnone
      have hdiffer : ∀ entry ∈ rest, declaration.ip ≠ entry.2.ip := by
        intro entry hmem heq
        have := hrest entry hmem
        rw [Std.ExtTreeMap.getElem?_insert, if_pos (by simp [heq])] at this
        cases this
      refine ⟨?_, List.pairwise_cons.mpr ⟨hdiffer, hpairs⟩⟩
      intro entry hmem
      rcases List.mem_cons.mp hmem with rfl | hmem
      · exact hunseen
      · have hkept := hrest entry hmem
        rw [Std.ExtTreeMap.getElem?_insert] at hkept
        split at hkept
        · cases hkept
        · exact hkept

/-- In a list without repeated addresses, an address picks its element. -/
theorem eq_of_mem_of_ip_eq {named : List (String × Declaration)}
    (hpairs : named.Pairwise fun first second => first.2.ip ≠ second.2.ip)
    {a b : String × Declaration} (ha : a ∈ named) (hb : b ∈ named)
    (hip : a.2.ip = b.2.ip) : a = b := by
  induction hpairs with
  | nil => cases ha
  | cons hhead _ ih =>
    rcases List.mem_cons.mp ha with hahead | ha <;> rcases List.mem_cons.mp hb with hbhead | hb
    · exact hahead.trans hbhead.symm
    · exact absurd (hahead ▸ hip) (hhead _ hb)
    · exact absurd (hbhead ▸ hip.symm) (hhead _ ha)
    · exact ih ha hb

/-- A table without a clash separates addresses. -/
theorem separatesIps_of_clash?_eq_none {table : DeclarationTable}
    (hnone : clash? table = none) : table.SeparatesIps := by
  intro first second d e hd he hip
  have hpairs := (not_seen_and_pairwise_of_firstClash_eq_none hnone).2
  have hsame := eq_of_mem_of_ip_eq hpairs
    (a := (first, d)) (b := (second, e))
    (Std.ExtTreeMap.mem_toList_iff_getElem?_eq_some.mpr hd)
    (Std.ExtTreeMap.mem_toList_iff_getElem?_eq_some.mpr he) hip
  exact congrArg Prod.fst hsame

end DeclarationTable

/-- The catalog of a table, unless an address is repeated in it. -/
def Catalog.ofTable (pollRate : UInt64) (table : DeclarationTable) :
    Except CatalogError Catalog :=
  match hclash : table.clash? with
  | some error => .error error
  | none =>
    .ok
      { pollRate
        declarations := table
        separatesIps := DeclarationTable.separatesIps_of_clash?_eq_none hclash }

end NetTopology
