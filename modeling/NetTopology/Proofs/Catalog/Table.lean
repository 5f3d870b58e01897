/-
# Which tables are catalogs

A table passes the check of a document exactly when no two of its names share an
administrative address. A document is therefore accepted as a catalog exactly
when the poll rate and the table that it gives are those of the catalog.
-/

import NetTopology.Catalog.Document
import Mathlib.Data.List.Basic

namespace NetTopology

namespace DeclarationTable

/-- Declarations whose addresses were not seen and differ from each other do not clash. -/
theorem firstClash_eq_none {seen : Std.ExtTreeMap Address String}
    {named : List (String × Declaration)} (hunseen : ∀ entry ∈ named, seen[entry.2.ip]? = none)
    (hpairs : named.Pairwise fun first second => first.2.ip ≠ second.2.ip) :
    firstClash seen named = none := by
  induction named generalizing seen with
  | nil => rfl
  | cons entry rest ih =>
      obtain ⟨name, declaration⟩ := entry
      obtain ⟨hdiffer, hrest⟩ := List.pairwise_cons.mp hpairs
      rw [firstClash, hunseen _ List.mem_cons_self]
      apply ih _ hrest
      intro other hother
      rw [Std.ExtTreeMap.getElem?_insert, if_neg]
      · exact hunseen other (List.mem_cons_of_mem _ hother)
      · rw [Std.LawfulEqCmp.compare_eq_iff_eq]
        exact hdiffer other hother

/-- The declarations of a table stand under different names. -/
theorem pairwise_names_ne (table : DeclarationTable) :
    table.toList.Pairwise fun first second => first.1 ≠ second.1 := by
  have hdistinct : table.toList.Pairwise fun first second => ¬ compare first.1 second.1 = .eq :=
    Std.ExtTreeMap.distinct_keys_toList
  exact hdistinct.imp fun hne hname => hne (Std.LawfulEqCmp.compare_eq_iff_eq.mpr hname)

theorem SeparatesIps.pairwise_toList {table : DeclarationTable} (hseparates : table.SeparatesIps) :
    table.toList.Pairwise fun first second => first.2.ip ≠ second.2.ip := by
  apply table.pairwise_names_ne.imp_of_mem
  intro first second hfirst hsecond hne hip
  apply hne
  exact hseparates _ _ _ _ (Std.ExtTreeMap.mem_toList_iff_getElem?_eq_some.mp hfirst)
    (Std.ExtTreeMap.mem_toList_iff_getElem?_eq_some.mp hsecond) hip

theorem clash?_eq_none_iff {table : DeclarationTable} :
    table.clash? = none ↔ table.SeparatesIps := by
  constructor
  · exact separatesIps_of_clash?_eq_none
  · intro hseparates
    exact firstClash_eq_none (fun _ _ => Std.ExtTreeMap.getElem?_empty) hseparates.pairwise_toList

end DeclarationTable

namespace Catalog

/-- A catalog is its poll rate with its declarations. -/
theorem eq_of_declarations_eq {first second : Catalog}
    (hpollRate : first.pollRate = second.pollRate)
    (hdeclarations : first.declarations = second.declarations) : first = second := by
  cases first
  cases second
  cases hpollRate
  cases hdeclarations
  rfl

/-- A table is accepted exactly as the declarations of a catalog. -/
theorem ofTable_eq_ok_iff {pollRate : UInt64} {table : DeclarationTable} {catalog : Catalog} :
    ofTable pollRate table = .ok catalog ↔
      pollRate = catalog.pollRate ∧ table = catalog.declarations := by
  unfold ofTable
  split
  · rename_i error hclash
    constructor
    · intro hok
      cases hok
    · rintro ⟨-, rfl⟩
      rw [DeclarationTable.clash?_eq_none_iff.mpr catalog.separatesIps] at hclash
      cases hclash
  · constructor
    · intro hok
      rw [← Except.ok.inj hok]
      exact ⟨rfl, rfl⟩
    · rintro ⟨hpollRate, hdeclarations⟩
      exact congrArg Except.ok (eq_of_declarations_eq hpollRate hdeclarations)

/-- A table is refused for the first clash of its addresses. -/
theorem ofTable_eq_error_iff {pollRate : UInt64} {table : DeclarationTable}
    {error : CatalogError} : ofTable pollRate table = .error error ↔ table.clash? = some error := by
  unfold ofTable
  split
  · rename_i found hclash
    rw [hclash, Except.error.injEq, Option.some.injEq]
  · rename_i hclash
    refine iff_of_false nofun ?_
    intro hfound
    rw [hclash] at hfound
    cases hfound

/-- A document is accepted exactly when it gives the poll rate and the
declarations of a catalog, and it becomes that catalog. -/
theorem ofDocument_eq_ok_iff {document : String} {catalog : Catalog} :
    ofDocument document = .ok catalog ↔
      tableReader.document document = .ok (catalog.pollRate, catalog.declarations) := by
  rw [ofDocument]
  cases hread : tableReader.document document with
  | error fault =>
      constructor
      · intro hok
        cases hok
      · intro hok
        cases hok
  | ok read =>
      obtain ⟨pollRate, table⟩ := read
      show (ofTable pollRate table).mapError Failure.catalog = .ok catalog ↔ _
      rw [Except.ok.injEq, Prod.mk.injEq, ← ofTable_eq_ok_iff]
      cases ofTable pollRate table <;> simp [Except.mapError]

/-- A document that gives a table fails exactly when the addresses of the table clash. -/
theorem ofDocument_eq_error_iff_of_read {document : String} {pollRate : UInt64}
    {table : DeclarationTable}
    (hread : tableReader.document document = .ok (pollRate, table)) {failure : Failure} :
    ofDocument document = .error failure ↔
      ∃ error, table.clash? = some error ∧ failure = .catalog error := by
  have hdocument : ofDocument document = (ofTable pollRate table).mapError .catalog := by
    rw [ofDocument, hread]
  have hclash {error : CatalogError} :
      table.clash? = some error ↔ ofTable pollRate table = .error error :=
    ofTable_eq_error_iff.symm
  simp only [hdocument, hclash]
  cases ofTable pollRate table <;> simp [Except.mapError, eq_comm]

end Catalog

end NetTopology
