/-
# A catalog is read back from its document

What is written does not mirror what is read: the name of a device is the key of
its declaration, an empty list of links is left out, and the table that is read
has to pass the check of addresses. It passes because it is the table of a
catalog, so the document of a catalog gives the catalog again, in both layouts
and in every other spelling.
-/

import NetTopology.Proofs.Catalog.Table
import NetTopology.Proofs.Json.Record

namespace NetTopology

open Json (Reader Fields)

namespace DeviceKind

theorem ofWord_toText (kind : DeviceKind) : ofWord kind.toText = .ok kind := by
  cases kind <;> rfl

theorem accepts_reader (kind : DeviceKind) : reader.Accepts (.str kind.toText) kind := by
  have haccepts := (Reader.accepts_text kind.toText).andThen (ofWord_toText kind)
  intro gap text rest hgap hspells hrest
  -- The reader of words starts over at the quote mark, where no blanks are left.
  have hrun := haccepts Json.blank_nil hspells hrest
  cases hspells
  rw [Json.toList_quoted, List.cons_append] at hrun ⊢
  show Reader.runHead read _ = _
  rw [Reader.runHead_append_cons hgap rfl, read, if_pos rfl]
  exact hrun

end DeviceKind

namespace Declaration

theorem accepts_links (links : List String) :
    (Reader.array Reader.text).Accepts (.arr (links.map .str)) links := by
  apply Reader.accepts_array
  rw [List.forall₂_map_left_iff, List.forall₂_same]
  intro link _
  exact Reader.accepts_text link

/-- An empty list of links is given by being left out. -/
theorem gives_links (links : List String) :
    (Fields.default "links" (Reader.array Reader.text) [] .done).Gives
      (if links.isEmpty then [] else [("links", .arr (links.map .str))]) (links, ()) := by
  cases links with
  | nil => exact .omitted (List.forall_mem_nil _) .done
  | cons link rest => exact .given (accepts_links (link :: rest)) (List.forall_mem_nil _) .done

theorem accepts_reader (declaration : Declaration) :
    reader.Accepts declaration.toJson declaration := by
  obtain ⟨ip, kind, mibs, links⟩ := declaration
  refine (Fields.accepts_reader (.given (Reader.accepts_address ip) ?_
    (.given (DeviceKind.accepts_reader kind) ?_ (.given (Reader.accepts_text mibs) ?_
      (gives_links links))))).map _
  -- No later field has the name of an earlier one.
  all_goals
    split <;> simp

end Declaration

namespace Catalog

theorem accepts_tableReader (catalog : Catalog) :
    tableReader.Accepts catalog.toJson (catalog.pollRate, catalog.declarations) := by
  have hrate : catalog.pollRate.toNat < 1 <<< 64 := catalog.pollRate.toNat_lt
  have htable : (Reader.table Declaration.reader).Accepts _ catalog.declarations :=
    Reader.accepts_table catalog.declarations fun pair _ => Declaration.accepts_reader pair.2
  have haccepts : tableReader.Accepts catalog.toJson
      (UInt64.ofNat catalog.pollRate.toNat, catalog.declarations) :=
    (Fields.accepts_reader (.given (Reader.accepts_natural hrate hrate) (by simp)
      (.given htable (List.forall_mem_nil _) .done))).map _
  rwa [UInt64.ofNat_toNat] at haccepts

theorem ofDocument_of_spells {catalog : Catalog} {document : String}
    (hspells : Json.Spells catalog.toJson document.toList) : ofDocument document = .ok catalog :=
  ofDocument_eq_ok_iff.mpr (Reader.document_eq_ok (accepts_tableReader catalog) hspells)

/-- The document of a catalog is accepted in both layouts and gives the same catalog. -/
theorem ofDocument_toJson (catalog : Catalog) :
    ofDocument catalog.toJson.compact = .ok catalog ∧
      ofDocument (catalog.toJson.pretty 0) = .ok catalog :=
  ⟨ofDocument_of_spells (Json.spells_compact catalog.toJson),
    ofDocument_of_spells (Json.spells_pretty 0 catalog.toJson)⟩

end Catalog

end NetTopology
