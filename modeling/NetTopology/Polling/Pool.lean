/-
# Whom to ask

A pool says which devices a gather asks and how many workers ask them. The
devices are the pollable ones of the catalog in the order of names, so none of
them stands there twice.
-/

import NetTopology.Catalog

namespace NetTopology.Polling

/-- Whom to ask, and with how many workers. -/
structure Pool where
  /-- The names of the pollable devices, in the order of asking. -/
  devices : List String
  /-- No device is named twice. -/
  distinct : devices.Nodup
  /-- The number of workers; at least one is used. -/
  threads : Nat

namespace Pool

/-- The pollable devices of a catalog have different names. -/
theorem nodup_pollable (catalog : Catalog) :
    ((catalog.entries.filter CatalogEntry.isPollable).map CatalogEntry.name).Nodup := by
  have hnames : catalog.entries.map CatalogEntry.name = catalog.declarations.keys := by
    rw [Catalog.entries, List.map_map, ← Std.ExtTreeMap.map_fst_toList_eq_keys]
    rfl
  have hsublist : ((catalog.entries.filter CatalogEntry.isPollable).map CatalogEntry.name).Sublist
      catalog.declarations.keys := by
    rw [← hnames]
    exact List.filter_sublist.map CatalogEntry.name
  exact hsublist.nodup Std.ExtTreeMap.nodup_keys

def ofCatalog (catalog : Catalog) (threads : Nat) : Pool where
  devices := (catalog.entries.filter CatalogEntry.isPollable).map CatalogEntry.name
  distinct := nodup_pollable catalog
  threads

/-- The pool asks the pollable entries of the catalog. -/
theorem mem_devices_ofCatalog_iff {catalog : Catalog} {threads : Nat} {name : String} :
    name ∈ (ofCatalog catalog threads).devices ↔
      ∃ entry ∈ catalog.entries, entry.isPollable ∧ entry.name = name := by
  simp only [ofCatalog, List.mem_map, List.mem_filter, and_assoc]

end Pool

end NetTopology.Polling
