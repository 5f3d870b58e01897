/-
# First in the order of names

Where several devices have a property, the one that counts is found by walking
over the devices, which stand in the order of their names. A search over an
ordered list stops at the element that no other element with the property
precedes, so the device found is the one with the smallest name.
-/

import NetTopology.Proofs.Owner

namespace NetTopology

/-- A search over an ordered list finds the first element with the property. -/
theorem find?_eq_some_iff_of_pairwise {α : Type} {precedes : α → α → Prop} {property : α → Bool}
    {items : List α} {item : α} (hordered : items.Pairwise precedes)
    (hasymm : ∀ first second, precedes first second → ¬ precedes second first) :
    items.find? property = some item ↔
      item ∈ items ∧ property item ∧
        ∀ other ∈ items, property other → ¬ precedes other item := by
  induction items with
  | nil => simp
  | cons head later ih =>
      obtain ⟨hhead, hlater⟩ := List.pairwise_cons.mp hordered
      by_cases hproperty : property head = true
      · rw [List.find?_cons_of_pos hproperty, Option.some.injEq]
        constructor
        · rintro rfl
          refine ⟨List.mem_cons_self, hproperty, ?_⟩
          intro other hother _ hbefore
          rcases List.mem_cons.mp hother with rfl | hother
          · exact hasymm _ _ hbefore hbefore
          · exact hasymm _ _ hbefore (hhead other hother)
        · rintro ⟨hmem, -, hfirst⟩
          rcases List.mem_cons.mp hmem with rfl | hmem
          · rfl
          · exact absurd (hhead item hmem) (hfirst head List.mem_cons_self hproperty)
      · rw [List.find?_cons_of_neg hproperty, ih hlater]
        constructor
        · rintro ⟨hmem, hitem, hfirst⟩
          refine ⟨List.mem_cons_of_mem head hmem, hitem, ?_⟩
          intro other hother hholds
          rcases List.mem_cons.mp hother with rfl | hother
          · exact absurd hholds hproperty
          · exact hfirst other hother hholds
        · rintro ⟨hmem, hitem, hfirst⟩
          rcases List.mem_cons.mp hmem with rfl | hmem
          · exact absurd hitem hproperty
          · exact ⟨hmem, hitem, fun other hother => hfirst other (List.mem_cons_of_mem head hother)⟩

/-- The device stands before the other one in the order of names. -/
def Device.Precedes (first second : Device) : Prop :=
  compare first.name second.name = .lt

theorem Device.Precedes.asymm {first second : Device} (hbefore : first.Precedes second) :
    ¬ second.Precedes first :=
  Std.OrientedCmp.not_lt_of_lt hbefore

/-- The entries of a catalog stand in the order of their names. -/
theorem Catalog.pairwise_names (catalog : Catalog) :
    catalog.entries.Pairwise fun first second => compare first.name second.name = .lt := by
  rw [entries, List.pairwise_map]
  exact Std.ExtTreeMap.ordered_keys_toList

namespace Network

theorem pairwise_precedes (net : Network) : net.devices.Pairwise Device.Precedes := by
  rw [devices, List.pairwise_map]
  exact net.catalog.pairwise_names

end Network

end NetTopology
