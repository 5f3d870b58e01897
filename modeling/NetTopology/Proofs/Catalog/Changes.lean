/-
# Catalogs that change

A change of a catalog declares a device or a link. It is accepted or refused,
and a refused one leaves no trace: a history leads where its accepted changes
lead. An accepted change concerns one name alone. However a catalog came about,
each entry stands under its own name, and its administrative address finds that
entry and no other one. A device is refused when another name has its address,
and a link when nothing is declared under the name of its source.
-/

import NetTopology.Proofs.Catalog.Entry
import NetTopology.Proofs.Catalog.Table

namespace NetTopology

namespace Catalog

/-- A change that is asked of a catalog. -/
inductive Change where
  /-- Declare a device without links. -/
  | device (name : String) (ip : Address) (kind : DeviceKind) (mibs : String)
  /-- Declare a link. -/
  | link (source target : String)

/-- The name that a change is about. -/
def Change.name : Change → String
  | device name _ _ _ => name
  | link source _ => source

/-- What a change makes of the entry under its name. -/
def Change.apply : Change → Option CatalogEntry → Option CatalogEntry
  | device name ip kind mibs, _ => some (CatalogEntry.of name { ip, kind, mibs })
  | link _ target, entry => entry.map fun entry => { entry with links := entry.links ++ [target] }

/-- The catalog after a change, or why the change is refused. -/
def attempt (catalog : Catalog) : Change → Except CatalogError Catalog
  | .device name ip kind mibs => catalog.addDevice name ip kind mibs
  | .link source target => catalog.addLink source target

/-- The catalog after several changes; the refused ones leave it as it was. -/
def after (catalog : Catalog) (changes : List Change) : Catalog :=
  changes.foldl (fun catalog change => (catalog.attempt change).toOption.getD catalog) catalog

/-- The changes of a history that are accepted. -/
def accepted (catalog : Catalog) : List Change → List Change
  | [] => []
  | change :: later =>
    match catalog.attempt change with
    | .ok next => change :: next.accepted later
    | .error _ => catalog.accepted later

variable {catalog : Catalog}

/-! ## One change -/

/-- A device is refused exactly when another name has its address. -/
theorem addDevice_eq_error_iff {name : String} {ip : Address} {kind : DeviceKind} {mibs : String}
    {error : CatalogError} :
    catalog.addDevice name ip kind mibs = .error error ↔
      ∃ holder, catalog.byAdminIp? ip = some holder ∧ holder.name ≠ name ∧
        error = .duplicateAdminIp ip holder.name name := by
  unfold addDevice
  split
  · rename_i hnone
    simp [hnone]
  · rename_i holder hholder
    simp only [hholder, Option.some.injEq, exists_eq_left']
    by_cases hname : holder.name = name
    · simp [hname]
    · simp [hname, eq_comm]

/-- A link is refused exactly when nothing is declared under its source. -/
theorem addLink_eq_error_iff {source target : String} {error : CatalogError} :
    catalog.addLink source target = .error error ↔
      catalog.get? source = none ∧ error = .deviceNameNotFound source := by
  rw [get?_eq_none_iff]
  unfold addLink
  split
  · rename_i hnone
    simp [hnone, eq_comm]
  · rename_i declaration hsource
    simp [hsource]

theorem get?_put {name : String} {declaration : Declaration}
    (hfree : ∀ other d, catalog.declarations[other]? = some d →
      d.ip = declaration.ip → other = name) (other : String) :
    (catalog.put name declaration hfree).get? other =
      if other = name then some (CatalogEntry.of name declaration) else catalog.get? other := by
  show (catalog.declarations.insert name declaration)[other]?.map (CatalogEntry.of other) = _
  simp only [Std.ExtTreeMap.getElem?_insert, Std.LawfulEqCmp.compare_eq_iff_eq]
  by_cases hname : other = name
  · rw [if_pos hname, if_pos hname.symm, hname, Option.map_some]
  · rw [if_neg hname, if_neg (Ne.symm hname), get?]

/-- An accepted change keeps the poll rate and the entries under other names. -/
theorem of_attempt_eq_ok {change : Change} {next : Catalog}
    (haccepted : catalog.attempt change = .ok next) :
    next.pollRate = catalog.pollRate ∧ ∀ name, next.get? name =
      if name = change.name then change.apply (catalog.get? name) else catalog.get? name := by
  cases change with
  | device name ip kind mibs =>
      change catalog.addDevice name ip kind mibs = .ok next at haccepted
      unfold addDevice at haccepted
      split at haccepted
      · rw [← Except.ok.inj haccepted]
        exact ⟨rfl, get?_put _⟩
      · split at haccepted
        · rw [← Except.ok.inj haccepted]
          exact ⟨rfl, get?_put _⟩
        · cases haccepted
  | link source target =>
      change catalog.addLink source target = .ok next at haccepted
      unfold addLink at haccepted
      split at haccepted
      · cases haccepted
      · rename_i declaration hsource
        rw [← Except.ok.inj haccepted]
        refine ⟨rfl, fun name => ?_⟩
        have hentry : catalog.get? source = some (CatalogEntry.of source declaration) :=
          get?_eq_some_iff.mpr ⟨rfl, mem_entries_iff.mpr hsource⟩
        show _ = if name = source then _ else _
        rw [get?_put]
        by_cases hname : name = source
        · rw [if_pos hname, if_pos hname, hname, hentry]
          rfl
        · rw [if_neg hname, if_neg hname]

/-! ## Histories -/

theorem after_cons (catalog : Catalog) (change : Change) (later : List Change) :
    catalog.after (change :: later) =
      ((catalog.attempt change).toOption.getD catalog).after later := rfl

theorem after_concat (catalog : Catalog) (changes : List Change) (change : Change) :
    catalog.after (changes ++ [change]) =
      ((catalog.after changes).attempt change).toOption.getD (catalog.after changes) := by
  rw [after, List.foldl_append]
  rfl

/-- A history leads where its accepted changes lead, one after the other. -/
theorem foldlM_accepted (catalog : Catalog) (changes : List Change) :
    (catalog.accepted changes).foldlM attempt catalog = .ok (catalog.after changes) := by
  induction changes generalizing catalog with
  | nil => rfl
  | cons change later ih =>
      rw [accepted, after_cons]
      cases hattempt : catalog.attempt change with
      | error error => exact ih catalog
      | ok next =>
          rw [List.foldlM_cons, hattempt]
          exact ih next

/-- Whatever changes are asked of a catalog, afterwards each entry stands under
its own name, and its administrative address finds that entry and no other one.
The refused changes leave no trace, and an accepted one concerns the entry under
its name alone. A device is refused exactly when another name has its address,
and a link exactly when nothing is declared under the name of its source. The
catalog to begin with may be the empty one or any other, in particular that of a
document with the same poll rate and declarations. -/
theorem names_and_adminIps_identify (start : Catalog) (changes : List Change) :
    (∀ document, ofDocument document = .ok start ↔
      tableReader.document document = .ok (start.pollRate, start.declarations)) ∧
    (∀ name entry, (start.after changes).get? name = some entry → entry.name = name) ∧
    (∀ first ∈ (start.after changes).entries, ∀ second ∈ (start.after changes).entries,
      first.ip = second.ip → first = second) ∧
    (∀ ip entry, (start.after changes).byAdminIp? ip = some entry ↔
      (start.after changes).get? entry.name = some entry ∧ entry.ip = ip) ∧
    (start.accepted changes).foldlM attempt start = .ok (start.after changes) ∧
    (∀ change error, (start.after changes).attempt change = .error error →
      start.after (changes ++ [change]) = start.after changes) ∧
    (∀ change next, (start.after changes).attempt change = .ok next →
      start.after (changes ++ [change]) = next ∧
        next.pollRate = (start.after changes).pollRate ∧
        ∀ name, next.get? name =
          if name = change.name then change.apply ((start.after changes).get? name)
          else (start.after changes).get? name) ∧
    (∀ name ip kind mibs error, (start.after changes).addDevice name ip kind mibs = .error error ↔
      ∃ holder, (start.after changes).get? holder.name = some holder ∧ holder.ip = ip ∧
        holder.name ≠ name ∧ error = .duplicateAdminIp ip holder.name name) ∧
    ∀ source target error, (start.after changes).addLink source target = .error error ↔
      (start.after changes).get? source = none ∧ error = .deviceNameNotFound source := by
  refine ⟨fun document => ofDocument_eq_ok_iff, ?_, ?_, ?_, foldlM_accepted start changes, ?_, ?_,
    ?_, ?_⟩
  · intro name entry hfound
    exact (get?_eq_some_iff.mp hfound).1
  · intro first hfirst second hsecond hip
    exact eq_of_ip_eq hfirst hsecond hip
  · intro ip entry
    exact byAdminIp?_eq_some_iff
  · intro change error hrefused
    rw [after_concat, hrefused]
    rfl
  · intro change next haccepted
    obtain ⟨hpollRate, hentries⟩ := of_attempt_eq_ok haccepted
    refine ⟨?_, hpollRate, hentries⟩
    rw [after_concat, haccepted]
    rfl
  · intro name ip kind mibs error
    simp only [addDevice_eq_error_iff, byAdminIp?_eq_some_iff, and_assoc]
  · intro source target error
    exact addLink_eq_error_iff

end Catalog

end NetTopology
