/-
# A document is built up like any other catalog

A document gives its declarations at once, and their addresses are checked over
the finished table. The same declarations can be made one after the other from
nothing, each device checked against those before it: first the devices in the
order of names, then the links of each of them. Both ways lead to the same
catalog. They also stop at the same device for the same reason, because the
addresses seen while the table is walked are those of the devices declared so
far, under the same names.

Declaring the links cannot fail, since their sources are all declared.
-/

import NetTopology.Proofs.Catalog.Changes
import NetTopology.Samples

namespace NetTopology

/-! ## The changes of a table -/

namespace DeclarationTable

/-- Declare a device as a table has it, but for its links. -/
def deviceChange (named : String × Declaration) : Catalog.Change :=
  .device named.1 named.2.ip named.2.kind named.2.mibs

/-- Declare the links of a device as a table has them, in their order. -/
def linkChangesOf (named : String × Declaration) : List Catalog.Change :=
  named.2.links.map (.link named.1)

/-- Declare the devices of a table in the order of names. -/
def deviceChanges (table : DeclarationTable) : List Catalog.Change :=
  table.toList.map deviceChange

/-- Declare the links of a table, device by device in the order of names. -/
def linkChanges (table : DeclarationTable) : List Catalog.Change :=
  table.toList.flatMap linkChangesOf

/-- Among the entries of a table one has the name, and the others have not. -/
theorem exists_toList_eq_append {table : DeclarationTable} {name : String}
    {declaration : Declaration} (hget : table[name]? = some declaration) :
    ∃ before later, table.toList = before ++ (name, declaration) :: later ∧
      (∀ other ∈ before, other.1 ≠ name) ∧ ∀ other ∈ later, other.1 ≠ name := by
  obtain ⟨before, later, hsplit⟩ :=
    List.append_of_mem (Std.ExtTreeMap.mem_toList_iff_getElem?_eq_some.mpr hget)
  have hdistinct := table.pairwise_names_ne
  rw [hsplit, List.pairwise_append, List.pairwise_cons] at hdistinct
  obtain ⟨-, ⟨hlater, -⟩, hbefore⟩ := hdistinct
  exact ⟨before, later, hsplit, fun other hother => hbefore other hother _ List.mem_cons_self,
    fun other hother => (hlater other hother).symm⟩

theorem ne_of_getElem?_eq_none {table : DeclarationTable} {name : String}
    (hget : table[name]? = none) : ∀ other ∈ table.toList, other.1 ≠ name := by
  rintro ⟨other, declaration⟩ hother rfl
  rw [Std.ExtTreeMap.mem_toList_iff_getElem?_eq_some.mp hother] at hget
  cases hget

end DeclarationTable

namespace Catalog

open DeclarationTable

variable {catalog : Catalog}

/-! ## What several changes make of an entry -/

/-- What changes make of the entry under a name, one after the other. -/
def Change.applyAll (name : String) (changes : List Change) (entry : Option CatalogEntry) :
    Option CatalogEntry :=
  changes.foldl (fun entry change => if name = change.name then change.apply entry else entry) entry

theorem Change.applyAll_cons (name : String) (change : Change) (later : List Change)
    (entry : Option CatalogEntry) :
    applyAll name (change :: later) entry =
      applyAll name later (if name = change.name then change.apply entry else entry) := rfl

theorem Change.applyAll_append (name : String) (first second : List Change)
    (entry : Option CatalogEntry) :
    applyAll name (first ++ second) entry = applyAll name second (applyAll name first entry) :=
  List.foldl_append

/-- Changes that are about other names leave an entry alone. -/
theorem Change.applyAll_eq_self {name : String} {changes : List Change}
    (hother : ∀ change ∈ changes, change.name ≠ name) (entry : Option CatalogEntry) :
    applyAll name changes entry = entry := by
  induction changes with
  | nil => rfl
  | cons change later ih =>
      obtain ⟨hchange, hlater⟩ := List.forall_mem_cons.mp hother
      rw [applyAll_cons, if_neg hchange.symm]
      exact ih hlater

/-! ## Changes one after the other -/

theorem foldlM_attempt_cons_eq_ok_iff {change : Change} {later : List Change} {next : Catalog} :
    (change :: later).foldlM attempt catalog = .ok next ↔
      ∃ between, catalog.attempt change = .ok between ∧
        later.foldlM attempt between = .ok next := by
  rw [List.foldlM_cons]
  cases catalog.attempt change <;> simp [bind, Except.bind]

theorem foldlM_attempt_cons_eq_error_iff {change : Change} {later : List Change}
    {error : CatalogError} :
    (change :: later).foldlM attempt catalog = .error error ↔
      catalog.attempt change = .error error ∨
        ∃ between, catalog.attempt change = .ok between ∧
          later.foldlM attempt between = .error error := by
  rw [List.foldlM_cons]
  cases catalog.attempt change <;> simp [bind, Except.bind]

/-- When no change is refused, each name has what the changes make of its entry. -/
theorem of_foldlM_attempt_eq_ok {changes : List Change} {next : Catalog}
    (haccepted : changes.foldlM attempt catalog = .ok next) :
    next.pollRate = catalog.pollRate ∧
      ∀ name, next.get? name = Change.applyAll name changes (catalog.get? name) := by
  induction changes generalizing catalog with
  | nil =>
      obtain rfl := Except.ok.inj haccepted
      exact ⟨rfl, fun _ => rfl⟩
  | cons change later ih =>
      obtain ⟨between, hattempt, hlater⟩ := foldlM_attempt_cons_eq_ok_iff.mp haccepted
      obtain ⟨hrate, hentries⟩ := of_attempt_eq_ok hattempt
      obtain ⟨hlaterRate, hlaterEntries⟩ := ih hlater
      refine ⟨hlaterRate.trans hrate, fun name => ?_⟩
      rw [hlaterEntries, hentries, Change.applyAll_cons]

/-- Several changes are refused where the first of them is refused. -/
theorem foldlM_attempt_eq_error_iff {changes : List Change} {error : CatalogError} :
    changes.foldlM attempt catalog = .error error ↔
      ∃ earlier change later before, changes = earlier ++ change :: later ∧
        earlier.foldlM attempt catalog = .ok before ∧ before.attempt change = .error error := by
  induction changes generalizing catalog with
  | nil => simp [pure, Except.pure]
  | cons change later ih =>
      rw [foldlM_attempt_cons_eq_error_iff]
      constructor
      · rintro (hfirst | ⟨between, hattempt, hlater⟩)
        · exact ⟨[], change, later, catalog, rfl, rfl, hfirst⟩
        · obtain ⟨earlier, refused, rest, before, rfl, hbefore, hrefused⟩ := ih.mp hlater
          exact ⟨change :: earlier, refused, rest, before, rfl,
            foldlM_attempt_cons_eq_ok_iff.mpr ⟨between, hattempt, hbefore⟩, hrefused⟩
      · rintro ⟨earlier, refused, rest, before, hsplit, hbefore, hrefused⟩
        cases earlier with
        | nil =>
            obtain ⟨rfl, rfl⟩ := List.cons.inj hsplit
            obtain rfl := Except.ok.inj hbefore
            exact Or.inl hrefused
        | cons first earlier =>
            obtain ⟨rfl, rfl⟩ := List.cons.inj hsplit
            obtain ⟨between, hattempt, hbefore⟩ := foldlM_attempt_cons_eq_ok_iff.mp hbefore
            exact Or.inr ⟨between, hattempt,
              ih.mpr ⟨earlier, refused, rest, before, rfl, hbefore, hrefused⟩⟩

/-- Declaring links is not refused where all sources are declared. -/
theorem exists_foldlM_attempt_eq_ok_of_links {changes : List Change}
    (hlinks : ∀ change ∈ changes, ∃ source target, change = .link source target ∧
      catalog.get? source ≠ none) :
    ∃ next, changes.foldlM attempt catalog = .ok next := by
  induction changes generalizing catalog with
  | nil => exact ⟨catalog, rfl⟩
  | cons change later ih =>
      obtain ⟨⟨source, target, rfl, hsource⟩, hlater⟩ := List.forall_mem_cons.mp hlinks
      cases hattempt : catalog.attempt (.link source target) with
      | error error => exact absurd (addLink_eq_error_iff.mp hattempt).1 hsource
      | ok between =>
          obtain ⟨next, hnext⟩ : ∃ next, later.foldlM attempt between = .ok next := by
            apply ih
            intro change hchange
            obtain ⟨other, target, rfl, hother⟩ := hlater change hchange
            refine ⟨other, target, rfl, ?_⟩
            -- a declared link keeps every entry, its own source's included
            rw [(of_attempt_eq_ok hattempt).2]
            split
            · simpa [Change.apply] using hother
            · exact hother
          exact ⟨next, foldlM_attempt_cons_eq_ok_iff.mpr ⟨between, hattempt, hnext⟩⟩

/-! ## Devices -/

/-- The addresses that were seen are those of the catalog, under the same names. -/
def Tracks (seen : Std.ExtTreeMap Address String) (catalog : Catalog) : Prop :=
  ∀ ip name, seen[ip]? = some name ↔ ∃ entry, catalog.get? name = some entry ∧ entry.ip = ip

section

variable {seen : Std.ExtTreeMap Address String} {name : String} {declaration : Declaration}

theorem tracks_empty : Tracks ∅ ∅ := by
  intro ip name
  have hnone : (∅ : Catalog).get? name = none := rfl
  simp [hnone]

/-- A device whose address was seen is refused with the name that has it. -/
theorem attempt_deviceChange_eq_error (htracks : Tracks seen catalog)
    (hnew : catalog.get? name = none) {first : String}
    (hseen : seen[declaration.ip]? = some first) :
    catalog.attempt (deviceChange (name, declaration)) =
      .error (.duplicateAdminIp declaration.ip first name) := by
  obtain ⟨holder, hholder, hip⟩ := (htracks _ _).mp hseen
  obtain rfl := (get?_eq_some_iff.mp hholder).1
  refine addDevice_eq_error_iff.mpr
    ⟨holder, byAdminIp?_eq_some_iff.mpr ⟨hholder, hip⟩, ?_, rfl⟩
  intro hname
  rw [hname, hnew] at hholder
  cases hholder

theorem get?_of_attempt_deviceChange {next : Catalog}
    (hattempt : catalog.attempt (deviceChange (name, declaration)) = .ok next) (other : String) :
    next.get? other =
      if other = name then some (CatalogEntry.of name { declaration with links := [] })
      else catalog.get? other :=
  (of_attempt_eq_ok hattempt).2 other

/-- A device whose address was not seen is accepted, and its address is the one
more to be seen. -/
theorem exists_attempt_deviceChange_eq_ok (htracks : Tracks seen catalog)
    (hnew : catalog.get? name = none) (hunseen : seen[declaration.ip]? = none) :
    ∃ next, catalog.attempt (deviceChange (name, declaration)) = .ok next ∧
      Tracks (seen.insert declaration.ip name) next := by
  cases hattempt : catalog.attempt (deviceChange (name, declaration)) with
  | error error =>
      obtain ⟨holder, hholder, -, -⟩ := addDevice_eq_error_iff.mp hattempt
      have hseen := (htracks _ _).mpr ⟨holder, byAdminIp?_eq_some_iff.mp hholder⟩
      rw [hunseen] at hseen
      cases hseen
  | ok next =>
      refine ⟨next, rfl, fun ip other => ?_⟩
      simp only [Std.ExtTreeMap.getElem?_insert, Std.LawfulEqCmp.compare_eq_iff_eq,
        get?_of_attempt_deviceChange hattempt]
      by_cases hname : other = name
      · have hfresh : seen[ip]? ≠ some other := by
          intro hseen
          obtain ⟨entry, hentry, -⟩ := (htracks _ _).mp hseen
          rw [hname, hnew] at hentry
          cases hentry
        simp only [if_pos hname, Option.some.injEq, exists_eq_left']
        split
        · next hip => exact iff_of_true (congrArg some hname.symm) hip
        · next hip => exact iff_of_false hfresh hip
      · rw [if_neg hname, ← htracks]
        split
        · next hip =>
          rw [← hip, hunseen]
          exact iff_of_false (fun hsame => hname (Option.some.inj hsame).symm) nofun
        · exact Iff.rfl

/-- Walking over named declarations and declaring them one after the other stop
at the same place, with the same error. -/
theorem foldlM_deviceChange_eq_error_iff {named : List (String × Declaration)}
    (htracks : Tracks seen catalog) (hnew : ∀ entry ∈ named, catalog.get? entry.1 = none)
    (hdistinct : named.Pairwise fun first second => first.1 ≠ second.1) {error : CatalogError} :
    (named.map deviceChange).foldlM attempt catalog = .error error ↔
      firstClash seen named = some error := by
  induction named generalizing seen catalog with
  | nil => simp [firstClash, pure, Except.pure]
  | cons entry later ih =>
      obtain ⟨name, declaration⟩ := entry
      obtain ⟨hhead, hlater⟩ := List.pairwise_cons.mp hdistinct
      obtain ⟨hname, hnames⟩ := List.forall_mem_cons.mp hnew
      rw [List.map_cons, List.foldlM_cons, firstClash]
      cases hseen : seen[declaration.ip]? with
      | some first =>
          rw [attempt_deviceChange_eq_error htracks hname hseen]
          exact (Except.error.injEq _ _).to_iff.trans (Option.some.injEq _ _).to_iff.symm
      | none =>
          obtain ⟨next, hattempt, hnext⟩ :=
            exists_attempt_deviceChange_eq_ok htracks hname hseen
          rw [hattempt]
          apply ih hnext _ hlater
          intro other hother
          rw [get?_of_attempt_deviceChange hattempt, if_neg (hhead other hother).symm]
          exact hnames other hother

/-- A table is built up to where its addresses clash. -/
theorem foldlM_deviceChanges_eq_error_iff {table : DeclarationTable} {error : CatalogError} :
    table.deviceChanges.foldlM attempt ∅ = .error error ↔ table.clash? = some error :=
  foldlM_deviceChange_eq_error_iff tracks_empty (fun _ _ => rfl) table.pairwise_names_ne

/-- Of the devices of a table the first one that is refused decides, and it is
refused because another one has its address. -/
theorem deviceChanges_refused_iff {table : DeclarationTable} {error : CatalogError} :
    table.deviceChanges.foldlM attempt ∅ = .error error ↔
      ∃ earlier name declaration later before first,
        table.toList = earlier ++ (name, declaration) :: later ∧
        (earlier.map deviceChange).foldlM attempt ∅ = .ok before ∧
        before.addDevice name declaration.ip declaration.kind declaration.mibs =
          .error (.duplicateAdminIp declaration.ip first name) ∧
        error = .duplicateAdminIp declaration.ip first name := by
  rw [foldlM_attempt_eq_error_iff]
  constructor
  · rintro ⟨earlier, change, later, before, hsplit, hbefore, herror⟩
    obtain ⟨named, rest, htable, rfl, hrest⟩ := List.map_eq_append_iff.mp hsplit
    obtain ⟨⟨name, declaration⟩, others, rfl, rfl, -⟩ := List.map_eq_cons_iff.mp hrest
    obtain ⟨holder, -, -, rfl⟩ := addDevice_eq_error_iff.mp herror
    exact ⟨named, name, declaration, others, before, holder.name, htable, hbefore, herror, rfl⟩
  · rintro ⟨earlier, name, declaration, later, before, first, htable, hbefore, herror, rfl⟩
    refine ⟨earlier.map deviceChange, deviceChange (name, declaration), later.map deviceChange,
      before, ?_, hbefore, herror⟩
    rw [deviceChanges, htable, List.map_append, List.map_cons]

end

/-! ## Links -/

/-- Of changes that are made for each entry of a table, those for its own
declaration count for a name. -/
theorem applyAll_flatMap_toList {changesOf : String × Declaration → List Change}
    (habout : ∀ named, ∀ change ∈ changesOf named, change.name = named.1)
    (table : DeclarationTable) (name : String) (entry : Option CatalogEntry) :
    Change.applyAll name (table.toList.flatMap changesOf) entry =
      table[name]?.elim entry fun declaration =>
        Change.applyAll name (changesOf (name, declaration)) entry := by
  have hother {named : List (String × Declaration)} (hnames : ∀ other ∈ named, other.1 ≠ name) :
      ∀ change ∈ named.flatMap changesOf, change.name ≠ name := by
    intro change hchange
    obtain ⟨other, hmem, hchange⟩ := List.mem_flatMap.mp hchange
    rw [habout other change hchange]
    exact hnames other hmem
  cases hget : table[name]? with
  | none => exact Change.applyAll_eq_self (hother (ne_of_getElem?_eq_none hget)) entry
  | some declaration =>
      obtain ⟨before, later, hsplit, hbefore, hlater⟩ := exists_toList_eq_append hget
      rw [hsplit, List.flatMap_append, List.flatMap_cons, Change.applyAll_append,
        Change.applyAll_eq_self (hother hbefore), Change.applyAll_append,
        Change.applyAll_eq_self (hother hlater)]
      rfl

theorem applyAll_deviceChanges (table : DeclarationTable) (name : String) :
    Change.applyAll name table.deviceChanges none =
      table[name]?.map fun declaration =>
        CatalogEntry.of name { declaration with links := [] } := by
  have habout : ∀ named, ∀ change ∈ [deviceChange named], change.name = named.1 := by
    intro named change hchange
    rw [List.mem_singleton.mp hchange]
    rfl
  rw [deviceChanges, List.map_eq_flatMap, applyAll_flatMap_toList habout]
  cases table[name]? with
  | none => rfl
  | some declaration => exact if_pos rfl

/-- Links that are declared under a name are appended to those it has. -/
theorem applyAll_links (name : String) (links : List String) (entry : CatalogEntry) :
    Change.applyAll name (links.map (.link name)) (some entry) =
      some { entry with links := entry.links ++ links } := by
  induction links generalizing entry with
  | nil =>
      rw [List.append_nil]
      rfl
  | cons target later ih =>
      have hfirst : (if name = (Change.link name target).name then
          (Change.link name target).apply (some entry) else some entry) =
            some { entry with links := entry.links ++ [target] } := if_pos rfl
      rw [List.map_cons, Change.applyAll_cons, hfirst, List.append_cons entry.links target later]
      exact ih { entry with links := entry.links ++ [target] }

/-- Entries without links get those of their declarations. -/
theorem applyAll_linkChanges (table : DeclarationTable) (name : String) :
    Change.applyAll name table.linkChanges
        (table[name]?.map fun declaration =>
          CatalogEntry.of name { declaration with links := [] }) =
      table[name]?.map (CatalogEntry.of name) := by
  have habout : ∀ named, ∀ change ∈ linkChangesOf named, change.name = named.1 := by
    intro named change hchange
    obtain ⟨target, -, rfl⟩ := List.mem_map.mp hchange
    rfl
  rw [linkChanges, applyAll_flatMap_toList habout]
  cases table[name]? with
  | none => rfl
  | some declaration => exact applyAll_links name declaration.links _

/-- Entries under all names make up the declarations. -/
theorem declarations_eq_of_get?_eq {table : DeclarationTable}
    (hget : ∀ name, catalog.get? name = table[name]?.map (CatalogEntry.of name)) :
    catalog.declarations = table := by
  apply Std.ExtTreeMap.ext_getElem?
  intro name
  have hinjective : Function.Injective (CatalogEntry.of name) :=
    fun _ _ hsame => congrArg CatalogEntry.toDeclaration hsame
  exact Option.map_injective hinjective (hget name)

/-- Once the devices of a table are declared, its links are accepted and make up
the rest of the table. -/
theorem exists_linkChanges_eq_ok {table : DeclarationTable} {declared : Catalog}
    (hdeclared : table.deviceChanges.foldlM attempt ∅ = .ok declared) :
    ∃ linked, table.linkChanges.foldlM attempt declared = .ok linked ∧
      linked.declarations = table := by
  have hentries (name : String) : declared.get? name = table[name]?.map fun declaration =>
      CatalogEntry.of name { declaration with links := [] } :=
    ((of_foldlM_attempt_eq_ok hdeclared).2 name).trans (applyAll_deviceChanges table name)
  obtain ⟨linked, hlinked⟩ : ∃ linked, table.linkChanges.foldlM attempt declared = .ok linked := by
    apply exists_foldlM_attempt_eq_ok_of_links
    intro change hchange
    obtain ⟨⟨source, declaration⟩, hnamed, hlink⟩ := List.mem_flatMap.mp hchange
    obtain ⟨target, -, rfl⟩ := List.mem_map.mp hlink
    refine ⟨source, target, rfl, ?_⟩
    rw [hentries, Std.ExtTreeMap.mem_toList_iff_getElem?_eq_some.mp hnamed]
    exact nofun
  refine ⟨linked, hlinked, declarations_eq_of_get?_eq fun name => ?_⟩
  rw [(of_foldlM_attempt_eq_ok hlinked).2, hentries, applyAll_linkChanges]

/-! ## Documents -/

/-- Reading a document does what declaring its table one by one from nothing does. -/
structure ReadsAsBuilt (document : String) (pollRate : UInt64) (table : DeclarationTable) :
    Prop where
  /-- The devices are declared in the order of their names. -/
  ordered : table.toList.Pairwise fun first second => compare first.1 second.1 = .lt
  /-- The document is accepted exactly when no device is refused. -/
  accepted : (∃ catalog, ofDocument document = .ok catalog) ↔
    ∃ declared, table.deviceChanges.foldlM attempt ∅ = .ok declared
  /-- The links that are declared then lead to the catalog of the document. -/
  built : ∀ declared, table.deviceChanges.foldlM attempt ∅ = .ok declared →
    ∃ linked, table.linkChanges.foldlM attempt declared = .ok linked ∧
      ofDocument document = .ok { linked with pollRate }
  /-- The document fails as the first device does that is refused. -/
  refused : ∀ failure, ofDocument document = .error failure ↔
    ∃ earlier name declaration later before first,
      table.toList = earlier ++ (name, declaration) :: later ∧
      (earlier.map deviceChange).foldlM attempt ∅ = .ok before ∧
      before.addDevice name declaration.ip declaration.kind declaration.mibs =
        .error (.duplicateAdminIp declaration.ip first name) ∧
      failure = .catalog (.duplicateAdminIp declaration.ip first name)

/-- A document that gives a table is read as the table is declared one by one: it
is accepted exactly when each device of the table is, in the order of names, and
then it is the catalog that the devices and after them their links lead to, with
the poll rate of the document. Otherwise it fails as the first device does that
is refused, with the same address and the same two names. -/
theorem readsAsBuilt_of_document (document : String) (pollRate : UInt64)
    (table : DeclarationTable)
    (hread : tableReader.document document = .ok (pollRate, table)) :
    ReadsAsBuilt document pollRate table := by
  have hbuilt : ∀ declared, table.deviceChanges.foldlM attempt ∅ = .ok declared →
      ∃ linked, table.linkChanges.foldlM attempt declared = .ok linked ∧
        ofDocument document = .ok { linked with pollRate } := by
    intro declared hdeclared
    obtain ⟨linked, hlinked, hdeclarations⟩ := exists_linkChanges_eq_ok hdeclared
    refine ⟨linked, hlinked, ofDocument_eq_ok_iff.mpr ?_⟩
    rw [hread, ← hdeclarations]
  have hrefused (failure : Failure) : ofDocument document = .error failure ↔
      ∃ error, table.deviceChanges.foldlM attempt ∅ = .error error ∧
        failure = .catalog error := by
    simp only [ofDocument_eq_error_iff_of_read hread, foldlM_deviceChanges_eq_error_iff]
  refine ⟨Std.ExtTreeMap.ordered_keys_toList, ⟨?_, ?_⟩, hbuilt, ?_⟩
  · rintro ⟨catalog, haccepted⟩
    cases hdeclared : table.deviceChanges.foldlM attempt ∅ with
    | ok declared => exact ⟨declared, rfl⟩
    | error error =>
        rw [(hrefused _).mpr ⟨error, hdeclared, rfl⟩] at haccepted
        cases haccepted
  · rintro ⟨declared, hdeclared⟩
    obtain ⟨linked, -, haccepted⟩ := hbuilt declared hdeclared
    exact ⟨_, haccepted⟩
  · intro failure
    rw [hrefused]
    constructor
    · rintro ⟨error, herror, rfl⟩
      obtain ⟨earlier, name, declaration, later, before, first, htable, hbefore, hfirst, rfl⟩ :=
        deviceChanges_refused_iff.mp herror
      exact ⟨earlier, name, declaration, later, before, first, htable, hbefore, hfirst, rfl⟩
    · rintro ⟨earlier, name, declaration, later, before, first, htable, hbefore, hfirst, rfl⟩
      exact ⟨_, deviceChanges_refused_iff.mpr
        ⟨earlier, name, declaration, later, before, first, htable, hbefore, hfirst, rfl⟩, rfl⟩

/-- Three devices with one address, not in the order of their names. -/
def sharedIp : String :=
  "\x7b\"devices\": \x7b\"a\": \x7b\"ip\": \"10.0.0.1\"\x7d, " ++
    "\"c\": \x7b\"ip\": \"10.0.0.1\"\x7d, \"b\": \x7b\"ip\": \"10.0.0.1\"\x7d\x7d\x7d"

/-- The second device in the order of names is the first one that is refused. -/
theorem readsAsBuilt_of_document_sharedIp :
    ∃ pollRate table, tableReader.document sharedIp = .ok (pollRate, table) ∧
      table.keys = ["a", "b", "c"] ∧
      ReadsAsBuilt sharedIp pollRate table ∧
      ofDocument sharedIp =
        .error (.catalog (.duplicateAdminIp (Sample.ip 10 0 0 1) "a" "b")) := by
  have hgives : (tableReader.document sharedIp).toOption.any fun (_, table) =>
      table.keys == ["a", "b", "c"] := by decide +kernel
  have hfailure : ofDocument sharedIp =
      .error (.catalog (.duplicateAdminIp (Sample.ip 10 0 0 1) "a" "b")) := by
    have hfault : (match ofDocument sharedIp with
        | .ok _ => none
        | .error failure => some failure) =
          some (.catalog (.duplicateAdminIp (Sample.ip 10 0 0 1) "a" "b")) := by decide +kernel
    split at hfault
    · cases hfault
    · next hread => rw [hread, Option.some.inj hfault]
  cases hread : tableReader.document sharedIp with
  | error fault =>
      rw [hread] at hgives
      cases hgives
  | ok read =>
      obtain ⟨pollRate, table⟩ := read
      rw [hread] at hgives
      exact ⟨pollRate, table, rfl, by simpa [Except.toOption] using hgives,
        readsAsBuilt_of_document sharedIp pollRate table hread, hfailure⟩

end Catalog

end NetTopology
