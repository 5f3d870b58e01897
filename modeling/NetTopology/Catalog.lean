/-
# The device catalog

The catalog declares every known device under its name: an administrative
address, the way it is polled, its capabilities and the devices it is linked
to. The administrative address is the identity of a device everywhere else, so
a catalog carries the proof that no two names share one. Entries are read in
the order of names.

A link may name a device that the catalog does not have. Such links are kept as
declared and skipped by `declaredLinks`; `danglingLinks` lists them.
-/

import Std.Data.ExtTreeSet
import NetTopology.Address

namespace NetTopology

/-- The way a device is polled. -/
inductive DeviceKind where
  /-- By network management queries. -/
  | snmp
  /-- By commands in a remote shell. -/
  | linuxSsh
  /-- Not at all: the device is only declared to complete the topology. -/
  | external
  deriving DecidableEq, Inhabited

namespace DeviceKind

/-- All kinds, in the order in which error texts list them. -/
def all : List DeviceKind :=
  [snmp, linuxSsh, external]

/-- The name of a kind in documents. -/
def toText : DeviceKind → String
  | snmp => "snmp"
  | linuxSsh => "linux_ssh"
  | external => "external"

def ofText? (text : String) : Option DeviceKind :=
  all.find? fun kind => kind.toText == text

/-- Whether an observation is expected from devices of this kind. -/
def isPollable (kind : DeviceKind) : Bool :=
  kind != external

end DeviceKind

/-- What the catalog says about a device, apart from its name. -/
structure Declaration where
  ip : Address
  /-- The way the device is polled. -/
  kind : DeviceKind := .snmp
  /-- The declared capabilities, such as `cisco-router`. -/
  mibs : String := ""
  /-- The names of the devices this one is linked to. -/
  links : List String := []
  deriving DecidableEq, Inhabited

/-- A declaration together with the name it stands under. -/
structure CatalogEntry extends Declaration where
  name : String
  deriving DecidableEq, Inhabited

namespace CatalogEntry

def of (name : String) (declaration : Declaration) : CatalogEntry :=
  { toDeclaration := declaration, name }

/-- Whether `part` occurs somewhere in a text. -/
def occursIn (part : List Char) : List Char → Bool
  | [] => part.isEmpty
  | c :: rest => part.isPrefixOf (c :: rest) || occursIn part rest

/-- Whether the device is an end host rather than a router, which its
capabilities tell by containing `-host`. -/
def isHost (entry : CatalogEntry) : Bool :=
  occursIn "-host".toList entry.mibs.toList

/-- Whether an observation is expected from the device. -/
def isPollable (entry : CatalogEntry) : Bool :=
  entry.kind.isPollable

end CatalogEntry

/-- Why a change of a catalog is refused. -/
inductive CatalogError where
  /-- Two devices would share an administrative address. -/
  | duplicateAdminIp (ip : Address) (first second : String)
  /-- No device has this name. -/
  | deviceNameNotFound (name : String)
  deriving DecidableEq

/-- The text of a refusal. -/
def CatalogError.message : CatalogError → String
  | duplicateAdminIp ip first second =>
    "Administrative IP " ++ ip.toText ++ " is declared twice: " ++ first ++ " and " ++ second
  | deviceNameNotFound name => "Device name was not found in the catalog: " ++ name

/-- Declarations by name. -/
abbrev DeclarationTable := Std.ExtTreeMap String Declaration

/-- No two names of a table share an administrative address. -/
def DeclarationTable.SeparatesIps (table : DeclarationTable) : Prop :=
  ∀ (first second : String) (d e : Declaration),
    table[first]? = some d → table[second]? = some e → d.ip = e.ip → first = second

/-- The catalog of all known devices. -/
structure Catalog where
  /-- Seconds between the starts of two poll cycles. -/
  pollRate : UInt64
  declarations : DeclarationTable
  /-- An administrative address identifies a device. -/
  separatesIps : declarations.SeparatesIps

namespace Catalog

/-- The poll rate of a catalog that does not give one. -/
def defaultPollRate : UInt64 := 60

/-- A catalog without devices. -/
def empty : Catalog where
  pollRate := defaultPollRate
  declarations := ∅
  separatesIps := by simp [DeclarationTable.SeparatesIps]

instance : EmptyCollection Catalog := ⟨empty⟩

instance : Inhabited Catalog := ⟨empty⟩

/-- All entries in the order of names. -/
def entries (catalog : Catalog) : List CatalogEntry :=
  catalog.declarations.toList.map fun (name, declaration) => CatalogEntry.of name declaration

def get? (catalog : Catalog) (name : String) : Option CatalogEntry :=
  catalog.declarations[name]?.map (CatalogEntry.of name)

def byAdminIp? (catalog : Catalog) (ip : Address) : Option CatalogEntry :=
  catalog.entries.find? fun entry => entry.ip == ip

/-- The number of devices. -/
def size (catalog : Catalog) : Nat :=
  catalog.declarations.size

/-- Whether there is no device. -/
def isEmpty (catalog : Catalog) : Bool :=
  catalog.declarations.isEmpty

/-- The entries are the declarations under their names. -/
theorem mem_entries_iff {catalog : Catalog} {entry : CatalogEntry} :
    entry ∈ catalog.entries ↔
      catalog.declarations[entry.name]? = some entry.toDeclaration := by
  constructor
  · intro hmem
    obtain ⟨⟨name, declaration⟩, hpair, rfl⟩ := List.mem_map.mp hmem
    exact Std.ExtTreeMap.mem_toList_iff_getElem?_eq_some.mp hpair
  · intro hget
    exact List.mem_map.mpr
      ⟨(entry.name, entry.toDeclaration),
        Std.ExtTreeMap.mem_toList_iff_getElem?_eq_some.mpr hget, rfl⟩

/-- Without an entry for an address, no declaration has it. -/
theorem ip_ne_of_byAdminIp?_eq_none {catalog : Catalog} {ip : Address}
    (habsent : catalog.byAdminIp? ip = none) {name : String} {declaration : Declaration}
    (hget : catalog.declarations[name]? = some declaration) : declaration.ip ≠ ip := by
  have hmem : CatalogEntry.of name declaration ∈ catalog.entries := mem_entries_iff.mpr hget
  have hne := List.find?_eq_none.mp habsent _ hmem
  simpa [CatalogEntry.of] using hne

/-- Only the found entry has its address. -/
theorem name_eq_of_byAdminIp?_eq_some {catalog : Catalog} {ip : Address} {entry : CatalogEntry}
    (hfound : catalog.byAdminIp? ip = some entry) {name : String} {declaration : Declaration}
    (hget : catalog.declarations[name]? = some declaration) (hip : declaration.ip = ip) :
    name = entry.name := by
  have hmem := mem_entries_iff.mp (List.mem_of_find?_eq_some hfound)
  have hentry : entry.ip = ip := by simpa using List.find?_some hfound
  exact catalog.separatesIps _ _ _ _ hget hmem (hip.trans hentry.symm)

/-- A declaration may stand under `name` when no other name has its address. -/
theorem separatesIps_insert {catalog : Catalog} {name : String} {declaration : Declaration}
    (hfree : ∀ other d, catalog.declarations[other]? = some d →
      d.ip = declaration.ip → other = name) :
    DeclarationTable.SeparatesIps (catalog.declarations.insert name declaration) := by
  intro first second d e hd he hip
  rw [Std.ExtTreeMap.getElem?_insert] at hd he
  split at hd <;> split at he
  · rename_i h₁ h₂
    rw [← Std.LawfulEqOrd.eq_of_compare h₁, ← Std.LawfulEqOrd.eq_of_compare h₂]
  · rename_i h₁ _
    obtain rfl := Std.LawfulEqOrd.eq_of_compare h₁
    obtain rfl := Option.some.inj hd
    exact (hfree _ _ he hip.symm).symm
  · rename_i _ h₂
    obtain rfl := Std.LawfulEqOrd.eq_of_compare h₂
    obtain rfl := Option.some.inj he
    exact hfree _ _ hd hip
  · exact catalog.separatesIps _ _ _ _ hd he hip

/-- Put a declaration under a name that is the only one to have its address. -/
def put (catalog : Catalog) (name : String) (declaration : Declaration)
    (hfree : ∀ other d, catalog.declarations[other]? = some d →
      d.ip = declaration.ip → other = name) : Catalog where
  pollRate := catalog.pollRate
  declarations := catalog.declarations.insert name declaration
  separatesIps := separatesIps_insert hfree

/-- Declare a device without links. A declaration under the same name is
replaced; a device of another name that has the address is an error. -/
def addDevice (catalog : Catalog) (name : String) (ip : Address) (kind : DeviceKind)
    (mibs : String) : Except CatalogError Catalog :=
  match hholder : catalog.byAdminIp? ip with
  | none =>
    .ok <| catalog.put name { ip, kind, mibs } fun _ _ hget hip =>
      absurd hip (ip_ne_of_byAdminIp?_eq_none hholder hget)
  | some holder =>
    if hname : holder.name = name then
      .ok <| catalog.put name { ip, kind, mibs } fun _ _ hget hip =>
        (name_eq_of_byAdminIp?_eq_some hholder hget hip).trans hname
    else .error (.duplicateAdminIp ip holder.name name)

/-- Declare a link. The source has to be in the catalog, the target need not. -/
def addLink (catalog : Catalog) (source target : String) : Except CatalogError Catalog :=
  match hsource : catalog.declarations[source]? with
  | none => .error (.deviceNameNotFound source)
  | some declaration =>
    .ok <| catalog.put source { declaration with links := declaration.links ++ [target] }
      fun other d hget hip => catalog.separatesIps other source d declaration hget hsource hip

/-- The administrative address of the device with the given name. -/
def adminIp? (catalog : Catalog) (name : String) : Option Address :=
  catalog.declarations[name]?.map Declaration.ip

/-- Where the links declared by `name` lead. -/
def outgoingIps (catalog : Catalog) (name : String) : List Address :=
  match catalog.get? name with
  | none => []
  | some entry => entry.links.filterMap catalog.adminIp?

/-- Where the links that lead to `name` are declared. -/
def incomingIps (catalog : Catalog) (name : String) : List Address :=
  (catalog.entries.filter fun entry => entry.links.contains name).map fun entry => entry.ip

/-- The administrative addresses of the devices linked to `name` in either
direction, in order and without repetition. -/
def linkedAdminIps (catalog : Catalog) (name : String) : List Address :=
  (Std.ExtTreeSet.ofList (catalog.outgoingIps name ++ catalog.incomingIps name)).toList

/-- The declared links between known devices, as pairs of administrative
addresses in the order of their declaration. -/
def declaredLinks (catalog : Catalog) : List (Address × Address) :=
  catalog.entries.flatMap fun entry =>
    (entry.links.filterMap catalog.adminIp?).map fun target => (entry.ip, target)

/-- The declared links to unknown devices: the name of the device that declares
the link and the name it links to. -/
def danglingLinks (catalog : Catalog) : List (String × String) :=
  catalog.entries.flatMap fun entry =>
    (entry.links.filter fun target => (catalog.adminIp? target).isNone).map
      fun target => (entry.name, target)

end Catalog

end NetTopology
