/-
# Relations

A relation is an edge of the reconciled topology. Its key says which rule of
reconciliation it comes from, which devices it joins, for selected paths also
the destination, and which display predicate shows it. The rest of a relation
only concerns its drawing: line style and labels.

Keys are ordered by kind, left end, right end, destination and predicate, in
this order. A relation without a destination comes before those that have one.
-/

import NetTopology.Address

namespace NetTopology

namespace Relation

/-- The rule of reconciliation that produced a relation. -/
inductive Kind where
  /-- A link declared in the catalog. -/
  | declared
  /-- One device forwards traffic to another. -/
  | nextHop
  /-- The path towards one destination. -/
  | selection
  /-- An observed protocol adjacency. -/
  | link
  /-- A multicast tree, towards its source. -/
  | multicastUpstream
  /-- A multicast tree, towards its members. -/
  | multicastDownstream
  /-- From a multicast source to its gateways. -/
  | multicastGateway
  /-- A reported group membership. -/
  | igmp
  deriving DecidableEq, Inhabited

namespace Kind

/-- The place of a kind in the order of keys. -/
def rank : Kind → Nat
  | declared => 0
  | nextHop => 1
  | selection => 2
  | link => 3
  | multicastUpstream => 4
  | multicastDownstream => 5
  | multicastGateway => 6
  | igmp => 7

/-- All kinds, in order. -/
def all : List Kind :=
  [declared, nextHop, selection, link, multicastUpstream, multicastDownstream,
    multicastGateway, igmp]

/-- The name of a kind in documents. -/
def toText : Kind → String
  | declared => "declared"
  | nextHop => "next-hop"
  | selection => "selection"
  | link => "link"
  | multicastUpstream => "multicast-upstream"
  | multicastDownstream => "multicast-downstream"
  | multicastGateway => "multicast-gateway"
  | igmp => "igmp"

def ofText? (text : String) : Option Kind :=
  all.find? fun kind => kind.toText == text

theorem eq_of_rank_eq {a b : Kind} (h : a.rank = b.rank) : a = b := by
  cases a <;> cases b <;> simp_all [rank]

instance : Ord Kind where
  compare a b := compare a.rank b.rank

instance : Std.TransOrd Kind :=
  inferInstanceAs (Std.TransCmp (compareOn rank))

instance : Std.LawfulEqOrd Kind where
  eq_of_compare {a b} h :=
    eq_of_rank_eq (Std.LawfulEqOrd.eq_of_compare (a := a.rank) (b := b.rank) h)

end Kind

/-- Which ends of a line carry an arrow. -/
inductive Direction where
  /-- No arrow. -/
  | undirected
  /-- An arrow from left to right. -/
  | directed
  /-- Arrows on both ends. -/
  | bidirectional
  deriving DecidableEq, Inhabited

/-- A line colour other than the default. -/
inductive Color where
  /-- A selected path. -/
  | blue
  /-- A selected path whose next hop is no known device. -/
  | darkViolet
  /-- An adjacency that only one end reports. -/
  | red
  deriving DecidableEq

/-- The name of a colour in a style. -/
def Color.toText : Color → String
  | blue => "blue"
  | darkViolet => "darkviolet"
  | red => "red"

/-- The style of a line. -/
structure Style where
  /-- Which ends carry an arrow. -/
  direction : Direction
  /-- The colour, if not the default. -/
  color : Option Color := none
  /-- The width, if not the default. -/
  width : Option Nat := none
  deriving DecidableEq, Inhabited

namespace Style

/-- A plain line. -/
def undirected : Style := { direction := .undirected }

/-- A plain arrow from left to right. -/
def directed : Style := { direction := .directed }

/-- A line with arrows on both ends. -/
def bidirectional : Style := { direction := .bidirectional }

/-- A red arrow, for what only one end has observed. -/
def flagged : Style := { direction := .directed, color := some .red }

/-- Whether a line is marked as inconsistent. -/
def isFlagged (style : Style) : Bool :=
  style.color == some .red

/-- Whether a line leads in both directions. -/
def isSymmetric (style : Style) : Bool :=
  style.direction != .directed

/-- The attributes of a style that differ from a plain thin line without arrows. -/
def attributes (style : Style) : List String :=
  (match style.direction with
    | .undirected => []
    | .directed => ["line-type:directed"]
    | .bidirectional => ["line-type:bidirectional"]) ++
  (match style.color with
    | none => []
    | some color => ["line-color:" ++ color.toText]) ++
  (match style.width with
    | none => []
    | some width => ["line-width:" ++ toString width])

/-- The style as text: its attributes, joined by blanks. -/
def toText (style : Style) : String :=
  " ".intercalate style.attributes

end Style

/-- A text at one end or in the middle of a line. -/
structure Label where
  text : String
  /-- The zoom level from which on the text is shown. -/
  level : Nat
  style : String
  deriving DecidableEq, Inhabited

namespace Label

def small (text : String) (level : Nat) : Label :=
  ⟨text, level, "font-size:x-small"⟩

/-- A label in smaller type. -/
def smaller (text : String) (level : Nat) : Label :=
  ⟨text, level, "font-size:xx-small"⟩

def smallest (text : String) (level : Nat) : Label :=
  ⟨text, level, "font-size:xxx-small"⟩

/-- Labels for free texts, numbered from `level` on; an empty text keeps its
level and gets no label. -/
def positionalFrom (level : Nat) : List String → List Label
  | [] => []
  | text :: texts =>
    if text = "" then positionalFrom (level + 1) texts
    else small text level :: positionalFrom (level + 1) texts

/-- The labels of at most three free texts, on the levels one to three. -/
def positional (texts : List String) : List Label :=
  positionalFrom 1 (texts.take 3)

end Label

/-- What identifies a relation. -/
structure Key where
  /-- The rule of reconciliation. -/
  kind : Kind
  /-- The administrative address of the left end. -/
  left : Address
  /-- The administrative address of the right end. -/
  right : Address
  /-- The destination, for selected paths only. -/
  dst : Option Address := none
  predicate : String
  deriving DecidableEq, Inhabited

namespace Key

/-- The order of keys: by kind, left end, right end, destination and predicate. -/
def order : Key → Key → Ordering :=
  compareLex (compareOn kind) <| compareLex (compareOn left) <|
    compareLex (compareOn right) <| compareLex (compareOn dst) (compareOn predicate)

instance : Ord Key where
  compare := order

instance : Std.TransOrd Key :=
  inferInstanceAs <| Std.TransCmp <|
    compareLex (compareOn kind) <| compareLex (compareOn left) <|
      compareLex (compareOn right) <| compareLex (compareOn dst) (compareOn predicate)

instance : Std.LawfulEqOrd Key where
  eq_of_compare {a b} h := by
    change order a b = .eq at h
    simp only [order, compareLex, compareOn, Ordering.then_eq_eq] at h
    obtain ⟨hkind, hleft, hright, hdst, hpredicate⟩ := h
    cases a
    cases b
    congr
    · exact Std.LawfulEqOrd.eq_of_compare hkind
    · exact Std.LawfulEqOrd.eq_of_compare hleft
    · exact Std.LawfulEqOrd.eq_of_compare hright
    · exact Std.LawfulEqOrd.eq_of_compare hdst
    · exact Std.LawfulEqOrd.eq_of_compare hpredicate

end Key

/-- How a relation is drawn. -/
structure Drawing where
  style : Style
  leftLabels : List Label := []
  middleLabels : List Label := []
  rightLabels : List Label := []
  deriving DecidableEq, Inhabited

end Relation

/-- An edge of the topology: its key and its drawing. -/
structure Relation extends Relation.Key, Relation.Drawing
  deriving DecidableEq, Inhabited

namespace Relation

abbrev key (relation : Relation) : Key := relation.toKey

abbrev drawing (relation : Relation) : Drawing := relation.toDrawing

def of (key : Key) (drawing : Drawing) : Relation :=
  { toKey := key, toDrawing := drawing }

end Relation

end NetTopology
