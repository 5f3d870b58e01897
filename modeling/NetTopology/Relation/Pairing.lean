/-
# Pairing of arcs

What two devices say about each other arrives as two arcs, one in each
direction. An arc carries a tag, and only arcs with equal tags belong together.
`pairUp` walks over a map of arcs in order and joins each arc with its reverse:
the pair is kept once, at the arc whose left end is smaller. An arc without a
reverse is kept alone.
-/

import NetTopology.Address

namespace NetTopology

/-- An ordered pair of addresses with a tag. -/
structure Arc (τ : Type) where
  /-- Where the arc starts. -/
  left : Address
  /-- Where it ends. -/
  right : Address
  /-- What tells arcs between the same ends apart. -/
  tag : τ
  deriving DecidableEq

namespace Arc

variable {τ : Type} [Ord τ]

/-- The order of arcs: by left end, right end and tag. -/
def order : Arc τ → Arc τ → Ordering :=
  compareLex (compareOn left) <| compareLex (compareOn right) (compareOn tag)

instance : Ord (Arc τ) where
  compare := order

instance [Std.TransOrd τ] : Std.TransOrd (Arc τ) :=
  inferInstanceAs <| Std.TransCmp <|
    compareLex (compareOn left) <| compareLex (compareOn right) (compareOn tag)

instance [Std.TransOrd τ] [Std.LawfulEqOrd τ] : Std.LawfulEqOrd (Arc τ) where
  eq_of_compare {a b} h := by
    change order a b = .eq at h
    simp only [order, compareLex, compareOn, Ordering.then_eq_eq] at h
    obtain ⟨hleft, hright, htag⟩ := h
    cases a
    cases b
    congr
    · exact Std.LawfulEqOrd.eq_of_compare hleft
    · exact Std.LawfulEqOrd.eq_of_compare hright
    · exact Std.LawfulEqOrd.eq_of_compare htag

/-- The arc in the other direction. -/
def reverse (arc : Arc τ) : Arc τ :=
  ⟨arc.right, arc.left, arc.tag⟩

end Arc

/-- An arc with its value, and the value of its reverse if that is present too. -/
structure PairedArc (τ ν : Type) where
  /-- The arc that stands for the pair. -/
  arc : Arc τ
  /-- Its own value. -/
  value : ν
  /-- The value of the arc in the other direction. -/
  back : Option ν

variable {τ ν : Type} [Ord τ] [Std.TransOrd τ]

/-- How one arc of a map enters the pairs: with its reverse when it is the
smaller one of the two, not at all when it is the other, and alone without a
reverse. -/
def pairArc (arcs : Std.ExtTreeMap (Arc τ) ν) (arc : Arc τ) (value : ν) :
    Option (PairedArc τ ν) :=
  match arcs[arc.reverse]? with
  | some back => if arc.left < arc.right then some ⟨arc, value, some back⟩ else none
  | none => some ⟨arc, value, none⟩

/-- The arcs of a map in order, each joined with its reverse. -/
def pairUp (arcs : Std.ExtTreeMap (Arc τ) ν) : List (PairedArc τ ν) :=
  arcs.toList.filterMap fun (arc, value) => pairArc arcs arc value

end NetTopology
