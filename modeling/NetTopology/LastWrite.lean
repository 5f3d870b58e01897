/-
# Maps by last write

Several records may speak about the same key; the last one counts. A list of
writes becomes a map by writing its elements in order, so looking up a key
finds the last write to it.
-/

import Std.Data.ExtTreeMap

namespace NetTopology

universe u v

def lastWriteTo {κ : Type u} {ν : Type v} [DecidableEq κ] (key : κ) : List (κ × ν) → Option ν
  | [] => none
  | write :: later => (lastWriteTo key later).or (if write.1 = key then some write.2 else none)

variable {κ : Type u} {ν : Type v} [Ord κ] [Std.TransOrd κ]

/-- The map after the given writes to another one. -/
def writeAll (map : Std.ExtTreeMap κ ν) (writes : List (κ × ν)) : Std.ExtTreeMap κ ν :=
  writes.foldl (fun map write => map.insert write.1 write.2) map

def lastWrites (writes : List (κ × ν)) : Std.ExtTreeMap κ ν :=
  writeAll ∅ writes

variable [Std.LawfulEqOrd κ] [DecidableEq κ]

/-- After some writes, a key has the last of them, or what it had before. -/
theorem getElem?_writeAll (map : Std.ExtTreeMap κ ν) (writes : List (κ × ν)) (key : κ) :
    (writeAll map writes)[key]? = (lastWriteTo key writes).or map[key]? := by
  induction writes generalizing map with
  | nil => simp [writeAll, lastWriteTo]
  | cons write later ih =>
    have hstep : writeAll map (write :: later) = writeAll (map.insert write.1 write.2) later := rfl
    rw [hstep, ih, Std.ExtTreeMap.getElem?_insert, lastWriteTo, Option.or_assoc]
    by_cases hkey : write.1 = key
    · simp [hkey]
    · simp [hkey]

/-- Looking up a key finds the last write to it. -/
theorem getElem?_lastWrites (writes : List (κ × ν)) (key : κ) :
    (lastWrites writes)[key]? = lastWriteTo key writes := by
  simp [lastWrites, getElem?_writeAll]

end NetTopology
