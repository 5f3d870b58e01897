/-
# Sessions in memory

A session is what the program leaves when it runs on a tree of files: the tree,
the text printed so far and a clock that moves while the program pauses, and
only then. Clocks count from a time long before the program starts, and so does
the one of a session.
-/

import NetTopology.CommandLine.Access
import NetTopology.CommandLine.FileTree

namespace NetTopology.CommandLine

open Polling (Span)

/-- A tree of files, what has been printed and the time that has passed. -/
structure Session where
  tree : FileTree
  /-- The printed text. -/
  output : String := ""
  /-- The clock. It starts later than any machine has been up. -/
  clock : Span := .ofSeconds (1 <<< 32)

namespace Session

/-- Change the tree of files, unless that fails. -/
def alter (change : FileTree → Except FileFault FileTree) : StateM Session (Except FileFault Unit) :=
  fun session =>
    match change session.tree with
    | .ok tree => (.ok (), { session with tree })
    | .error fault => (.error fault, session)

def access : Access (StateM Session) where
  read name := fun session => (session.tree.read name, session)
  write name text := alter fun tree => tree.write name text
  rename source target := alter fun tree => tree.rename source target
  print text := fun session => ((), { session with output := session.output ++ text })
  report _ := pure ()
  clock := fun session => (session.clock, session)
  pause span := fun session => ((), { session with clock := session.clock.after span })

end Session

end NetTopology.CommandLine
