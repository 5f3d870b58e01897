/-
# What the program reaches

The program reads and writes text files, prints, looks at a clock and pauses.
These actions are given to it as one value, so that it can be run on the files
of the machine as well as on a tree of files in memory, and is the same program
on both.
-/

import NetTopology.Failure
import NetTopology.Polling.Span

namespace NetTopology.CommandLine

open Polling (Span)

/-- The actions that the program is made of. -/
structure Access (m : Type → Type) where
  read : String → m (Except FileFault String)
  /-- Write a text into a file. -/
  write : String → String → m (Except FileFault Unit)
  /-- Give a file another name, under which there may be a file already. -/
  rename : String → String → m (Except FileFault Unit)
  print : String → m Unit
  /-- Tell the user why there is no output. -/
  report : String → m Unit
  /-- Look at the clock. -/
  clock : m Span
  /-- Wait for some time. -/
  pause : Span → m Unit

end NetTopology.CommandLine
