/-
# The program on the files of the machine

The actions of the program, carried out on the files of the machine, its
standard streams and its clock. Nothing is decided here.
-/

import NetTopology.CommandLine.Program

namespace NetTopology.CommandLine

open Polling (Span)

/-- Carry out an action on a file and tell what is wrong if it fails. -/
def attempt {α : Type} (action : IO α) : IO (Except FileFault α) := do
  try
    return .ok (← action)
  catch error =>
    return .error (.other (toString error))

def readText (name : String) : IO (Except FileFault String) := do
  let bytes ← attempt (IO.FS.readBinFile name)
  return bytes.bind fun bytes =>
    match String.fromUTF8? bytes with
    | some text => .ok text
    | none => .error .notText

/-- The milliseconds of one slice of a pause. -/
def sliceMilliseconds : Nat := 100

/-- Wait for some time, in slices. -/
def waitFor (span : Span) : IO Unit := do
  for _ in [0 : span.nanoseconds / (sliceMilliseconds * 1000000)] do
    IO.sleep (UInt32.ofNat sliceMilliseconds)
  IO.sleep (UInt32.ofNat (span.nanoseconds / 1000000 % sliceMilliseconds + 1))

def machine : Access IO where
  read := readText
  write name text := attempt (IO.FS.writeFile name text)
  rename source target := attempt (IO.FS.rename source target)
  print text := IO.print text
  report text := IO.eprintln text
  clock := return ⟨← IO.monoNanosNow⟩
  pause := waitFor

end NetTopology.CommandLine

/-- Run the program. The cycles of polling are counted in a word. -/
def main (arguments : List String) : IO UInt32 := do
  let code ← NetTopology.CommandLine.Access.run NetTopology.CommandLine.machine
    NetTopology.CommandLine.wordLimit arguments
  return UInt32.ofNat code.number
