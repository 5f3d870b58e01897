/-
# Running the program

What the program does with its arguments: which files it reads, the text it
prints or writes, and its exit code. A snapshot goes to the output with a new
line behind it, or into a file without one; the file is written under another
name first and takes its place when it is complete.

Polling goes on until its duration is over or a snapshot cannot be written. It
is aborted when no clock can show the end of its pause. A device whose file is
missing or no observation has not answered.
-/

import NetTopology.CommandLine.Arguments
import NetTopology.CommandLine.Session
import NetTopology.Catalog.Document
import NetTopology.Observation.Document
import NetTopology.Polling.Loop
import NetTopology.Polling.Rehearsal
import NetTopology.Snapshot.Document

namespace NetTopology.CommandLine

open Polling (Options Gathering Pool Rehearsal Span)

/-- Why the program does not do what it is told. -/
inductive Trouble where
  /-- A file or its content is no good. -/
  | failed (failure : Failure)
  /-- No clock can show the end of a pause. -/
  | outOfRange

/-- The text that tells the user of it. -/
def Trouble.message : Trouble → String
  | failed failure => failure.message
  | outOfRange => Options.deadlineMessage

/-- How a run of the program ends. -/
inductive ExitCode where
  /-- Everything is done. -/
  | success
  /-- A file or its content is no good. -/
  | failure
  /-- The arguments are wrong. -/
  | usage
  /-- The program is aborted. -/
  | aborted
  deriving DecidableEq

def ExitCode.number : ExitCode → Nat
  | success => 0
  | failure => 1
  | usage => 2
  | aborted => 101

/-- The exit code for some trouble. -/
def ExitCode.ofTrouble : Trouble → ExitCode
  | .failed _ => .failure
  | .outOfRange => .aborted

/-- The name under which a file is written before it takes its place. -/
def temporaryName (name : String) : String :=
  withExtension name "json.tmp"

/-- The name of the file that holds the observation of a device. -/
def observationFile (directory device : String) : String :=
  if device.toList.head? = some '/' then device ++ ".json"
  else if directory.toList.getLast? = some '/' then directory ++ device ++ ".json"
  else directory ++ "/" ++ device ++ ".json"

def pollOptions (rebootThreshold : Float) (catalog : Catalog) (threads : Option Nat) : Options :=
  { Options.ofCatalog catalog with
    threads := threads.getD 1
    rebootThreshold }

/-- A number of cycles that takes longer than a duration, whatever a cycle takes. -/
def cyclesBeyond (options : Options) (duration : Span) : Nat :=
  duration.nanoseconds / options.minSleep.nanoseconds + 2

section

variable {m : Type → Type} [Monad m] (access : Access m)

namespace Access

/-- Use a file; its fault is a failure of the program. -/
def useFile {α : Type} (use : m (Except FileFault α)) : ExceptT Trouble m α :=
  ExceptT.mk (Except.mapError (Trouble.failed ∘ Failure.file) <$> use)

/-- Read a document from a file. -/
def load {α : Type} (read : String → Except Failure α) (name : String) : ExceptT Trouble m α := do
  let text ← useFile (access.read name)
  ExceptT.mk (pure ((read text).mapError Trouble.failed))

/-- Show a snapshot: print it, or write it into the given file. -/
def present (snapshot : Snapshot) (file : Option String) : ExceptT Trouble m Unit :=
  let text := snapshot.toJson.pretty 0
  match file with
  | none => access.print (text ++ "\n")
  | some name => do
    useFile (access.write (temporaryName name) text)
    useFile (access.rename (temporaryName name) name)

/-- The answers of the devices with the given names. -/
def answers (directory : String) : List String → m ObservationSet
  | [] => pure ∅
  | name :: names => do
    let answer ← (access.load Observation.ofDocument (observationFile directory name)).run
    let later ← answers directory names
    pure (match answer with
      | .ok observation => later.insert name observation
      | .error _ => later)

/-- Poll the devices of a catalog, for so many cycles at most. -/
def poll (options : Options) (catalog : Catalog) (directory : String) (file : Option String)
    (duration : Option Span) (start : Span) : Nat → ExceptT Trouble m Unit
  | 0 => pure ()
  | cycles + 1 => do
    let begun ← access.clock
    let pool := Pool.ofCatalog catalog options.threads
    let observations ← access.answers directory pool.devices
    let gathered := Gathering.gather pool {} { observations }
    access.present (gathered.snapshot catalog options) file
    let ended ← access.clock
    if Polling.isOver start duration ended then pure ()
    else
      let pause := options.sleepAfter (ended.since begun)
      match (← access.clock).after? pause with
      | none => throw .outOfRange
      | some _ =>
        access.pause pause
        poll options catalog directory file duration start cycles

/-- Run a command. Polling without a duration goes on for `endless` cycles. -/
def perform (endless : Nat) (invocation : Invocation) : ExceptT Trouble m Unit :=
  match invocation.command with
  | .reconcile catalog observations file => do
    let catalog ← access.load Catalog.ofDocument catalog
    let observations ← access.load ObservationSet.ofDocument observations
    access.present
      (Network.snapshot ⟨catalog, observations⟩ { reboot := invocation.rebootThreshold }) file
  | .poll catalog directory duration threads file => do
    let catalog ← access.load Catalog.ofDocument catalog
    let options := pollOptions invocation.rebootThreshold catalog threads
    let duration := duration.map Span.ofSeconds
    let start ← access.clock
    access.poll options catalog directory file duration start
      ((duration.map (cyclesBeyond options)).getD endless)
  | .sample sample down =>
    access.present
      ((sample.network down).snapshot { reboot := invocation.rebootThreshold }) none

def run (endless : Nat) (arguments : List String) : m ExitCode :=
  match readArguments arguments with
  | .error .usage => do
    access.report usageText
    pure .usage
  | .error .help => do
    access.report usageText
    pure .success
  | .ok invocation => do
    match ← (access.perform endless invocation).run with
    | .ok () => pure .success
    | .error trouble =>
      access.report trouble.message
      pure (.ofTrouble trouble)

end Access

end

/-- Run the program on a tree of files. Polling without a duration is followed
for one cycle. -/
def Session.perform (arguments : List String) (tree : FileTree) : ExitCode × Session :=
  (Session.access.run 1 arguments).run { tree }

end NetTopology.CommandLine
