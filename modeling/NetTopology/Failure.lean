/-
# Failures

Reconciliation never fails. What can fail is loading a catalog or handing a
snapshot to its consumer: the catalog is inconsistent, a file cannot be used, or
a text is not the document it should be.
-/

import NetTopology.Catalog
import NetTopology.Json.Fault

namespace NetTopology

/-- Why a file cannot be used. -/
inductive FileFault where
  /-- There is no such file. -/
  | notFound
  /-- The path leads to a directory. -/
  | isDirectory
  /-- The bytes are no text. -/
  | notText
  /-- Another reason. -/
  | other (reason : String)
  deriving DecidableEq

/-- The reason as text. -/
def FileFault.message : FileFault → String
  | notFound => "No such file or directory (os error 2)"
  | isDirectory => "Is a directory (os error 21)"
  | notText => "stream did not contain valid UTF-8"
  | other reason => reason

/-- Why a catalog cannot be loaded or a snapshot not be handed over. -/
inductive Failure where
  /-- The catalog is inconsistent. -/
  | catalog (error : CatalogError)
  /-- A file cannot be used. -/
  | file (fault : FileFault)
  /-- A text is not the document it should be. -/
  | document (fault : Json.Fault)
  deriving DecidableEq

/-- The text of a failure whose wording is fixed. The wording of document
faults is that of their remark, if they have one. -/
def Failure.message? : Failure → Option String
  | catalog error => some ("Catalog Error: " ++ error.message)
  | file fault => some ("IO Error: " ++ fault.message)
  | document (.misshapen (some detail)) => some detail.message
  | document _ => none

def Failure.message (failure : Failure) : String :=
  failure.message?.getD "the document cannot be read"

end NetTopology
