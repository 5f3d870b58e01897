/-
# Files below one directory

The command line reads and writes text files below the directory it is started
in. A tree holds the text of each file by its path; a directory exists when it
holds a file. Paths are read from left to right, `.` being the directory itself
and `..` the one above; everything that a path passes through has to be a
directory. Names and paths must not be too long, which is counted in bytes.
-/

import NetTopology.Failure

namespace NetTopology.CommandLine

/-- The names on the way from the directory to a file. -/
abbrev Path := List String

/-- The parts of a text between slashes. -/
def splitSlashes : List Char → List (List Char)
  | [] => [[]]
  | c :: rest =>
    if c = '/' then [] :: splitSlashes rest
    else
      match splitSlashes rest with
      | [] => [[c]]
      | part :: parts => (c :: part) :: parts

/-- The greatest number of bytes in a name. -/
def nameLimit : Nat := 255

/-- The greatest number of bytes in a text that names a file. -/
def pathLimit : Nat := 4095

/-- Text files by path. -/
structure FileTree where
  /-- The files; of two entries with the same path the first counts. -/
  files : List (Path × String)
  deriving Inhabited

namespace FileTree

variable (tree : FileTree)

def get? (path : Path) : Option String :=
  (tree.files.find? fun file => file.1 == path).map Prod.snd

/-- Whether there is a directory with the given path. -/
def hasDirectory (path : Path) : Bool :=
  path == [] ||
    tree.files.any fun file => path.isPrefixOf file.1 && path.length < file.1.length

/-- Follow the parts of a text from a path on. -/
def walk? (path : Path) : List String → Option Path
  | [] => some path
  | part :: parts =>
    if !tree.hasDirectory path then none
    else if part = "" ∨ part = "." then walk? path parts
    else if part = ".." then if path = [] then none else walk? path.dropLast parts
    else if nameLimit < part.utf8ByteSize then none
    else walk? (path ++ [part]) parts

/-- The place that a text leads to, whether or not there is anything. A text
that starts with a slash leads out of the tree. -/
def place? (text : String) : Option Path :=
  if text.toList.head? = some '/' then none
  else if pathLimit < text.utf8ByteSize then none
  else tree.walk? [] ((splitSlashes text.toList).map String.ofList)

/-- The text of the file that `name` leads to. -/
def read (name : String) : Except FileFault String :=
  match tree.place? name with
  | none => .error .notFound
  | some path =>
    if tree.hasDirectory path then .error .isDirectory
    else
      match tree.get? path with
      | some text => .ok text
      | none => .error .notFound

def erase (path : Path) : FileTree :=
  ⟨tree.files.filter fun file => file.1 != path⟩

def insert (path : Path) (text : String) : FileTree :=
  ⟨(path, text) :: (tree.erase path).files⟩

/-- Write the file that `name` leads to. Its directory has to exist. -/
def write (name text : String) : Except FileFault FileTree :=
  match tree.place? name with
  | none => .error .notFound
  | some path =>
    if tree.hasDirectory path then .error .isDirectory else .ok (tree.insert path text)

/-- Give the file that `source` leads to the name `target`. -/
def rename (source target : String) : Except FileFault FileTree :=
  match tree.read source, tree.place? source with
  | .ok text, some path =>
    (tree.write target text).map fun written =>
      if tree.place? target = some path then written else written.erase path
  | .error fault, _ => .error fault
  | .ok _, none => .error .notFound

/-- The tree with the given files, by the texts that lead to them. -/
def ofList (files : List (String × String)) : FileTree :=
  ⟨files.map fun (name, text) =>
    (((splitSlashes name.toList).map String.ofList).filter fun part => part ≠ "" ∧ part ≠ ".", text)⟩

end FileTree

/-- The part of a file name before its last point; a point at the head does not count. -/
def stem (name : List Char) : List Char :=
  match name.reverse.dropWhile (· ≠ '.') with
  | [] | ['.'] => name
  | _ :: before => before.reverse

/-- Put slashes between parts. -/
def joinSlashes : List (List Char) → List Char
  | [] => []
  | [part] => part
  | part :: parts => part ++ '/' :: joinSlashes parts

/-- Whether a part of a path adds nothing to it. -/
def isIdle (part : List Char) : Bool :=
  part == [] || part == ['.']

/-- The text that names a file with another ending in the same directory. Slashes
and points after the name of the file are left out; a text that names no file
stays as it is. The old ending is taken off first: if that leaves `..`, the text
names the directory above now and stays so. -/
def withExtension (name extension : String) : String :=
  let parts := (splitSlashes name.toList).reverse
  match parts.dropWhile isIdle with
  | [] => name
  | file :: above =>
    if file = ['.', '.'] then name
    else
      let renamed :=
        if stem file = ['.'] ∧ parts.head? = some file then ['.', '.']
        else stem file ++ '.' :: extension.toList
      String.ofList (joinSlashes (above.reverse ++ [renamed]))

end NetTopology.CommandLine
