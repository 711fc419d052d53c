namespace Tokenry.Command

inductive Anchor where
  | here
  | root
  | doubleRoot
  deriving DecidableEq, Repr

def Anchor.render : Anchor → String
  | .here => ""
  | .root => "/"
  | .doubleRoot => "//"

structure Path where
  anchor : Anchor := .here
  parts : List String := []
  deriving DecidableEq, Repr

namespace Path

def anchorOf (slashes : Nat) : Anchor :=
  if slashes = 0 then .here else if slashes = 2 then .doubleRoot else .root

def ofText (text : String) : Path where
  anchor := anchorOf (text.toList.takeWhile (· == '/')).length
  parts := ((text.toList.splitOn '/').map String.ofList).filter fun part ↦ part != "" && part != "."

def render (p : Path) : String :=
  match p.anchor, p.parts with
  | .here, [] => "."
  | anchor, parts => anchor.render ++ String.intercalate "/" parts

end Path

structure Folder where
  files : List (List String × List UInt8) := []

namespace Folder

def isFolder (f : Folder) (way : List String) : Bool :=
  way.isEmpty || f.files.any fun (name, _) ↦ way.isPrefixOf name && way != name

/-- Where parts lead from a folder. Every part starts in a folder that is there, and none leads out
of the current folder. -/
def walk (f : Folder) (way : List String) : List String → Option (List String)
  | [] => some way
  | part :: rest =>
    if f.isFolder way then
      if part = ".." then if way.isEmpty then none else walk f way.dropLast rest
      else walk f (way ++ [part]) rest
    else none

/-- The bytes of the file that a path leads to. -/
def read? (f : Folder) (p : Path) : Option (List UInt8) :=
  match p.anchor with
  | .here => (f.walk [] p.parts).bind fun way ↦ f.files.lookup way
  | _ => none

def ofFiles (files : List (String × List UInt8)) : Folder where
  files := files.reverse.map fun (name, bytes) ↦ ((Path.ofText name).parts, bytes)

end Folder

end Tokenry.Command
