import RegistryTokens.Text.CommaList

/-!
# Paths of files

A path leads to a file by its steps, from the root or from the working directory. Steps that stay
are left out, and a step up undoes the one before it. The directories that are there are the working
directory and those that every system has, with nothing below them.
-/

set_option autoImplicit false

namespace RegistryTokens.Engine

structure Path where
  fromRoot : Bool
  steps : List String
  deriving DecidableEq, Repr

namespace Path

/-- A step up where there is none before it changes nothing. -/
def read (path : List Char) : Path where
  fromRoot := path.head? == some '/'
  steps := ((Text.CommaList.cells '/' path).foldl (fun kept step =>
    if step = [] ∨ step = ['.'] then kept
    else if step = ['.', '.'] then kept.drop 1
    else String.ofList step :: kept) []).reverse

def rootDirectories : List String := [
  "bin", "boot", "dev", "etc", "home", "lib", "lib64", "media", "mnt", "opt", "proc", "root", "run",
  "sbin", "srv", "sys", "tmp", "usr", "var"]

def closedDirectories : List String := ["proc", "sys"]

def isDirectory (p : Path) : Bool :=
  match p.steps with
  | [] => true
  | [name] => p.fromRoot && rootDirectories.contains name
  | _ => false

def parent (p : Path) : Path := { p with steps := p.steps.dropLast }

def name (p : Path) : String := p.steps.getLast?.getD ""

/-- The longest name of a file, in bytes. -/
def maxName : Nat := 255

def admitsFile (p : Path) : Bool :=
  p.parent.isDirectory && !closedDirectories.contains p.parent.name && !p.isDirectory &&
    p.name.utf8ByteSize ≤ maxName

/-- A file is written with the help of a second one, whose name is longer by this much. -/
def journalMark : String := "-journal"

def hasRoomForJournal (p : Path) : Bool :=
  p.name.utf8ByteSize + journalMark.utf8ByteSize ≤ maxName

end Path

end RegistryTokens.Engine
