import Multiscan.Text.Broken
/-!
# Command line — files

What is found behind a path in a directory that holds a few files. A path
is taken apart at slashes; parts that are empty or one dot lead nowhere.
-/

namespace Multiscan.Cli

open Text (Bytes)

/-- What a path leads to. -/
inductive Found
  | file (contents : Bytes)
  | directory
  /-- Nothing. -/
  | missing
  /-- A file is used as a directory on the way. -/
  | notDirectory
  /-- Some part of the path is longer than a name can be. -/
  | nameTooLong

/-- What paths lead to. -/
abbrev Files := Bytes → Found

namespace Found

/-- The words for a file that is not there, and the number of the reason. -/
def noEntry : String := "No such file or directory (os error 2)"

/-- Why a path cannot be opened; nothing if it can. -/
def openFault : Found → Option String
  | file _ | directory => none
  | missing => some noEntry
  | notDirectory => some "Not a directory (os error 20)"
  | nameTooLong => some "File name too long (os error 36)"

/-- The text behind a path, or why there is none. -/
def readText (f : Found) : Except String String :=
  match f.openFault, f with
  | some fault, _ => .error fault
  | none, file contents =>
    match Text.decode? contents with
    | some cs => .ok (String.ofList cs)
    | none => .error "stream did not contain valid UTF-8"
  | none, _ => .error "Is a directory (os error 21)"

/-- The text behind a path that is to be scanned, or why there is none. -/
def haystack (path : String) (f : Found) : Except String String :=
  match f.openFault, f with
  | some fault, _ => .error ("failed to open " ++ path ++ ": " ++ fault)
  | none, file contents =>
    match Text.decode? contents with
    | some cs => .ok (String.ofList cs)
    | none => .error (path ++ " is not valid UTF-8: " ++ Text.invalidMessage contents)
  | none, _ => .error ("failed to mmap " ++ path ++ ": No such device (os error 19)")

end Found

/-- The parts of a path. -/
def pathParts (path : List UInt8) : List (List UInt8) :=
  (path.foldr (fun b parts =>
    match parts with
    | p :: ps => if b = 47 then [] :: p :: ps else (b :: p) :: ps
    | [] => [[b]]) [[]])

/-- What a path leads to from a directory that holds these files. -/
def findIn (files : List (Bytes × Bytes)) : Files := fun path =>
  let parts := pathParts path.toList
  if path.isEmpty then .missing
  else if parts.any (255 < ·.length) then .nameTooLong
  else
    match parts.filter fun p => p ≠ [] ∧ p ≠ [46] with
    | [] => .directory
    | name :: deeper =>
      if name = [46, 46] then .directory
      else match files.lookup name.toArray with
        | none => .missing
        | some contents =>
          if deeper.isEmpty && parts.getLast? == some name then .file contents
          else .notDirectory

end Multiscan.Cli
