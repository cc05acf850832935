import UsageMeter.Text.Blank
import UsageMeter.Text.Bytes

/-!
Paths with slashes. Empty and single-dot components are dropped and double dots stay; a path without
components is a dot. Exactly two leading slashes are kept, more count as one.
-/
namespace UsageMeter.Config

/-- A path: its leading slashes and its components. -/
structure Path where
  root : String
  parts : List String
deriving DecidableEq

namespace Path

/-- The leading slashes that count. -/
def rootOf : List Char → String
  | '/' :: '/' :: '/' :: _ => "/"
  | '/' :: '/' :: _ => "//"
  | '/' :: _ => "/"
  | _ => ""

def ofString (s : String) : Path :=
  ⟨rootOf s.toList,
    ((Text.splitOn '/' s.toList).map String.ofList).filter fun part => part ≠ "" && part ≠ "."⟩

def written (p : Path) : String :=
  if p.root = "" && p.parts.isEmpty then "." else p.root ++ String.intercalate "/" p.parts

end Path

/-- What a path leads to. -/
inductive Entry where
  | missing
  | tooLong
  | folder
  | file (bytes : ByteArray)

/-- A working folder that holds files and no folders. -/
structure Folder where
  files : List (String × ByteArray)

/-- The longest name that an entry of a folder can have, in bytes. -/
def longestName : Nat := 255

/-- The longest path that can be followed, in bytes. -/
def longestPath : Nat := 4095

/-- Where components lead to from a folder above the working one; no names are known there. -/
def followAbove : List String → Entry
  | [] => .folder
  | name :: rest =>
    if name = ".." then followAbove rest
    else if longestName < Text.byteCount name then .tooLong
    else .missing

/-- Where components lead to from the folder. -/
def Folder.follow (d : Folder) : List String → Entry
  | [] => .folder
  | name :: rest =>
    if name = ".." then followAbove rest
    else if longestName < Text.byteCount name then .tooLong
    else match d.files.lookup name, rest with
      | some bytes, [] => .file bytes
      | _, _ => .missing

/-- What a path leads to from a folder: the folders above it are there, and their contents are not
known to it. A path with a null character leads nowhere. -/
def Folder.find (d : Folder) (p : Path) : Entry :=
  if p.written.toList.contains '\x00' then .missing
  else if longestPath < Text.byteCount p.written then .tooLong
  else if p.root = "" then d.follow p.parts
  else followAbove p.parts

end UsageMeter.Config
