/-
  KeyBundle.Path — file paths in normal form: where a path starts, and the parts between slashes,
  where empty parts and single dots are left out. A double dot is an ordinary part.
-/

import KeyBundle.Text.Split

namespace KeyBundle

/-- Where a path starts. -/
inductive PathRoot where
  /-- At no fixed place. -/
  | relative
  | slash
  /-- Exactly two slashes, which stay two. -/
  | doubleSlash
  /-- At the directory set aside for a run, which is written @TMP. -/
  | scratch
  deriving DecidableEq

/-- How a root is written before the parts. -/
def PathRoot.text : PathRoot → String
  | relative => ""
  | slash => "/"
  | doubleSlash => "//"
  | scratch => "@TMP"

structure Path where
  root : PathRoot
  parts : List String
  deriving DecidableEq

namespace Path

/-- Two leading slashes stay two; any other positive number is one. -/
def rootOf (s : List Char) : PathRoot :=
  match (s.takeWhile (· == '/')).length with
  | 0 => .relative
  | 2 => .doubleSlash
  | _ => .slash

/-- What stands between the slashes, empty parts and single dots left out. -/
def partsOf (s : List Char) : List String :=
  ((Text.pieces '/' s).filter fun p => !p.isEmpty && p != ['.']).map fun p => String.ofList p

def ofString (s : String) : Path := ⟨rootOf s.toList, partsOf s.toList⟩

/-- A path as a run writes it: the name of the directory set aside for it may stand first. -/
def ofRunText (s : String) : Path :=
  let name := PathRoot.scratch.text.toList
  let rest := s.toList.drop name.length
  if name.isPrefixOf s.toList && rest.head?.all (· == '/') then ⟨.scratch, partsOf rest⟩
  else ofString s

/-- The text of a path; a single dot when there is nothing to write. -/
def text (p : Path) : String :=
  match p.root, p.parts with
  | .relative, [] => "."
  | .scratch, part :: parts => "/".intercalate (PathRoot.scratch.text :: part :: parts)
  | root, parts => root.text ++ "/".intercalate parts

def isScratch (p : Path) : Bool := p.root = .scratch

def isAbsolute (p : Path) : Bool := p.root != .relative

/-- A path below another; an absolute one replaces it. -/
def join (p q : Path) : Path := if q.isAbsolute then q else ⟨p.root, p.parts ++ q.parts⟩

def parent (p : Path) : Path := ⟨p.root, p.parts.dropLast⟩

/-- The last part, or nothing. -/
def name (p : Path) : String := p.parts.getLast?.getD ""

/-- The last part, lengthened. -/
def addSuffix (p : Path) (suffix : String) : Path :=
  match p.parts.getLast? with
  | none => p
  | some last => ⟨p.root, p.parts.dropLast ++ [last ++ suffix]⟩

/-- The directories above a path, the topmost first, without the root. -/
def above (p : Path) : List Path :=
  ((List.range p.parts.length).drop 1).map fun n => ⟨p.root, p.parts.take n⟩

/-- The path is another, or lies below it. -/
def isWithin (p q : Path) : Bool := p.root = q.root && q.parts.isPrefixOf p.parts

/-- A path within another that is renamed. -/
def moved (p source target : Path) : Path :=
  if p.isWithin source then ⟨target.root, target.parts ++ p.parts.drop source.parts.length⟩ else p

/-- The path steps upwards somewhere. -/
def climbs (p : Path) : Bool := p.parts.contains ".."

end Path

end KeyBundle
