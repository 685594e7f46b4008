import JsonShape.Text

/-!
# Paths

A path is a list of parts between slashes; empty parts and single points are left out.
-/

namespace JsonShape

/-- A path of files: what it starts from, and its parts. -/
structure Path where
  /-- Empty for a path from the working folder. -/
  root : Text
  parts : List Text
deriving DecidableEq

namespace Path

/-- The root of a path: two slashes are kept apart from one or many. -/
def rootOf (t : Text) : Text :=
  match t.takeWhile (· = ('/' : CodePoint)) with
  | [] => []
  | [_, _] => "//"
  | _ => "/"

/-- The path that a text names. -/
def ofText (t : Text) : Path :=
  ⟨rootOf t, (t.split '/').filter fun p => p ≠ [] ∧ p ≠ Text.ofString "."⟩

/-- The path as text; a single point for the working folder. -/
def text (p : Path) : Text :=
  if p.root = [] ∧ p.parts = [] then "." else p.root ++ Text.join "/" p.parts

/-- Whether a spelled path can only lead to a folder: it ends in a slash or in a single point. -/
def leadsToFolder (spelled : Text) : Bool :=
  match (spelled.split '/').getLast? with
  | some last => last = [] || last = Text.ofString "."
  | none => false

/-- The last part, empty if there is none. -/
def name (p : Path) : Text := p.parts.getLast?.getD []

/-- The folder that a path lies in. -/
def parent (p : Path) : Path := ⟨p.root, p.parts.dropLast⟩

/-- The name from its last point on, unless the point is its first or its last character. -/
def suffix (p : Path) : Text :=
  let tail := (p.name.reverse.takeWhile (· ≠ ('.' : CodePoint))).reverse
  if tail = [] ∨ p.name.length ≤ tail.length + 1 then [] else "." ++ tail

end Path

end JsonShape
