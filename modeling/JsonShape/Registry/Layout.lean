import JsonShape.Registry

/-!
# The order of declarations

Declarations are written in ascending order of their names, code point by code point, except that
the root's comes last; a blank line stands between two of them.
-/

namespace JsonShape

/-- Whether the declaration `a` is written no later than `b`. -/
def precedes (root a b : Text) : Bool := b = root || (a ≠ root && a.notAfter b)

/-- The entries of a map in the order in which they are written. -/
def ordered {α : Type} (root : Text) (m : OrderedMap Text α) : List (Text × α) :=
  m.entries.mergeSort fun a b => precedes root a.1 b.1

theorem perm_ordered {α : Type} (root : Text) (m : OrderedMap Text α) :
    (ordered root m).Perm m.entries := List.mergeSort_perm _ _

/-- The declarations with a blank line between any two of them. -/
def assembled (o : Options) (declarations : List (Text × Definition)) : Text :=
  Text.join "\n\n" (declarations.map fun d => d.2.text o d.1)

/-- The text of all declarations of a registry. -/
def Registry.text (o : Options) (reg : Registry) : Text := assembled o (ordered o.rootName reg)

end JsonShape
