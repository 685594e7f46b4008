import JsonShape.Declaration
import JsonShape.OrderedMap

/-!
# Registries

A registry keeps the definitions found so far by name, in the order in which the names were first
used; a later definition of a name replaces the earlier one.  `Registry.generate` makes the record
of an object.  The shapes of its fields are found one after another; an object met there, under a
key or in front of an array under a key, is made a record on the spot, which is kept under a name
derived from the key, and the field is known by that name.
-/

namespace JsonShape

/-- Definitions by name. -/
abbrev Registry := OrderedMap Text Definition

namespace Registry

/-- Keeps the record of some properties under a name, in the registry that came of making them. -/
def keepRecord (name : Text) (made : List Property × Registry) : Definition × Registry :=
  (.record made.1, made.2.insert name (.record made.1))

mutual

/-- The properties for the fields of an object, and the registry after them. -/
def makeProperties (optional : Bool) :
    List (Text × Json) → Registry → List Property × Registry
  | [], reg => ([], reg)
  | (key, value) :: fields, reg =>
    let (shape, reg) := makeShape optional key value reg
    let (properties, reg) := makeProperties optional fields reg
    (⟨key, shape, optional⟩ :: properties, reg)

/-- The shape of the value under a key, and the registry after it.  An object, and an array led by
an object, is known by the name under which the record of the object is kept. -/
def makeShape (optional : Bool) (key : Text) : Json → Registry → Shape × Registry
  | .null, reg => (.scalar .null, reg)
  | .array [], reg => (.emptyArray, reg)
  | .array (.object fields :: _), reg =>
    let name := Name.ofItems key
    (.array (.named name), (keepRecord name (makeProperties optional fields reg)).2)
  | .object fields, reg =>
    let name := Name.ofKey key
    (.named name, (keepRecord name (makeProperties optional fields reg)).2)
  | value, reg => (.of value, reg)

end

/-- **Makes the record of an object** and keeps it under a name, after the records of all objects
that are opened inside it. -/
def generate (optional : Bool) (name : Text) (fields : List (Text × Json)) (reg : Registry) :
    Definition × Registry :=
  keepRecord name (makeProperties optional fields reg)

/-- The registry in which the record of an object is kept. -/
def declare (optional : Bool) (name : Text) (fields : List (Text × Json)) (reg : Registry) :
    Registry :=
  (generate optional name fields reg).2

end Registry

end JsonShape
