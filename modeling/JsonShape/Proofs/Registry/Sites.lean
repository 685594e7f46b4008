import Mathlib.Data.List.Induction
import JsonShape.Registry

/-!
# Sites

The objects that get a declaration, listed without a registry: `sites` goes through an object field
by field and lists what is opened inside an object before the object itself.  Making a record
(`Registry.generate`) is the same as adding the records of the sites one after another
(`generate_eq`), so what a registry holds afterwards can be read off the list: the last site of a
name (`get?_addAll`), at the place of the first one (`keys_addAll`).
-/

namespace JsonShape

/-! ### The list of sites -/

/-- An object that is declared, and the name of its declaration. -/
structure Site where
  name : Text
  fields : List (Text × Json)

mutual

/-- The sites inside the fields of an object, field by field. -/
def sitesInside : List (Text × Json) → List Site
  | [] => []
  | (key, value) :: fields => sitesUnder key value ++ sitesInside fields

/-- The sites of the value under a key: an object, or the object in front of an array, comes after
the sites inside it. -/
def sitesUnder (key : Text) : Json → List Site
  | .object fields => sitesInside fields ++ [⟨Name.ofKey key, fields⟩]
  | .array (.object fields :: _) => sitesInside fields ++ [⟨Name.ofItems key, fields⟩]
  | _ => []

end

/-- The sites of an object that is declared under a name. -/
def sites (name : Text) (fields : List (Text × Json)) : List Site :=
  sitesInside fields ++ [⟨name, fields⟩]

/-- Only the first element of an array is opened, and only if it is an object. -/
example :
    let leaf : Json := .object []
    (sites "Root" [("a", .object [("b", .array [leaf, leaf])]), ("c", .array [.null, leaf])]).map
      Site.name = (["BItem", "A", "Root"] : List Text) := by
  decide

/-- The shape of the value under a key. -/
def shapeUnder (key : Text) : Json → Shape
  | .null => .scalar .null
  | .array [] => .emptyArray
  | .array (.object _ :: _) => .array (.named (Name.ofItems key))
  | .object _ => .named (Name.ofKey key)
  | value => .of value

/-- The property for a field. -/
def Property.ofField (optional : Bool) (f : Text × Json) : Property :=
  ⟨f.1, shapeUnder f.1 f.2, optional⟩

/-- The record of a site has a property for each field, in order. -/
def Site.record (optional : Bool) (s : Site) : Definition :=
  .record (s.fields.map (Property.ofField optional))

theorem eraseDups_concat {α : Type} [BEq α] [LawfulBEq α] (l : List α) (x : α) [Decidable (x ∈ l)] :
    (l ++ [x]).eraseDups = if x ∈ l then l.eraseDups else l.eraseDups ++ [x] := by
  rw [List.eraseDups_append]
  by_cases h : x ∈ l <;> simp [List.removeAll, h, List.eraseDups_cons]

namespace Registry

variable (optional : Bool)

/-- Adds the records of sites, one after another. -/
def addAll (reg : Registry) (ss : List Site) : Registry :=
  ss.foldl (fun reg s => reg.insert s.name (s.record optional)) reg

theorem addAll_append (reg : Registry) (ss ts : List Site) :
    reg.addAll optional (ss ++ ts) = (reg.addAll optional ss).addAll optional ts :=
  List.foldl_append

theorem addAll_concat (reg : Registry) (ss : List Site) (s : Site) :
    reg.addAll optional (ss ++ [s]) =
      (reg.addAll optional ss).insert s.name (s.record optional) := by
  rw [addAll_append]
  rfl

/-! ### Making a record is adding the sites -/

theorem keepRecord_eq (name : Text) (fields : List (Text × Json)) (reg : Registry) :
    keepRecord name (fields.map (Property.ofField optional),
        reg.addAll optional (sitesInside fields)) =
      (Site.record optional ⟨name, fields⟩, reg.addAll optional (sites name fields)) := by
  rw [sites, addAll_concat]
  rfl

mutual

/-- The registry is threaded through the fields, so the statement is about every registry to start
from. -/
theorem makeProperties_eq : ∀ (fields : List (Text × Json)) (reg : Registry),
    makeProperties optional fields reg =
      (fields.map (Property.ofField optional), reg.addAll optional (sitesInside fields))
  | [], reg => by simp [makeProperties, sitesInside, addAll]
  | (key, value) :: fields, reg => by
    rw [makeProperties, makeShape_eq key value reg]
    dsimp only
    rw [makeProperties_eq fields, sitesInside, addAll_append]
    rfl

theorem makeShape_eq (key : Text) : ∀ (value : Json) (reg : Registry),
    makeShape optional key value reg =
      (shapeUnder key value, reg.addAll optional (sitesUnder key value))
  | .object fields, reg => by
    rw [makeShape, makeProperties_eq fields, keepRecord_eq]
    rfl
  | .array (.object fields :: items), reg => by
    rw [makeShape, makeProperties_eq fields, keepRecord_eq]
    rfl
  | .array [], reg | .null, reg | .bool _, reg | .number _, reg | .string _, reg => rfl
  | .array (.null :: _), reg | .array (.bool _ :: _), reg | .array (.number _ :: _), reg
  | .array (.string _ :: _), reg | .array (.array _ :: _), reg => rfl

end

theorem generate_eq (name : Text) (fields : List (Text × Json)) (reg : Registry) :
    generate optional name fields reg =
      (Site.record optional ⟨name, fields⟩, reg.addAll optional (sites name fields)) := by
  rw [generate, makeProperties_eq, keepRecord_eq]

/-! ### What the sites leave behind -/

/-- A name holds the record of the last site of that name, and what it held before if there is
none. -/
theorem get?_addAll (reg : Registry) (ss : List Site) (n : Text) :
    (reg.addAll optional ss).get? n =
      ((ss.findRev? (·.name = n)).map (Site.record optional)).or (reg.get? n) := by
  rw [List.findRev?_eq_find?_reverse]
  induction ss using List.reverseRecOn with
  | nil => rfl
  | append_singleton ss s ih =>
    rw [addAll_concat, OrderedMap.get?_insert, List.reverse_append, List.reverse_singleton,
      List.singleton_append, List.find?_cons]
    by_cases h : n = s.name
    · simp [h]
    · simp [h, Ne.symm h, ih]

/-- A name keeps the place of its first registration: the names that were there stay where they
are, and the new ones follow in the order in which they are met. -/
theorem keys_addAll (reg : Registry) (ss : List Site) :
    (reg.addAll optional ss).keys =
      reg.keys ++ ((ss.map Site.name).filter (!reg.keys.contains ·)).eraseDups := by
  induction ss using List.reverseRecOn with
  | nil => simp [addAll]
  | append_singleton ss s ih =>
    rw [addAll_concat, OrderedMap.keys_insert, ih, List.map_append, List.map_singleton,
      List.filter_append]
    by_cases hr : s.name ∈ reg.keys
    · simp [hr]
    have hnew : [s.name].filter (!reg.keys.contains ·) = [s.name] := by simp [hr]
    rw [hnew, eraseDups_concat]
    by_cases hs : s.name ∈ (ss.map Site.name).filter (!reg.keys.contains ·)
    · rw [if_pos hs, if_pos (List.mem_append_right _ (List.mem_eraseDups.2 hs))]
    · rw [if_neg hs, if_neg, List.append_assoc]
      rw [List.mem_append, List.mem_eraseDups]
      exact fun h => h.elim hr hs

/-- **Making the record of an object is a fold over its sites.**  In the order of the sites, each
puts its record under its name; so a name holds the record of its last site, or what it held before,
and keeps the place where it came up first.  A record has a property for each field of its site. -/
theorem generate_eq_fold_sites (o : Options) (name : Text) (fields : List (Text × Json))
    (reg : Registry) :
    let made := generate o.optionalProperties name fields reg
    let visited := sites name fields
    made.1 = Site.record o.optionalProperties ⟨name, fields⟩ ∧
    made.2 = visited.foldl (fun reg s => reg.insert s.name (s.record o.optionalProperties)) reg ∧
    (∀ n, made.2.get? n =
      ((visited.findRev? (·.name = n)).map (Site.record o.optionalProperties)).or (reg.get? n)) ∧
    made.2.keys = reg.keys ++ ((visited.map Site.name).filter (!reg.keys.contains ·)).eraseDups ∧
    ∀ s : Site,
      (s.record o.optionalProperties).properties.map
          (fun p => (p.key, p.heading, p.optional, p.shape)) =
        s.fields.map fun f => (f.1, Key.text f.1, o.optionalProperties, shapeUnder f.1 f.2) := by
  dsimp only
  rw [generate_eq]
  refine ⟨rfl, rfl, get?_addAll _ reg _, keys_addAll _ reg _, fun s => ?_⟩
  rw [Site.record, Definition.properties, List.map_map]
  rfl

end Registry

end JsonShape
