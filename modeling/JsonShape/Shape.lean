import JsonShape.Json

/-!
# Shapes

A shape is what is inferred of a JSON value: the kind of a scalar, an array of a shape, a union, an
empty array, or a name under which a declaration is kept.  `Shape.text` writes a shape; `unionOf`
collapses alternatives with the same text; `Shape.of` is the shape of a value in which objects are
not opened.
-/

namespace JsonShape

/-- The kinds of values that have a word of their own. -/
inductive Kind
  | string
  | number
  | boolean
  | null
  | object
deriving DecidableEq

def Kind.word : Kind → Text
  | .string => "string"
  | .number => "number"
  | .boolean => "boolean"
  | .null => "null"
  | .object => "object"

/-- What is inferred of a JSON value. -/
inductive Shape
  | scalar (kind : Kind)
  | array (element : Shape)
  | union (members : List Shape)
  | named (name : Text)
  | emptyArray

instance : Inhabited Shape := ⟨.emptyArray⟩

namespace Shape

/-! ### Writing -/

/-- The text of alternatives: bare if there is one, in parentheses otherwise. -/
def unionText : List Text → Text
  | [t] => t
  | ts => "(" ++ Text.join " | " ts ++ ")"

mutual

/-- The text of a shape. -/
def text : Shape → Text
  | .scalar k => k.word
  | .array e => e.text ++ "[]"
  | .union ms => unionText (texts ms)
  | .named n => n
  | .emptyArray => "unknown[]"

/-- The texts of shapes, one by one. -/
def texts : List Shape → List Text
  | [] => []
  | s :: ss => s.text :: texts ss

end

/-! ### Unions -/

/-- The first shape of each text, in order. -/
def firsts : List Shape → List Shape
  | [] => []
  | s :: ss => s :: (firsts ss).filter (·.text ≠ s.text)

theorem mem_of_mem_firsts {s : Shape} {ss : List Shape} (h : s ∈ firsts ss) : s ∈ ss := by
  induction ss with
  | nil => simp [firsts] at h
  | cons t ss ih => grind [firsts]

/-- No text is lost. -/
theorem exists_mem_firsts {s : Shape} {ss : List Shape} (h : s ∈ ss) :
    ∃ t ∈ firsts ss, t.text = s.text := by
  induction ss with
  | nil => simp at h
  | cons t ss ih => grind [firsts]

/-- The union of shapes that are told apart by their text; the only one of them is its own union. -/
def unionOf (ss : List Shape) : Shape :=
  match firsts ss with
  | [s] => s
  | ms => .union ms

/-! ### Inference -/

mutual

/-- The shape of a value, every object of which is left closed. -/
def of : Json → Shape
  | .null => .scalar .null
  | .bool _ => .scalar .boolean
  | .number _ => .scalar .number
  | .string _ => .scalar .string
  | .array [] => .emptyArray
  | .array (x :: xs) => .array (unionOf (of x :: ofAll xs))
  | .object _ => .scalar .object

/-- The shapes of values, one by one. -/
def ofAll : List Json → List Shape
  | [] => []
  | x :: xs => of x :: ofAll xs

end

theorem ofAll_eq_map (xs : List Json) : ofAll xs = xs.map of := by
  induction xs with
  | nil => rfl
  | cons x xs ih => rw [ofAll, ih, List.map_cons]

end Shape

end JsonShape
