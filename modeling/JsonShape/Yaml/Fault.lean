import JsonShape.Calendar
import JsonShape.Number.Integer

/-!
# Faults of YAML text
-/

namespace JsonShape.Yaml

/-- Why a YAML text stands for no value. -/
inductive Fault
  /-- The text breaks the grammar, or a value does not fit its tag. -/
  | malformed
  /-- An escape names no code point. -/
  | noCodePoint
  /-- An escape names a number that is too large even to ask for its code point. -/
  | hugeCodePoint
  | badInteger (error : IntegerError)
  | badDouble (text : Text)
  | badDate (fault : Calendar.Fault)
  /-- A date was asked for and the text is none. -/
  | noDate
  /-- A date was asked for and a mapping stands for its text. -/
  | notText
  /-- A truth value was asked for and the word is none. -/
  | unknownWord (word : Text)
  /-- A number was asked for and the text is empty. -/
  | emptyNumber
  /-- A double has more digits of base sixty than doubles have powers of sixty. -/
  | hugeScale
  /-- The text is nested too deeply for the stack. -/
  | tooDeep

def Fault.message : Fault → Text
  | .malformed => "malformed YAML"
  | .noCodePoint => "chr() arg not in range(0x110000)"
  | .hugeCodePoint => "Python int too large to convert to C int"
  | .badInteger e => e.message
  | .badDouble t => "could not convert string to float: " ++ t.literal
  | .badDate f => f.message
  | .noDate => "'NoneType' object has no attribute 'groupdict'"
  | .notText => "expected string or bytes-like object, got 'list'"
  | .unknownWord w => w.literal
  | .emptyNumber => "string index out of range"
  | .hugeScale => "int too large to convert to float"
  | .tooDeep => "maximum recursion depth exceeded"

end JsonShape.Yaml
