import JsonShape.Text

/-!
# Arguments

The arguments of a command: words, flags, and options with a value.  They may come in any order;
what follows two dashes is made of words only.
-/

namespace JsonShape

/-- Whether a name in dashes stands alone or takes a value. -/
inductive OptionKind
  | flag
  | valued
deriving DecidableEq

/-- An argument as it is meant. -/
inductive Argument
  | word (text : Text)
  | flag (name : Text)
  | value (name text : Text)

namespace Argument

/-- Whether an argument is an option; a single dash is a word. -/
def isOption : Text → Bool
  | [] => false
  | [_] => false
  | c :: _ => c = '-'

/-- The name of an option, and the value after an equals sign in it. -/
def cut (a : Text) : Text × Option Text :=
  let name := a.takeWhile (· ≠ ('=' : CodePoint))
  (name, if name.length < a.length then some (a.drop (name.length + 1)) else none)

/-- **Reads arguments.**  An option takes what follows it as its value, whatever that looks like; an
unknown option, a missing value and a value for a flag are refused. -/
def read (kind : Text → Option OptionKind) : List Text → Option (List Argument)
  | [] => some []
  | a :: rest =>
    if a = Text.ofString "--" then some (rest.map .word)
    else if isOption a then
      match kind (cut a).1, (cut a).2 with
      | some .flag, none => (read kind rest).map (.flag (cut a).1 :: ·)
      | some .valued, some v => (read kind rest).map (.value (cut a).1 v :: ·)
      | some .valued, none =>
        match rest with
        | [] => none
        | v :: rest => (read kind rest).map (.value (cut a).1 v :: ·)
      | _, _ => none
    else (read kind rest).map (.word a :: ·)

/-- The words among arguments. -/
def words (as : List Argument) : List Text :=
  as.filterMap fun
    | .word t => some t
    | _ => none

/-- The flags among arguments, in their order. -/
def flags (as : List Argument) : List Text :=
  as.filterMap fun
    | .flag n => some n
    | _ => none

/-- Whether a flag is given. -/
def hasFlag (name : Text) (as : List Argument) : Bool := (flags as).contains name

/-- The names of the options with a value, in the order in which they first appear. -/
def valuedNames (as : List Argument) : List Text :=
  (as.filterMap fun
    | .value n _ => some n
    | _ => none).eraseDups

/-- The value of an option; where there are many, the last one counts. -/
def valueOf? (name : Text) (as : List Argument) : Option Text :=
  as.foldl (fun found a =>
    match a with
    | .value n t => if n = name then some t else found
    | _ => found) none

end Argument

/-! ### Readings -/

/-- A path as an argument spells it. -/
structure SpelledPath where
  text : Text
  /-- Whether something has to be there. -/
  required : Bool

/-- What arguments mean. -/
structure Reading (α : Type) where
  /-- The paths among them, in the order in which they are looked at. -/
  paths : List SpelledPath
  /-- What is asked for, unless words are missing or left over. -/
  request? : Option α

namespace Reading

/-- The reading of words of which the first one is a path. -/
def ofWords {α : Type} (words : List Text) (request? : Option α) : Reading α :=
  ⟨(words.take 1).map (⟨·, false⟩), request?⟩

/-- The same reading of something else. -/
def map {α β : Type} (f : α → β) (r : Reading α) : Reading β := ⟨r.paths, r.request?.map f⟩

end Reading

end JsonShape
