import JsonShape.Terminal.Emoji
import JsonShape.Terminal.Handler
import JsonShape.Terminal.Style
import JsonShape.Terminal.Styled

/-!
# Marked-up text

Messages may carry tags in brackets: `[bold]` opens a style, `[/bold]` or `[/]` closes it.  A
backslash before a tag keeps it as text.  What is left once the tags are taken out is shown, with
emoji for their codes.
-/

namespace JsonShape.Markup

/-! ### Tags -/

/-- Whether a tag may begin with the character. -/
def startsTag (c : CodePoint) : Bool := c.isLower || c = '#' || c = '/' || c = '@'

/-- The inside of a tag at the front of a text, and what follows the tag; no other bracket may open
in it. -/
def tag? : Text → Option (Text × Text)
  | [] => none
  | b :: t =>
    if b = '[' then
      match t with
      | [] => none
      | c :: _ => if startsTag c then Text.upTo ']' (· = '[') t else none
    else none

theorem length_tag? {t inside rest : Text} (h : tag? t = some (inside, rest)) :
    rest.length < t.length := by
  cases t with
  | nil => simp [tag?] at h
  | cons b t =>
    simp only [tag?] at h
    split at h
    · split at h
      · simp at h
      · split at h
        · have := Text.length_upTo h
          simp at *
          omega
        · simp at h
    · simp at h

/-- A run of backslashes. -/
def backslashes (n : Nat) : Text := List.replicate n '\\'

/-! ### Escaping -/

/-- Puts a backslash before every tag and doubles those that are there; `run` backslashes stand
before the text. -/
def escapeTags (run : Nat) (t : Text) : Text :=
  match _h : tag? t with
  | some (inside, rest) =>
    backslashes (2 * run + 1) ++ "[" ++ inside ++ "]" ++ escapeTags 0 rest
  | none =>
    match t with
    | [] => backslashes run
    | c :: rest =>
      if c = '\\' then escapeTags (run + 1) rest else backslashes run ++ [c] ++ escapeTags 0 rest
termination_by t.length
decreasing_by
  · exact length_tag? (by assumption)
  · simp
  · simp

/-- Whether a text ends in a single backslash. -/
def endsInBackslash (t : Text) : Bool :=
  match t.reverse with
  | [] => false
  | c :: rest => c = '\\' && rest.head? ≠ some '\\'

/-- A text whose tags are kept as text; a backslash at its end is doubled. -/
def escape (t : Text) : Text :=
  let e := escapeTags 0 t
  if endsInBackslash e then e ++ "\\" else e

/-! ### Pieces -/

/-- A part of a marked-up text. -/
inductive Piece
  | plain (text : Text)
  /-- What follows an equals sign in a tag is a parameter of the style. -/
  | opening (name : Text) (parameters : Option Text)
  /-- An empty name closes what was opened last. -/
  | closing (name : Text)

/-- The piece of a tag. -/
def Piece.ofTag (inside : Text) : Piece :=
  let name := inside.takeWhile (· ≠ ('=' : CodePoint))
  match name with
  | [] => .opening [] none
  | c :: rest =>
    if c = '/' then .closing (Text.trim rest)
    else
      .opening name
        (if name.length < inside.length then some (inside.drop (name.length + 1)) else none)

/-- The pieces of a text after plain text, which is given backwards.  Two backslashes before a tag
stand for one, and an odd one keeps the tag as text. -/
def pieces (before : Text) (t : Text) : List Piece :=
  match _h : tag? t with
  | some (inside, rest) =>
    let run := (before.takeWhile (· = ('\\' : CodePoint))).length
    .plain (before.drop run).reverse :: .plain (backslashes (run / 2))
      :: (if run % 2 = 1 then .plain ("[" ++ inside ++ "]") else .ofTag inside)
      :: pieces [] rest
  | none =>
    match t with
    | [] => [.plain before.reverse]
    | c :: rest => pieces (c :: before) rest
termination_by t.length
decreasing_by
  · exact length_tag? (by assumption)
  · simp

/-! ### Showing -/

/-- Plain text without a backslash before any bracket. -/
def dropBackslashes : Text → Text
  | [] => []
  | c :: t =>
    if c = '\\' && t.head? = some '[' then dropBackslashes t else c :: dropBackslashes t

/-- Whether a terminal would act on a character and not show it: bell, backspace, the vertical
movements, and return. -/
def isControl (c : CodePoint) : Bool := c = '\x07' || c = '\x08' || (0x0B ≤ c.val && c.val ≤ 0x0D)

/-- What is shown of plain text. -/
def visible (t : Text) : Text := (Emoji.replace (dropBackslashes t)).filter (!isControl ·)

/-- A style that is open. -/
structure Opened where
  /-- In normal form. -/
  name : Text
  parameters : Option Text
  start : Nat

/-- The name of the style, with its parameters as further words. -/
def Opened.style (o : Opened) : Text :=
  match o.parameters with
  | some p => o.name ++ " " ++ p
  | none => o.name

/-- The span of a style that ends at a place. -/
def Opened.span (stop : Nat) (o : Opened) : Span := ⟨o.start, stop, o.style⟩

/-- Why a marked-up text cannot be shown. -/
inductive Fault
  /-- A tag closes what is not open. -/
  | mismatch (name : Text)
  /-- The arguments of a handler cannot be read. -/
  | badHandler (parameters : Text)
  /-- A component of a colour is no number. -/
  | badColour (name : Text)

def Fault.message : Fault → Text
  | .mismatch name => "nothing is open that [/" ++ name ++ "] could close"
  | .badHandler parameters => "the handler " ++ parameters ++ " cannot be read"
  | .badColour name => "a component of " ++ name ++ " is no number"

/-- The normal form of a name. -/
def normalForm (name : Text) : Except Fault Text :=
  match Style.normalForm name with
  | .ok n => .ok n
  | .error _ => .error (.badColour name)

/-- What a name closes among the open styles, innermost first, and what stays open. -/
def close (name : Text) (stack : List Opened) : Except Fault (Opened × List Opened) :=
  if name = [] then
    match stack with
    | [] => .error (.mismatch name)
    | top :: rest => .ok (top, rest)
  else do
    let n ← normalForm name
    match stack.find? (·.name = n) with
    | some found => .ok (found, stack.eraseP (·.name = n))
    | none => .error (.mismatch name)

section

variable (isName : Text → Bool)

/-- Refuses a handler whose parameters cannot be read. -/
def checkHandler (o : Opened) : Except Fault Unit :=
  match o.parameters with
  | some p =>
    if o.name.head? = some '@' && p ≠ [] && !Handler.isReadable isName p then .error (.badHandler p)
    else .ok ()
  | none => .ok ()

/-- The text of pieces after what is shown already, while styles are open. -/
def showPieces (shown : Styled) (stack : List Opened) : List Piece → Except Fault Styled
  | [] => .ok ⟨shown.text, shown.spans ++ stack.map (Opened.span shown.text.length)⟩
  | .plain t :: rest => showPieces ⟨shown.text ++ visible t, shown.spans⟩ stack rest
  | .opening name parameters :: rest => do
    let n ← normalForm name
    showPieces shown (⟨n, parameters, shown.text.length⟩ :: stack) rest
  | .closing name :: rest => do
    let (o, stack) ← close name stack
    checkHandler isName o
    showPieces ⟨shown.text, shown.spans ++ [o.span shown.text.length]⟩ stack rest

end

/-- **The shown text of a marked-up one,** with the spans of its styles.  The names of characters
only matter for handlers. -/
def shown (t : Text) (isName : Text → Bool := fun _ => true) : Except Fault Styled :=
  showPieces isName ⟨[], []⟩ [] (pieces [] t)

/-! ### Styles of lines

The styles of a text are looked up when its lines are printed; a name that is no style does not
matter then. -/

/-- Whether a colour of a style has a component that is no number. -/
def hasBadColour (style : Text) : Bool := (normalForm style).toOption.isNone

/-- Refuses lines with a style that has a bad colour. -/
def checkStyles (lines : List Styled) : Except Fault Unit :=
  match (lines.flatMap Styled.spans).find? fun s => hasBadColour s.style with
  | some s => .error (.badColour s.style)
  | none => .ok ()

end JsonShape.Markup
