import JsonShape.Terminal.Emoji.Listing
import JsonShape.Text.Blank
import JsonShape.Text.Lower

/-!
# Emoji codes

A name between colons stands for an emoji; it may end in a wish for the picture or for the plain
character.  What is no such name stays as it is.
-/

namespace JsonShape.Emoji

/-! ### Names -/

/-- The code points of hexadecimal numbers between dashes. -/
def spelled (t : Text) : Text :=
  (t.split '-').map fun digits =>
    CodePoint.ofNat (digits.foldl (fun n d => 16 * n + d.hexValue?.getD 0) 0)

/-- Names and emoji out of words by turns. -/
def pairs : List String → List (Text × Text)
  | name :: code :: rest => (Text.ofString name, spelled (Text.ofString code)) :: pairs rest
  | _ => []

/-- The names of the emoji. -/
def named : List (Text × Text) := (listing.splitOn "\n").flatMap fun row => pairs (row.splitOn " ")

/-- What may follow a name, and the selector that it stands for. -/
def wishes : List (Text × Text) := [("-emoji", "\uFE0F"), ("-text", "\uFE0E")]

/-- A name without the wish at its end, and the selector for that. -/
def cutWish (code : Text) : Text × Text :=
  match wishes.find? fun w => code.drop (code.length - w.1.length) = w.1 with
  | some w => (code.take (code.length - w.1.length), w.2)
  | none => (code, [])

/-- The emoji of what stands between two colons. -/
def ofCode? (code : Text) : Option Text :=
  let (name, selector) := cutWish code
  (named.lookup name.lower).map (· ++ selector)

/-! ### Codes in a text -/

/-- What stands between two colons at the front of a text, without spaces, and what follows. -/
def code? : Text → Option (Text × Text)
  | [] => none
  | c :: t => if c = ':' then Text.upTo ':' CodePoint.isSpace t else none

theorem length_code? {t code rest : Text} (h : code? t = some (code, rest)) :
    rest.length < t.length := by
  cases t with
  | nil => simp [code?] at h
  | cons c t =>
    simp only [code?] at h
    split at h
    · have := Text.length_upTo h
      simp
      omega
    · simp at h

/-- **A text with emoji for their codes.** -/
def replace (t : Text) : Text :=
  match _h : code? t with
  | some (code, rest) => (ofCode? code).getD (":" ++ code ++ ":") ++ replace rest
  | none =>
    match t with
    | [] => []
    | c :: rest => c :: replace rest
termination_by t.length
decreasing_by
  · exact length_code? (by assumption)
  · simp

end JsonShape.Emoji
