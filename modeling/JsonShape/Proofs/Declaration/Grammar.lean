import JsonShape.Declaration
import JsonShape.Proofs.Registry.Closure
import JsonShape.Proofs.Shape.Text

/-!
# The grammar of declarations

The texts that consist of declarations, said without a printer.  What may stand for a name and for
the head of a property, and which forms are used beside the records, is left to a `Vocabulary`; the
documented one (`documented`) has identifiers and string literals, and no other forms.

A record is printed as a declaration of every vocabulary that has its name, the heads of its
properties and the names in their types (`declarationText_record`).
-/

namespace JsonShape.Grammar

/-! ### Vocabularies -/

/-- What declarations are made of. -/
structure Vocabulary where
  /-- What may be declared or referred to. -/
  name : Text → Prop
  /-- What may head a property. -/
  key : Text → Prop
  /-- A name may be declared to be a type that is no record. -/
  aliases : Prop
  /-- A blank line may stand for the properties of a record that has none. -/
  blank : Prop

/-- What may stand between the quotes of a string literal: a quote only behind a backslash, and no
line break. -/
inductive Literal : Text → Prop
  | nil : Literal []
  | plain {c : CodePoint} {t : Text} (hq : c ≠ ('"' : CodePoint)) (hb : c ≠ ('\\' : CodePoint))
    (hn : c ≠ ('\n' : CodePoint)) (hr : c ≠ ('\r' : CodePoint)) (h : Literal t) : Literal (c :: t)
  | escaped {c : CodePoint} {t : Text} (hn : c ≠ ('\n' : CodePoint)) (hr : c ≠ ('\r' : CodePoint))
    (h : Literal t) : Literal ('\\' :: c :: t)

/-- A key between quotes. -/
def quoted (t : Text) : Text := "\"" ++ t ++ "\""

/-- Identifiers, and keys that are identifiers or string literals. -/
def identifiers (aliases blank : Prop) : Vocabulary where
  name n := Key.isIdentifier n = true
  key k := Key.isIdentifier k = true ∨ ∃ t, Literal t ∧ k = quoted t
  aliases := aliases
  blank := blank

/-- The documented vocabulary: nothing but records, and no line where there is no property. -/
def documented : Vocabulary := identifiers False False

/-! ### Texts -/

variable (V : Vocabulary)

/-- A type; the word for an object that is left closed counts as a name. -/
inductive TypeText : Text → Prop
  | word {k : Kind} (hk : k ≠ .object) : TypeText k.word
  | unknown : TypeText "unknown[]"
  | name {n : Text} (h : V.name n) : TypeText n
  | array {t : Text} (h : TypeText t) : TypeText (t ++ "[]")
  | union {ts : List Text} (hts : 2 ≤ ts.length) (h : ∀ t ∈ ts, TypeText t) :
    TypeText ("(" ++ Text.join " | " ts ++ ")")

/-- The mark of an optional property. -/
def optionalMark (optional : Bool) : Text := if optional then "?" else ""

/-- The line of a property. -/
inductive LineText : Text → Prop
  | property {k t : Text} (optional : Bool) (hk : V.key k) (ht : TypeText V t) :
    LineText ("  " ++ k ++ optionalMark optional ++ ": " ++ t ++ ";")

/-- The lines between the braces of a record. -/
inductive BodyText : Text → Prop
  | none : BodyText []
  | lines {ls : List Text} (hne : ls ≠ []) (h : ∀ l ∈ ls, LineText V l) :
    BodyText (Text.join "\n" ls ++ "\n")
  | blank (h : V.blank) : BodyText "\n"

/-- The mark of an exported declaration. -/
def exportMark (exported : Bool) : Text := if exported then "export " else []

/-- A declaration. -/
inductive DeclarationText : Text → Prop
  | interface {n b : Text} (exported : Bool) (hn : V.name n) (hb : BodyText V b) :
    DeclarationText (exportMark exported ++ "interface " ++ n ++ " \x7b\n" ++ b ++ "\x7d")
  | type {n b : Text} (exported : Bool) (hn : V.name n) (hb : BodyText V b) :
    DeclarationText (exportMark exported ++ "type " ++ n ++ " = \x7b\n" ++ b ++ "\x7d;")
  | aliasOf {n t : Text} (h : V.aliases) (exported : Bool) (hn : V.name n) (ht : TypeText V t) :
    DeclarationText (exportMark exported ++ "type " ++ n ++ " = " ++ t ++ ";")

/-- One or more declarations with a blank line between any two of them. -/
inductive Sentence : Text → Prop
  | declarations {ds : List Text} (hne : ds ≠ []) (h : ∀ d ∈ ds, DeclarationText V d) :
    Sentence (Text.join "\n\n" ds)

/-! ### Printed types -/

variable {V}

mutual

/-- The text of a shape is a type of every vocabulary that has its names. -/
theorem typeText_text (hobject : V.name "object") : ∀ s : Shape, s.Legible →
    (∀ n ∈ s.references, V.name n) → TypeText V s.text
  | .scalar k, _, _ => by
    by_cases hk : k = .object
    · rw [hk]
      exact .name hobject
    · exact .word hk
  | .emptyArray, _, _ => .unknown
  | .named n, _, h => .name (h n (List.mem_singleton.2 rfl))
  | .array e, hs, h => .array (typeText_text hobject e hs h)
  | .union ms, hs, h => by
    obtain ⟨a, b, ss, rfl⟩ := Shape.exists_of_two_le_length hs.1
    have htexts := typeText_texts hobject (a :: b :: ss) hs.2 h
    have hlen : 2 ≤ (Shape.texts (a :: b :: ss)).length := by simp [Shape.texts]
    exact .union hlen htexts

theorem typeText_texts (hobject : V.name "object") : ∀ ss : List Shape, Shape.AllLegible ss →
    (∀ n ∈ Shape.referencesAll ss, V.name n) → ∀ t ∈ Shape.texts ss, TypeText V t
  | s :: ss, hs, h, t, ht => by
    rw [Shape.referencesAll] at h
    rw [Shape.texts] at ht
    rcases List.mem_cons.1 ht with rfl | ht
    · exact typeText_text hobject s hs.1 fun n hn => h n (List.mem_append_left _ hn)
    · exact typeText_texts hobject ss hs.2 (fun n hn => h n (List.mem_append_right _ hn)) t ht

end

/-- The type of a field has the names of its sites in it, or none. -/
theorem typeText_shapeUnder (hobject : V.name "object") {key : Text} {value : Json}
    (h : ∀ n ∈ (shapeUnder key value).references, V.name n) :
    TypeText V (shapeUnder key value).text := by
  unfold shapeUnder at h ⊢
  split
  · exact .word (by decide)
  · exact .unknown
  · exact .array (.name (h _ (List.mem_singleton.2 rfl)))
  · exact .name (h _ (List.mem_singleton.2 rfl))
  · exact typeText_text hobject _ (Shape.legible_of _) (by simp [Shape.references_of])

/-! ### Printed declarations -/

theorem lineText_property {p : Property} (hk : V.key p.heading) (ht : TypeText V p.shape.text) :
    LineText V p.text := by
  obtain ⟨key, shape, optional⟩ := p
  cases optional with
  | false => exact .property false hk ht
  | true => exact .property true hk ht

theorem bodyText_properties {ps : List Property} (hblank : ps = [] → V.blank)
    (h : ∀ p ∈ ps, LineText V p.text) : BodyText V (Definition.bodyText ps ++ "\n") := by
  by_cases hps : ps = []
  · rw [hps]
    exact .blank (hblank hps)
  · refine .lines (by simpa using hps) fun l hl => ?_
    obtain ⟨p, hp, rfl⟩ := List.mem_map.1 hl
    exact h p hp

/-- A record is printed as a declaration in either form. -/
theorem declarationText_record {o : Options} {n : Text} {ps : List Property} (hn : V.name n)
    (hblank : ps = [] → V.blank) (h : ∀ p ∈ ps, LineText V p.text) :
    DeclarationText V ((Definition.record ps).text o n) := by
  have hbody := bodyText_properties hblank h
  rw [Definition.text]
  split
  · have htext := DeclarationText.interface o.addExport hn hbody
    simp only [List.append_assoc] at htext ⊢
    exact htext
  · have htext := DeclarationText.type o.addExport hn hbody
    simp only [List.append_assoc] at htext ⊢
    exact htext

theorem declarationText_alias {o : Options} {n : Text} {s : Shape} (halias : V.aliases)
    (hn : V.name n) (hs : TypeText V s.text) :
    DeclarationText V ((Definition.alias s).text o n) :=
  .aliasOf halias o.addExport hn hs

theorem sentence_assembled {o : Options} {ds : List (Text × Definition)} (hne : ds ≠ [])
    (h : ∀ e ∈ ds, DeclarationText V (e.2.text o e.1)) : Sentence V (assembled o ds) := by
  refine .declarations (by simpa using hne) fun d hd => ?_
  obtain ⟨e, he, rfl⟩ := List.mem_map.1 hd
  exact h e he

/-! ### What a sentence starts with -/

/-- A sentence starts with a declaration. -/
theorem Sentence.head {t : Text} (h : Sentence V t) : ∃ d r, DeclarationText V d ∧ t = d ++ r := by
  cases h with
  | @declarations ds hne h =>
    obtain ⟨d, ds, rfl⟩ := List.exists_cons_of_ne_nil hne
    have hd := h d List.mem_cons_self
    cases ds with
    | nil => exact ⟨d, [], hd, by simp [Text.join]⟩
    | cons e ds =>
      refine ⟨d, "\n\n" ++ Text.join "\n\n" (e :: ds), hd, ?_⟩
      simp [Text.join, List.intercalate]

/-- A declaration that starts like an interface is one. -/
theorem DeclarationText.interface_inv {d r u : Text} (h : DeclarationText V d)
    (he : "interface " ++ u = d ++ r) : ∃ n b w, V.name n ∧ BodyText V b ∧
      u = n ++ (" \x7b\n" ++ (b ++ ("\x7d" ++ w))) := by
  have hhead := congrArg List.head? he
  cases h with
  | @interface n b exported hn hb =>
    cases exported with
    | false =>
      simp only [exportMark, Bool.false_eq_true, if_false, List.nil_append, List.append_assoc] at he
      exact ⟨n, b, r, hn, hb, List.append_cancel_left he⟩
    | true => exact absurd (Option.some.inj hhead) (by decide)
  | type exported => cases exported <;> exact absurd (Option.some.inj hhead) (by decide)
  | aliasOf _ exported => cases exported <;> exact absurd (Option.some.inj hhead) (by decide)

/-- The lines of a documented record start with a key, if there are any. -/
theorem BodyText.inv {b : Text} (h : BodyText documented b) : b = [] ∨
    ∃ k optional x, documented.key k ∧
      b = "  " ++ (k ++ (optionalMark optional ++ (": " ++ x))) := by
  cases h with
  | none => exact Or.inl rfl
  | blank h => exact h.elim
  | @lines ls hne h =>
    obtain ⟨l, ls, rfl⟩ := List.exists_cons_of_ne_nil hne
    refine Or.inr ?_
    cases h l List.mem_cons_self with
    | @property k t optional hk ht =>
      cases ls with
      | nil => exact ⟨k, optional, t ++ (";" ++ "\n"), hk, by simp [Text.join]⟩
      | cons m ls =>
        refine ⟨k, optional, t ++ (";" ++ ("\n" ++ (Text.join "\n" (m :: ls) ++ "\n"))), hk, ?_⟩
        simp [Text.join, List.intercalate]

/-- A literal ends with the first quote that no backslash stands before. -/
theorem Literal.append_quote_inj {t m x y : Text} (h : Literal t)
    (hm : ∀ c ∈ m, c ≠ ('"' : CodePoint) ∧ c ≠ ('\\' : CodePoint))
    (he : t ++ ("\"" ++ x) = m ++ ("\"" ++ y)) : t = m ∧ x = y := by
  induction m generalizing t with
  | nil =>
    cases h with
    | nil => exact ⟨rfl, (List.cons.inj he).2⟩
    | plain hq => exact absurd (List.cons.inj he).1 hq
    | escaped => exact absurd (List.cons.inj he).1 (by decide)
  | cons c m ih =>
    have hc := hm c List.mem_cons_self
    cases h with
    | nil => exact absurd (List.cons.inj he).1.symm hc.1
    | plain _ _ _ _ h =>
      obtain ⟨rfl, hrest⟩ := List.cons.inj he
      obtain ⟨rfl, rfl⟩ := ih h (fun d hd => hm d (List.mem_cons_of_mem _ hd)) hrest
      exact ⟨rfl, rfl⟩
    | escaped => exact absurd (List.cons.inj he).1.symm hc.2

/-- Without aliases every declaration has braces. -/
theorem DeclarationText.brace_mem {d : Text} (h : DeclarationText documented d) :
    ('\x7b' : CodePoint) ∈ d := by
  have hopen : ('\x7b' : CodePoint) ∈ Text.ofString " \x7b\n" := by decide
  have heq : ('\x7b' : CodePoint) ∈ Text.ofString " = \x7b\n" := by decide
  cases h with
  | interface => simp [hopen]
  | type => simp [heq]
  | aliasOf h => exact h.elim

end JsonShape.Grammar
