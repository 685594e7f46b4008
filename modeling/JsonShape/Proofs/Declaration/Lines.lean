import JsonShape.Proofs.Declaration.Grammar
import JsonShape.Proofs.Json.Accept
import JsonShape.Proofs.Json.Layout
import JsonShape.Proofs.Shape.Inferred

/-!
# Properties are read off their lines

A record has a line for each property.  No type has a quote, a semicolon or a line break in it
(`Shape.all_isTypePart_text`), so a line can be read on from where its key ends.  A key that is an
identifier ends before the first other character.  A key between quotes ends nowhere in particular,
as it is written as it is: it may go on with the rest of a line and the start of another
(`Property.Swallows`).  Two lists of properties are written alike in that way only
(`properties_of_text_eq`), and in that way they are (`lines_of_swallowed`).
-/

namespace JsonShape

/-! ### The characters of types -/

namespace Shape

/-- The characters of words, brackets and unions. -/
def isTypePart (c : CodePoint) : Bool :=
  Name.isKept c || c ∈ ("[]( | )" : Text)

theorem all_isTypePart_word (k : Kind) : k.word.all isTypePart = true := by cases k <;> decide

theorem all_isTypePart_unionText {ts : List Text} (h : ∀ t ∈ ts, t.all isTypePart = true) :
    (unionText ts).all isTypePart = true := by
  have hopen : ("(" : Text).all isTypePart = true := by decide
  have hclose : (")" : Text).all isTypePart = true := by decide
  have hbar : (" | " : Text).all isTypePart = true := by decide
  have hjoin : (Text.join " | " ts).all isTypePart = true :=
    List.all_eq_true.2 (Text.forall_mem_join (List.all_eq_true.1 hbar)
      fun t ht => List.all_eq_true.1 (h t ht))
  unfold unionText
  split
  · exact h _ (List.mem_singleton.2 rfl)
  · rw [List.all_append, List.all_append, hopen, hclose, hjoin]
    rfl

mutual

/-- A type has no quote, no semicolon and no line break. -/
theorem all_isTypePart_text : ∀ s : Shape, s.Legible → s.text.all isTypePart = true
  | .scalar k, _ => all_isTypePart_word k
  | .emptyArray, _ => by decide
  | .named n, hn => by
    refine List.all_eq_true.2 fun c hc => ?_
    rw [isTypePart, List.all_eq_true.1 hn.1 c hc, Bool.true_or]
  | .array e, he => by
    have hbrackets : ("[]" : Text).all isTypePart = true := by decide
    rw [text, List.all_append, all_isTypePart_text e he, hbrackets]
    rfl
  | .union ms, hms => all_isTypePart_unionText (all_isTypePart_texts ms hms.2)

theorem all_isTypePart_texts : ∀ ss : List Shape, AllLegible ss →
    ∀ t ∈ texts ss, t.all isTypePart = true
  | s :: ss, hs, t, ht => by
    rw [texts] at ht
    rcases List.mem_cons.1 ht with rfl | ht
    · exact all_isTypePart_text s hs.1
    · exact all_isTypePart_texts ss hs.2 t ht

end

end Shape

/-! ### One line -/

/-- No identifier starts with a quote. -/
theorem Key.append_ne_quote {k : Text} (hk : isIdentifier k = true) (u r : Text) :
    k ++ u ≠ "\"" ++ r := by
  intro h
  cases k with
  | nil => cases hk
  | cons c k =>
    rw [(List.cons.inj h).1] at hk
    cases hk

/-- An identifier has no quote in it. -/
theorem Key.isIdentifier_of_quote {k : Text} (hk : ('"' : CodePoint) ∈ k) :
    isIdentifier k = false := by
  refine Bool.eq_false_iff.2 fun hid => ?_
  exact absurd (List.all_eq_true.1 (all_isIdentifierPart hid) _ hk) (by decide)

namespace Property

/-- What stands behind the key on the line of a property. -/
def ending (p : Property) : Text :=
  Grammar.optionalMark p.optional ++ (": " ++ (p.shape.text ++ ";"))

theorem text_eq (p : Property) : p.text = "  " ++ (p.heading ++ p.ending) := by
  cases hp : p.optional <;> simp [text, ending, Grammar.optionalMark, hp]

/-- The key of `q` is that of `p`, which is written between quotes, with a quote, the rest of the
line of `p` and the start of another line behind it. -/
def Swallows (q p : Property) : Prop :=
  Key.isIdentifier p.key = false ∧ ∃ z, q.key = p.key ++ ("\"" ++ (p.ending ++ ("\n  " ++ z)))

theorem quote_not_mem_ending {p : Property} (hp : p.shape.Legible) :
    ('"' : CodePoint) ∉ p.ending ++ "\n" := by
  have hquote : Shape.isTypePart '"' = false := by decide
  have htype : ('"' : CodePoint) ∉ p.shape.text := by
    intro h
    rw [List.all_eq_true.1 (Shape.all_isTypePart_text _ hp) _ h] at hquote
    cases hquote
  simp only [ending, List.mem_append, not_or]
  refine ⟨⟨?_, by decide, htype, by decide⟩, by decide⟩
  cases p.optional <;> decide

/-- The rest of a line ends with its type. -/
theorem ending_append_inj {p q : Property} {u w : Text} (hp : p.shape.Legible)
    (hq : q.shape.Legible) (h : p.ending ++ u = q.ending ++ w) :
    p.optional = q.optional ∧ p.shape = q.shape ∧ u = w := by
  have hend : ∀ (x : Text), ∀ c ∈ (";" ++ x : Text).head?, Shape.isTypePart c = false := by
    intro x c hc
    rw [← Option.some.inj hc]
    decide
  have htype (h : ": " ++ (p.shape.text ++ (";" ++ u)) = ": " ++ (q.shape.text ++ (";" ++ w))) :
      p.shape = q.shape ∧ u = w := by
    obtain ⟨htext, hrest⟩ := Shape.word_append_inj (Shape.all_isTypePart_text _ hp)
      (Shape.all_isTypePart_text _ hq) (hend u) (hend w) (List.append_cancel_left h)
    exact ⟨Shape.text_injective hp hq htext, List.append_cancel_left hrest⟩
  simp only [ending, List.append_assoc] at h
  cases hpo : p.optional <;> cases hqo : q.optional <;> rw [hpo, hqo] at h
  · exact ⟨rfl, htype h⟩
  · exact absurd (List.cons.inj h).1 (by decide)
  · exact absurd (List.cons.inj h).1 (by decide)
  · exact ⟨rfl, htype (List.cons.inj h).2⟩

theorem eq_of_ending {p q : Property} {u w : Text} (hp : p.shape.Legible) (hq : q.shape.Legible)
    (hkey : p.key = q.key) (h : p.ending ++ u = q.ending ++ w) : p = q ∧ u = w := by
  obtain ⟨hoptional, hshape, hrest⟩ := ending_append_inj hp hq h
  obtain ⟨key, shape, optional⟩ := p
  obtain rfl : key = q.key := hkey
  obtain rfl : shape = q.shape := hshape
  obtain rfl : optional = q.optional := hoptional
  exact ⟨rfl, hrest⟩

/-- An identifier ends where the rest of its line begins. -/
theorem isIdentifierPart_head_ending (p : Property) (u : Text) :
    ∀ c ∈ (p.ending ++ u).head?, Key.isIdentifierPart c = false := by
  intro c hc
  unfold ending at hc
  cases hp : p.optional <;> rw [hp] at hc <;> rw [← Option.some.inj hc] <;> decide

end Property

/-! ### Several lines -/

/-- What stands in front of a quote starts with a text that has none. -/
theorem exists_of_append_eq_quote {x y a r : Text} (hx : ('"' : CodePoint) ∉ x)
    (h : x ++ y = a ++ ("\"" ++ r)) : ∃ b, a = x ++ b ∧ y = b ++ ("\"" ++ r) := by
  rcases List.append_eq_append_iff.1 h with ha | ⟨c, hc, hr⟩
  · exact ha
  · cases c with
    | nil => exact ⟨[], by simpa using hc.symm, by simpa using hr.symm⟩
    | cons d c =>
      rw [hc, ← (List.cons.inj hr).1] at hx
      exact absurd (List.mem_append_right _ List.mem_cons_self) hx

namespace Definition

variable {ps qs : List Property}

/-- The lines of properties, each with its line break. -/
def lines (ps : List Property) : Text := ps.flatMap fun p => p.text ++ "\n"

theorem lines_cons (p : Property) (ps : List Property) :
    lines (p :: ps) = "  " ++ (p.heading ++ (p.ending ++ ("\n" ++ lines ps))) := by
  rw [lines, List.flatMap_cons, p.text_eq]
  simp only [List.append_assoc]
  rfl

theorem lines_append (ps qs : List Property) : lines (ps ++ qs) = lines ps ++ lines qs :=
  List.flatMap_append

theorem lines_cons_ne_nil (p : Property) (ps : List Property) : lines (p :: ps) ≠ [] := by
  rw [lines_cons]
  exact List.cons_ne_nil _ _

theorem bodyText_append (hps : ps ≠ []) : bodyText ps ++ "\n" = lines ps := by
  obtain ⟨p, ps, rfl⟩ := List.exists_cons_of_ne_nil hps
  induction ps generalizing p with
  | nil => simp [bodyText, Text.join, lines]
  | cons q ps ih =>
    have hjoin : bodyText (p :: q :: ps) = p.text ++ "\n" ++ bodyText (q :: ps) :=
      List.intercalate_cons_cons
    rw [hjoin, List.append_assoc, ih q (List.cons_ne_nil _ _)]
    rfl

theorem bodyText_ne_nil (p : Property) (ps : List Property) : bodyText (p :: ps) ≠ [] := by
  intro h
  have hlines := bodyText_append (List.cons_ne_nil p ps)
  rw [h, lines_cons] at hlines
  exact absurd (List.cons.inj hlines).1 (by decide)

/-- Records have one text if they have the same lines. -/
theorem text_eq_iff_lines {o : Options} {name : Text} :
    (record ps).text o name = (record qs).text o name ↔ lines ps = lines qs := by
  have hbody : (record ps).text o name = (record qs).text o name ↔ bodyText ps = bodyText qs := by
    cases hform : o.useInterface <;>
      simp only [text, hform, if_true, Bool.false_eq_true, if_false] <;>
      rw [List.append_left_inj, List.append_right_inj]
  rw [hbody]
  cases ps with
  | nil =>
    cases qs with
    | nil => exact Iff.rfl
    | cons q qs =>
      exact iff_of_false (bodyText_ne_nil q qs).symm (lines_cons_ne_nil q qs).symm
  | cons p ps =>
    cases qs with
    | nil => exact iff_of_false (bodyText_ne_nil p ps) (lines_cons_ne_nil p ps)
    | cons q qs =>
      rw [← bodyText_append (List.cons_ne_nil p ps), ← bodyText_append (List.cons_ne_nil q qs),
        List.append_left_inj]

/-- A key that goes on where another is closed swallows its line. -/
theorem swallows_of_append {p q : Property} {a r : Text} (hp : p.shape.Legible)
    (hid : Key.isIdentifier p.key = false) (hkey : q.key = p.key ++ a)
    (h : "\"" ++ (p.ending ++ ("\n" ++ lines ps)) = a ++ ("\"" ++ r)) : a = [] ∨ q.Swallows p := by
  cases a with
  | nil => exact Or.inl rfl
  | cons c a =>
    obtain rfl : ('"' : CodePoint) = c := (List.cons.inj h).1
    have hrest : p.ending ++ ("\n" ++ lines ps) = a ++ ("\"" ++ r) := (List.cons.inj h).2
    rw [← List.append_assoc] at hrest
    obtain ⟨b, rfl, hlines⟩ :=
      exists_of_append_eq_quote (Property.quote_not_mem_ending hp) hrest
    cases ps with
    | nil => exact absurd hlines.symm (List.append_ne_nil_of_right_ne_nil _ (List.cons_ne_nil _ _))
    | cons p' ps =>
      rw [lines_cons] at hlines
      obtain ⟨z, rfl, -⟩ := exists_of_append_eq_quote (by decide) hlines
      refine Or.inr ⟨hid, z, ?_⟩
      rw [hkey, List.append_assoc]
      rfl

/-- The first lines are of the same property, unless one key swallows the other's line. -/
theorem first_line {p q : Property} (hp : p.shape.Legible) (hq : q.shape.Legible)
    (h : p.heading ++ (p.ending ++ ("\n" ++ lines ps)) =
      q.heading ++ (q.ending ++ ("\n" ++ lines qs))) :
    (p = q ∧ lines ps = lines qs) ∨ p.Swallows q ∨ q.Swallows p := by
  have hsame (hkey : p.key = q.key)
      (hrest : p.ending ++ ("\n" ++ lines ps) = q.ending ++ ("\n" ++ lines qs)) :
      p = q ∧ lines ps = lines qs :=
    (Property.eq_of_ending hp hq hkey hrest).imp_right List.append_cancel_left
  simp only [Property.heading, Key.text] at h
  cases hpid : Key.isIdentifier p.key <;> cases hqid : Key.isIdentifier q.key <;>
    simp only [hpid, hqid, if_true, Bool.false_eq_true, if_false, List.append_assoc] at h
  · -- one of two keys between quotes starts with the other
    rcases List.append_eq_append_iff.1 (List.append_cancel_left h) with
      ⟨a, hkey, ha⟩ | ⟨a, hkey, ha⟩
    · rcases swallows_of_append hp hpid hkey ha with rfl | hswallows
      · exact Or.inl (hsame (by simpa using hkey.symm) (List.append_cancel_left ha))
      · exact Or.inr (Or.inr hswallows)
    · rcases swallows_of_append hq hqid hkey ha with rfl | hswallows
      · exact Or.inl (hsame (by simpa using hkey) (List.append_cancel_left ha).symm)
      · exact Or.inr (Or.inl hswallows)
  · exact absurd h.symm (Key.append_ne_quote hqid _ _)
  · exact absurd h (Key.append_ne_quote hpid _ _)
  · obtain ⟨hkey, hrest⟩ := Shape.word_append_inj (Key.all_isIdentifierPart hpid)
      (Key.all_isIdentifierPart hqid) (Property.isIdentifierPart_head_ending p _)
      (Property.isIdentifierPart_head_ending q _) h
    exact Or.inl (hsame hkey hrest)

/-- Behind what they share, one of the lists goes on with a property whose key swallows the line of
the other's. -/
inductive Parted : List Property → List Property → Prop
  | left {p q : Property} {ps qs : List Property} (h : p.Swallows q) : Parted (p :: ps) (q :: qs)
  | right {p q : Property} {ps qs : List Property} (h : q.Swallows p) : Parted (p :: ps) (q :: qs)
  | shared {p : Property} {ps qs : List Property} (h : Parted ps qs) : Parted (p :: ps) (p :: qs)

/-- Lines are read off one after another. -/
theorem eq_or_parted_of_lines (hps : ∀ p ∈ ps, p.shape.Legible) (hqs : ∀ q ∈ qs, q.shape.Legible)
    (h : lines ps = lines qs) : ps = qs ∨ Parted ps qs := by
  induction ps generalizing qs with
  | nil =>
    cases qs with
    | nil => exact Or.inl rfl
    | cons q qs => exact absurd h.symm (lines_cons_ne_nil q qs)
  | cons p ps ih =>
    cases qs with
    | nil => exact absurd h (lines_cons_ne_nil p ps)
    | cons q qs =>
      obtain ⟨hp, hpsrest⟩ := List.forall_mem_cons.1 hps
      obtain ⟨hq, hqsrest⟩ := List.forall_mem_cons.1 hqs
      rw [lines_cons, lines_cons] at h
      rcases first_line hp hq (List.append_cancel_left h) with ⟨hfirst, hlines⟩ | hline | hline
      · subst hfirst
        exact (ih hpsrest hqsrest hlines).imp (congrArg _) .shared
      · exact Or.inr (.left hline)
      · exact Or.inr (.right hline)

/-- A key that swallows the line of one property and is closed like another is written like both. -/
theorem lines_of_swallowed (us vs : List Property) {p q r : Property}
    (hp : Key.isIdentifier p.key = false) (hr : Key.isIdentifier r.key = false)
    (hkey : q.key = p.key ++ ("\"" ++ (p.ending ++ ("\n  " ++ ("\"" ++ r.key)))))
    (hending : q.ending = r.ending) : lines (us ++ q :: vs) = lines (us ++ p :: r :: vs) := by
  have hq : Key.isIdentifier q.key = false := by
    refine Key.isIdentifier_of_quote ?_
    rw [hkey]
    exact List.mem_append_right _ List.mem_cons_self
  have hline : q.heading ++ q.ending =
      p.heading ++ (p.ending ++ ("\n  " ++ (r.heading ++ r.ending))) := by
    simp only [Property.heading, Key.text, hp, hq, hr, Bool.false_eq_true, if_false, hending]
    rw [hkey]
    simp only [List.append_assoc]
  rw [lines_append, lines_append, lines_cons, lines_cons, lines_cons,
    ← List.append_assoc q.heading, hline]
  simp only [List.append_assoc]
  rfl

end Definition

namespace Registry

open Definition

variable {o : Options} {name : Text} {fs gs : List (Text × Json)} {reg reg' : Registry}

theorem properties_generate (optional : Bool) (name : Text) (fields : List (Text × Json))
    (reg : Registry) : (generate optional name fields reg).1.properties =
      fields.map (Property.ofField optional) := by
  rw [generate_eq]
  rfl

theorem legible_ofField {optional : Bool} {fields : List (Text × Json)} :
    ∀ p ∈ fields.map (Property.ofField optional), p.shape.Legible := by
  intro p hp
  obtain ⟨f, -, rfl⟩ := List.mem_map.1 hp
  exact Shape.legible_shapeUnder f.1 f.2

/-- **The text of a record determines its properties**, unless a key goes on with the rest of a line
and the start of another: where two records of one name have one text but differ, a key of one of
them swallows the line of the other at the first difference. -/
theorem properties_of_text_eq
    (h : (generate o.optionalProperties name fs reg).1.text o name =
      (generate o.optionalProperties name gs reg').1.text o name) :
    (generate o.optionalProperties name fs reg).1.properties =
        (generate o.optionalProperties name gs reg').1.properties ∨
      Parted (generate o.optionalProperties name fs reg).1.properties
        (generate o.optionalProperties name gs reg').1.properties := by
  rw [generate_eq, generate_eq] at h
  rw [properties_generate, properties_generate]
  exact eq_or_parted_of_lines legible_ofField legible_ofField (text_eq_iff_lines.1 h)

/-- Objects with different values of the same types have one text and the same properties. -/
theorem properties_of_text_eq_booleans :
    let fs : List (Text × Json) := [("a-", .bool true), ("b", .null)]
    let gs : List (Text × Json) := [("a-", .bool false), ("b", .null)]
    (generate false "Root" fs ∅).1.text .standard "Root" =
        (generate false "Root" gs ∅).1.text .standard "Root" ∧
      ((generate false "Root" fs ∅).1.properties = (generate false "Root" gs ∅).1.properties ∨
        Parted (generate false "Root" fs ∅).1.properties
          (generate false "Root" gs ∅).1.properties) := by
  intro fs gs
  have htext : (generate false "Root" fs ∅).1.text .standard "Root" =
      (generate false "Root" gs ∅).1.text .standard "Root" := by
    rw [generate_eq, generate_eq]
    rfl
  exact ⟨htext, properties_of_text_eq (o := .standard) htext⟩

open Json in
/-- A document with a single key is written like one with two. -/
theorem properties_differ_under_one_text :
    let fields : List (Text × Json) := [("a-", .null), ("b-", .null)]
    let forged : List (Text × Json) := [("a-\": null;\n  \"b-", .null)]
    Document.ofText? "\x7b\"a-\":null,\"b-\":null\x7d" = .ok (.object fields) ∧
      Document.ofText? "\x7b\"a-\\\": null;\\n  \\\"b-\":null\x7d" = .ok (.object forged) ∧
      (generate false "Root" fields ∅).1.text .standard "Root" =
        (generate false "Root" forged ∅).1.text .standard "Root" ∧
      (generate false "Root" fields ∅).1.properties.map (fun p => (p.key, p.shape.text)) ≠
        (generate false "Root" forged ∅).1.properties.map (fun p => (p.key, p.shape.text)) := by
  intro fields forged
  have hname (k r : Text) (hk : k.hasSurrogate = false) :
      NameText k ("\"" ++ (k.flatMap escaped ++ ("\":" ++ r))) r :=
    nameText_of_written (.colon (writtenLetters_flatMap k _) (.refl _) (.refl _)) hk
  have hfields : JsonText Readable maxDepth (.object fields) "\x7b\"a-\":null,\"b-\":null\x7d" :=
    .blanks (.refl _) (.object (.refl _) (.cons (hname "a-" _ rfl) .nullWord (.refl _) (.refl _)
      (.last (hname "b-" _ rfl) .nullWord (.refl _)))) (.refl _)
  have hforged : JsonText Readable maxDepth (.object forged)
      "\x7b\"a-\\\": null;\\n  \\\"b-\":null\x7d" :=
    .blanks (.refl _) (.object (.refl _) (.last (hname "a-\": null;\n  \"b-" _ rfl) .nullWord
      (.refl _))) (.refl _)
  refine ⟨Document.ofText?_eq_ok_iff.2 (read_of_jsonText hfields),
    Document.ofText?_eq_ok_iff.2 (read_of_jsonText hforged), ?_, ?_⟩
  · rw [generate_eq, generate_eq]
    have hlines := lines_of_swallowed [] [] (p := ⟨"a-", .scalar .null, false⟩)
      (q := ⟨"a-\": null;\n  \"b-", .scalar .null, false⟩) (r := ⟨"b-", .scalar .null, false⟩)
      rfl rfl rfl rfl
    exact text_eq_iff_lines.2 hlines.symm
  · rw [properties_generate, properties_generate]
    intro h
    exact absurd (congrArg List.length h) (by decide)

end Registry

end JsonShape
