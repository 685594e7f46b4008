import JsonShape.Proofs.Registry.Documents

/-!
# Options are dressing

What a declaration says does not depend on the options: the keys of a record and the types under
them, or the type that an alias stands for (`Content`).  Two runs under the same root name put the
same contents under the same names at the same moments, so their registries agree at every site
(`SameContents.addAll`), and what is written has the same contents in the same order.  The options
only say how contents are written (`Content.text`).
-/

namespace JsonShape

/-! ### Contents -/

/-- What a declaration says, whatever the options are. -/
inductive Content
  | record (fields : List (Text × Shape))
  | alias (target : Shape)

/-- The content of a definition. -/
def Definition.content : Definition → Content
  | .record ps => .record (ps.map fun p => (p.key, p.shape))
  | .alias target => .alias target

namespace Content

/-- The definition with a content; all properties of a record are optional, or none is. -/
def definition (optional : Bool) : Content → Definition
  | .record fields => .record (fields.map fun f => ⟨f.1, f.2, optional⟩)
  | .alias target => .alias target

/-! ### Writing -/

/-- The line for a key and the type under it. -/
def lineText (o : Options) (f : Text × Shape) : Text :=
  "  " ++ Key.text f.1 ++ (if o.optionalProperties then "?" else "") ++ ": " ++ f.2.text ++ ";"

/-- The form of a record with some lines. -/
def recordText (o : Options) (name lines : Text) : Text :=
  if o.useInterface then "interface " ++ name ++ " \x7b\n" ++ lines ++ "\n\x7d"
  else "type " ++ name ++ " = \x7b\n" ++ lines ++ "\n\x7d;"

/-- The declaration of `name` with a content. -/
def text (o : Options) (name : Text) (c : Content) : Text :=
  o.exportText ++
    match c with
    | .record fields => recordText o name (Text.join "\n" (fields.map (lineText o)))
    | .alias target => "type " ++ name ++ " = " ++ target.text ++ ";"

/-- A definition that has its properties marked as the options say is written as its content. -/
theorem text_definition (o : Options) (name : Text) : ∀ c : Content,
    (c.definition o.optionalProperties).text o name = c.text o name
  | .alias target => by
    simp only [definition, Definition.text, text, List.append_assoc]
  | .record fields => by
    have hlines : (fields.map fun f => (⟨f.1, f.2, o.optionalProperties⟩ : Property)).map
        Property.text = fields.map (lineText o) := by
      rw [List.map_map]
      rfl
    simp only [definition, Definition.text, text, recordText, Definition.bodyText, hlines]
    cases o.useInterface with
    | true => simp only [if_true, List.append_assoc]
    | false => simp only [Bool.false_eq_true, if_false, List.append_assoc]

end Content

/-! ### Registries -/

/-- An entry with the content of its definition. -/
def entryContent (e : Text × Definition) : Text × Content := (e.1, e.2.content)

/-- The content of a site's record. -/
def Site.content (s : Site) : Content := .record (s.fields.map fun f => (f.1, shapeUnder f.1 f.2))

theorem Site.record_eq (optional : Bool) (s : Site) :
    s.record optional = s.content.definition optional := by
  rw [record, content, Content.definition, List.map_map]
  rfl

theorem Site.content_record (optional : Bool) (s : Site) :
    (s.record optional).content = s.content := by
  rw [record, Definition.content, List.map_map]
  rfl

/-- Two registries hold the same contents under the same names, in the same order. -/
def SameContents (reg reg' : Registry) : Prop :=
  reg.entries.map entryContent = reg'.entries.map entryContent

theorem map_upsert (n : Text) (c : Definition) (l : List (Text × Definition)) :
    (upsert n c l).map entryContent = upsert n c.content (l.map entryContent) := by
  induction l with
  | nil => rfl
  | cons e l ih =>
    rw [upsert, List.map_cons, upsert]
    show List.map entryContent (if e.1 = n then _ else _) = if e.1 = n then _ else _
    split
    · rfl
    · rw [List.map_cons, ih]

section Registries

variable {reg reg' : Registry}

/-- **One registration** keeps the contents the same. -/
theorem SameContents.insert (h : SameContents reg reg') (n : Text) {c c' : Definition}
    (hc : c.content = c'.content) : SameContents (reg.insert n c) (reg'.insert n c') := by
  show (upsert n c reg.entries).map entryContent = (upsert n c' reg'.entries).map entryContent
  rw [map_upsert, map_upsert, hc, h]

/-- So do all registrations of a run, whatever each of the two runs takes for optional. -/
theorem SameContents.addAll (h : SameContents reg reg') (optional optional' : Bool)
    (ss : List Site) : SameContents (reg.addAll optional ss) (reg'.addAll optional' ss) := by
  induction ss using List.reverseRecOn with
  | nil => exact h
  | append_singleton ss s ih =>
    rw [Registry.addAll_concat, Registry.addAll_concat]
    refine ih.insert s.name ?_
    rw [Site.content_record, Site.content_record]

/-- The order of the declarations goes by their names. -/
theorem SameContents.ordered (h : SameContents reg reg') (root : Text) :
    (ordered root reg).map entryContent = (ordered root reg').map entryContent := by
  have hsort (m : Registry) : (JsonShape.ordered root m).map entryContent =
      (m.entries.map entryContent).mergeSort fun a b => precedes root a.1 b.1 :=
    List.map_mergeSort fun _ _ _ _ => rfl
  rw [hsort, hsort, h]

end Registries

/-! ### Documents -/

namespace Document

variable {o o' : Options}

/-- The names and contents of the declarations of a document, in the order in which they are
written. -/
def contents (o : Options) (d : Document) : List (Text × Content) := (d.declared o).map entryContent

theorem contents_eq (d : Document) (h : o'.rootName = o.rootName) :
    d.contents o' = d.contents o := by
  have hempty : SameContents ∅ ∅ := rfl
  induction d using cases_lead with
  | object fields =>
    rw [contents, contents, declared, declared, registry?_object, registry?_object, sites, sites, h]
    exact (hempty.addAll _ _ _).ordered _
  | led fields items =>
    rw [contents, contents, declared, declared, registry?_led, registry?_led, sites, sites, h]
    exact ((hempty.addAll _ _ _).insert _ rfl).ordered _
  | other d hd =>
    rw [contents, contents, (eq_of_not_opensObject o' hd).2.2.1, (eq_of_not_opensObject o hd).2.2.1,
      h]

/-- The properties of all records are marked as the options say, at any depth. -/
theorem eq_definition_of_mem_declared {d : Document} {e : Text × Definition}
    (he : e ∈ d.declared o) : e.2 = e.2.content.definition o.optionalProperties := by
  rcases mem_declared he with ⟨s, -, rfl⟩ | ⟨target, -, rfl⟩
  · rw [Site.content_record, Site.record_eq]
  · rfl

/-- Declarations are their contents, marked as the options say. -/
theorem declared_eq_map_contents (o : Options) (d : Document) :
    d.declared o = (d.contents o).map fun e => (e.1, e.2.definition o.optionalProperties) := by
  rw [contents, List.map_map]
  refine ((List.map_congr_left fun e he => ?_).trans (List.map_id _)).symm
  exact Prod.ext rfl (eq_definition_of_mem_declared he).symm

/-- **Options change only the dressing.**  Under one root name, a document has the same declarations
whatever the other options are: the same names in the same order, for records of the same keys and
types in the same order or for aliases of the same types.  All properties of all records are
optional, or none is; and the text is that of these contents, each of them with the word for an
export in front or not, in the form for records that the options choose, and with the mark of an
optional property behind each key of a record or behind none. -/
theorem options_only_dress (d : Document) (h : o'.rootName = o.rootName) :
    d.contents o' = d.contents o ∧
    d.declared o' = (d.contents o).map (fun e => (e.1, e.2.definition o'.optionalProperties)) ∧
    d.declarations o' = Text.join "\n\n" ((d.contents o).map fun e => e.2.text o' e.1) := by
  have hcontents := contents_eq d h
  have hdeclared := declared_eq_map_contents o' d
  rw [hcontents] at hdeclared
  refine ⟨hcontents, hdeclared, ?_⟩
  rw [declarations, assembled, hdeclared, List.map_map]
  congr 1
  refine List.map_congr_left fun e _ => ?_
  exact Content.text_definition o' e.1 e.2

/-- A record inside a record under all four options that there are beside the root name. -/
theorem options_only_dress_nested :
    let d : Document := .object [("a", .object [("b-c", .null)])]
    let o' : Options := ⟨"Root", false, true, true⟩
    o'.rootName = Options.standard.rootName ∧
      d.declarations .standard =
        "interface A \x7b\n  \"b-c\": null;\n\x7d\n\ninterface Root \x7b\n  a: A;\n\x7d" ∧
      d.declarations o' = "export type A = \x7b\n  \"b-c\"?: null;\n\x7d;\n\n" ++
        "export type Root = \x7b\n  a?: A;\n\x7d;" := by
  intro d o'
  let entries : List (Text × Definition) := [("A", .record [⟨"b-c", .scalar .null, false⟩]),
    ("Root", .record [⟨"a", .named "A", false⟩])]
  have hregistry : d.registry? .standard = some ⟨entries, by decide⟩ := rfl
  have hdeclared : d.declared .standard = entries := declared_of_pairwise hregistry (by decide)
  have hroot : o'.rootName = Options.standard.rootName := rfl
  obtain ⟨-, -, hplain⟩ := options_only_dress d (rfl : Options.standard.rootName = _)
  obtain ⟨-, -, hdressed⟩ := options_only_dress d hroot
  refine ⟨hroot, ?_, ?_⟩
  · rw [hplain, contents, hdeclared]
    decide
  · rw [hdressed, contents, hdeclared]
    decide

end Document

end JsonShape
