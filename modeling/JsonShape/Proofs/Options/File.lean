import JsonShape.Options.File
import JsonShape.Proofs.File.Tree
import JsonShape.Proofs.Json.Layout
import JsonShape.Proofs.Yaml.Mapping

/-!
# Options in files

Options that are saved can be loaded again, from YAML (`load_after_save_yaml`) and from JSON
(`load_after_save_json`).  Both formats hold the same four fields (`Options.loose`), each under its
name in camel case, and from these fields the options are taken again (`ofFields_loose`).
-/

namespace JsonShape

/-! ### Suffixes -/

/-- The suffix of a name is what follows its last point, if anything stands before the point. -/
theorem Path.suffix_eq {p : Path} {front ext : Text}
    (h : p.name = front ++ ('.' : CodePoint) :: ext) (hext : ext ≠ [])
    (hpoint : ext.all (· ≠ ('.' : CodePoint)) = true) :
    p.suffix = if front = [] then [] else ('.' : CodePoint) :: ext := by
  have htail : (p.name.reverse.takeWhile (· ≠ ('.' : CodePoint))).reverse = ext := by
    rw [h, List.reverse_append, List.reverse_cons, List.append_assoc,
      List.takeWhile_append_of_pos (by simpa using hpoint)]
    simp
  rw [suffix, htail, h]
  by_cases hfront : front = []
  · rw [if_pos hfront, if_pos (Or.inr (by simp [hfront]))]
  · have hlength := List.length_pos_iff.2 hfront
    rw [if_neg hfront, if_neg]
    · rfl
    · rw [not_or, List.length_append, List.length_cons]
      exact ⟨hext, by omega⟩

namespace Options

variable {o : Options} {p : Path}

/-! ### Fields -/

/-- The fields of options as loose values. -/
def loose (o : Options) : List (Text × Datum) :=
  [(rootNameField.camel, .text o.rootName), (useInterfaceField.camel, .bool o.useInterface),
    (optionalPropertiesField.camel, .bool o.optionalProperties),
    (addExportField.camel, .bool o.addExport)]

theorem textKeys?_textEntries (fields : List (Text × Datum)) :
    textKeys? (Datum.textEntries fields) = some fields := by
  induction fields with
  | nil => rfl
  | cons f fields ih =>
    change (textKeys? (Datum.textEntries fields)).map (f :: ·) = _
    rw [ih]
    rfl

/-- **The fields of options give the options.** -/
theorem ofFields_loose (o : Options) : ofFields o.loose = .ok o := by
  rfl

theorem ofDatum_loose (p : Path) (o : Options) :
    ofDatum p (.dict (Datum.textEntries o.loose)) = .ok o := by
  rw [ofDatum, textKeys?_textEntries]
  dsimp only
  rw [ofFields_loose]
  rfl

/-! ### JSON -/

theorem plain_toJson (h : o.rootName.hasSurrogate = false) : o.toJson.Plain := by
  have hnames : (fields.map FieldName.camel).Nodup := by decide
  exact ⟨hnames, rfl, h, rfl, trivial, rfl, trivial, rfl, trivial, trivial⟩

theorem readRelaxed_toJson (h : o.rootName.hasSurrogate = false) :
    Json.readRelaxed o.toJson.pretty = .ok o.toJson := by
  have hdepth : o.toJson.nesting = 1 := rfl
  exact Json.readRelaxed_pretty (plain_toJson h) (hdepth ▸ by decide)

/-! ### YAML -/

open Yaml

/-- The word for a truth value. -/
def boolWord (b : Bool) : Text := if b then "true" else "false"

/-- The entries of options in YAML. -/
def items (o : Options) : List Item :=
  [⟨rootNameField.camel, o.rootName, isPlain o.rootName⟩,
    ⟨useInterfaceField.camel, boolWord o.useInterface, true⟩,
    ⟨optionalPropertiesField.camel, boolWord o.optionalProperties, true⟩,
    ⟨addExportField.camel, boolWord o.addExport, true⟩]

theorem valueWritten_boolWord (b : Bool) (r : Text) :
    ValueWritten (boolWord b) true (boolWord b ++ r) r := by
  cases b
  · exact .plain (.word ⟨by decide, by decide, by decide, by decide⟩) (by decide)
  · exact .plain (.word ⟨by decide, by decide, by decide, by decide⟩) (by decide)

theorem isKey_camel {f : FieldName} (hf : f ∈ fields) : Lexer.IsKey f.camel := by
  have hall : fields.all (fun f => f.camel ≠ [] && f.camel.all CodePoint.isLetter &&
      f.camel.length ≤ 1024) = true := by decide
  have hkey := List.all_eq_true.1 hall f hf
  rw [Bool.and_eq_true, Bool.and_eq_true, decide_eq_true_eq, decide_eq_true_eq] at hkey
  exact ⟨hkey.1.1, hkey.1.2, hkey.2⟩

theorem entry_append (key s q : Text) :
    key ++ ": " ++ s ++ "\n" ++ q =
      key ++ (':' : CodePoint) :: ' ' :: (s ++ ('\n' : CodePoint) :: q) := by
  rw [List.append_assoc, List.append_assoc, List.append_assoc]
  rfl

theorem entriesWritten_text {es : List Item} {q : Text} {f : FieldName} (hf : f ∈ fields) (t : Text)
    (h : EntriesWritten es q) :
    EntriesWritten (⟨f.camel, t, isPlain t⟩ :: es) (textEntry f.camel t ++ q) := by
  rw [textEntry, entry_append]
  exact .cons (isKey_camel hf)
    (valueWritten_scalarText _ t fun hquote => absurd (Option.some.inj hquote) (by decide)) h

theorem entriesWritten_bool {es : List Item} {q : Text} {f : FieldName} (hf : f ∈ fields) (b : Bool)
    (h : EntriesWritten es q) :
    EntriesWritten (⟨f.camel, boolWord b, true⟩ :: es) (boolEntry f.camel b ++ q) := by
  rw [boolEntry, entry_append]
  exact .cons (isKey_camel hf) (valueWritten_boolWord b _) h

/-- **The YAML text of options is a written mapping.** -/
theorem entriesWritten_toYaml (o : Options) : EntriesWritten o.items o.toYaml := by
  have htext : o.toYaml = textEntry rootNameField.camel o.rootName ++
      (boolEntry useInterfaceField.camel o.useInterface ++
        (boolEntry optionalPropertiesField.camel o.optionalProperties ++
          (boolEntry addExportField.camel o.addExport ++ []))) := by
    rw [toYaml, List.append_assoc, List.append_assoc, List.append_nil]
  rw [htext]
  exact entriesWritten_text (by simp [fields]) _ (entriesWritten_bool (by simp [fields]) _
    (entriesWritten_bool (by simp [fields]) _ (entriesWritten_bool (by simp [fields]) _ .nil)))

theorem ofPlain_camel {f : FieldName} (hf : f ∈ fields) : Tag.ofPlain f.camel = .str := by
  have hall : fields.all (fun f => Tag.ofPlain f.camel = .str) = true := by decide
  exact of_decide_eq_true (List.all_eq_true.1 hall f hf)

/-- A text that is written plainly is read as a text. -/
theorem tag_text (key t : Text) : (Item.mk key t (isPlain t)).tag = .str := by
  rw [Item.tag]
  split
  · next h =>
    simp only [isPlain, Bool.and_eq_true, Bool.not_eq_true', needsQuotes, Bool.or_eq_false_iff,
      decide_eq_false_iff_not, Decidable.not_not] at h
    exact h.2.2
  · rfl

theorem sound_text {f : FieldName} (hf : f ∈ fields) (t : Text) :
    (Item.mk f.camel t (isPlain t)).Sound ∧ (Item.mk f.camel t (isPlain t)).value = .text t :=
  Item.sound_of_value (ofPlain_camel hf) (by rw [tag_text]; rfl)

theorem sound_bool {f : FieldName} (hf : f ∈ fields) (b : Bool) :
    (Item.mk f.camel (boolWord b) true).Sound ∧
      (Item.mk f.camel (boolWord b) true).value = .bool b := by
  have htag : Tag.ofPlain (boolWord b) = .bool := by cases b <;> decide
  refine Item.sound_of_value (ofPlain_camel hf) ?_
  change scalarValue (Tag.ofPlain (boolWord b)) (boolWord b) = _
  rw [htag]
  cases b <;> rfl

/-- **The YAML text of options stands for their fields.** -/
theorem read_toYaml (o : Options) :
    Yaml.read o.toYaml = .ok (.dict (Datum.textEntries o.loose)) := by
  obtain ⟨hname, hname'⟩ := sound_text (f := rootNameField) (by simp [fields]) o.rootName
  obtain ⟨huse, huse'⟩ := sound_bool (f := useInterfaceField) (by simp [fields]) o.useInterface
  obtain ⟨hopt, hopt'⟩ :=
    sound_bool (f := optionalPropertiesField) (by simp [fields]) o.optionalProperties
  obtain ⟨hadd, hadd'⟩ := sound_bool (f := addExportField) (by simp [fields]) o.addExport
  have hsound : ∀ e ∈ o.items, e.Sound := by
    simp only [items, List.forall_mem_cons]
    exact ⟨hname, huse, hopt, hadd, nofun⟩
  have hkeys : (o.items.map Item.key).Nodup := by
    have hnames : (fields.map FieldName.camel).Nodup := by decide
    exact hnames
  have hloose : o.items.map (fun e => (e.key, e.value)) = o.loose := by
    simp only [items, loose, List.map_cons, List.map_nil, hname', huse', hopt', hadd']
  rw [← hloose]
  exact (entriesWritten_toYaml o).read hsound hkeys

/-! ### Texts -/

/-- **Options are taken from the text that is written for them,** in either format. -/
theorem ofText_toText (p : Path) (h : o.rootName.hasSurrogate = false) :
    ofText p (o.toText p) = .ok o := by
  have hvalue : readValue p (o.toText p) = .ok (.dict (Datum.textEntries o.loose)) := by
    rw [readValue, toText]
    by_cases hp : isYaml p = true
    · rw [if_pos hp, if_pos hp, read_toYaml]
      rfl
    · rw [if_neg hp, if_neg hp, readRelaxed_toJson h]
      rfl
  rw [ofText, hvalue]
  exact ofDatum_loose p o

theorem isLasting_of_isWritten {c : CodePoint} (h : isWritten c = true) : c.isLasting = true := by
  rw [isWritten, Bool.or_eq_true, decide_eq_true_eq] at h
  rcases h with h | rfl
  · have hreturn : c ≠ ('\r' : CodePoint) := by rintro rfl; revert h; decide
    simp only [isPrintable, Bool.and_eq_true, decide_eq_true_eq] at h
    simp only [CodePoint.isLasting, Bool.and_eq_true, decide_eq_true_eq]
    exact ⟨by omega, hreturn⟩
  · rfl

theorem lasting_toText (p : Path) (o : Options) :
    (o.toText p).all CodePoint.isLasting = true := by
  rw [toText]
  split
  · refine List.all_eq_true.2 fun c hc => ?_
    exact isLasting_of_isWritten (List.all_eq_true.1 (entriesWritten_toYaml o).isWritten c hc)
  · exact Json.lasting_pretty o.toJson

/-! ### Files -/

variable {files : FileTree}

/-- Options that are saved are found again. -/
theorem load_of_save (hp : files.Writable p) (ho : o.rootName.hasSurrogate = false) :
    ∃ saved, o.save files p = .ok saved ∧ saved.readText p = .ok (o.toText p) ∧
      load saved p = .ok o := by
  obtain ⟨saved, hsaved, hread⟩ := hp.readText_writeText (lasting_toText p o)
  refine ⟨saved, hsaved, hread, ?_⟩
  rw [load, hread]
  exact ofText_toText p ho

/-- A file is kept in YAML for its name, unless that is no more than the suffix. -/
theorem isYaml_of_name {ext : Text} (hext : ext = Text.ofString "yaml" ∨ ext = Text.ofString "yml")
    (hname : (('.' : CodePoint) :: ext) <:+ p.name) : isYaml p = !(p.suffix = [] : Bool) := by
  obtain ⟨front, hfront⟩ := hname
  have hsuffix : p.suffix = if front = [] then [] else ('.' : CodePoint) :: ext := by
    rcases hext with rfl | rfl
    · exact Path.suffix_eq hfront.symm (by decide) (by decide)
    · exact Path.suffix_eq hfront.symm (by decide) (by decide)
  rw [isYaml, hsuffix]
  split
  · decide
  · rcases hext with rfl | rfl <;> decide

/-- **Options survive a YAML file,** whatever text the root's name is.  Where the whole name of the
file is `.yaml` or `.yml`, it has no suffix, and the file is kept in JSON. -/
theorem load_after_save_yaml (o : Options) (files : FileTree) (p : Path)
    (ho : o.rootName.hasSurrogate = false) (hp : files.Writable p)
    (hname : (".yaml" : Text) <:+ p.name ∨ (".yml" : Text) <:+ p.name) :
    ∃ saved, o.save files p = .ok saved ∧
      saved.readText p = .ok (if p.suffix = [] then o.toJson.pretty else o.toYaml) ∧
      load saved p = .ok o := by
  obtain ⟨saved, hsaved, hread, hload⟩ := load_of_save hp ho
  have hyaml : isYaml p = !(p.suffix = [] : Bool) := by
    rcases hname with hname | hname
    · exact isYaml_of_name (Or.inl rfl) hname
    · exact isYaml_of_name (Or.inr rfl) hname
  refine ⟨saved, hsaved, ?_, hload⟩
  rw [hread, toText, hyaml]
  by_cases hsuffix : p.suffix = []
  · rw [if_pos hsuffix, decide_eq_true hsuffix, if_neg (by decide)]
  · rw [if_neg hsuffix, decide_eq_false hsuffix, if_pos (by decide)]

/-- A name of several lines that looks like a merge key, a comment and a truth value, in a file in
the working folder. -/
theorem load_after_save_yaml_lines :
    let o : Options := ⟨"<<: #\n\nyes 'é😀'\t\"\\ ", false, true, true⟩
    ∃ saved, o.save default (Path.ofText "o.yml") = .ok saved ∧
      load saved (Path.ofText "o.yml") = .ok o := by
  intro o
  have hp : FileTree.Writable default (Path.ofText "o.yml") := by
    refine ⟨rfl, rfl, by decide, ?_⟩
    have hmissing : (default : FileTree).look (Path.ofText "o.yml") = .error .missing := rfl
    rw [hmissing]
    exact nofun
  obtain ⟨saved, hsaved, -, hload⟩ :=
    load_after_save_yaml o default (Path.ofText "o.yml") (by decide) hp (Or.inr (by decide))
  exact ⟨saved, hsaved, hload⟩

/-- **Options survive a JSON file,** under every other name. -/
theorem load_after_save_json (o : Options) (files : FileTree) (p : Path)
    (ho : o.rootName.hasSurrogate = false) (hp : files.Writable p)
    (hyaml : p.suffix ≠ Text.ofString ".yaml") (hyml : p.suffix ≠ Text.ofString ".yml") :
    ∃ saved, o.save files p = .ok saved ∧ saved.readText p = .ok o.toJson.pretty ∧
      load saved p = .ok o := by
  obtain ⟨saved, hsaved, hread, hload⟩ := load_of_save hp ho
  have hjson : isYaml p = false := by simp [isYaml, hyaml, hyml]
  refine ⟨saved, hsaved, ?_, hload⟩
  rw [hread, toText, hjson, if_neg Bool.false_ne_true]

/-- A name with escapes and an astral code point, under a suffix in capitals. -/
theorem load_after_save_json_capitals :
    let o : Options := ⟨"\x00\x7f/\"\\\n\u2028😀", true, false, true⟩
    ∃ saved, o.save default (Path.ofText "O.YAML") = .ok saved ∧
      load saved (Path.ofText "O.YAML") = .ok o := by
  intro o
  have hp : FileTree.Writable default (Path.ofText "O.YAML") := by
    refine ⟨rfl, rfl, by decide, ?_⟩
    have hmissing : (default : FileTree).look (Path.ofText "O.YAML") = .error .missing := rfl
    rw [hmissing]
    exact nofun
  obtain ⟨saved, hsaved, -, hload⟩ := load_after_save_json o default (Path.ofText "O.YAML")
    (by decide) hp (by decide) (by decide)
  exact ⟨saved, hsaved, hload⟩

end Options

end JsonShape
