import JsonShape.Command.Run
import JsonShape.Proofs.File.Tree

/-!
# Bad files of options

Whatever the bytes of a file, loading options from it gives options or an error that counts as a
misuse of the command, if the file is kept in JSON.  YAML is another matter: its reader has faults
of its own that are not handled, too little room on the stack among them, and neither are keys that
are no texts (`HoldsUnhandled`).  A conversion with such a file crashes, and with any other bad one
it ends with the status of a misuse (`Options.fault_of_file`).  That is so with any reader of YAML.
-/

namespace JsonShape.Options

variable {files : FileTree} {p : Path} {b : Bytes} {t : Text}
  {yaml : Text → Except Yaml.Fault Datum}

/-! ### Keys -/

/-- A key that is no text. -/
def HasOddKey (es : List (Datum × Datum)) : Prop := ∃ e ∈ es, ∀ t, e.1 ≠ .text t

theorem textKeys?_eq_none_iff {es : List (Datum × Datum)} :
    textKeys? es = none ↔ HasOddKey es := by
  induction es with
  | nil => exact iff_of_false nofun fun ⟨e, he, _⟩ => nomatch he
  | cons e es ih =>
    obtain ⟨k, v⟩ := e
    cases k with
    | text t =>
      rw [textKeys?, Option.map_eq_none_iff, ih]
      constructor
      · rintro ⟨e, he, hkey⟩
        exact ⟨e, List.mem_cons_of_mem _ he, hkey⟩
      · rintro ⟨e, he, hkey⟩
        obtain rfl | he := List.mem_cons.1 he
        · exact absurd rfl (hkey t)
        · exact ⟨e, he, hkey⟩
    | _ => exact iff_of_true rfl ⟨_, List.mem_cons_self, nofun⟩

theorem not_hasOddKey_ofFields (fields : List (Text × Json)) :
    ¬ HasOddKey (Datum.ofFields fields) := by
  induction fields with
  | nil => exact fun ⟨e, he, _⟩ => nomatch he
  | cons f fields ih =>
    rintro ⟨e, he, hkey⟩
    obtain rfl | he := List.mem_cons.1 he
    · exact hkey f.1 rfl
    · exact ih ⟨e, he, hkey⟩

/-! ### Values -/

/-- A mapping with a key that is no text is the only value that is refused, but not as a misuse. -/
theorem error_ofDatum_iff {d : Datum} :
    (∃ e, ofDatum p d = .error e ∧ e.isMisuse = false) ↔ ∃ es, d = .dict es ∧ HasOddKey es := by
  cases d with
  | dict es =>
    rw [ofDatum]
    constructor
    · rintro ⟨e, he, hmisuse⟩
      split at he
      · next hkeys => exact ⟨es, rfl, textKeys?_eq_none_iff.1 hkeys⟩
      · obtain ⟨issues, -, rfl⟩ := mapError_eq_error_iff.1 he
        cases hmisuse
    · rintro ⟨_, ⟨⟩, hodd⟩
      rw [textKeys?_eq_none_iff.2 hodd]
      exact ⟨_, rfl, rfl⟩
  | _ =>
    refine iff_of_false ?_ nofun
    rintro ⟨_, ⟨⟩, hmisuse⟩
    cases hmisuse

/-- A text of YAML that is neither accepted nor refused as a misuse. -/
def Unhandled (yaml : Text → Except Yaml.Fault Datum) (t : Text) : Prop :=
  (∃ f, yaml t = .error f ∧ f.isMisuse = false) ∨ ∃ es, yaml t = .ok (.dict es) ∧ HasOddKey es

theorem error_ofText_yaml_iff (hyaml : isYaml p = true) :
    (∃ e, ofText p t yaml = .error e ∧ e.isMisuse = false) ↔ Unhandled yaml t := by
  rw [ofText, readValue, if_pos hyaml]
  constructor
  · rintro ⟨e, he, hmisuse⟩
    obtain hread | ⟨d, hread, he⟩ := bind_eq_error_iff.1 he
    · obtain ⟨f, hf, rfl⟩ := mapError_eq_error_iff.1 hread
      exact Or.inl ⟨f, hf, hmisuse⟩
    · obtain ⟨es, rfl, hodd⟩ := error_ofDatum_iff.1 ⟨e, he, hmisuse⟩
      exact Or.inr ⟨es, mapError_eq_ok_iff.1 hread, hodd⟩
  · rintro (⟨f, hf, hmisuse⟩ | ⟨es, hread, hodd⟩)
    · exact ⟨.yaml f, bind_eq_error_iff.2 (Or.inl (mapError_eq_error_iff.2 ⟨f, hf, rfl⟩)), hmisuse⟩
    · obtain ⟨e, he, hmisuse⟩ := error_ofDatum_iff.2 ⟨es, rfl, hodd⟩
      exact ⟨e, bind_eq_error_iff.2 (Or.inr ⟨_, mapError_eq_ok_iff.2 hread, he⟩), hmisuse⟩

/-- All that can be wrong with a text of JSON is a misuse. -/
theorem isMisuse_of_error_ofText {e : LoadError} (hyaml : isYaml p = false)
    (he : ofText p t yaml = .error e) : e.isMisuse = true := by
  rw [ofText, readValue, if_neg (by rw [hyaml]; decide)] at he
  refine eq_true_of_ne_false fun hmisuse => ?_
  obtain hread | ⟨d, hread, he⟩ := bind_eq_error_iff.1 he
  · obtain ⟨e, -, rfl⟩ := mapError_eq_error_iff.1 hread
    cases hmisuse
  · obtain ⟨es, rfl, hodd⟩ := error_ofDatum_iff.1 ⟨e, he, hmisuse⟩
    have hjson := mapError_eq_ok_iff.1 hread
    cases hrelaxed : Json.readRelaxed t with
    | error e => rw [hrelaxed] at hjson; cases hjson
    | ok v =>
      rw [hrelaxed] at hjson
      cases v with
      | object fields =>
        obtain rfl := Datum.dict.inj (Except.ok.inj hjson)
        exact not_hasOddKey_ofFields fields hodd
      | number n => cases n <;> cases hjson
      | _ => cases hjson

/-! ### Files -/

/-- A file kept in YAML whose text is neither accepted nor refused as a misuse. -/
def HoldsUnhandled (yaml : Text → Except Yaml.Fault Datum) (p : Path) (b : Bytes) : Prop :=
  isYaml p = true ∧ ∃ t, Utf8.decode b = some t ∧ Unhandled yaml t.unifyNewlines

/-- **What can be wrong with a file** is a misuse, unless it is kept in YAML and not handled. -/
theorem error_load_iff (hfile : files.look p = .ok (.file b)) :
    (∃ e, load files p yaml = .error e ∧ e.isMisuse = false) ↔ HoldsUnhandled yaml p b := by
  rw [load]
  refine (FileTree.error_readText_bind_iff hfile (by decide)).trans ?_
  cases hyaml : isYaml p with
  | true =>
    simp only [error_ofText_yaml_iff hyaml]
    exact ⟨fun h => ⟨hyaml, h⟩, fun h => h.2⟩
  | false =>
    refine iff_of_false ?_ fun h => ?_
    · rintro ⟨t, -, e, he, hmisuse⟩
      rw [isMisuse_of_error_ofText hyaml he] at hmisuse
      cases hmisuse
    · rw [h.1] at hyaml
      cases hyaml

/-- It is not so that every bad file is a misuse: a text of YAML may be a bracket that is never
closed. -/
theorem not_isMisuse_of_fault :
    ¬ ∀ (files : FileTree) (p : Path) (b : Bytes) (e : LoadError),
      files.look p = .ok (.file b) → load files p = .error e → e.isMisuse = true := by
  intro h
  let files := FileTree.put default ["o.yaml"] (.file [0x5B])
  have hmisuse := h files (Path.ofText "o.yaml") [0x5B]
  have hnot : (match load files (Path.ofText "o.yaml") with
    | .error e => e.isMisuse
    | .ok _ => true) = false := by decide +kernel
  split at hnot
  · next e he => rw [hmisuse e rfl he] at hnot; cases hnot
  · cases hnot

/-! ### Conversions -/

/-- **What a bad file of options does.**  Loading it is a misuse, whatever its bytes are and whoever
reads YAML, unless it is kept in YAML and not handled.  A conversion that takes its options from it
goes on with options, or it leaves the files and ends as misused, or it crashes over what is not
handled. -/
theorem fault_of_file (hfile : files.look p = .ok (.file b)) :
    (∀ yaml, (∃ e, load files p yaml = .error e ∧ e.isMisuse = false) ↔
      HoldsUnhandled yaml p b) ∧
    ∀ (r : ConvertRequest) (s : Surroundings), r.config = some p →
      (∃ o, Command.requestOptions files s r = .ok o) ∨
      ((Command.convert r).run files s).files = files ∧
        (¬ HoldsUnhandled s.readYaml p b → ((Command.convert r).run files s).ending.status = 2) ∧
        (HoldsUnhandled s.readYaml p b →
          ∃ e, ((Command.convert r).run files s).ending = .crashed (.options e)) := by
  refine ⟨fun yaml => error_load_iff hfile, fun r s hconfig => ?_⟩
  cases he : load files p s.readYaml with
  | ok o =>
    refine Or.inl ?_
    rw [Command.requestOptions, hconfig]
    dsimp only
    rw [Command.readOptions, he]
    exact ⟨_, rfl⟩
  | error e =>
    have hrun : (Command.convert r).run files s =
        ⟨if e.isMisuse then .misused e.message else .crashed (.options e), files, false⟩ := by
      change Command.runConvert files s r = _
      rw [Command.runConvert, Command.prepare, Command.requestOptions, hconfig]
      dsimp only
      rw [Command.readOptions, he]
      rfl
    have hmisuse : e.isMisuse = false ↔ HoldsUnhandled s.readYaml p b :=
      (exists_error_iff he).symm.trans (error_load_iff hfile)
    rw [hrun]
    refine Or.inr ⟨rfl, fun hholds => ?_, fun hholds => ?_⟩
    · rw [if_pos (eq_true_of_ne_false fun hnot => hholds (hmisuse.1 hnot))]
      rfl
    · rw [if_neg (by rw [hmisuse.2 hholds]; decide)]
      exact ⟨e, rfl⟩

/-- Options that are a list. -/
theorem fault_of_file_list :
    let files := FileTree.put default ["o.yaml"] (.file [0x5B, 0x5D])
    let p := Path.ofText "o.yaml"
    let request : ConvertRequest := ⟨none, some p, none, false, false, false, none, none⟩
    let s : Surroundings := { input := [], now := ⟨0⟩, ident := "a" }
    ¬ HoldsUnhandled Yaml.read p [0x5B, 0x5D] ∧
      ((Command.convert request).run files s).files = files ∧
      ((Command.convert request).run files s).ending.status = 2 := by
  intro files p request s
  obtain ⟨hload, hrun⟩ := @fault_of_file files p [0x5B, 0x5D] rfl
  have herror : load files p = .error (.notMapping p) := by rfl
  have hholds : ¬ HoldsUnhandled Yaml.read p [0x5B, 0x5D] := by
    rw [← hload]
    rintro ⟨e, he, hnot⟩
    rw [herror] at he
    cases he
    cases hnot
  obtain ⟨o, ho⟩ | ⟨hfiles, hmisused, -⟩ := hrun request s rfl
  · have hrefused : Command.requestOptions files s request = .error _ := rfl
    cases hrefused.symm.trans ho
  · exact ⟨hholds, hfiles, hmisused hholds⟩

end JsonShape.Options
