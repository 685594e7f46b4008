import JsonShape.Proofs.Declaration.Grammar
import JsonShape.Proofs.Json.Accept
import JsonShape.Proofs.Naming
import JsonShape.Proofs.Registry.Documents

/-!
# Outputs are sentences

What is written for a document is a sentence over every vocabulary that has its names and the heads
of its properties (`Document.sentence`).  With a root name that is an identifier, all names are
identifiers but those of keys of which nothing is left or only something that starts with a digit
(`name_of_mem_madeNames`); a key that is no identifier stands between quotes as it is.  So the
output may leave the documented vocabulary, and then it is the keys that make it.
-/

namespace JsonShape

open Grammar

/-! ### What a document is written with -/

namespace Document

variable {o : Options} {d : Document}

/-- What the declarations of a document are made of.  A name that is no identifier is empty or
starts with a digit, and comes from a key; a key that is no identifier stands between quotes. -/
def vocabulary (o : Options) (d : Document) : Vocabulary where
  name n := Key.isIdentifier n = true ∨
    n.all Name.isKept = true ∧ (∀ c ∈ n.head?, c.isDigit = true) ∧
      ∃ key, HasKey (d.sites o) key ∧ Name.MadeFrom key n
  key k := Key.isIdentifier k = true ∨
    ∃ key, HasKey (d.sites o) key ∧ Key.isIdentifier key = false ∧ k = quoted key
  aliases := ∃ items, d = .array items
  blank := ∃ s ∈ d.sites o, s.fields = []

theorem name_mem_madeNames {s : Site} (hs : s ∈ d.sites o) : s.name ∈ d.madeNames o := by
  rw [madeNames_eq]
  exact List.mem_append_left _ (List.mem_map_of_mem hs)

theorem rootName_mem_madeNames {target : Shape} (h : d.target? o = some target) :
    o.rootName ∈ d.madeNames o := by
  rw [madeNames_eq, h]
  exact List.mem_append_right _ (List.mem_singleton.2 rfl)

theorem isIdentifier_or_digit {n : Text} (h : n.all Name.isKept = true) :
    Key.isIdentifier n = true ∨ ∀ c ∈ n.head?, c.isDigit = true := by
  cases n with
  | nil => exact Or.inr nofun
  | cons c n =>
    by_cases hc : c.isDigit = true
    · refine Or.inr fun e he => ?_
      rw [← Option.some.inj he]
      exact hc
    · refine Or.inl (Key.isIdentifier_of_kept h (List.cons_ne_nil c n) fun e he => ?_)
      rw [← Option.some.inj he]
      exact Bool.eq_false_iff.2 hc

theorem all_isKept_of_made {key n : Text} (h : Name.MadeFrom key n) : n.all Name.isKept = true := by
  rcases h with rfl | rfl
  · exact Name.all_isKept_ofKey key
  · exact Name.all_isKept_ofItems key

/-- Every name that is declared belongs to the vocabulary of the document. -/
theorem name_of_mem_madeNames (hroot : Key.isIdentifier o.rootName = true) {n : Text}
    (hn : n ∈ d.madeNames o) : (d.vocabulary o).name n := by
  rw [madeNames_eq] at hn
  rcases List.mem_append.1 hn with hn | hn
  · obtain ⟨s, hs, rfl⟩ := List.mem_map.1 hn
    rcases made_of_mem_sites hs with h | h | ⟨key, hkey, hmade⟩
    · exact Or.inl (h ▸ hroot)
    · exact Or.inl (h ▸ Key.isIdentifier_append hroot rfl)
    · have hkept := all_isKept_of_made hmade
      rcases isIdentifier_or_digit hkept with h | h
      · exact Or.inl h
      · exact Or.inr ⟨hkept, h, key, hkey, hmade⟩
  · obtain ⟨-, -, rfl⟩ := List.mem_map.1 hn
    exact Or.inl hroot

/-! ### What a document is written as -/

variable {V : Vocabulary}

theorem typeText_target {target : Shape} (h : d.target? o = some target)
    (hobject : V.name "object") (hnames : ∀ n ∈ d.madeNames o, V.name n) :
    TypeText V target.text := by
  induction d using cases_lead with
  | object fields => cases h
  | led fields items =>
    have hsite : (⟨o.rootName ++ Name.itemSuffix, fields⟩ : Site) ∈
        (Document.array (.object fields :: items)).sites o :=
      List.mem_append_right _ (List.mem_singleton.2 rfl)
    rw [← Option.some.inj h]
    exact .array (.name (hnames _ (name_mem_madeNames hsite)))
  | other d hother =>
    rw [(eq_of_not_opensObject o hother).2.1] at h
    rw [← Option.some.inj h]
    exact typeText_text hobject _ (Shape.legible_of _) (by simp [Shape.references_of])

/-- **The declarations of a document are a sentence over every vocabulary that has its words.** -/
theorem sentence (hobject : V.name "object") (hnames : ∀ n ∈ d.madeNames o, V.name n)
    (hkeys : ∀ key, HasKey (d.sites o) key → V.key (Key.text key))
    (haliases : (∃ items, d = .array items) → V.aliases)
    (hblank : (∃ s ∈ d.sites o, s.fields = []) → V.blank) : Sentence V (d.declarations o) := by
  have hne : d.declared o ≠ [] := by
    intro hnil
    have hroot := rootName_mem_names o d
    rw [hnil] at hroot
    cases hroot
  refine sentence_assembled hne fun e he => ?_
  rcases mem_declared he with ⟨s, hs, rfl⟩ | ⟨target, ht, rfl⟩
  · refine declarationText_record (hnames _ (name_mem_madeNames hs)) (fun hps => ?_) fun p hp => ?_
    · exact hblank ⟨s, hs, List.map_eq_nil_iff.1 hps⟩
    · obtain ⟨f, hf, rfl⟩ := List.mem_map.1 hp
      refine lineText_property (hkeys f.1 ⟨s, hs, f, hf, rfl⟩) (typeText_shapeUnder hobject ?_)
      intro n hn
      obtain ⟨r, hr, rfl⟩ := List.mem_map.1 (references_shapeUnder hn)
      exact hnames _ (name_mem_madeNames (opensAll_sites o d s hs f hf hr))
  · have hitems : ∃ items, d = .array items := by
      cases d with
      | object fields => cases ht
      | array items => exact ⟨items, rfl⟩
    exact declarationText_alias (haliases hitems) (hnames _ (rootName_mem_madeNames ht))
      (typeText_target ht hobject hnames)

end Document

/-- A text that is answered with success is answered with the declarations of its document. -/
theorem declarations_of_success {o : Options} {t : Text} {stack : Stack}
    (h : (convert o t stack).success = true) : ∃ d, Document.ofText? t stack.depth = .ok d ∧
      (convert o t stack).output = d.declarations o := by
  cases hc : convertText o t stack with
  | error e =>
    rw [convert_of_error hc] at h
    cases h
  | ok output =>
    rw [convert_of_ok hc]
    unfold convertText at hc
    split at hc
    · cases hc
    · next d hd =>
      split at hc
      · cases hc
        exact ⟨d, hd, rfl⟩
      · cases hc

theorem convert_of_jsonText {o : Options} {t : Text} {d : Document}
    (h : Json.JsonText Json.Readable Json.maxDepth d.root t) :
    convert o t = .succeeded (d.declarations o) := by
  have hread : Document.ofText? t Stack.standard.depth = .ok d :=
    Document.ofText?_eq_ok_iff.2 (Json.read_of_jsonText h)
  refine convert_of_ok ?_
  rw [convertText, hread]
  rfl

/-- The entries of a registry are written as they stand where that is their order. -/
theorem convert_of_ordered {o : Options} {t : Text} {d : Document} {reg : Registry}
    (h : Json.JsonText Json.Readable Json.maxDepth d.root t) (hreg : d.registry? o = some reg)
    (hp : reg.entries.Pairwise fun a b => precedes o.rootName a.1 b.1) :
    convert o t = .succeeded (assembled o reg.entries) := by
  rw [convert_of_jsonText h, Document.declarations, Document.declared_of_pairwise hreg hp]

/-- **Every output is a sentence.**  Where the root name is an identifier, the output for a document
is one or more declarations made of the words of the document.  It keeps to identifiers and string
literals if all its names are identifiers and each key is one, too, or may stand in a literal. -/
theorem output_is_sentence {o : Options} {t : Text} {stack : Stack}
    (hroot : Key.isIdentifier o.rootName = true) (h : (convert o t stack).success = true) :
    ∃ d, Document.ofText? t stack.depth = .ok d ∧
      Sentence (d.vocabulary o) (convert o t stack).output ∧
      ((∀ n ∈ d.madeNames o, Key.isIdentifier n = true) →
        (∀ key, HasKey (d.sites o) key → Key.isIdentifier key = true ∨ Literal key) →
        Sentence (identifiers (∃ items, d = .array items) (∃ s ∈ d.sites o, s.fields = []))
          (convert o t stack).output) := by
  obtain ⟨d, hd, hout⟩ := declarations_of_success h
  have hobject : Key.isIdentifier "object" = true := by decide
  rw [hout]
  refine ⟨d, hd, ?_, fun hnames hkeys => ?_⟩
  · refine Document.sentence (Or.inl hobject) (fun n => Document.name_of_mem_madeNames hroot)
      (fun key hkey => ?_) id id
    rw [Key.text]
    split
    · next hid => exact Or.inl hid
    · next hid => exact Or.inr ⟨key, hkey, Bool.eq_false_iff.2 hid, rfl⟩
  · refine Document.sentence hobject hnames (fun key hkey => ?_) id id
    rw [Key.text]
    split
    · next hid => exact Or.inl hid
    · next hid => exact Or.inr ⟨key, (hkeys key hkey).resolve_left hid, rfl⟩

open Json in
/-- The output for `[]` is an alias. -/
theorem output_is_sentence_alias :
    (convert .standard "[]").success = true ∧
      ∃ d, Document.ofText? "[]" = .ok d ∧
        Sentence (identifiers (∃ items, d = .array items) (∃ s ∈ d.sites .standard, s.fields = []))
          (convert .standard "[]").output := by
  have htext : JsonText Readable maxDepth (Document.array []).root "[]" :=
    .blanks (.refl _) (.emptyArray (.refl _)) (.refl _)
  have hsuccess : (convert .standard "[]").success = true := by
    rw [convert_of_jsonText htext]
    rfl
  obtain ⟨d, hd, -, hout⟩ := output_is_sentence (o := .standard) (by decide) hsuccess
  have hroot : d = .array [] := by
    have hread : Document.ofText? "[]" = .ok (.array []) :=
      Document.ofText?_eq_ok_iff.2 (read_of_jsonText htext)
    exact Except.ok.inj (hd.symm.trans hread)
  subst hroot
  refine ⟨hsuccess, _, hd, hout ?_ ?_⟩
  · intro n hn
    rw [List.mem_singleton.1 hn]
    decide
  · rintro key ⟨s, hs, -⟩
    cases hs

/-! ### Outputs outside the documented vocabulary -/

/-- A documented sentence that starts with an interface has an identifier there, and the lines of a
record behind it. -/
theorem interface_of_sentence {n u : Text}
    (h : Sentence documented ("interface " ++ (n ++ (" \x7b\n" ++ u))))
    (hn : n.all Key.isIdentifierPart = true) :
    Key.isIdentifier n = true ∧ ∃ b w, BodyText documented b ∧ u = b ++ ("\x7d" ++ w) := by
  obtain ⟨d, r, hd, he⟩ := h.head
  obtain ⟨m, b, w, hm, hb, hu⟩ := hd.interface_inv he
  have hblank : ∀ (x : Text), ∀ c ∈ (" \x7b\n" ++ x : Text).head?,
      Key.isIdentifierPart c = false := by
    intro x c hc
    rw [← Option.some.inj hc]
    rfl
  obtain ⟨rfl, hrest⟩ := Shape.word_append_inj hn (Key.all_isIdentifierPart hm) (hblank _)
    (hblank _) hu
  exact ⟨hm, b, w, hb, List.append_cancel_left hrest⟩

/-- The name of a record may start with a digit. -/
theorem not_sentence_numbered (u : Text) :
    ¬ Sentence documented ("interface " ++ ("1" ++ (" \x7b\n" ++ u))) := by
  intro h
  exact absurd (interface_of_sentence h (by decide)).1 (by decide)

/-- A quote stands between the quotes of a key. -/
theorem not_sentence_quoted (u : Text) :
    ¬ Sentence documented
      ("interface " ++ ("Root" ++ (" \x7b\n" ++
        ("  " ++ ("\"" ++ ("a" ++ ("\"" ++ ("b" ++ u)))))))) := by
  intro h
  obtain ⟨-, b, w, hb, he⟩ := interface_of_sentence h (by decide)
  rcases hb.inv with rfl | ⟨k, optional, x, hk, rfl⟩
  · exact absurd (List.cons.inj he).1 (by decide)
  rw [List.append_assoc] at he
  have hkey := List.append_cancel_left he
  rcases hk with hk | ⟨t, ht, rfl⟩
  · cases k with
    | nil => cases hk
    | cons c k =>
      rw [← (List.cons.inj hkey).1] at hk
      cases hk
  · -- the literal ends behind its first letter, where neither a mark nor a colon stands
    rw [quoted, List.append_assoc, List.append_assoc, List.append_assoc] at hkey
    have ha : ∀ c ∈ ("a" : Text), c ≠ ('"' : CodePoint) ∧ c ≠ ('\\' : CodePoint) := by
      intro c hc
      rw [List.mem_singleton.1 hc]
      decide
    have hrest := (ht.append_quote_inj ha (List.append_cancel_left hkey).symm).2
    have hhead := congrArg List.head? hrest
    cases optional <;> exact absurd (Option.some.inj hhead) (by decide)

/-- There is a blank line where there is no property. -/
theorem not_sentence_blank (u : Text) :
    ¬ Sentence documented ("interface " ++ ("Root" ++ (" \x7b\n" ++ ("\n" ++ u)))) := by
  intro h
  obtain ⟨-, b, w, hb, he⟩ := interface_of_sentence h (by decide)
  rcases hb.inv with rfl | ⟨k, optional, x, hk, rfl⟩
  · exact absurd (List.cons.inj he).1 (by decide)
  · exact absurd (List.cons.inj he).1 (by decide)

/-- An alias has no braces. -/
theorem not_sentence_of_not_mem {t : Text} (ht : ('\x7b' : CodePoint) ∉ t) :
    ¬ Sentence documented t := by
  intro h
  obtain ⟨d, r, hd, rfl⟩ := h.head
  exact ht (List.mem_append_left r hd.brace_mem)

open Json in
/-- A name may start with a digit, a quote may stand in a key, an object may have no properties, and
the root may be no object: each of them alone makes an output that is no documented sentence. -/
theorem output_is_not_documented :
    Key.isIdentifier Options.standard.rootName = true ∧
    ∀ t ∈ (["\x7b\"1\":\x7b\"x\":null\x7d\x7d", "\x7b\"a\\\"b\":null\x7d", "\x7b\x7d", "[]"] :
        List Text),
      (convert .standard t).success = true ∧
        ¬ Sentence documented (convert .standard t).output := by
  have hnumbered : convert .standard "\x7b\"1\":\x7b\"x\":null\x7d\x7d" = .succeeded
      ("interface " ++ ("1" ++ (" \x7b\n" ++
        "  x: null;\n\x7d\n\ninterface Root \x7b\n  \"1\": 1;\n\x7d"))) := by
    have hx : NameText "x" "\"x\":null\x7d\x7d" "null\x7d\x7d" :=
      nameText_letter (by decide) _
    have hone : NameText "1" "\"1\":\x7b\"x\":null\x7d\x7d" "\x7b\"x\":null\x7d\x7d" :=
      nameText_letter (by decide) _
    have htext : JsonText Readable maxDepth
        (Document.object [("1", .object [("x", .null)])]).root
        "\x7b\"1\":\x7b\"x\":null\x7d\x7d" :=
      .blanks (.refl _) (.object (.refl _) (.last hone (.object (.refl _)
        (.last hx .nullWord (.refl _))) (.refl _))) (.refl _)
    rw [convert_of_ordered htext rfl (by decide)]
    rfl
  have hquoted : convert .standard "\x7b\"a\\\"b\":null\x7d" = .succeeded
      ("interface " ++ ("Root" ++ (" \x7b\n" ++
        ("  " ++ ("\"" ++ ("a" ++ ("\"" ++ ("b" ++ "\": null;\n\x7d")))))))) := by
    have hname : NameText "a\"b" "\"a\\\"b\":null\x7d" "null\x7d" :=
      .colon (.quoted (.cons (.plain (by decide)) (.cons (.short List.mem_cons_self)
        (.cons (.plain (by decide)) .quote)))) (.refl _) (.refl _)
    have htext : JsonText Readable maxDepth (Document.object [("a\"b", .null)]).root
        "\x7b\"a\\\"b\":null\x7d" :=
      .blanks (.refl _) (.object (.refl _) (.last hname .nullWord (.refl _))) (.refl _)
    rw [convert_of_ordered htext rfl (List.pairwise_singleton _ _)]
    rfl
  have hblank : convert .standard "\x7b\x7d" = .succeeded
      ("interface " ++ ("Root" ++ (" \x7b\n" ++ ("\n" ++ "\x7d")))) := by
    have htext : JsonText Readable maxDepth (Document.object []).root "\x7b\x7d" :=
      .blanks (.refl _) (.emptyObject (.refl _)) (.refl _)
    rw [convert_of_ordered htext rfl (List.pairwise_singleton _ _)]
    rfl
  have halias : convert .standard "[]" = .succeeded "type Root = unknown[];" := by
    have htext : JsonText Readable maxDepth (Document.array []).root "[]" :=
      .blanks (.refl _) (.emptyArray (.refl _)) (.refl _)
    rw [convert_of_jsonText htext]
    rfl
  refine ⟨by decide, ?_⟩
  simp only [List.forall_mem_cons]
  rw [hnumbered, hquoted, hblank, halias]
  exact ⟨⟨rfl, not_sentence_numbered _⟩, ⟨rfl, not_sentence_quoted _⟩, ⟨rfl, not_sentence_blank _⟩,
    ⟨rfl, not_sentence_of_not_mem (by decide)⟩, nofun⟩

end JsonShape
