import JsonShape.Proofs.File.Tree
import JsonShape.Proofs.History.Recency
import JsonShape.Proofs.Json.Layout
import JsonShape.Proofs.Number.Double

/-!
# Histories in files

A history that is saved can be loaded again, with the entries that its records have left
(`load_after_save`).  What a record stores comes from a clock and from texts without surrogates
(`Entry.Storable`), and such an entry is found again in its object (`readItem_toJson`).
-/

namespace JsonShape

theorem Stamp.natAbs_ofSeconds_lt (now : Double) :
    (Stamp.ofSeconds now).natAbs < tenTo Numeral.maxDigits := by
  rw [ofSeconds]
  cases h : (now.scale 1000).truncate? with
  | some i => exact Double.natAbs_truncate?_lt h
  | none => exact tenTo_pos _

/-! ### Entries -/

namespace Entry

/-- What a record stores: an ident, texts without surrogates, and the stamp of a clock. -/
structure Storable (e : Entry) : Prop where
  ident_ne : e.ident ≠ []
  ident : e.ident.hasSurrogate = false
  input : e.input.hasSurrogate = false
  output : e.output.hasSurrogate = false
  stamp : ∃ now, e.stamp = Stamp.ofSeconds now

theorem Storable.plain {e : Entry} (h : e.Storable) : e.toJson.Plain := by
  obtain ⟨now, hstamp⟩ := h.stamp
  have hnames : ([Text.ofString "id", "input", "output", "timestamp"] : List Text).Nodup := by
    decide
  refine ⟨hnames, rfl, h.ident, rfl, h.input, rfl, h.output, rfl, ?_, trivial⟩
  rw [hstamp]
  exact Stamp.natAbs_ofSeconds_lt now

end Entry

namespace History

/-- **An entry is found again in its object;** its texts take no room on the stack. -/
theorem readItem_toJson (p : Path) {e : Entry} (h : e.ident ≠ []) (stack : Stack) :
    readItem p e.toJson stack = .ok e := by
  have hblank : (Datum.text e.ident).isBlank = false := by simpa [Datum.isBlank] using h
  change Except.mapError LoadError.entry
    (if (Datum.text e.ident).isBlank then .error .incomplete else .ok e) = .ok e
  rw [hblank]
  rfl

/-! ### Lists of entries -/

theorem front_map {α β : Type} (f : α → β) (n : Int) (l : List α) :
    front n (l.map f) = (front n l).map f := by
  simp only [front, List.length_map, ← List.map_take]
  split <;> rfl

theorem mem_of_mem_front {α : Type} {n : Int} {l : List α} {a : α} (h : a ∈ front n l) : a ∈ l := by
  rw [front] at h
  split at h <;> exact List.mem_of_mem_take h

theorem mapM_map_ok {α β ε : Type} {f : α → β} {g : β → Except ε α} {l : List α}
    (h : ∀ a ∈ l, g (f a) = .ok a) : (l.map f).mapM g = .ok l := by
  induction l with
  | nil => rfl
  | cons a l ih =>
    rw [List.map_cons, List.mapM_cons, h a List.mem_cons_self,
      ih fun a ha => h a (List.mem_cons_of_mem _ ha)]
    rfl

theorem plainItems_of_storable {es : List Entry} (h : ∀ e ∈ es, e.Storable) :
    Json.PlainItems (es.map Entry.toJson) := by
  induction es with
  | nil => trivial
  | cons e es ih =>
    exact ⟨(h e List.mem_cons_self).plain, ih fun e he => h e (List.mem_cons_of_mem _ he)⟩

theorem nestingItems_toJson (es : List Entry) :
    Json.nestingItems (es.map Entry.toJson) ≤ 1 := by
  induction es with
  | nil => exact Nat.zero_le _
  | cons e es ih => exact Nat.max_le.2 ⟨Nat.le_refl 1, ih⟩

variable {h : History}

/-- **The text of a history gives its entries again,** as many as are asked for. -/
theorem ofText_toText (p : Path) (m : Int) (hes : ∀ e ∈ h.entries, e.Storable) (stack : Stack) :
    ofText p m h.toText stack = .ok ⟨m, front m h.entries⟩ := by
  have hread : Json.readRelaxed h.toText = .ok h.toJson :=
    Json.readRelaxed_pretty (plainItems_of_storable hes)
      (Nat.le_trans (Nat.succ_le_succ (nestingItems_toJson h.entries)) (by decide))
  have hitems : (front m (h.entries.map Entry.toJson)).mapM (fun item => readItem p item stack) =
      .ok (front m h.entries) := by
    rw [front_map]
    exact mapM_map_ok fun e he => readItem_toJson p (hes e (mem_of_mem_front he)).ident_ne stack
  rw [ofText, hread]
  dsimp only [Except.mapError, bind, Except.bind, toJson]
  rw [hitems]

theorem lasting_toText (h : History) : h.toText.all CodePoint.isLasting = true :=
  Json.lasting_pretty h.toJson

/-! ### Saving and loading -/

section Files

open FileTree

variable {t u v : FileTree} {p : Path}

theorem plant_eq_ok_iff {b : Bytes} :
    t.plant p b = .ok u ↔ ∃ v, t.makeFolders p.parent = .ok v ∧ v.writeBytes p b = .ok u := by
  rw [plant]
  cases t.makeFolders p.parent with
  | error e =>
    constructor
    · intro h
      cases h
    · rintro ⟨_, h, -⟩
      cases h
  | ok v =>
    constructor
    · exact fun h => ⟨v, rfl, h⟩
    · rintro ⟨_, h, hv⟩
      cases h
      exact hv

/-- A file that is there can be planted again. -/
theorem plant_of_file {b : Bytes} (hparent : checkPath p.parent = .ok ())
    (hp : t.placeOf p = .ok p.place) (hfile : t.at? p.place = some (.file b)) :
    ∃ u, t.plant p [] = .ok u :=
  ⟨_, plant_eq_ok_iff.2 ⟨t, makeFolders_parent hparent hp,
    writeBytes_eq_ok_iff.2 ⟨hp, by rw [hfile]; exact nofun, rfl⟩⟩⟩

/-- **A history is saved wherever a file can be planted,** and changes no other file. -/
theorem save_of_plant (h : History) (hplant : t.plant p [] = .ok u) :
    ∃ b v, Utf8.encode h.toText = some b ∧ h.save t p = .ok v ∧ v.placeOf p = .ok p.place ∧
      v.at? p.place = some (.file b) ∧ Alters (fun l c => l = p.place ∧ c = b) t v := by
  obtain ⟨w, hfolders, hwrite⟩ := plant_eq_ok_iff.1 hplant
  obtain ⟨hp, hl, -⟩ := writeBytes_eq_ok_iff.1 hwrite
  obtain ⟨b, hb⟩ := Utf8.exists_encode (Text.hasSurrogate_of_lasting (lasting_toText h))
  have hways := alters_makeFolders t p.parent
  rw [hfolders] at hways
  have hput := alters_put_file hl b
  refine ⟨b, _, hb, ?_, hput.placeOf hp, ?_, hways.of_noFile.trans hput⟩
  · rw [save, hfolders]
    exact writeText_eq_ok hp hl hb
  · rw [at?_put hl, if_pos rfl]

theorem plant_of_save (h : History) (hsave : h.save t p = .ok v) :
    ∃ u, t.plant p [] = .ok u := by
  rw [save] at hsave
  cases hfolders : t.makeFolders p.parent with
  | error e => rw [hfolders] at hsave; cases hsave
  | ok w =>
    rw [hfolders] at hsave
    dsimp only at hsave
    rcases writeText_cases w p h.toText with ⟨e, he⟩ | ⟨hp, hl, -⟩
    · rw [he] at hsave
      cases hsave
    · exact ⟨_, plant_eq_ok_iff.2 ⟨w, hfolders, writeBytes_eq_ok_iff.2 ⟨hp, hl, rfl⟩⟩⟩

/-- The file of a history is read as its text. -/
theorem readText_of_history {b : Bytes} (h : History) (hp : t.placeOf p = .ok p.place)
    (hfile : t.at? p.place = some (.file b)) (hb : Utf8.encode h.toText = some b) :
    t.readText p = .ok h.toText := by
  rw [readText_of_file hp hfile hb, Text.unifyNewlines_of_lasting (lasting_toText h)]

/-- The file of a history gives its entries again. -/
theorem load_of_history {b : Bytes} (h : History) (hes : ∀ e ∈ h.entries, e.Storable)
    (hp : t.placeOf p = .ok p.place) (hfile : t.at? p.place = some (.file b))
    (hb : Utf8.encode h.toText = some b) (m : Int) (stack : Stack) :
    load t p m stack = .ok ⟨m, front m h.entries⟩ := by
  rw [load, holds_of_file hp hfile, readText_of_history h hp hfile hb]
  exact ofText_toText p m hes stack

end Files

theorem mem_entries_after {size : Int} {cs : List Change} {e : Entry}
    (he : e ∈ ((empty size).after cs).entries) : .record e ∈ cs := by
  induction cs using List.reverseRecOn generalizing e with
  | nil => cases he
  | append_singleton cs c ih =>
    rw [after_concat] at he
    cases c with
    | clear => cases he
    | record d =>
      rcases List.mem_cons.1 (mem_of_mem_front he) with rfl | he
      · exact List.mem_append_right _ (List.mem_singleton.2 rfl)
      · exact List.mem_append_left _ (ih (List.mem_filter.1 he).1)

/-- **Saving and loading loses nothing.**  Whatever was recorded and cleared, the history is saved
wherever a file can be planted.  Its text is ASCII and not changed by unified line ends, and loading
the file gives the first `m` of its entries, whatever room there is on the stack. -/
theorem load_after_save (size : Int) (cs : List Change) (hcs : ∀ e, .record e ∈ cs → e.Storable)
    (files : FileTree) (p : Path) :
    let h := (empty size).after cs
    (∀ c ∈ h.toText, c.val < 0x80) ∧ h.toText.unifyNewlines = h.toText ∧
    ((∃ saved, h.save files p = .ok saved) ↔ ∃ planted, files.plant p [] = .ok planted) ∧
    ∀ saved, h.save files p = .ok saved →
      saved.readText p = .ok h.toText ∧
      ∀ (m : Nat) (stack : Stack), load saved p m stack = .ok ⟨m, h.entries.take m⟩ := by
  intro h
  refine ⟨fun c hc => ?_, Text.unifyNewlines_of_lasting (lasting_toText h), ?_, ?_⟩
  · have hlasting := List.all_eq_true.1 (lasting_toText h) c hc
    rw [CodePoint.isLasting, Bool.and_eq_true] at hlasting
    exact of_decide_eq_true hlasting.1
  · constructor
    · rintro ⟨saved, hsaved⟩
      exact plant_of_save h hsaved
    · rintro ⟨planted, hplanted⟩
      obtain ⟨-, saved, -, hsaved, -⟩ := save_of_plant h hplanted
      exact ⟨saved, hsaved⟩
  · intro saved hsaved
    obtain ⟨planted, hplanted⟩ := plant_of_save h hsaved
    obtain ⟨b, v, hb, hv, hp, hfile, -⟩ := save_of_plant h hplanted
    obtain rfl : saved = v := Except.ok.inj (hsaved.symm.trans hv)
    refine ⟨readText_of_history h hp hfile hb, fun m stack => ?_⟩
    rw [load_of_history h (fun e he => hcs e (mem_entries_after he)) hp hfile hb, front_of_nat]

/-- Two inputs with quotes, slashes, line ends and an astral code point, in a folder that is not
there yet. -/
theorem load_after_save_escapes :
    let e : Entry := ⟨"1a2b3c4d", "[\"\\/\x08\r\n\x7f\u00e9\ud7ff😀\"]", "type Root = string[];",
      Stamp.ofSeconds ⟨0⟩⟩
    let d : Entry := ⟨"5e6f7a8b", "", "x", Stamp.ofSeconds ⟨0⟩⟩
    ∃ saved, ((empty 50).after [.record e, .record d]).save default (Path.ofText "a/h.json") =
        .ok saved ∧
      load saved (Path.ofText "a/h.json") (1 : Nat) = .ok ⟨1, [d]⟩ := by
  intro e d
  have hstorable : ∀ x, Change.record x ∈ [.record e, .record d] → x.Storable := by
    intro x hx
    rcases List.mem_cons.1 hx with hx | hx
    · cases hx
      exact ⟨by decide, rfl, rfl, rfl, ⟨0⟩, rfl⟩
    · cases List.mem_singleton.1 hx
      exact ⟨by decide, rfl, rfl, rfl, ⟨0⟩, rfl⟩
  obtain ⟨-, -, hsave, hload⟩ :=
    load_after_save 50 [.record e, .record d] hstorable default (Path.ofText "a/h.json")
  obtain ⟨saved, hsaved⟩ := hsave.2 ⟨_, rfl⟩
  exact ⟨saved, hsaved, (hload saved hsaved).2 1 .standard⟩

end History

end JsonShape
