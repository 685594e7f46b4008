import JsonShape.File.Tree
import JsonShape.Proofs.Answers
import JsonShape.Proofs.Text.Utf8

/-!
# What operations leave of a file tree

A path leads to one place, whatever tree it is taken in (`placeOf_eq`).  No operation takes a folder
or a file away, and what it may change is the files at the places that it is allowed to
(`Alters`); making folders changes no file at all.
-/

namespace JsonShape

/-- The place that a path leads to, if it leads anywhere. -/
def Path.place (p : Path) : Place := p.parts.foldl FileTree.step (FileTree.start p)

namespace FileTree

variable {t u : FileTree} {p : Path} {l k : Place}

/-! ### Places -/

/-- Only what stands at the place itself is changed. -/
theorem at?_put {n : FileNode} (h : t.at? l ≠ some .folder) (k : Place) :
    (t.put l n).at? k = if k = l then some n else t.at? k := by
  have hup : ¬ l.all (· = up) = true := fun hup => h (if_pos hup)
  rw [at?, at?, put, OrderedMap.get?_insert]
  by_cases hk : k = l
  · rw [if_pos hk, if_pos hk, if_neg (hk ▸ hup)]
  · rw [if_neg hk, if_neg hk]

theorem walk_eq {parts : List Text} (h : t.walk l parts = .ok k) : k = parts.foldl step l := by
  induction parts generalizing l with
  | nil => exact (Except.ok.inj h).symm
  | cons part rest ih =>
    rw [walk] at h
    split at h
    · split at h
      · cases h
      · exact ih h
    · cases h
    · cases h

theorem placeOf_eq_ok_iff :
    t.placeOf p = .ok k ↔ checkPath p = .ok () ∧ t.walk (start p) p.parts = .ok k := by
  rw [placeOf]
  cases checkPath p with
  | error e => exact ⟨fun h => (nomatch h), fun h => nomatch h.1⟩
  | ok _ => exact ⟨fun h => ⟨rfl, h⟩, fun h => h.2⟩

/-- A path leads to its own place and to no other. -/
theorem placeOf_eq (h : t.placeOf p = .ok k) : k = p.place := walk_eq (placeOf_eq_ok_iff.1 h).2

/-- A way through folders stays where the folders stay. -/
theorem walk_of_folders (hfolder : ∀ l, t.at? l = some .folder → u.at? l = some .folder)
    {parts : List Text} (h : t.walk l parts = .ok k) : u.walk l parts = .ok k := by
  induction parts generalizing l with
  | nil => exact h
  | cons part rest ih =>
    rw [walk] at h ⊢
    split at h
    · next hl =>
      rw [hfolder l hl]
      split at h
      · cases h
      · next hsize =>
        dsimp only
        rw [if_neg hsize]
        exact ih h
    · cases h
    · cases h

/-! ### Changes -/

/-- One tree comes from another by changes of files that `may` allows: folders stay and may be
added, no file is lost, and a file is one that was there or one that is allowed. -/
structure Alters (may : Place → Bytes → Prop) (t u : FileTree) : Prop where
  folder : ∀ l, t.at? l = some .folder → u.at? l = some .folder
  file : ∀ l b, t.at? l = some (.file b) → ∃ c, u.at? l = some (.file c)
  allowed : ∀ l b, u.at? l = some (.file b) → t.at? l = some (.file b) ∨ may l b

/-- No file is allowed to change. -/
def noFile (_ : Place) (_ : Bytes) : Prop := False

namespace Alters

variable {may may' : Place → Bytes → Prop} {v : FileTree}

theorem refl (may : Place → Bytes → Prop) (t : FileTree) : Alters may t t :=
  ⟨fun _ h => h, fun _ b h => ⟨b, h⟩, fun _ _ h => Or.inl h⟩

theorem trans (h : Alters may t u) (h' : Alters may u v) : Alters may t v where
  folder l hl := h'.folder l (h.folder l hl)
  file l b hl := by
    obtain ⟨c, hc⟩ := h.file l b hl
    exact h'.file l c hc
  allowed l b hl := by
    rcases h'.allowed l b hl with hl | hl
    · exact h.allowed l b hl
    · exact Or.inr hl

theorem mono (h : Alters may t u) (hmay : ∀ l b, may l b → may' l b) : Alters may' t u :=
  ⟨h.folder, h.file, fun l b hl => (h.allowed l b hl).imp_right (hmay l b)⟩

theorem of_noFile (h : Alters noFile t u) : Alters may t u := h.mono fun _ _ hl => hl.elim

/-- A file at a place where nothing is allowed to change is kept. -/
theorem kept (h : Alters may t u) (hl : ∀ b, ¬ may l b) (b : Bytes) :
    u.at? l = some (.file b) ↔ t.at? l = some (.file b) := by
  constructor
  · exact fun hu => (h.allowed l b hu).resolve_right (hl b)
  · intro ht
    obtain ⟨c, hc⟩ := h.file l b ht
    have hback := (h.allowed l c hc).resolve_right (hl c)
    rw [ht] at hback
    rw [hc, hback]

theorem placeOf (h : Alters may t u) (hp : t.placeOf p = .ok k) : u.placeOf p = .ok k :=
  have hp := placeOf_eq_ok_iff.1 hp
  placeOf_eq_ok_iff.2 ⟨hp.1, walk_of_folders h.folder hp.2⟩

end Alters

/-- The tree that an operation leaves, whether it is refused or not. -/
def left : Except (FileError × FileTree) FileTree → FileTree
  | .ok t => t
  | .error e => e.2

/-- A folder is put where nothing stands. -/
theorem alters_put_folder (h : t.at? l = none) : Alters noFile t (t.put l .folder) := by
  have hput := at?_put (n := .folder) (l := l) (t := t) (by rw [h]; exact nofun)
  refine ⟨fun k hk => ?_, fun k b hk => ⟨b, ?_⟩, fun k b hk => Or.inl ?_⟩
  · rw [hput]
    split
    · rfl
    · exact hk
  · rw [hput, if_neg fun he => ?_, hk]
    rw [he, h] at hk
    cases hk
  · rw [hput] at hk
    split at hk
    · cases hk
    · exact hk

/-- A file is put where no folder stands. -/
theorem alters_put_file (h : t.at? l ≠ some .folder) (b : Bytes) :
    Alters (fun k c => k = l ∧ c = b) t (t.put l (.file b)) := by
  refine ⟨fun k hk => ?_, fun k c hk => ?_, fun k c hk => ?_⟩
  · rw [at?_put h, if_neg fun he : k = l => h (he ▸ hk), hk]
  · rw [at?_put h]
    split
    · exact ⟨b, rfl⟩
    · exact ⟨c, hk⟩
  · rw [at?_put h] at hk
    split at hk
    · next he =>
      cases hk
      exact Or.inr ⟨he, rfl⟩
    · exact Or.inl hk

/-! ### Folders -/

theorem alters_makeWay (l : Place) (parts : List Text) :
    Alters noFile t (left (t.makeWay l parts)) := by
  induction parts generalizing t l with
  | nil => exact .refl _ t
  | cons part rest ih =>
    rw [makeWay]
    split
    · exact .refl _ t
    · dsimp only
      split
      · exact ih _
      · exact .refl _ t
      · next hnone => exact (alters_put_folder hnone).trans (ih _)

/-- **Making folders changes no file.** -/
theorem alters_makeFolders (t : FileTree) (p : Path) :
    Alters noFile t (left (t.makeFolders p)) := by
  rw [makeFolders]
  split
  · exact .refl _ t
  · exact alters_makeWay _ _

/-- Folders are made, or that is refused and some may be made already. -/
theorem makeFolders_cases (t : FileTree) (p : Path) :
    (∃ e u, t.makeFolders p = .error (e, u) ∧ Alters noFile t u) ∨
      ∃ u, t.makeFolders p = .ok u ∧ Alters noFile t u := by
  have hfolders := alters_makeFolders t p
  cases h : t.makeFolders p with
  | error e =>
    rw [h] at hfolders
    exact Or.inl ⟨e.1, e.2, rfl, hfolders⟩
  | ok u =>
    rw [h] at hfolders
    exact Or.inr ⟨u, rfl, hfolders⟩

theorem makeWay_of_walk {parts : List Text} (h : t.walk l parts = .ok k) :
    t.makeWay l parts.dropLast = .ok t := by
  induction parts generalizing l with
  | nil => rfl
  | cons part rest ih =>
    cases rest with
    | nil => rfl
    | cons next rest =>
      rw [walk] at h
      split at h
      · split at h
        · cases h
        · next hsize =>
          have hthere : t.at? (step l part) = some .folder := by
            rw [walk] at h
            split at h
            · next hl => exact hl
            · cases h
            · cases h
          rw [List.dropLast_cons_of_ne_nil (List.cons_ne_nil _ _), makeWay, if_neg hsize]
          dsimp only
          rw [hthere]
          exact ih h
      · cases h
      · cases h

theorem checkPath_of_makeFolders (h : t.makeFolders p = .ok u) : checkPath p = .ok () := by
  rw [makeFolders] at h
  split at h
  · cases h
  · next hp => exact hp

/-- No folder is missing on the way to a path that leads somewhere. -/
theorem makeFolders_parent (hp : checkPath p.parent = .ok ()) (h : t.placeOf p = .ok k) :
    t.makeFolders p.parent = .ok t := by
  rw [makeFolders, hp]
  exact makeWay_of_walk (placeOf_eq_ok_iff.1 h).2

/-! ### Files -/

theorem writeBytes_eq_ok_iff {b : Bytes} :
    t.writeBytes p b = .ok u ↔
      t.placeOf p = .ok p.place ∧ t.at? p.place ≠ some .folder ∧ u = t.put p.place (.file b) := by
  rw [writeBytes]
  cases hp : t.placeOf p with
  | error e => exact ⟨fun h => (nomatch h), fun h => nomatch h.1⟩
  | ok l =>
    obtain rfl := placeOf_eq hp
    dsimp only [bind, Except.bind]
    split
    · next hl => exact ⟨fun h => (nomatch h), fun h => absurd hl h.2.1⟩
    · next hl => exact ⟨fun h => ⟨rfl, hl, (Except.ok.inj h).symm⟩, fun h => congrArg _ h.2.2.symm⟩

/-- **A written text is there,** if a file may stand where the path leads. -/
theorem writeText_eq_ok {s : Text} {b : Bytes} (hp : t.placeOf p = .ok p.place)
    (hl : t.at? p.place ≠ some .folder) (hs : Utf8.encode s = some b) :
    t.writeText p s = .ok (t.put p.place (.file b)) := by
  have hwrite (b : Bytes) : t.writeBytes p b = .ok (t.put p.place (.file b)) :=
    writeBytes_eq_ok_iff.2 ⟨hp, hl, rfl⟩
  rw [writeText, hwrite, hs]
  dsimp only
  rw [hwrite]

/-- A text is not written at all, or it cannot be encoded and leaves an empty file, or it is
written. -/
theorem writeText_cases (t : FileTree) (p : Path) (s : Text) :
    (∃ e, t.writeText p s = .error (e, t)) ∨
    (t.placeOf p = .ok p.place ∧ t.at? p.place ≠ some .folder ∧
      ((s.hasSurrogate = true ∧
          t.writeText p s = .error (.unencodable, t.put p.place (.file []))) ∨
        ∃ b, Utf8.encode s = some b ∧ t.writeText p s = .ok (t.put p.place (.file b)))) := by
  cases hempty : t.writeBytes p [] with
  | error e => exact Or.inl ⟨e, by rw [writeText, hempty]⟩
  | ok emptied =>
    obtain ⟨hp, hl, rfl⟩ := writeBytes_eq_ok_iff.1 hempty
    refine Or.inr ⟨hp, hl, ?_⟩
    cases hs : Utf8.encode s with
    | none => exact Or.inl ⟨Utf8.encode_eq_none_iff.1 hs, by rw [writeText, hempty, hs]⟩
    | some b => exact Or.inr ⟨b, rfl, writeText_eq_ok hp hl hs⟩

/-! ### Reading -/

theorem readBytes_of_file {b : Bytes} (hp : t.placeOf p = .ok k) (hk : t.at? k = some (.file b)) :
    t.readBytes p = .ok b := by
  simp only [readBytes, look, hp, bind, Except.bind, hk]

theorem holds_of_file {b : Bytes} (hp : t.placeOf p = .ok k) (hk : t.at? k = some (.file b)) :
    t.holds p = .ok true := by
  simp only [holds, look, hp, bind, Except.bind, hk]

/-- **A file that holds a text is read as the text,** with unified line ends. -/
theorem readText_of_file {s : Text} {b : Bytes} (hp : t.placeOf p = .ok k)
    (hk : t.at? k = some (.file b)) (hs : Utf8.encode s = some b) :
    t.readText p = .ok s.unifyNewlines := by
  rw [readText, readBytes_of_file hp hk]
  dsimp only
  rw [Utf8.decode_encode hs]

/-- **Reading a file** fails only if its bytes are no UTF-8. -/
theorem readText_of_look {b : Bytes} (h : t.look p = .ok (.file b)) :
    t.readText p =
      match Utf8.decode b with
      | some s => .ok s.unifyNewlines
      | none => .error .undecodable := by
  cases hs : Utf8.decode b <;> simp only [readText, readBytes, h, hs]

/-- How a file that is read and then looked at can fail badly, if bytes that are no UTF-8 are no bad
failure. -/
theorem error_readText_bind_iff {α ε : Type} {b : Bytes} {f : Text → Except ε α} {g : FileError → ε}
    {bad : ε → Prop} (h : t.look p = .ok (.file b)) (hg : ¬ bad (g .undecodable)) :
    (∃ e, ((t.readText p).mapError g >>= f) = .error e ∧ bad e) ↔
      ∃ s, Utf8.decode b = some s ∧ ∃ e, f s.unifyNewlines = .error e ∧ bad e := by
  rw [readText_of_look h]
  cases Utf8.decode b with
  | none =>
    refine iff_of_false ?_ nofun
    rintro ⟨_, ⟨⟩, hbad⟩
    exact hg hbad
  | some s =>
    constructor
    · exact fun hfails => ⟨s, rfl, hfails⟩
    · rintro ⟨_, ⟨⟩, hfails⟩
      exact hfails

/-- What is read has no surrogate. -/
theorem hasSurrogate_of_readText {s : Text} (h : t.readText p = .ok s) :
    s.hasSurrogate = false := by
  rw [readText] at h
  split at h
  · cases h
  · split at h
    · next b s hs =>
      cases h
      exact Text.hasSurrogate_unifyNewlines (Utf8.hasSurrogate_of_decode hs)
    · cases h

/-! ### Paths for files -/

/-- A file can be written at the path: its folder is there, no folder is in its place, and the path
is one that a file system takes. -/
structure Writable (t : FileTree) (p : Path) : Prop where
  folder : t.look p.parent = .ok .folder
  path : checkPath p = .ok ()
  part : byteSize p.name ≤ maxPartSize
  free : t.look p ≠ .ok .folder

theorem look_eq_ok_iff {n : FileNode} :
    t.look p = .ok n ↔ t.placeOf p = .ok p.place ∧ t.at? p.place = some n := by
  rw [look]
  cases hp : t.placeOf p with
  | error e => exact ⟨fun h => (nomatch h), fun h => nomatch h.1⟩
  | ok l =>
    obtain rfl := placeOf_eq hp
    dsimp only [bind, Except.bind]
    split
    · next hn => rw [hn]; exact ⟨fun h => ⟨rfl, congrArg some (Except.ok.inj h)⟩,
        fun h => congrArg Except.ok (Option.some.inj h.2)⟩
    · next hn => rw [hn]; exact ⟨fun h => (nomatch h), fun h => nomatch h.2⟩

theorem walk_concat {parts : List Text} {part : Text} (h : t.walk l parts = .ok k)
    (hfolder : t.at? k = some .folder) (hpart : byteSize part ≤ maxPartSize) :
    t.walk l (parts ++ [part]) = .ok (step k part) := by
  induction parts generalizing l with
  | nil =>
    obtain rfl := Except.ok.inj h
    rw [List.nil_append, walk, hfolder]
    dsimp only
    rw [if_neg (Nat.not_lt.2 hpart), walk]
  | cons next rest ih =>
    rw [walk] at h
    rw [List.cons_append, walk]
    split at h
    · split at h
      · cases h
      · next hsize => rw [if_neg hsize]; exact ih h
    · cases h
    · cases h

namespace Writable

theorem placeOf (h : t.Writable p) : t.placeOf p = .ok p.place := by
  obtain ⟨hparent, hfolder⟩ := look_eq_ok_iff.1 h.folder
  have hne : p.parts ≠ [] := by
    intro hnil
    have hself : p.parent = p := by
      obtain ⟨root, parts⟩ := p
      obtain rfl : parts = [] := hnil
      rfl
    exact h.free (hself ▸ h.folder)
  have hname : p.name = p.parts.getLast hne := by
    rw [Path.name, List.getLast?_eq_some_getLast hne]
    rfl
  have hwalk := walk_concat (placeOf_eq_ok_iff.1 hparent).2 hfolder h.part
  have hparts : p.parent.parts ++ [p.name] = p.parts := by
    rw [hname]
    exact List.dropLast_concat_getLast hne
  rw [hparts] at hwalk
  have hplace := placeOf_eq_ok_iff.2 ⟨h.path, hwalk⟩
  rw [placeOf_eq hplace] at hplace
  exact hplace

theorem not_folder (h : t.Writable p) : t.at? p.place ≠ some .folder :=
  fun hfolder => h.free (look_eq_ok_iff.2 ⟨h.placeOf, hfolder⟩)

/-- **What is written is read again,** if a file keeps it as it is. -/
theorem readText_writeText (h : t.Writable p) {s : Text}
    (hs : s.all CodePoint.isLasting = true) :
    ∃ u, t.writeText p s = .ok u ∧ u.readText p = .ok s := by
  obtain ⟨b, hb⟩ := Utf8.exists_encode (Text.hasSurrogate_of_lasting hs)
  have hput := alters_put_file h.not_folder b
  refine ⟨_, writeText_eq_ok h.placeOf h.not_folder hb, ?_⟩
  rw [readText_of_file (hput.placeOf h.placeOf) ?_ hb, Text.unifyNewlines_of_lasting hs]
  rw [at?_put h.not_folder, if_pos rfl]

end Writable

end FileTree

end JsonShape
