import JsonShape.Proofs.Command.Files
import JsonShape.Proofs.Terminal.Escape
import JsonShape.Proofs.Terminal.Printing

/-!
# What a failing command leaves

A command that finds itself misused or reports a failure has not touched the files.  One that is
stopped by something it does not handle may be stopped late: a conversion records what it has
converted before it delivers it, and whatever has been written stays.  `Excused` lists the files
that this is about, and `files_of_failure` says that no other file changes.
-/

namespace JsonShape

namespace Ending

/-- What is said once options are written. -/
def optionsWritten (p : Path) : Text :=
  "[bold green]Options written:[/] " ++ Markup.escape p.text

theorem exists_shown_declarationsWritten (p : Path) :
    ∃ s, Markup.shown (declarationsWritten p) = .ok s ∧ Markup.HasGoodColours s :=
  @Markup.exists_shown_escape _ "bold green" "Declarations written:" rfl rfl (by decide +kernel)
    (by decide +kernel) (by decide) p.text

theorem exists_shown_optionsWritten (p : Path) :
    ∃ s, Markup.shown (optionsWritten p) = .ok s ∧ Markup.HasGoodColours s :=
  @Markup.exists_shown_escape _ "bold green" "Options written:" rfl rfl (by decide +kernel)
    (by decide +kernel) (by decide) p.text

/-- The number of entries that were removed can always be announced. -/
theorem announce_removed (n : Nat) :
    ∃ t, announce ("[bold]Removed:[/] " ++ Numeral.ofNat n ++ " entries") = .printed t := by
  have hall : (Text.ofString " " ++ (Numeral.ofNat n ++ Text.ofString " entries")).all
      (fun c => c ≠ '[' && c ≠ ':' && !c.isSurrogate) = true := by
    rw [List.all_append, List.all_append, Numeral.all_ofNat (by decide)]
    rfl
  simp only [List.all_eq_true, Bool.and_eq_true, decide_eq_true_eq, Bool.not_eq_true'] at hall
  obtain ⟨s, hshown, hgood, htext⟩ := @Markup.shown_of_no_bracket _ "bold" "Removed:" rfl rfl
    (by decide +kernel) (by decide +kernel) (by decide)
    (Numeral.ofNat n ++ " entries") fun c hc => (hall c (List.mem_append_right _ hc)).1.1
  have hlabel : (Markup.visible "Removed:").hasSurrogate = false := by decide +kernel
  have hcount := Markup.forall_mem_visible (fun c hc => (hall c hc).1.2) fun c hc => (hall c hc).2
  have hsurrogate : s.text.hasSurrogate = false := by
    rw [htext, Text.hasSurrogate_eq_false_iff]
    exact List.forall_mem_append.2 ⟨Text.hasSurrogate_eq_false_iff.1 hlabel, hcount⟩
  rw [List.append_assoc]
  exact exists_announce hshown hgood hsurrogate

end Ending

namespace Command

open FileTree Ending

variable {files after : FileTree} {s : Surroundings} {args : List Text}

/-! ### Writing -/

/-- A text without surrogates is written as a whole, or not at all. -/
theorem writeText_of_encodable (files : FileTree) (p : Path) {t : Text}
    (ht : t.hasSurrogate = false) :
    (∃ e, files.writeText p t = .error (e, files)) ∨
      ∃ b, Utf8.encode t = some b ∧ files.writeText p t = .ok (files.put p.place (.file b)) ∧
        files.at? p.place ≠ some .folder := by
  rcases writeText_cases files p t with h | ⟨-, hl, ⟨hs, -⟩ | ⟨b, hb, h⟩⟩
  · exact Or.inl h
  · rw [ht] at hs
    cases hs
  · exact Or.inr ⟨b, hb, h, hl⟩

/-- A history that is not saved leaves all files. -/
theorem alters_of_save_error {h : History} {p : Path} {e : FileError}
    (hsave : h.save files p = .error (e, after)) : Alters noFile files after := by
  rw [History.save] at hsave
  rcases makeFolders_cases files p.parent with ⟨f, u, hways, hfolders⟩ | ⟨ways, hways, hfolders⟩ <;>
    rw [hways] at hsave
  · cases hsave
    exact hfolders
  · dsimp only at hsave
    rcases writeText_of_encodable ways p
      (Text.hasSurrogate_of_lasting (History.lasting_toText h)) with ⟨f, hf⟩ | ⟨b, -, hb, -⟩
    · rw [hf] at hsave
      cases hsave
      exact hfolders
    · rw [hb] at hsave
      cases hsave

/-! ### Delivering -/

/-- Declarations that are not delivered: their file is emptied where they have a surrogate, and
holds them where it cannot be announced; otherwise it is as it was. -/
theorem writeDeclarations_of_failure {p : Path} {output : Text} {recorded : Bool}
    (h : (writeDeclarations files p output recorded).ending.status ≠ 0) :
    (∃ c, (writeDeclarations files p output recorded).ending = .crashed c) ∧
    Alters (fun l b => l = p.place ∧
        ((output ++ Text.ofString "\n").hasSurrogate = true ∧ b = [] ∨
          Utf8.encode (output ++ Text.ofString "\n") = some b ∧
            Unprintable (declarationsWritten p)))
      files (writeDeclarations files p output recorded).files := by
  rcases writeDeclarations_cases files p output recorded with
    ⟨e, after, hrun, hfiles⟩ | ⟨b, after, hb, hrun, hfiles⟩ <;> rw [hrun] at h ⊢
  · exact ⟨⟨_, rfl⟩, hfiles.mono fun l b hl => ⟨hl.1, Or.inl hl.2⟩⟩
  · obtain ⟨hcrashed, hunprintable⟩ :=
      unprintable_of_announce (exists_shown_declarationsWritten p) h
    exact ⟨hcrashed, hfiles.mono fun l c hl => ⟨hl.1, Or.inr ⟨hl.2 ▸ hb, hunprintable⟩⟩⟩

/-! ### Excuses -/

/-- What a failing command may leave at a place. -/
inductive Excused (files : FileTree) (s : Surroundings) : Command → Place → Bytes → Prop
  /-- A conversion with an output is recorded before it is delivered. -/
  | recorded {r : ConvertRequest} {t output : Text} {p : Path} {h : History} {b : Bytes}
    (hc : converted? files s r = some (t, output))
    (hstore : requestHistory files s r = .ok (some (p, h)))
    (hb : Utf8.encode (h.record ⟨s.ident, t, output, Stamp.ofSeconds s.now⟩).toText = some b) :
    Excused files s (.convert r) p.place b
  /-- Declarations with a surrogate leave an empty file. -/
  | emptied {r : ConvertRequest} {t output : Text} {p : Path}
    (hc : converted? files s r = some (t, output)) (hout : r.out = some p)
    (hs : (output ++ Text.ofString "\n").hasSurrogate = true) :
    Excused files s (.convert r) p.place []
  /-- Declarations are written before that is announced. -/
  | written {r : ConvertRequest} {t output : Text} {p : Path} {b : Bytes}
    (hc : converted? files s r = some (t, output)) (hout : r.out = some p)
    (hb : Utf8.encode (output ++ Text.ofString "\n") = some b)
    (hannounce : Unprintable (declarationsWritten p)) : Excused files s (.convert r) p.place b
  /-- Options are written before that is announced. -/
  | options {p : Path} {b : Bytes} (hb : Utf8.encode (Options.standard.toText p) = some b)
    (hannounce : Unprintable (optionsWritten p)) : Excused files s (.initConfig p) p.place b

/-- What is not delivered is delivered to nothing else than the file for it. -/
theorem deliver_of_failure {r : ConvertRequest} {t output : Text} {recorded : Bool}
    {saved : FileTree} (hc : converted? files s r = some (t, output))
    (h : (deliver saved r.out output recorded).ending.status ≠ 0) :
    (∃ c, (deliver saved r.out output recorded).ending = .crashed c) ∧
    Alters (Excused files s (.convert r)) saved (deliver saved r.out output recorded).files := by
  cases hout : r.out with
  | none =>
    rw [hout] at h
    exact ⟨crashed_of_print h, .refl _ saved⟩
  | some p =>
    rw [hout] at h
    obtain ⟨hcrashed, hfiles⟩ := writeDeclarations_of_failure h
    refine ⟨hcrashed, hfiles.mono ?_⟩
    rintro l b ⟨rfl, ⟨hs, rfl⟩ | ⟨hb, hannounce⟩⟩
    · exact .emptied hc hout hs
    · exact .written hc hout hb hannounce

/-! ### The commands -/

/-- What a failure leaves: it is not handled, or nothing has happened to the files. -/
def LeavesExcused (files : FileTree) (s : Surroundings) (c : Command) (report : Report) : Prop :=
  ((∃ cause, report.ending = .crashed cause) ∨ report.files = files) ∧
    Alters (Excused files s c) files report.files

theorem leavesExcused_of_files {c : Command} {report : Report} (h : report.files = files) :
    LeavesExcused files s c report :=
  ⟨Or.inr h, h ▸ .refl _ _⟩

theorem runConvert_of_failure {r : ConvertRequest}
    (h : (runConvert files s r).ending.status ≠ 0) :
    LeavesExcused files s (.convert r) (runConvert files s r) := by
  rcases runConvert_cases files s r with hsame | ⟨t, output, store, hc, hstore, hrun⟩
  · exact leavesExcused_of_files hsame
  · rw [hrun] at h ⊢
    cases store with
    | none =>
      obtain ⟨hcrashed, hfiles⟩ := deliver_of_failure hc h
      exact ⟨Or.inl hcrashed, hfiles⟩
    | some found =>
      obtain ⟨p, history⟩ := found
      rw [finish] at h ⊢
      cases hsave : (history.record ⟨s.ident, t, output, Stamp.ofSeconds s.now⟩).save files p with
      | error e =>
        exact ⟨Or.inl ⟨_, rfl⟩, (alters_of_save_error hsave).of_noFile⟩
      | ok saved =>
        rw [hsave] at h
        obtain ⟨planted, hplanted⟩ := History.plant_of_save _ hsave
        obtain ⟨b, v, hb, hv, -, -, hfiles⟩ := History.save_of_plant
          (history.record ⟨s.ident, t, output, Stamp.ofSeconds s.now⟩) hplanted
        obtain rfl : saved = v := Except.ok.inj (hsave.symm.trans hv)
        obtain ⟨hcrashed, hdelivered⟩ := deliver_of_failure hc h
        refine ⟨Or.inl hcrashed, Alters.trans (hfiles.mono ?_) hdelivered⟩
        rintro l c ⟨rfl, rfl⟩
        exact .recorded hc hstore hb

theorem hasSurrogate_standard (p : Path) : (Options.standard.toText p).hasSurrogate = false := by
  rw [Options.toText]
  split <;> decide +kernel

theorem runInitConfig_of_failure {p : Path} (h : (runInitConfig files p).ending.status ≠ 0) :
    LeavesExcused files s (.initConfig p) (runInitConfig files p) := by
  rw [runInitConfig] at h ⊢
  rcases makeFolders_cases files p.parent with ⟨e, u, hways, hfolders⟩ | ⟨ways, hways, hfolders⟩ <;>
    rw [hways] at h ⊢
  · exact ⟨Or.inl ⟨_, rfl⟩, hfolders.of_noFile⟩
  · dsimp only at h ⊢
    rw [Options.save] at h ⊢
    rcases writeText_of_encodable ways p (hasSurrogate_standard p) with
      ⟨e, hwrite⟩ | ⟨b, hb, hwrite, hl⟩ <;> rw [hwrite] at h ⊢
    · exact ⟨Or.inl ⟨_, rfl⟩, hfolders.of_noFile⟩
    · obtain ⟨hcrashed, hunprintable⟩ := unprintable_of_announce (exists_shown_optionsWritten p) h
      refine ⟨Or.inl hcrashed, hfolders.of_noFile.trans ((alters_put_file hl b).mono ?_)⟩
      rintro l c ⟨rfl, rfl⟩
      exact .options hb hunprintable

theorem runHistoryClear_of_failure {p : Path}
    (h : (runHistoryClear files s p).ending.status ≠ 0) :
    LeavesExcused files s (.historyClear p) (runHistoryClear files s p) := by
  rw [runHistoryClear] at h ⊢
  cases hread : readHistory files s p with
  | error e => exact leavesExcused_of_files rfl
  | ok history =>
    rw [hread] at h
    dsimp only at h ⊢
    cases hsave : history.clear.save files p with
    | error e => exact ⟨Or.inl ⟨_, rfl⟩, (alters_of_save_error hsave).of_noFile⟩
    | ok saved =>
      rw [hsave] at h
      obtain ⟨t, ht⟩ := announce_removed history.entries.length
      dsimp only at h
      rw [ht] at h
      exact absurd rfl h

/-- Any command that fails leaves what it is excused for. -/
theorem run_of_failure {c : Command} (h : (c.run files s).ending.status ≠ 0) :
    LeavesExcused files s c (c.run files s) := by
  cases c with
  | version => exact leavesExcused_of_files rfl
  | convert r => exact runConvert_of_failure h
  | initConfig p => exact runInitConfig_of_failure h
  | history p =>
    refine leavesExcused_of_files ?_
    change (runHistory files s p).files = files
    rw [runHistory]
    split <;> rfl
  | historyShow p ident =>
    refine leavesExcused_of_files ?_
    change (runHistoryShow files s p ident).files = files
    rw [runHistoryShow]
    split
    · rfl
    · split <;> rfl
  | historyClear p => exact runHistoryClear_of_failure h

/-- No file is lost, none is new, and each has the same content. -/
def SameFiles (files after : FileTree) : Prop :=
  ∀ l b, after.at? l = some (.file b) ↔ files.at? l = some (.file b)

/-- It is not so that a failing command never changes a file: a conversion whose declarations cannot
be written, because a folder stands in their place, has been recorded. -/
theorem not_sameFiles_of_failure :
    ¬ ∀ (files : FileTree) (s : Surroundings) (args : List Text),
      (runArgs files s args).ending.status ≠ 0 → SameFiles files (runArgs files s args).files := by
  intro h
  have hsame := h (FileTree.put default ["d"] .folder)
    { input := [0x5B, 0x5D], now := ⟨0⟩, ident := "a" }
    ["convert", "--history", "h.json", "--out", "d"] (by decide +kernel)
  have hnew := (hsame ["h.json"] ((Utf8.encode (Text.join "\n" ["[", "  \x7b", "    \"id\": \"a\",",
    "    \"input\": \"[]\",", "    \"output\": \"type Root = unknown[];\",",
    "    \"timestamp\": 0", "  \x7d", "]"])).getD [])).1 (by decide +kernel)
  cases hnew

/-- **What a failing command leaves.**  After a misuse or a reported failure the files are as they
were.  A command that is stopped by something it does not handle loses no file, and every file holds
what it held, or what the command is excused for. -/
theorem files_of_failure (h : (runArgs files s args).ending.status ≠ 0) :
    ((∀ cause, (runArgs files s args).ending ≠ .crashed cause) →
      (runArgs files s args).files = files) ∧
    Alters (fun l b => ∃ c, asked? files args = some c ∧ Excused files s c l b) files
      (runArgs files s args).files := by
  cases hasked : asked? files args with
  | none =>
    rw [(runArgs_of_not_asked hasked).1]
    exact ⟨fun _ => rfl, .refl _ files⟩
  | some c =>
    rw [runArgs_of_asked hasked] at h ⊢
    obtain ⟨hcrashed | hsame, hfiles⟩ := run_of_failure h
    · obtain ⟨cause, hcause⟩ := hcrashed
      exact ⟨fun hnot => absurd hcause (hnot cause), hfiles.mono fun l b hb => ⟨c, rfl, hb⟩⟩
    · exact ⟨fun _ => hsame, hfiles.mono fun l b hb => ⟨c, rfl, hb⟩⟩

/-- The conversion that could not be written: its history is new, and nothing else. -/
theorem files_of_failure_folder :
    let files := FileTree.put default ["d"] .folder
    let args : List Text := ["convert", "--history", "h.json", "--out", "d"]
    let s : Surroundings := { input := [0x5B, 0x5D], now := ⟨0⟩, ident := "a" }
    (runArgs files s args).ending.status = 1 ∧
      Alters (fun l b => ∃ c, asked? files args = some c ∧ Excused files s c l b) files
        (runArgs files s args).files := by
  intro files args s
  have hstatus : (runArgs files s args).ending.status = 1 := by decide +kernel
  exact ⟨hstatus, (files_of_failure (by rw [hstatus]; decide)).2⟩

end Command

end JsonShape
