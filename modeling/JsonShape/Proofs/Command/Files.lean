import JsonShape.Command.Run
import JsonShape.Proofs.History.File

/-!
# What a conversion does to the files

A command runs if its arguments ask for one and their paths can be looked at (`asked?`).  A
conversion that has an output (`converted?`) writes to two files at most: the history it records it
in, and the file of its declarations (`alters_deliver`).
-/

namespace JsonShape

/-- What is said once declarations are written. -/
def Ending.declarationsWritten (p : Path) : Text :=
  "[bold green]Declarations written:[/] " ++ Markup.escape p.text

namespace Command

open FileTree

variable {files : FileTree} {s : Surroundings} {args : List Text}

/-! ### Arguments -/

/-- The command that arguments ask for, unless one of their paths is refused. -/
def asked? (files : FileTree) (args : List Text) : Option Command :=
  (ofArgs args).bind fun r =>
    if (r.paths.findSome? (·.refusal? files)).isSome then none else r.request?

theorem runArgs_of_asked {c : Command} (h : asked? files args = some c) :
    runArgs files s args = c.run files s := by
  rw [asked?, Option.bind_eq_some_iff] at h
  obtain ⟨r, hr, h⟩ := h
  split at h
  · cases h
  · next hpaths =>
    rw [Bool.not_eq_true, Option.isSome_eq_false_iff, Option.isNone_iff_eq_none] at hpaths
    rw [runArgs, hr, Reading.run, hpaths, h]

theorem status_refusal? {p : SpelledPath} {e : Ending} (h : p.refusal? files = some e) :
    e.status ≠ 0 := by
  rw [SpelledPath.refusal?] at h
  split at h
  · cases h
    decide
  split at h
  · cases h
    exact (by decide : (2 : Nat) ≠ 0)
  · cases h

/-- Where nothing is asked for, nothing is done, and the status says so. -/
theorem runArgs_of_not_asked (h : asked? files args = none) :
    (runArgs files s args).files = files ∧ (runArgs files s args).ending.status ≠ 0 := by
  rw [asked?, Option.bind_eq_none_iff] at h
  rw [runArgs]
  cases hr : ofArgs args with
  | none => exact ⟨rfl, (by decide : (2 : Nat) ≠ 0)⟩
  | some r =>
    rw [Reading.run]
    cases hpaths : r.paths.findSome? (·.refusal? files) with
    | some e =>
      obtain ⟨p, -, hp⟩ := List.exists_of_findSome?_eq_some hpaths
      exact ⟨rfl, status_refusal? hp⟩
    | none =>
      have hrequest := h r hr
      rw [hpaths, if_neg (by decide)] at hrequest
      rw [hrequest]
      exact ⟨rfl, (by decide : (2 : Nat) ≠ 0)⟩

/-! ### Conversions -/

/-- The text that a request converts and what comes out, if its options and its text are good. -/
def converted? (files : FileTree) (s : Surroundings) (r : ConvertRequest) :
    Option (Text × Text) := do
  let o ← (requestOptions files s r).toOption
  let t ← (readSource files s r.file?).toOption
  let output ← (convertText o t s.stack).toOption
  some (t, output)

section Conversions

variable {r : ConvertRequest} {t output : Text} {store : Option (Path × History)}

theorem prepare_eq_ok_iff {o : Options} :
    prepare files s r = .ok (o, store, t) ↔
      requestOptions files s r = .ok o ∧ requestHistory files s r = .ok store ∧
        readSource files s r.file? = .ok t := by
  rw [prepare]
  cases requestOptions files s r with
  | error e => exact ⟨fun h => (nomatch h), fun h => nomatch h.1⟩
  | ok o' =>
    cases requestHistory files s r with
    | error e => exact ⟨fun h => (nomatch h), fun h => nomatch h.2.1⟩
    | ok store' =>
      cases readSource files s r.file? with
      | error e => exact ⟨fun h => (nomatch h), fun h => nomatch h.2.2⟩
      | ok t' => simp [bind, Except.bind]

theorem toOption_eq_some_iff {ε α : Type} {x : Except ε α} {a : α} :
    x.toOption = some a ↔ x = .ok a := by
  cases x <;> simp [Except.toOption]

theorem converted?_eq_some_iff :
    converted? files s r = some (t, output) ↔
      ∃ o, requestOptions files s r = .ok o ∧ readSource files s r.file? = .ok t ∧
        convertText o t s.stack = .ok output := by
  simp only [converted?, bind, Option.bind_eq_some_iff, toOption_eq_some_iff, Option.some.injEq,
    Prod.mk.injEq]
  constructor
  · rintro ⟨o, ho, t, ht, output, hc, rfl, rfl⟩
    exact ⟨o, ho, ht, hc⟩
  · rintro ⟨o, ho, ht, hc⟩
    exact ⟨o, ho, t, ht, output, hc, rfl, rfl⟩

/-- A conversion with an output is finished, if its history can be read. -/
theorem runConvert_of_converted (h : converted? files s r = some (t, output))
    (hstore : requestHistory files s r = .ok store) :
    runConvert files s r = finish files s store r.out t output := by
  obtain ⟨o, ho, ht, hc⟩ := converted?_eq_some_iff.1 h
  rw [runConvert, prepare_eq_ok_iff.2 ⟨ho, hstore, ht⟩]
  dsimp only
  rw [hc]

/-- **A conversion that stops early leaves the files;** any other has an output. -/
theorem runConvert_cases (files : FileTree) (s : Surroundings) (r : ConvertRequest) :
    (runConvert files s r).files = files ∨
    ∃ t output store, converted? files s r = some (t, output) ∧
      requestHistory files s r = .ok store ∧
      runConvert files s r = finish files s store r.out t output := by
  rw [runConvert]
  cases hprepare : prepare files s r with
  | error e => exact Or.inl rfl
  | ok found =>
    obtain ⟨o, store, t⟩ := found
    obtain ⟨ho, hstore, ht⟩ := prepare_eq_ok_iff.1 hprepare
    dsimp only
    cases hc : convertText o t s.stack with
    | error e => exact Or.inl rfl
    | ok output =>
      exact Or.inr ⟨t, output, store, converted?_eq_some_iff.2 ⟨o, ho, ht, hc⟩, hstore, rfl⟩

end Conversions

/-! ### Delivery -/

/-- **Declarations are not written,** or their file is emptied since they have a surrogate, or they
are written and that is announced. -/
theorem writeDeclarations_cases (files : FileTree) (p : Path) (output : Text) (recorded : Bool) :
    (∃ e after,
      writeDeclarations files p output recorded = ⟨.crashed (.file e), after, recorded⟩ ∧
      Alters (fun l b => l = p.place ∧ (output ++ Text.ofString "\n").hasSurrogate = true ∧ b = [])
        files after) ∨
    ∃ b after, Utf8.encode (output ++ Text.ofString "\n") = some b ∧
      writeDeclarations files p output recorded =
        ⟨.announce (Ending.declarationsWritten p), after, recorded⟩ ∧
      Alters (fun l c => l = p.place ∧ c = b) files after := by
  rw [writeDeclarations]
  rcases makeFolders_cases files p.parent with ⟨e, after, hways, h⟩ | ⟨ways, hways, h⟩ <;>
    rw [hways]
  · exact Or.inl ⟨e, after, rfl, h.of_noFile⟩
  · dsimp only
    rcases writeText_cases ways p (output ++ Text.ofString "\n") with
      ⟨e, hwrite⟩ | ⟨-, hl, ⟨hs, hwrite⟩ | ⟨b, hb, hwrite⟩⟩ <;> rw [hwrite]
    · exact Or.inl ⟨e, ways, rfl, h.of_noFile⟩
    · exact Or.inl ⟨_, _, rfl, h.of_noFile.trans
        ((alters_put_file hl []).mono fun l b hl => ⟨hl.1, hs, hl.2⟩)⟩
    · exact Or.inr ⟨b, _, hb, rfl, h.of_noFile.trans (alters_put_file hl b)⟩

/-- What a delivery may leave in the file of the declarations: nothing, if they cannot be encoded,
or all of them. -/
def Delivered (out : Option Path) (output : Text) (l : Place) (b : Bytes) : Prop :=
  ∃ p, out = some p ∧ l = p.place ∧
    ((output ++ Text.ofString "\n").hasSurrogate = true ∧ b = [] ∨
      Utf8.encode (output ++ Text.ofString "\n") = some b)

/-- **A delivery changes the file of the declarations only.** -/
theorem alters_deliver (files : FileTree) (out : Option Path) (output : Text) (recorded : Bool) :
    Alters (Delivered out output) files (deliver files out output recorded).files := by
  cases out with
  | none => exact .refl _ files
  | some p =>
    rw [deliver]
    rcases writeDeclarations_cases files p output recorded with
      ⟨e, after, h, hfiles⟩ | ⟨b, after, hb, h, hfiles⟩ <;> rw [h]
    · exact hfiles.mono fun l c hl => ⟨p, rfl, hl.1, Or.inl hl.2⟩
    · exact hfiles.mono fun l c hl => ⟨p, rfl, hl.1, Or.inr (hl.2 ▸ hb)⟩

end Command

end JsonShape
