import JsonShape.Proofs.Command.Files
import JsonShape.Proofs.Terminal.Printing

/-!
# Sessions of conversions

Conversions that are invoked one after another with the same history.  After each of them the
history holds the latest entries of those that had an output, the newest first, as many as are kept
(`Session.history_follows`); one step is `Invocation.keeps_run`, which goes from what the file held
to what it holds then.
-/

namespace JsonShape

open FileTree

/-! ### Histories in a file -/

namespace History

/-- The file holds a history that keeps the latest of some entries. -/
structure Keeps (files : FileTree) (p : Path) (es : List Entry) : Prop where
  plant : ∃ planted, files.plant p [] = .ok planted
  load : ∀ stack, load files p standardSize stack =
    .ok ⟨standardSize, (recency es).take 50⟩

/-- Nothing is kept where no file is. -/
theorem keeps_nothing {files : FileTree} {p : Path} (habsent : files.holds p = .ok false)
    (hplant : ∃ planted, files.plant p [] = .ok planted) : Keeps files p [] := by
  refine ⟨hplant, fun stack => ?_⟩
  rw [History.load, habsent]
  rfl

/-- **One record more:** it is saved, and what changes other files does not matter. -/
theorem keeps_save {files : FileTree} {p : Path} {es : List Entry} {e : Entry}
    (hkeeps : Keeps files p es) (hes : ∀ e ∈ es, e.Storable) (he : e.Storable) :
    ∃ saved, ((History.mk standardSize ((recency es).take 50)).record e).save files p = .ok saved ∧
      ∀ (may : Place → Bytes → Prop) (after : FileTree), (∀ b, ¬ may p.place b) →
        Alters may saved after → Keeps after p (es ++ [e]) := by
  obtain ⟨planted, hplanted⟩ := hkeeps.plant
  have hrecord : (History.mk standardSize ((recency es).take 50)).record e =
      ⟨standardSize, (recency (es ++ [e])).take 50⟩ := record_take_recency 50 es e
  have hstorable : ∀ d ∈ (recency (es ++ [e])).take 50, d.Storable := by
    intro d hd
    rcases List.mem_append.1 (mem_of_mem_recency (List.mem_of_mem_take hd)) with hd | hd
    · exact hes d hd
    · exact List.mem_singleton.1 hd ▸ he
  obtain ⟨b, saved, hb, hsaved, hp, hfile, -⟩ := save_of_plant
    ⟨standardSize, (recency (es ++ [e])).take 50⟩ hplanted
  refine ⟨saved, by rw [hrecord, hsaved], fun may after hmay hafter => ?_⟩
  have hfile := (hafter.kept hmay b).2 hfile
  have hp := hafter.placeOf hp
  obtain ⟨ways, hways, -⟩ := plant_eq_ok_iff.1 hplanted
  refine ⟨plant_of_file (checkPath_of_makeFolders hways) hp hfile, fun stack => ?_⟩
  have htake : front standardSize ((recency (es ++ [e])).take 50) =
      (recency (es ++ [e])).take 50 := by
    rw [show standardSize = ((50 : Nat) : Int) from rfl, front_of_nat, List.take_take, Nat.min_self]
  have hload := load_of_history ⟨standardSize, (recency (es ++ [e])).take 50⟩ hstorable hp hfile hb
    standardSize stack
  rw [htake] at hload
  exact hload

end History

/-! ### Invocations -/

namespace Command

theorem hasSurrogate_of_readSource {files : FileTree} {s : Surroundings} {file : Option Path}
    {t : Text} (h : readSource files s file = .ok t) : t.hasSurrogate = false := by
  rw [readSource.eq_def] at h
  cases file with
  | none =>
    dsimp only at h
    split at h
    · next u hu =>
      cases h
      exact Text.hasSurrogate_unifyNewlines (Utf8.hasSurrogate_of_decode hu)
    · cases h
  | some p =>
    dsimp only at h
    split at h
    · cases h
    · cases h
    · cases hread : files.readText p with
      | error e => rw [hread] at h; cases h
      | ok u =>
        rw [hread] at h
        cases h
        exact hasSurrogate_of_readText hread

end Command

/-- The arguments of a command and what it finds beside the files. -/
structure Invocation where
  args : List Text
  surroundings : Surroundings

namespace Invocation

open Command

variable {files : FileTree} {i : Invocation} {p : Path} {es : List Entry} {e : Entry}

def run (files : FileTree) (i : Invocation) : Report := runArgs files i.surroundings i.args

/-- The entry for a conversion that is asked for and has an output. -/
def made? (files : FileTree) (i : Invocation) : Option Entry := do
  match ← asked? files i.args with
  | .convert r =>
    let (input, output) ← converted? files i.surroundings r
    some ⟨i.surroundings.ident, input, output, Stamp.ofSeconds i.surroundings.now⟩
  | _ => none

/-- If anything is asked for, it is a conversion with this history, whose declarations do not go to
the file of the history; and the ident at hand is one. -/
structure Records (i : Invocation) (p : Path) : Prop where
  request : ∀ r c, ofArgs i.args = some r → r.request? = some c → ∃ request,
    c = .convert request ∧ request.history = some p ∧
      ∀ out, request.out = some out → out.place ≠ p.place
  ident_ne : i.surroundings.ident ≠ []
  ident : i.surroundings.ident.hasSurrogate = false

theorem Records.of_asked {c : Command} (hi : i.Records p) (h : asked? files i.args = some c) :
    ∃ request, c = .convert request ∧ request.history = some p ∧
      ∀ out, request.out = some out → out.place ≠ p.place := by
  rw [asked?, Option.bind_eq_some_iff] at h
  obtain ⟨r, hr, h⟩ := h
  split at h
  · cases h
  · exact hi.request r c hr h

theorem made?_eq_some_iff :
    i.made? files = some e ↔ ∃ r input output, asked? files i.args = some (.convert r) ∧
      converted? files i.surroundings r = some (input, output) ∧
      e = ⟨i.surroundings.ident, input, output, Stamp.ofSeconds i.surroundings.now⟩ := by
  rw [made?]
  cases hasked : asked? files i.args with
  | none => simp
  | some c =>
    cases c with
    | convert r =>
      simp only [bind, Option.bind_some, Option.bind_eq_some_iff, Option.some.injEq,
        Command.convert.injEq]
      constructor
      · rintro ⟨⟨input, output⟩, hc, rfl⟩
        exact ⟨r, input, output, rfl, hc, rfl⟩
      · rintro ⟨_, input, output, rfl, hc, rfl⟩
        exact ⟨(input, output), hc, rfl⟩
    | _ => simp

/-- An invocation without an output leaves all files. -/
theorem files_run_of_not_made (hi : i.Records p) (h : i.made? files = none) :
    (i.run files).files = files := by
  cases hasked : asked? files i.args with
  | none => exact (runArgs_of_not_asked hasked).1
  | some c =>
    obtain ⟨r, rfl, -⟩ := hi.of_asked hasked
    rw [run, runArgs_of_asked hasked]
    rcases runConvert_cases files i.surroundings r with hsame | ⟨t, output, store, hc, -⟩
    · exact hsame
    · rw [made?_eq_some_iff.2 ⟨r, t, output, hasked, hc, rfl⟩] at h
      cases h

theorem storable_of_made (hi : i.Records p) (h : i.made? files = some e)
    (houtput : e.output.hasSurrogate = false) : e.Storable := by
  obtain ⟨r, input, output, -, hc, rfl⟩ := made?_eq_some_iff.1 h
  obtain ⟨o, -, ht, -⟩ := converted?_eq_some_iff.1 hc
  exact ⟨hi.ident_ne, hi.ident, hasSurrogate_of_readSource ht, houtput, _, rfl⟩

theorem requestHistory_of_keeps {r : ConvertRequest} (hr : r.history = some p)
    (hkeeps : History.Keeps files p es) (s : Surroundings) :
    requestHistory files s r =
      .ok (some (p, ⟨History.standardSize, (History.recency es).take 50⟩)) := by
  rw [requestHistory, hr]
  dsimp only
  rw [readHistory, hkeeps.load s.stack]
  rfl

/-- **One invocation:** its entry is recorded. -/
theorem keeps_run (hi : i.Records p) (hkeeps : History.Keeps files p es)
    (hes : ∀ e ∈ es, e.Storable) (h : i.made? files = some e) (he : e.Storable) :
    History.Keeps (i.run files).files p (es ++ [e]) := by
  obtain ⟨r, input, output, hasked, hc, rfl⟩ := made?_eq_some_iff.1 h
  obtain ⟨_, hrequest, hhistory, hout⟩ := hi.of_asked hasked
  cases hrequest
  obtain ⟨saved, hsaved, hafter⟩ := History.keeps_save hkeeps hes he
  rw [run, runArgs_of_asked hasked]
  change History.Keeps (runConvert files i.surroundings r).files p _
  rw [runConvert_of_converted hc (requestHistory_of_keeps hhistory hkeeps i.surroundings), finish,
    hsaved]
  refine hafter _ _ ?_ (alters_deliver saved r.out output true)
  rintro b ⟨out, hr, hplace, -⟩
  exact hout out hr hplace.symm

/-- Without a file for the declarations they are printed. -/
theorem ending_of_made (hi : i.Records p) (hkeeps : History.Keeps files p es)
    (hes : ∀ e ∈ es, e.Storable) (h : i.made? files = some e) (he : e.Storable)
    {r : ConvertRequest} (hasked : asked? files i.args = some (.convert r)) :
    (Command.run files i.surroundings (.convert { r with out := none })).ending =
      .printed (Sequence.strip (e.output ++ "\n")) := by
  obtain ⟨_, input, output, hasked', hc, rfl⟩ := made?_eq_some_iff.1 h
  cases hasked.symm.trans hasked'
  obtain ⟨_, hrequest, hhistory, -⟩ := hi.of_asked hasked
  cases hrequest
  obtain ⟨saved, hsaved, -⟩ := History.keeps_save hkeeps hes he
  have hstore : requestHistory files i.surroundings { r with out := none } = _ :=
    requestHistory_of_keeps hhistory hkeeps i.surroundings
  have hconverted : converted? files i.surroundings { r with out := none } =
      some (input, output) := hc
  change (runConvert files i.surroundings { r with out := none }).ending = _
  rw [runConvert_of_converted hconverted hstore, finish, hsaved]
  exact Ending.printLine_eq he.output

/-- An entry that is the first one of its ident is shown. -/
theorem ending_of_historyShow {newer older : List Entry} (hkeeps : History.Keeps files p es)
    (hlist : (History.recency es).take 50 = newer ++ e :: older)
    (hnewer : ∀ d ∈ newer, d.ident ≠ e.ident) (he : e.output.hasSurrogate = false)
    (s : Surroundings) :
    (Command.run files s (.historyShow p e.ident)).ending =
      .printed (Sequence.strip (e.output ++ "\n")) := by
  have hfind : (History.mk History.standardSize ((History.recency es).take 50)).find? e.ident =
      some e := by
    rw [History.find?, hlist, List.find?_append, List.find?_eq_none.2 (by simpa using hnewer)]
    simp
  have hread : readHistory files s p =
      .ok ⟨History.standardSize, (History.recency es).take 50⟩ := by
    rw [readHistory, hkeeps.load s.stack]
    rfl
  change (runHistoryShow files s p e.ident).ending = _
  rw [runHistoryShow, hread]
  dsimp only
  rw [hfind]
  exact Ending.printLine_eq he

end Invocation

/-! ### Sessions -/

namespace Session

open Command Invocation

/-- The files after invocations, one after another. -/
def after (files : FileTree) (is : List Invocation) : FileTree :=
  is.foldl (fun files i => (i.run files).files) files

/-- The entries of a session, in their order. -/
def made (files : FileTree) : List Invocation → List Entry
  | [] => []
  | i :: is => (i.made? files).toList ++ made (i.run files).files is

variable {files : FileTree} {p : Path}

theorem after_append (files : FileTree) (is js : List Invocation) :
    after files (is ++ js) = after (after files is) js :=
  List.foldl_append

theorem made_append (files : FileTree) (is js : List Invocation) :
    made files (is ++ js) = made files is ++ made (after files is) js := by
  induction is generalizing files with
  | nil => rfl
  | cons i is ih => rw [List.cons_append, made, ih, made, List.append_assoc]; rfl

/-- **The invariant of a session:** the file keeps the entries that were made so far. -/
theorem keeps_after (habsent : files.holds p = .ok false)
    (hplant : ∃ planted, files.plant p [] = .ok planted) {is : List Invocation}
    (his : ∀ i ∈ is, i.Records p)
    (houtputs : ∀ e ∈ made files is, e.output.hasSurrogate = false) :
    History.Keeps (after files is) p (made files is) ∧ ∀ e ∈ made files is, e.Storable := by
  induction is using List.reverseRecOn with
  | nil => exact ⟨History.keeps_nothing habsent hplant, fun _ he => nomatch he⟩
  | append_singleton is i ih =>
    have hi := his i (List.mem_append_right _ (List.mem_singleton.2 rfl))
    have hsplit : made files (is ++ [i]) = made files is ++ (i.made? (after files is)).toList := by
      rw [made_append, made, made, List.append_nil]
    rw [hsplit] at houtputs ⊢
    rw [List.forall_mem_append] at houtputs
    obtain ⟨hkeeps, hes⟩ := ih (fun j hj => his j (List.mem_append_left _ hj)) houtputs.1
    rw [after_append]
    change History.Keeps (i.run (after files is)).files p _ ∧ _
    cases hmade : i.made? (after files is) with
    | none =>
      rw [files_run_of_not_made hi hmade, Option.toList_none, List.append_nil]
      exact ⟨hkeeps, hes⟩
    | some e =>
      rw [hmade, Option.toList_some, List.forall_mem_singleton] at houtputs
      have he := storable_of_made hi hmade houtputs.2
      rw [Option.toList_some, List.forall_mem_append, List.forall_mem_singleton]
      exact ⟨keeps_run hi hkeeps hes hmade he, hes, he⟩

/-- **The history follows the conversions of a session.**  It starts without the history, at a
place where a file can be planted, and every invocation records in it.  Then the history holds the
latest entries of those that had an output, the newest first, as many as are kept; an invocation
without an output leaves all files as they were; and while an entry is in the list, and no newer one
has its ident, showing it prints what its conversion prints without a file for the declarations. -/
theorem history_follows (habsent : files.holds p = .ok false)
    (hplant : ∃ planted, files.plant p [] = .ok planted) {is : List Invocation}
    (his : ∀ i ∈ is, i.Records p)
    (houtputs : ∀ e ∈ made files is, e.output.hasSurrogate = false) :
    (∀ stack, History.load (after files is) p History.standardSize stack =
      .ok ⟨History.standardSize, (History.latest (made files is)).take 50⟩) ∧
    ∀ earlier i later, is = earlier ++ i :: later →
      (i.made? (after files earlier) = none →
        after files (earlier ++ [i]) = after files earlier) ∧
      ∀ e, i.made? (after files earlier) = some e →
        ∀ newer older, (History.latest (made files is)).take 50 = newer ++ e :: older →
          (∀ d ∈ newer, d.ident ≠ e.ident) →
          ∀ s, ∃ text,
            (Command.run (after files is) s (.historyShow p e.ident)).ending = .printed text ∧
            ∀ r, asked? (after files earlier) i.args = some (.convert r) →
              (Command.run (after files earlier) i.surroundings
                (.convert { r with out := none })).ending = .printed text := by
  obtain ⟨hkeeps, hes⟩ := keeps_after habsent hplant his houtputs
  rw [← History.recency_eq_latest]
  refine ⟨hkeeps.load, ?_⟩
  rintro earlier i later rfl
  have hi := his i (List.mem_append_right _ List.mem_cons_self)
  constructor
  · intro hmade
    rw [after_append]
    exact files_run_of_not_made hi hmade
  · intro e hmade newer older hlist hnewer s
    have hearlier : ∀ e ∈ made files earlier, e ∈ made files (earlier ++ i :: later) := by
      intro e he
      rw [made_append]
      exact List.mem_append_left _ he
    obtain ⟨hbefore, hesBefore⟩ := keeps_after habsent hplant
      (fun j hj => his j (List.mem_append_left _ hj)) fun e he => houtputs e (hearlier e he)
    have he : e ∈ made files (earlier ++ i :: later) := by
      rw [made_append, made, hmade]
      exact List.mem_append_right _ (List.mem_append_left _ (List.mem_singleton.2 rfl))
    exact ⟨_, ending_of_historyShow hkeeps hlist hnewer (houtputs e he) s,
      fun r hr => ending_of_made hi hbefore hesBefore hmade (hes e he) hr⟩

/-- A text that is no document is not recorded; a document is, and its declarations go to a file of
a folder that is made for it. -/
theorem history_follows_out :
    let i (input : Bytes) (ident : Text) : Invocation :=
      ⟨[Text.ofString "convert", "--history", "h.json", "--out", "d/x.ts"],
        { input, now := ⟨0⟩, ident }⟩
    let is := [i [0x5B] "a", i [0x5B, 0x5D] "b"]
    ∃ h, History.load (after default is) (Path.ofText "h.json") History.standardSize = .ok h ∧
      h.entries.map (fun e => (e.ident, e.input, e.output)) =
        [(Text.ofString "b", Text.ofString "[]", Text.ofString "type Root = unknown[];")] := by
  intro i is
  have hrecords (input : Bytes) {ident : Text} (hne : ident ≠ [])
      (hident : ident.hasSurrogate = false) : (i input ident).Records (Path.ofText "h.json") := by
    refine ⟨fun r c hr hc => ?_, hne, hident⟩
    cases hr
    cases hc
    exact ⟨_, rfl, rfl, fun out hout => by cases hout; decide⟩
  have his : ∀ i ∈ is, i.Records (Path.ofText "h.json") := by
    intro j hj
    rcases List.mem_cons.1 hj with rfl | hj
    · exact hrecords _ (by decide) rfl
    · exact List.mem_singleton.1 hj ▸ hrecords _ (by decide) rfl
  have houtputs : ∀ e ∈ made default is, e.output.hasSurrogate = false := by decide +kernel
  exact ⟨_, (history_follows rfl ⟨_, rfl⟩ his houtputs).1 .standard, by decide +kernel⟩

end Session

end JsonShape
