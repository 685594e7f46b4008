import JsonShape.Proofs.Command.Files
import JsonShape.Proofs.Datum

/-!
# Malformed histories

Whatever the bytes of a file, loading a history from it gives the history or an error that counts as
a misuse of the command, but for two kinds of content (`Entry.Unhandled`): an entry whose time is
there and is neither a text, nor a truth value, nor a number other than the infinities, and one with
a part that is nested too deeply to be displayed.  Commands that read such a history crash, and
those that read another bad one end with the status of a misuse (`History.error_of_file`).
-/

namespace JsonShape

/-! ### Times -/

/-- A value that no integer is taken from, whatever it holds. -/
def Json.IsTimeless : Json → Prop
  | .null | .array _ | .object _ => True
  | .number (.double d) => ∃ negative, d.parts = .infinite negative
  | _ => False

theorem Stamp.error_ofJson_iff {v : Json} :
    (∃ e, ofDatum (.ofJson v) = .error e ∧ e.isMisuse = false) ↔ v.IsTimeless := by
  have hinteger {x : Except IntegerError Stamp} :
      ¬ ∃ e, x.mapError ReadError.integer = .error e ∧ e.isMisuse = false := by
    rintro ⟨e, he, hmisuse⟩
    cases x <;> cases he
    cases hmisuse
  cases v with
  | null => exact iff_of_true ⟨_, rfl, rfl⟩ trivial
  | bool b => exact iff_of_false (fun ⟨e, he, _⟩ => by cases he) id
  | string s => exact iff_of_false hinteger id
  | array items => exact iff_of_true ⟨_, rfl, rfl⟩ trivial
  | object fields => exact iff_of_true ⟨_, rfl, rfl⟩ trivial
  | number n =>
    cases n with
    | int i => exact iff_of_false (fun ⟨e, he, _⟩ => by cases he) id
    | double d =>
      rw [Datum.ofJson, ofDatum, Json.IsTimeless]
      split
      · next negative hparts => exact iff_of_true ⟨_, rfl, rfl⟩ ⟨negative, hparts⟩
      · next hparts =>
        rw [hparts]
        exact iff_of_false (fun ⟨e, he, hmisuse⟩ => by cases he; cases hmisuse) nofun
      · next hparts =>
        rw [hparts]
        exact iff_of_false (fun ⟨e, he, _⟩ => by cases he) nofun

/-! ### What is displayed -/

namespace Stack

variable {stack : Stack} {v : Json}

/-- What is displayed of a value. -/
def Displays (stack : Stack) (v : Json) : Prop := ∃ t, stack.display (.ofJson v) = .ok t

/-- A value that is no text takes more room than there is. -/
def RunsOutOn (stack : Stack) : Json → Prop
  | .string _ => False
  | v => stack.shows (.ofJson v) = false

theorem display_eq_tooDeep_iff :
    stack.display (.ofJson v) = .error .tooDeep ↔ stack.RunsOutOn v := by
  have hother {d : Datum} : (if stack.shows d then d.display else .error .tooDeep) =
      .error .tooDeep ↔ stack.shows d = false := by
    split
    · next h => exact iff_of_false d.display_ne_tooDeep (by rw [h]; decide)
    · next h => exact iff_of_true rfl (eq_false_of_ne_true h)
  cases v with
  | string t => exact iff_of_false nofun id
  | number n => cases n <;> exact hother
  | _ => exact hother

/-- What keeps a value from being displayed is a misuse, or else the stack. -/
theorem runsOutOn_of_error {e : Entry.ReadError}
    (h : (stack.display (.ofJson v)).mapError Entry.ReadError.display = .error e)
    (hmisuse : e.isMisuse = false) : stack.RunsOutOn v := by
  obtain ⟨d, hd, rfl⟩ := mapError_eq_error_iff.1 h
  cases d with
  | tooManyDigits => cases hmisuse
  | tooDeep => exact display_eq_tooDeep_iff.1 hd

end Stack

namespace Entry

/-- The parts that an entry needs; its ident is not blank. -/
structure HasParts (fields : List (Text × Json)) (ident input output : Json) : Prop where
  lookup_id : lookup? (Text.ofString "id") fields = some ident
  isBlank_id : (Datum.ofJson ident).isBlank = false
  lookup_input : lookup? (Text.ofString "input") fields = some input
  lookup_output : lookup? (Text.ofString "output") fields = some output

/-- How an entry that has its parts is not handled: one of them is nested too deeply to be
displayed, after those before it, or they are displayed and no time can be taken from what stands
for it. -/
inductive Unhandled (stack : Stack) (fields : List (Text × Json)) : Prop
  | ident {ident input output : Json} (h : HasParts fields ident input output)
    (hident : stack.RunsOutOn ident)
  | input {ident input output : Json} (h : HasParts fields ident input output)
    (hident : stack.Displays ident) (hinput : stack.RunsOutOn input)
  | output {ident input output : Json} (h : HasParts fields ident input output)
    (hident : stack.Displays ident) (hinput : stack.Displays input)
    (houtput : stack.RunsOutOn output)
  | time {ident input output time : Json} (h : HasParts fields ident input output)
    (hident : stack.Displays ident) (hinput : stack.Displays input)
    (houtput : stack.Displays output)
    (htime : lookup? (Text.ofString "timestamp") fields = some time) (hnone : time.IsTimeless)

theorem field?_ofFields (name : Text) (fields : List (Text × Json)) :
    field? name (Datum.ofFields fields) = (lookup? name fields).map Datum.ofJson := by
  induction fields with
  | nil => rfl
  | cons f fields ih =>
    have hname : (Datum.text f.1).sameKey (.text name) = decide (f.1 = name) := by
      rw [Datum.sameKey]
    change Option.map Prod.snd (List.find? _ ((Datum.text f.1, Datum.ofJson f.2) :: _)) = _
    rw [List.find?_cons, hname, lookup?]
    by_cases h : f.1 = name
    · rw [decide_eq_true h, if_pos h]
      rfl
    · rw [decide_eq_false h, if_neg h]
      exact ih

section Fields

variable {stack : Stack} {fields : List (Text × Json)} {ident input output : Json}

theorem ofFields_of_parts (h : HasParts fields ident input output) :
    ofFields (Datum.ofFields fields) stack = (do
      let ident ← (stack.display (.ofJson ident)).mapError .display
      let input ← (stack.display (.ofJson input)).mapError .display
      let output ← (stack.display (.ofJson output)).mapError .display
      let stamp ← (Stamp.ofDatum (((lookup? (Text.ofString "timestamp") fields).map
        Datum.ofJson).getD (.int 0))).mapError .stamp
      .ok ⟨ident, input, output, stamp⟩) := by
  rw [ofFields, field?_ofFields, field?_ofFields, field?_ofFields, field?_ofFields, h.lookup_id,
    h.lookup_input, h.lookup_output]
  exact if_neg (Bool.eq_false_iff.1 h.isBlank_id)

/-- Without its parts an entry is a misuse. -/
theorem ofFields_of_incomplete (h : ¬ ∃ ident input output, HasParts fields ident input output) :
    ofFields (Datum.ofFields fields) stack = .error .incomplete := by
  rw [ofFields, field?_ofFields, field?_ofFields, field?_ofFields]
  split
  · next ident input output hident hinput houtput =>
    obtain ⟨ident, hid, rfl⟩ := Option.map_eq_some_iff.1 hident
    obtain ⟨input, hin, rfl⟩ := Option.map_eq_some_iff.1 hinput
    obtain ⟨output, hout, rfl⟩ := Option.map_eq_some_iff.1 houtput
    split
    · rfl
    · next hblank => exact absurd ⟨_, _, _, hid, eq_false_of_ne_true hblank, hin, hout⟩ h
  · rfl

theorem error_ofFields_iff :
    (∃ e, ofFields (Datum.ofFields fields) stack = .error e ∧ e.isMisuse = false) ↔
      Unhandled stack fields := by
  constructor
  · rintro ⟨e, he, hmisuse⟩
    by_cases hparts : ∃ ident input output, HasParts fields ident input output
    · obtain ⟨ident, input, output, h⟩ := hparts
      rw [ofFields_of_parts h] at he
      obtain he | ⟨t, hident, he⟩ := bind_eq_error_iff.1 he
      · exact .ident h (Stack.runsOutOn_of_error he hmisuse)
      have hident : stack.Displays ident := ⟨t, mapError_eq_ok_iff.1 hident⟩
      obtain he | ⟨t, hinput, he⟩ := bind_eq_error_iff.1 he
      · exact .input h hident (Stack.runsOutOn_of_error he hmisuse)
      have hinput : stack.Displays input := ⟨t, mapError_eq_ok_iff.1 hinput⟩
      obtain he | ⟨t, houtput, he⟩ := bind_eq_error_iff.1 he
      · exact .output h hident hinput (Stack.runsOutOn_of_error he hmisuse)
      have houtput : stack.Displays output := ⟨t, mapError_eq_ok_iff.1 houtput⟩
      obtain he | ⟨_, -, ⟨⟩⟩ := bind_eq_error_iff.1 he
      obtain ⟨d, hstamp, rfl⟩ := mapError_eq_error_iff.1 he
      cases htime : lookup? (Text.ofString "timestamp") fields with
      | none =>
        rw [htime] at hstamp
        cases hstamp
      | some time =>
        rw [htime] at hstamp
        exact .time h hident hinput houtput htime (Stamp.error_ofJson_iff.1 ⟨d, hstamp, hmisuse⟩)
    · rw [ofFields_of_incomplete hparts] at he
      cases he
      cases hmisuse
  · have hdeep {v : Json} (hv : stack.RunsOutOn v) :
        (stack.display (.ofJson v)).mapError ReadError.display = .error (.display .tooDeep) := by
      rw [Stack.display_eq_tooDeep_iff.2 hv]
      rfl
    rintro (⟨h, hident⟩ | ⟨h, ⟨_, hident⟩, hinput⟩ | ⟨h, ⟨_, hident⟩, ⟨_, hinput⟩, houtput⟩ |
      ⟨h, ⟨_, hident⟩, ⟨_, hinput⟩, ⟨_, houtput⟩, htime, hnone⟩) <;> rw [ofFields_of_parts h]
    · rw [hdeep hident]
      exact ⟨_, rfl, rfl⟩
    · rw [hident, hdeep hinput]
      exact ⟨_, rfl, rfl⟩
    · rw [hident, hinput, hdeep houtput]
      exact ⟨_, rfl, rfl⟩
    · obtain ⟨e, he, hmisuse⟩ := Stamp.error_ofJson_iff.2 hnone
      rw [hident, hinput, houtput, htime, Option.map_some, Option.getD_some, he]
      exact ⟨_, rfl, hmisuse⟩

end Fields

end Entry

/-! ### Files -/

namespace History

variable {p : Path} {files : FileTree} {m : Int} {b : Bytes} {stack : Stack}

theorem error_readItem_iff {item : Json} :
    (∃ e, readItem p item stack = .error e ∧ e.isMisuse = false) ↔
      ∃ fields, item = .object fields ∧ Entry.Unhandled stack fields := by
  have hobject (h : readItem p item stack = .error (.notObject p)) :
      ¬ ∃ e, readItem p item stack = .error e ∧ e.isMisuse = false := by
    rintro ⟨e, he, hmisuse⟩
    rw [h] at he
    cases he
    cases hmisuse
  cases item with
  | null => exact iff_of_false (hobject rfl) nofun
  | bool b => exact iff_of_false (hobject rfl) nofun
  | number n => cases n <;> exact iff_of_false (hobject rfl) nofun
  | string s => exact iff_of_false (hobject rfl) nofun
  | array items => exact iff_of_false (hobject rfl) nofun
  | object fields =>
    have hentry : readItem p (.object fields) stack =
        (Entry.ofFields (Datum.ofFields fields) stack).mapError .entry := rfl
    rw [hentry]
    constructor
    · rintro ⟨e, he, hmisuse⟩
      obtain ⟨d, hd, rfl⟩ := mapError_eq_error_iff.1 he
      exact ⟨fields, rfl, Entry.error_ofFields_iff.1 ⟨d, hd, hmisuse⟩⟩
    · rintro ⟨_, ⟨⟩, hunhandled⟩
      obtain ⟨e, he, hmisuse⟩ := Entry.error_ofFields_iff.2 hunhandled
      exact ⟨.entry e, mapError_eq_error_iff.2 ⟨e, he, rfl⟩, hmisuse⟩

/-- Among the entries that are looked at, the first bad one is not handled. -/
def HoldsUnhandled (stack : Stack) (m : Int) (b : Bytes) : Prop :=
  ∃ t items before fields after,
    Utf8.decode b = some t ∧ Json.readRelaxed t.unifyNewlines = .ok (.array items) ∧
    front m items = before ++ .object fields :: after ∧
    (∀ v ∈ before, ∀ p, ∃ e, readItem p v stack = .ok e) ∧ Entry.Unhandled stack fields

/-- Whether an item is good does not depend on the file that it is in. -/
theorem exists_readItem {q : Path} {item : Json} (p : Path)
    (h : ∃ entry, readItem q item stack = .ok entry) :
    ∃ entry, readItem p item stack = .ok entry := by
  obtain ⟨entry, h⟩ := h
  refine ⟨entry, ?_⟩
  rw [readItem] at h ⊢
  split at h
  · exact h
  · cases h

/-- A list fails with its first bad item, and nothing but a list can fail in another way than by
misuse. -/
theorem error_ofText_iff {t : Text} :
    (∃ e, ofText p m t stack = .error e ∧ e.isMisuse = false) ↔
      ∃ items, Json.readRelaxed t = .ok (.array items) ∧
        ∃ e, (front m items).mapM (fun item => readItem p item stack) = .error e ∧
          e.isMisuse = false := by
  rw [ofText]
  constructor
  · rintro ⟨e, he, hmisuse⟩
    obtain hread | ⟨v, hread, he⟩ := bind_eq_error_iff.1 he
    · obtain ⟨e, -, rfl⟩ := mapError_eq_error_iff.1 hread
      cases hmisuse
    · cases v with
      | array items =>
        obtain he | ⟨_, _, ⟨⟩⟩ := bind_eq_error_iff.1 he
        exact ⟨items, mapError_eq_ok_iff.1 hread, e, he, hmisuse⟩
      | _ => cases he; cases hmisuse
  · rintro ⟨items, hread, e, he, hmisuse⟩
    rw [hread]
    exact ⟨e, bind_eq_error_iff.2 (Or.inr ⟨_, rfl, bind_eq_error_iff.2 (Or.inl he)⟩), hmisuse⟩

/-- **What can be wrong with a file** is a misuse, unless an entry is not handled. -/
theorem error_load_iff (hfile : files.look p = .ok (.file b)) :
    (∃ e, load files p m stack = .error e ∧ e.isMisuse = false) ↔ HoldsUnhandled stack m b := by
  have hholds : files.holds p = .ok true := by rw [FileTree.holds, hfile]
  rw [load, hholds]
  refine (FileTree.error_readText_bind_iff hfile (by decide)).trans ?_
  simp only [error_ofText_iff]
  constructor
  · rintro ⟨t, hdecode, items, hread, e, he, hmisuse⟩
    obtain ⟨before, item, after, hitems, hbefore, hitem⟩ := mapM_eq_error_iff.1 he
    obtain ⟨fields, rfl, hunhandled⟩ := error_readItem_iff.1 ⟨e, hitem, hmisuse⟩
    exact ⟨t, items, before, fields, after, hdecode, hread, hitems,
      fun v hv q => exists_readItem q (hbefore v hv), hunhandled⟩
  · rintro ⟨t, items, before, fields, after, hdecode, hread, hitems, hbefore, hunhandled⟩
    obtain ⟨e, hitem, hmisuse⟩ := error_readItem_iff.2 ⟨fields, rfl, hunhandled⟩
    exact ⟨t, hdecode, items, hread, e, mapM_eq_error_iff.2
      ⟨before, _, after, hitems, fun v hv => hbefore v hv p, hitem⟩, hmisuse⟩

/-- It is not so that every malformed file is a misuse: a time may be null. -/
theorem not_isMisuse_of_error :
    ¬ ∀ (files : FileTree) (p : Path) (b : Bytes) (m : Int) (e : LoadError),
      files.look p = .ok (.file b) → load files p m = .error e → e.isMisuse = true := by
  intro h
  let b := (Utf8.encode (Text.ofString ("[\x7b\"id\": 1, \"input\": \"\", " ++
    "\"output\": \"\", \"timestamp\": null\x7d]"))).getD []
  let files := FileTree.put default ["h.json"] (.file b)
  have hmisuse := h files (Path.ofText "h.json") b standardSize
  have hnot : (match load files (Path.ofText "h.json") standardSize with
    | .error e => e.isMisuse
    | .ok _ => true) = false := by decide +kernel
  split at hnot
  · next e he => rw [hmisuse e (by rfl) he] at hnot; cases hnot
  · cases hnot

/-! ### Commands -/

/-- A command reads the history of a file. -/
inductive Reads (files : FileTree) (s : Surroundings) : Command → Path → Prop
  | convert {r : ConvertRequest} {p : Path} {o : Options} (hp : r.history = some p)
    (ho : Command.requestOptions files s r = .ok o) : Reads files s (.convert r) p
  | history (p : Path) : Reads files s (.history p) p
  | historyShow (p : Path) (ident : Text) : Reads files s (.historyShow p ident) p
  | historyClear (p : Path) : Reads files s (.historyClear p) p

/-- A command whose history cannot be read ends there. -/
theorem Reads.run_of_error {c : Command} {s : Surroundings} {ending : Ending}
    (h : Reads files s c p) (hread : Command.readHistory files s p = .error ending) :
    c.run files s = ⟨ending, files, false⟩ := by
  cases h with
  | @convert r _ o hp ho =>
    have hstore : Command.requestHistory files s r = .error ending := by
      rw [Command.requestHistory, hp]
      dsimp only
      rw [hread]
      rfl
    change Command.runConvert files s r = _
    rw [Command.runConvert, Command.prepare, ho, hstore]
    rfl
  | history =>
    change Command.runHistory files s p = _
    rw [Command.runHistory, hread]
  | historyShow _ ident =>
    change Command.runHistoryShow files s p ident = _
    rw [Command.runHistoryShow, hread]
  | historyClear =>
    change Command.runHistoryClear files s p = _
    rw [Command.runHistoryClear, hread]

/-- **What a malformed file does.**  Loading it is a misuse, whatever its bytes are, however many
entries are kept and whatever room there is on the stack, unless an entry is not handled.  A command
that reads it leaves the files, and ends as misused, or crashes over the entry. -/
theorem error_of_file (hfile : files.look p = .ok (.file b)) :
    (∀ m stack, (∃ e, load files p m stack = .error e ∧ e.isMisuse = false) ↔
      HoldsUnhandled stack m b) ∧
    ∀ c s, Reads files s c p → (∃ e, load files p standardSize s.stack = .error e) →
      (c.run files s).files = files ∧
      (¬ HoldsUnhandled s.stack standardSize b → (c.run files s).ending.status = 2) ∧
      (HoldsUnhandled s.stack standardSize b →
        ∃ e, (c.run files s).ending = .crashed (.history e)) := by
  refine ⟨fun m stack => error_load_iff hfile, fun c s hreads ⟨e, he⟩ => ?_⟩
  have hread : Command.readHistory files s p = .error (if e.isMisuse
      then .misused ("Unreadable history file " ++ p.text ++ ": " ++ e.message)
      else .crashed (.history e)) := by
    rw [Command.readHistory, he]
    rfl
  have hmisuse : e.isMisuse = false ↔ HoldsUnhandled s.stack standardSize b :=
    (exists_error_iff he).symm.trans (error_load_iff hfile)
  rw [hreads.run_of_error hread]
  refine ⟨rfl, fun hholds => ?_, fun hholds => ?_⟩
  · rw [if_pos (eq_true_of_ne_false fun hnot => hholds (hmisuse.1 hnot))]
    rfl
  · rw [if_neg (by rw [hmisuse.2 hholds]; decide)]
    exact ⟨e, rfl⟩

/-- A history that is no list is not cleared. -/
theorem error_of_file_object :
    let files := FileTree.put default ["h.json"] (.file [0x7B, 0x7D])
    let clear := Command.historyClear (Path.ofText "h.json")
    let s : Surroundings := { input := [], now := ⟨0⟩, ident := "a" }
    ¬ HoldsUnhandled .standard standardSize [0x7B, 0x7D] ∧
      (clear.run files s).files = files ∧ (clear.run files s).ending.status = 2 := by
  intro files clear s
  obtain ⟨hload, hrun⟩ := @error_of_file (Path.ofText "h.json") files [0x7B, 0x7D] rfl
  have hholds : ¬ HoldsUnhandled .standard standardSize [0x7B, 0x7D] := by
    rw [← hload]
    rintro ⟨_, ⟨⟩, hnot⟩
    cases hnot
  obtain ⟨hfiles, hmisused, -⟩ := hrun clear s (.historyClear _) ⟨_, rfl⟩
  exact ⟨hholds, hfiles, hmisused hholds⟩

end History

end JsonShape
