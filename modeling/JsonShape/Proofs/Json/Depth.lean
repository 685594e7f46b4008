import JsonShape.Json.Reader

/-!
# Room for reading

A reader with room for more containers gives the same answer, unless there was too little room
before (`UpToRoom`); and a text has no more containers than code points, so with room for as many of
them as there are code points the room is never too little (`Fits`).  So a text is refused for its
depth exactly when more room would make a difference (`read_tooDeep_iff`).
-/

namespace JsonShape.Json

/-! ### More room -/

section MoreRoom

variable {α β : Type}

/-- The second answer is the first one, unless that was short of room. -/
def UpToRoom (a b : Except ReadError α) : Prop := a = .error .tooDeep ∨ b = a

theorem UpToRoom.refl (a : Except ReadError α) : UpToRoom a a := Or.inr rfl

theorem UpToRoom.trans {a b c : Except ReadError α} (h : UpToRoom a b) (h' : UpToRoom b c) :
    UpToRoom a c := by
  rcases h with h | rfl
  · exact Or.inl h
  · exact h'

theorem UpToRoom.bind {a b : Except ReadError α} {f g : α → Except ReadError β}
    (h : UpToRoom a b) (hf : ∀ x, UpToRoom (f x) (g x)) : UpToRoom (a >>= f) (b >>= g) := by
  rcases h with rfl | rfl
  · exact Or.inl rfl
  · cases b with
    | error e => exact .refl _
    | ok x => exact hf x

variable {item more : ValueReader}

theorem upToRoom_items (h : ∀ t, UpToRoom (item t) (more t)) (fuel : Nat) (t : Text) :
    UpToRoom (readItems item fuel t) (readItems more fuel t) := by
  induction fuel generalizing t with
  | zero => exact .refl _
  | succ fuel ih =>
    refine (h t).bind fun x => ?_
    dsimp only
    split
    · exact .refl _
    · next c rest =>
      split
      · exact .refl _
      split
      · exact (ih _).bind fun _ => .refl _
      · exact .refl _

theorem upToRoom_field (d : Dialect) (h : ∀ t, UpToRoom (item t) (more t)) (t : Text) :
    UpToRoom (readField d item t) (readField d more t) := by
  unfold readField
  split
  · exact .refl _
  split
  · refine (UpToRoom.refl _).bind fun x => ?_
    dsimp only
    split
    · exact .refl _
    split
    · exact (h _).bind fun _ => .refl _
    · exact .refl _
  · exact .refl _

theorem upToRoom_fields (d : Dialect) (h : ∀ t, UpToRoom (item t) (more t)) (fuel : Nat)
    (t : Text) : UpToRoom (readFields d item fuel t) (readFields d more fuel t) := by
  induction fuel generalizing t with
  | zero => exact .refl _
  | succ fuel ih =>
    refine (upToRoom_field d h t).bind fun x => ?_
    dsimp only
    split
    · exact .refl _
    split
    · exact .refl _
    split
    · exact (ih _).bind fun _ => .refl _
    · exact .refl _

theorem upToRoom_array (h : ∀ t, UpToRoom (item t) (more t)) (fuel : Nat) (t : Text) :
    UpToRoom (readArray item fuel t) (readArray more fuel t) := by
  unfold readArray
  split
  · exact .refl _
  split
  · exact .refl _
  · exact (upToRoom_items h fuel _).bind fun _ => .refl _

theorem upToRoom_object (d : Dialect) (h : ∀ t, UpToRoom (item t) (more t)) (fuel : Nat)
    (t : Text) : UpToRoom (readObject d item fuel t) (readObject d more fuel t) := by
  unfold readObject
  split
  · exact .refl _
  split
  · exact .refl _
  · exact (upToRoom_fields d h fuel _).bind fun _ => .refl _

/-- Room for a container can be added where there was none. -/
theorem upToRoom_with (d : Dialect) {item? : Option ValueReader}
    (h : ∀ item ∈ item?, ∀ t, UpToRoom (item t) (more t)) (fuel : Nat) (t : Text) :
    UpToRoom (readWith d item? fuel t) (readWith d (some more) fuel t) := by
  unfold readWith
  split
  · exact .refl _
  split
  · exact .refl _
  split
  · cases item? with
    | none => exact Or.inl rfl
    | some item => exact upToRoom_array (h item rfl) fuel _
  split
  · cases item? with
    | none => exact Or.inl rfl
    | some item => exact upToRoom_object d (h item rfl) fuel _
  · exact .refl _

theorem upToRoom_succ (d : Dialect) (fuel depth : Nat) (t : Text) :
    UpToRoom (readValue d fuel depth t) (readValue d fuel (depth + 1) t) := by
  induction depth generalizing t with
  | zero => exact upToRoom_with d (by simp) fuel t
  | succ depth ih =>
    refine upToRoom_with d (fun item hitem => ?_) fuel t
    rw [Option.mem_some_iff] at hitem
    exact hitem ▸ ih

theorem upToRoom_value (d : Dialect) (fuel : Nat) {depth more : Nat} (h : depth ≤ more) (t : Text) :
    UpToRoom (readValue d fuel depth t) (readValue d fuel more t) := by
  induction h with
  | refl => exact .refl _
  | step _ ih => exact ih.trans (upToRoom_succ d fuel _ t)

/-- More room does not change an answer that did not need it. -/
theorem upToRoom_within (d : Dialect) {depth more : Nat} (h : depth ≤ more) (t : Text) :
    UpToRoom (readWithin d depth t) (readWithin d more t) := by
  unfold readWithin
  split
  · exact .refl _
  · refine (upToRoom_value d _ h _).bind fun x => .refl _

end MoreRoom

/-! ### Enough room -/

section EnoughRoom

variable {α β : Type} {n : Nat}

/-- An answer that was not short of room and leaves at most `n` code points. -/
def Fits (n : Nat) : Except ReadError (α × Text) → Prop
  | .ok (_, rest) => rest.length ≤ n
  | .error e => e ≠ .tooDeep

theorem Fits.mono {m : Nat} {a : Except ReadError (α × Text)} (h : Fits m a) (hmn : m ≤ n) :
    Fits n a := by
  cases a with
  | error e => exact h
  | ok x => exact Nat.le_trans h hmn

theorem Fits.bind {m : Nat} {a : Except ReadError (α × Text)}
    {f : α × Text → Except ReadError (β × Text)} (h : Fits m a)
    (hf : ∀ x rest, rest.length ≤ m → Fits n (f (x, rest))) : Fits n (a >>= f) := by
  cases a with
  | error e => exact h
  | ok x => exact hf x.1 x.2 h

theorem length_skipBlank_le (t : Text) : (skipBlank t).length ≤ t.length :=
  (List.dropWhile_suffix isBlank).length_le

theorem length_le_of_skipBlank_eq {c : CodePoint} {t rest : Text} (h : skipBlank t = c :: rest) :
    rest.length + 1 ≤ t.length := by
  have := length_skipBlank_le t
  rwa [h] at this

/-! ### Strings and bare words -/

theorem Fits.before {a : Except ReadError (List Piece × Text)} (h : Fits n a) (p : Piece) :
    Fits n (p.before a) := by
  cases a with
  | error e => exact h
  | ok x => exact h

theorem fits_pieces (allowed : CodePoint → Bool) (opening t : Text) :
    Fits t.length (readPieces allowed opening t) := by
  fun_induction readPieces allowed opening t with
  | case1 | case3 | case5 | case6 | case8 | case10 => simp [Fits]
  | case2 rest => exact Nat.le_succ _
  | case4 | case7 | case9 =>
    refine Fits.before (Fits.mono (by assumption) ?_) _
    simp only [List.length_cons]
    omega

theorem fits_string (allowed : CodePoint → Bool) (t : Text) :
    Fits t.length (readString allowed t) :=
  (fits_pieces allowed _ t).bind fun _ _ h => h

theorem length_span_le (t : Text) : (Numeral.span t).2.length ≤ t.length :=
  (List.dropWhile_suffix CodePoint.isDigit).length_le

theorem length_takeWhole_le {t whole rest : Text} (h : takeWhole t = some (whole, rest)) :
    rest.length ≤ t.length := by
  unfold takeWhole at h
  split at h
  · cases h
  · next c rest =>
    split at h
    · cases h
      exact Nat.le_succ _
    split at h
    · cases h
      exact length_span_le (c :: rest)
    · cases h

theorem length_takeFraction_le (t : Text) : (takeFraction t).2.length ≤ t.length := by
  unfold takeFraction
  split
  · exact Nat.le_refl _
  split
  · split
    · exact Nat.le_refl _
    · exact Nat.le_trans (length_span_le _) (Nat.le_succ _)
  · exact Nat.le_refl _

theorem length_takeSign_le (t : Text) : (Numeral.takeSign t).2.length ≤ t.length := by
  unfold Numeral.takeSign
  grind

theorem length_takeExponent_le (t : Text) : (takeExponent t).2.length ≤ t.length := by
  unfold takeExponent
  split
  · exact Nat.le_refl _
  split
  · next c rest _ =>
    dsimp only
    split
    · exact Nat.le_refl _
    · next ds u _ hspan =>
      have h := Nat.le_trans (length_span_le _) (length_takeSign_le rest)
      rw [hspan] at h
      exact Nat.le_trans h (Nat.le_succ _)
  · exact Nat.le_refl _

theorem length_takeNumber_le {t rest : Text} {n : NumberToken}
    (h : takeNumber? t = some (n, rest)) : rest.length ≤ t.length := by
  unfold takeNumber? at h
  split at h
  next negative u hsign =>
  have hu : u.length ≤ t.length := by
    split at hsign
    · cases hsign
      exact Nat.le_refl _
    split at hsign <;> cases hsign
    · exact Nat.le_succ _
    · exact Nat.le_refl _
  split at h
  · cases h
  · next whole v hwhole =>
    simp only [Option.some.injEq, Prod.mk.injEq] at h
    rw [← h.2]
    have hv := length_takeWhole_le hwhole
    have hw := length_takeFraction_le v
    have hrest := length_takeExponent_le (takeFraction v).2
    omega

theorem length_after?_le {t word rest : Text} (h : t.after? word = some rest) :
    rest.length ≤ t.length := by
  fun_induction Text.after? t word with
  | case1 t => simp_all
  | case2 => cases h
  | case3 t c word ih => exact Nat.le_succ_of_le (ih h)
  | case4 => cases h

theorem number_ne_tooDeep (token : NumberToken) : token.number ≠ .error .tooDeep := by
  unfold NumberToken.number
  split
  · split <;> simp
  · simp

theorem fits_bare (t : Text) : Fits t.length (readBare t) := by
  unfold readBare
  split
  · next rest h => exact length_after?_le h
  split
  · next rest h => exact length_after?_le h
  split
  · next rest h => exact length_after?_le h
  split
  · simp [Fits]
  split
  · simp [Fits]
  split
  · simp [Fits]
  split
  · simp [Fits]
  · next token rest h =>
    cases hn : token.number with
    | error e =>
      intro he
      exact number_ne_tooDeep token (he ▸ hn)
    | ok n => exact length_takeNumber_le h

/-! ### Values -/

/-- Reads whatever is at the front of texts of at most `n` code points, with room to spare. -/
def Suffices (n : Nat) (item : ValueReader) : Prop := ∀ t, t.length ≤ n → Fits t.length (item t)

variable {item : ValueReader}

theorem fits_items (h : Suffices n item) (fuel : Nat) {t : Text} (ht : t.length ≤ n) :
    Fits t.length (readItems item fuel t) := by
  induction fuel generalizing t with
  | zero => simp [readItems, Fits]
  | succ fuel ih =>
    refine (h t ht).bind fun v u hu => ?_
    dsimp only
    split
    · simp [Fits]
    · next c rest hc =>
      have hrest := length_le_of_skipBlank_eq hc
      have hblank := length_skipBlank_le rest
      split
      · show rest.length ≤ t.length
        omega
      split
      · refine ((ih (by omega)).mono ?_).bind fun _ _ h => h
        omega
      · simp [Fits]

theorem fits_field {d : Dialect} (h : Suffices n item) {t : Text} (ht : t.length ≤ n) :
    Fits t.length (readField d item t) := by
  unfold readField
  split
  · simp [Fits]
  split
  · next c rest hc =>
    refine (fits_string d.allowed rest).bind fun key u hu => ?_
    dsimp only
    split
    · simp [Fits]
    split
    · next c v hv _ =>
      have hrest := length_le_of_skipBlank_eq hv
      have hblank := length_skipBlank_le v
      simp only [List.length_cons] at ht ⊢
      refine ((h _ (by omega)).mono ?_).bind fun _ _ h => h
      omega
    · simp [Fits]
  · simp [Fits]

theorem fits_fields {d : Dialect} (h : Suffices n item) (fuel : Nat) {t : Text}
    (ht : t.length ≤ n) : Fits t.length (readFields d item fuel t) := by
  induction fuel generalizing t with
  | zero => simp [readFields, Fits]
  | succ fuel ih =>
    refine (fits_field h ht).bind fun f u hu => ?_
    dsimp only
    split
    · simp [Fits]
    · next c rest hc =>
      have hrest := length_le_of_skipBlank_eq hc
      have hblank := length_skipBlank_le rest
      split
      · show rest.length ≤ t.length
        omega
      split
      · refine ((ih (by omega)).mono ?_).bind fun _ _ h => h
        omega
      · simp [Fits]

theorem fits_array (h : Suffices n item) (fuel : Nat) {t : Text} (ht : t.length ≤ n) :
    Fits t.length (readArray item fuel t) := by
  unfold readArray
  split
  · simp [Fits]
  · next c rest hc =>
    have hrest := length_le_of_skipBlank_eq hc
    split
    · show rest.length ≤ t.length
      omega
    · refine ((fits_items h fuel ?_).mono hrest).bind fun _ _ h => h
      exact Nat.le_trans hrest ht

theorem fits_object {d : Dialect} (h : Suffices n item) (fuel : Nat) {t : Text}
    (ht : t.length ≤ n) : Fits t.length (readObject d item fuel t) := by
  unfold readObject
  split
  · simp [Fits]
  · next c rest hc =>
    have hrest := length_le_of_skipBlank_eq hc
    split
    · show rest.length ≤ t.length
      omega
    · refine ((fits_fields h fuel ?_).mono hrest).bind fun _ _ h => h
      exact Nat.le_trans hrest ht

/-- An opening bracket takes a code point, so what is inside needs one container less. -/
theorem suffices_with {d : Dialect} (hd : ∀ t, Fits t.length (d.bare t)) (h : Suffices n item)
    (fuel : Nat) : Suffices (n + 1) (readWith d (some item) fuel) := by
  intro t ht
  unfold readWith
  split
  · simp [Fits]
  · next c rest =>
    have hrest : rest.length ≤ n := Nat.le_of_succ_le_succ ht
    split
    · exact ((fits_string d.allowed rest).mono (Nat.le_succ _)).bind fun _ _ h => h
    split
    · exact (fits_array h fuel hrest).mono (Nat.le_succ _)
    split
    · exact (fits_object h fuel hrest).mono (Nat.le_succ _)
    · exact hd (c :: rest)

theorem suffices_value {d : Dialect} (hd : ∀ t, Fits t.length (d.bare t)) (fuel depth : Nat) :
    Suffices depth (readValue d fuel depth) := by
  induction depth with
  | zero =>
    intro t ht
    rw [List.eq_nil_of_length_eq_zero (Nat.le_zero.1 ht)]
    simp [readValue, readWith, Fits]
  | succ depth ih => exact suffices_with hd ih fuel

/-- Room for as many containers as there are code points is enough. -/
theorem read_length_ne_tooDeep {t : Text} {depth : Nat} (h : t.length ≤ depth) :
    read t depth ≠ .error .tooDeep := by
  have hvalue : Fits _ (readValue strict (t.length + 1) depth (skipBlank t)) :=
    suffices_value fits_bare _ depth _ (Nat.le_trans (length_skipBlank_le t) h)
  unfold read readWithin
  split
  · nofun
  · cases hv : readValue strict (t.length + 1) depth (skipBlank t) with
    | error e =>
      rw [hv] at hvalue
      intro he
      cases he
      exact hvalue rfl
    | ok x =>
      dsimp only [bind, Except.bind]
      split <;> nofun

end EnoughRoom

/-- **A text is too deep exactly when more room would make a difference.** -/
theorem read_tooDeep_iff {t : Text} {depth : Nat} :
    read t depth = .error .tooDeep ↔ ∃ more, depth ≤ more ∧ read t more ≠ read t depth := by
  constructor
  · intro h
    refine ⟨max depth t.length, Nat.le_max_left _ _, ?_⟩
    rw [h]
    exact read_length_ne_tooDeep (Nat.le_max_right _ _)
  · rintro ⟨more, hle, hne⟩
    exact (upToRoom_within strict hle t).resolve_right hne

end JsonShape.Json
