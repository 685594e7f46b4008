import JsonShape.Proofs.Naming
import JsonShape.Proofs.Registry.Sites
import JsonShape.Proofs.Shape.Text

/-!
# Inferred shapes are told apart by their texts

A shape is inferred of a closed value or of a field, or is part of such a shape.  All inferred
shapes are legible (`legible_of_inferred`): the names among them start with no small letter, as all
reserved words do.  So their texts tell them apart, and a union by texts is a union by shapes
(`text_determines_inferred`).
-/

namespace JsonShape.Shape

/-! ### Equality -/

mutual

/-- Shapes are compared part by part. -/
def decEq : (s t : Shape) → Decidable (s = t)
  | .scalar k, .scalar l =>
    if h : k = l then isTrue (congrArg scalar h) else isFalse fun he => h (Shape.scalar.inj he)
  | .array e, .array f =>
    match decEq e f with
    | isTrue h => isTrue (congrArg array h)
    | isFalse h => isFalse fun he => h (Shape.array.inj he)
  | .union ms, .union ns =>
    match decEqAll ms ns with
    | isTrue h => isTrue (congrArg union h)
    | isFalse h => isFalse fun he => h (Shape.union.inj he)
  | .named m, .named n =>
    if h : m = n then isTrue (congrArg named h) else isFalse fun he => h (Shape.named.inj he)
  | .emptyArray, .emptyArray => isTrue rfl
  | .scalar _, .array _ | .scalar _, .union _ | .scalar _, .named _ | .scalar _, .emptyArray
  | .array _, .scalar _ | .array _, .union _ | .array _, .named _ | .array _, .emptyArray
  | .union _, .scalar _ | .union _, .array _ | .union _, .named _ | .union _, .emptyArray
  | .named _, .scalar _ | .named _, .array _ | .named _, .union _ | .named _, .emptyArray
  | .emptyArray, .scalar _ | .emptyArray, .array _ | .emptyArray, .union _
  | .emptyArray, .named _ => isFalse nofun

def decEqAll : (ss ts : List Shape) → Decidable (ss = ts)
  | [], [] => isTrue rfl
  | [], _ :: _ | _ :: _, [] => isFalse nofun
  | s :: ss, t :: ts =>
    match decEq s t, decEqAll ss ts with
    | isTrue h, isTrue hs => isTrue (h ▸ hs ▸ rfl)
    | isFalse h, _ => isFalse fun he => h (List.cons.inj he).1
    | _, isFalse hs => isFalse fun he => hs (List.cons.inj he).2

end

instance : DecidableEq Shape := decEq

/-- The union of shapes that are told apart by what they are. -/
def unionOfDistinct (ss : List Shape) : Shape :=
  match ss.eraseDups with
  | [s] => s
  | ms => .union ms

/-! ### Inferred shapes -/

/-- A shape is inferred of a value, or of a field while its record is made, or is part of an
inferred one. -/
inductive Inferred : Shape → Prop
  | closed (v : Json) : Inferred (.of v)
  | field (optional : Bool) (key : Text) (v : Json) (reg : Registry) :
    Inferred (Registry.makeShape optional key v reg).1
  | element {e : Shape} (h : Inferred (.array e)) : Inferred e
  | member {ms : List Shape} {s : Shape} (h : Inferred (.union ms)) (hs : s ∈ ms) : Inferred s

/-- All reserved words start with a small letter. -/
theorem not_mem_reserved {n : Text} (h : ∀ c ∈ n.head?, c.isLower = false) : n ∉ reserved := by
  have hlower : ∀ w ∈ reserved, w.head?.any CodePoint.isLower = true := by decide
  intro hn
  have hany := hlower n hn
  cases n with
  | nil => cases hany
  | cons c n => exact absurd hany (by rw [List.head?_cons, Option.any_some, h c rfl]; decide)

theorem legible_ofKey (key : Text) : Legible (.named (Name.ofKey key)) :=
  ⟨Name.all_isKept_ofKey key, not_mem_reserved (Name.isLower_head_ofKey key)⟩

theorem legible_ofItems (key : Text) : Legible (.named (Name.ofItems key)) :=
  ⟨Name.all_isKept_ofItems key, not_mem_reserved (Name.isLower_head_ofItems key)⟩

theorem legible_shapeUnder (key : Text) (v : Json) : Legible (shapeUnder key v) := by
  unfold shapeUnder
  split
  · exact legible_of .null
  · exact legible_of (.array [])
  · exact legible_ofItems key
  · exact legible_ofKey key
  · exact legible_of _

/-- **Every inferred shape is legible.** -/
theorem legible_of_inferred {s : Shape} (h : Inferred s) : Legible s := by
  induction h with
  | closed v => exact legible_of v
  | field optional key v reg =>
    rw [Registry.makeShape_eq]
    exact legible_shapeUnder key v
  | element _ ih => exact ih
  | member _ hs ih => exact allLegible_iff.1 ih.2 _ hs

theorem inferred_text_injective {s t : Shape} (hs : Inferred s) (ht : Inferred t)
    (h : s.text = t.text) : s = t :=
  text_injective (legible_of_inferred hs) (legible_of_inferred ht) h

/-! ### Empty arrays -/

theorem of_eq_emptyArray_iff {v : Json} : of v = .emptyArray ↔ v = .array [] := by
  cases v with
  | array items => cases items <;> simp [of]
  | _ => simp [of]

theorem shapeUnder_eq_emptyArray_iff {key : Text} {v : Json} :
    shapeUnder key v = .emptyArray ↔ v = .array [] := by
  unfold shapeUnder
  split
  · simp
  · simp
  · simp
  · simp
  · exact of_eq_emptyArray_iff

/-! ### Unions -/

theorem texts_eq_map (ss : List Shape) : texts ss = ss.map text := by
  induction ss with
  | nil => rfl
  | cons s ss ih => rw [texts, ih, List.map_cons]

theorem texts_append (ss ts : List Shape) : texts (ss ++ ts) = texts ss ++ texts ts := by
  rw [texts_eq_map, texts_eq_map, texts_eq_map, List.map_append]

theorem mem_texts {u : Text} {ss : List Shape} : u ∈ texts ss ↔ ∃ s ∈ ss, s.text = u := by
  rw [texts_eq_map, List.mem_map]

/-- Of what is appended, the shapes with a new text are kept. -/
theorem firsts_append (ss ts : List Shape) :
    firsts (ss ++ ts) = firsts ss ++ (firsts ts).filter fun t => !(texts ss).contains t.text := by
  induction ss with
  | nil =>
    have hall : ((firsts ts).filter fun t => !(texts []).contains t.text) = firsts ts :=
      List.filter_eq_self.2 fun t _ => by simp [texts]
    rw [hall, List.nil_append, firsts, List.nil_append]
  | cons s ss ih =>
    rw [List.cons_append, firsts, ih, List.filter_append, List.filter_filter, firsts,
      List.cons_append]
    congr 2
    apply List.filter_congr
    intro t _
    rw [Bool.eq_iff_iff]
    simp [texts]

theorem firsts_concat (ss : List Shape) (s : Shape) [Decidable (s.text ∈ texts ss)] :
    firsts (ss ++ [s]) = if s.text ∈ texts ss then firsts ss else firsts ss ++ [s] := by
  rw [firsts_append]
  by_cases hs : s.text ∈ texts ss
  · simp [firsts, hs]
  · simp [firsts, hs]

/-- Where texts tell shapes apart, the first of each text is the first of each shape. -/
theorem firsts_eq_eraseDups (ss : List Shape)
    (h : ∀ s ∈ ss, ∀ t ∈ ss, s.text = t.text → s = t) : firsts ss = ss.eraseDups := by
  induction ss using List.reverseRecOn with
  | nil => rfl
  | append_singleton ss s ih =>
    have hss : ∀ t ∈ ss, ∀ u ∈ ss, t.text = u.text → t = u := fun t ht u hu =>
      h t (List.mem_append_left _ ht) u (List.mem_append_left _ hu)
    have hs : s.text ∈ texts ss ↔ s ∈ ss := by
      rw [mem_texts]
      constructor
      · rintro ⟨t, ht, he⟩
        obtain rfl := h t (List.mem_append_left _ ht) s (by simp) he
        exact ht
      · exact fun hs => ⟨s, hs, rfl⟩
    simp only [firsts_concat, eraseDups_concat, ih hss, hs]

theorem unionOf_eq_unionOfDistinct {ss : List Shape} (h : ∀ s ∈ ss, Inferred s) :
    unionOf ss = unionOfDistinct ss := by
  rw [unionOf, firsts_eq_eraseDups ss fun s hs t ht => inferred_text_injective (h s hs) (h t ht)]
  rfl

/-! ### The theorem -/

/-- **A text is the text of one inferred shape.**  No name of a field is a reserved word, only an
empty array is written as `unknown[]`, no array of a union is written as a union of arrays is, and
unions may be made of what shapes are as well as of their texts. -/
theorem text_determines_inferred :
    (∀ s t : Shape, Inferred s → Inferred t → s.text = t.text → s = t) ∧
    (∀ n : Text, Inferred (.named n) → n ∉ reserved) ∧
    (∀ v : Json, ((of v).text = "unknown[]" ↔ v = .array []) ∧ ∀ optional key reg,
      (Registry.makeShape optional key v reg).1.text = "unknown[]" ↔ v = .array []) ∧
    (∀ ms ns : List Shape, Inferred (.array (.union ms)) → Inferred (.union ns) →
      (Shape.array (.union ms)).text ≠ (Shape.union ns).text) ∧
    ∀ ss : List Shape, (∀ s ∈ ss, Inferred s) →
      firsts ss = ss.eraseDups ∧ unionOf ss = unionOfDistinct ss := by
  have hempty {s : Shape} (hs : Inferred s) : s.text = "unknown[]" ↔ s = .emptyArray :=
    ⟨fun h => inferred_text_injective hs (.closed (.array [])) h, fun h => h ▸ rfl⟩
  refine ⟨fun s t => inferred_text_injective, fun n hn => (legible_of_inferred hn).2,
    fun v => ⟨(hempty (.closed v)).trans of_eq_emptyArray_iff, fun optional key reg => ?_⟩,
    fun ms ns hm hn he => ?_, fun ss hss => ⟨?_, unionOf_eq_unionOfDistinct hss⟩⟩
  · refine (hempty (.field optional key v reg)).trans ?_
    rw [Registry.makeShape_eq]
    exact shapeUnder_eq_emptyArray_iff
  · cases inferred_text_injective hm hn he
  · exact firsts_eq_eraseDups ss fun s hs t ht => inferred_text_injective (hss s hs) (hss t ht)

/-- The arrays `[[1, "x"], [2, "y", 3]]` and `[[1], ["x"]]`, and an object under the key
`_string`. -/
theorem text_determines_inferred_pairs :
    let one : Json := .number (.int 1)
    let x : Json := .string "x"
    let pair : Shape := .array (.union [.scalar .number, .scalar .string])
    let lists : Shape := .union [.array (.scalar .number), .array (.scalar .string)]
    let named : Shape := (Registry.makeShape false "_string" (.object []) ∅).1
    (Inferred pair ∧ Inferred lists ∧ Inferred named ∧ named = .named "String" ∧
        (of (.array [one, x, one])).text = pair.text) ∧
      of (.array [one, x, one]) = pair ∧ pair.text ≠ lists.text ∧
      Text.ofString "String" ∉ reserved ∧
      firsts [pair, lists, pair] = [pair, lists] ∧
      unionOf [pair, lists, pair] = unionOfDistinct [pair, lists, pair] := by
  intro one x pair lists named
  have hpair : Inferred pair := .closed (.array [one, x])
  have hlists : Inferred lists := .element (.closed (.array [.array [one], .array [x]]))
  have hnamed : Inferred named := .field false "_string" (.object []) ∅
  have htext : (of (.array [one, x, one])).text = pair.text := rfl
  have hname : named = .named "String" := rfl
  have hall : ∀ s ∈ [pair, lists, pair], Inferred s := by simp [hpair, hlists]
  obtain ⟨hinjective, hreserved, -, hunions, hdistinct⟩ := text_determines_inferred
  obtain ⟨hfirsts, hunion⟩ := hdistinct [pair, lists, pair] hall
  exact ⟨⟨hpair, hlists, hnamed, hname, htext⟩, hinjective _ _ (.closed _) hpair htext,
    hunions _ _ hpair hlists, hreserved _ (hname ▸ hnamed), hfirsts.trans (by decide), hunion⟩

end JsonShape.Shape
