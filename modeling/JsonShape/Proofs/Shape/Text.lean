import JsonShape.Naming
import JsonShape.Shape

/-!
# A text is the text of one shape

Shapes are told apart by their texts, which is only right if a text determines its shape.  It does
among *legible* shapes (`text_injective`): unions have two members at least, and a name looks like a
word but is none of the words that a shape may have.  Every inferred shape is legible
(`legible_of`).

A text is a word or a union in parentheses, with pairs of brackets behind it.  The brackets may
belong to the shape or to an array around it, so the statement that carries the induction
(`Separates`) is about shapes inside arrays.
-/

namespace JsonShape.Shape

/-! ### Legible shapes -/

/-- The words that no name may be. -/
def reserved : List Text := ["unknown", "string", "number", "boolean", "null", "object"]

mutual

/-- Unions have two members at least, and names cannot be taken for other words. -/
def Legible : Shape → Prop
  | .scalar _ | .emptyArray => True
  | .named n => n.all Name.isKept = true ∧ n ∉ reserved
  | .array e => Legible e
  | .union ms => 2 ≤ ms.length ∧ AllLegible ms

def AllLegible : List Shape → Prop
  | [] => True
  | s :: ss => Legible s ∧ AllLegible ss

end

theorem allLegible_iff {ss : List Shape} : AllLegible ss ↔ ∀ s ∈ ss, Legible s := by
  induction ss with
  | nil => simp [AllLegible]
  | cons s ss ih => simp [AllLegible, ih]

/-! ### Words and brackets -/

/-- A shape whose text is a word with pairs of brackets behind it. -/
inductive Word : Shape → Text → Nat → Prop
  | scalar (k : Kind) : Word (.scalar k) k.word 0
  | named (n : Text) : Word (.named n) n 0
  | emptyArray : Word .emptyArray "unknown" 1

/-- Pairs of brackets. -/
def brackets : Nat → Text
  | 0 => []
  | n + 1 => '[' :: ']' :: brackets n

/-- A shape inside arrays. -/
def boxed : Nat → Shape → Shape
  | 0, s => s
  | n + 1, s => boxed n (.array s)

/-- No shape goes on with the text. -/
def Stops (u : Text) : Prop := ∀ c ∈ u.head?, c = (' ' : CodePoint) ∨ c = (')' : CodePoint)

theorem stops_nil : Stops [] := by simp [Stops]

theorem brackets_add (m n : Nat) : brackets (m + n) = brackets m ++ brackets n := by
  induction m with
  | zero => simp [brackets]
  | succ m ih => rw [Nat.succ_add, brackets, brackets, ih, List.cons_append, List.cons_append]

/-- Brackets end where something else begins. -/
theorem brackets_append_inj {m n : Nat} {u w : Text} (hu : Stops u) (hw : Stops w)
    (h : brackets m ++ u = brackets n ++ w) : m = n ∧ u = w := by
  induction m generalizing n with
  | zero =>
    cases n with
    | zero => exact ⟨rfl, h⟩
    | succ n =>
      subst h
      exact absurd (hu _ rfl) (by decide)
  | succ m ih =>
    cases n with
    | zero =>
      subst h
      exact absurd (hw _ rfl) (by decide)
    | succ n =>
      obtain ⟨rfl, rfl⟩ := ih (List.cons.inj (List.cons.inj h).2).2
      exact ⟨rfl, rfl⟩

theorem Word.text_eq {s : Shape} {word : Text} {k : Nat} (h : Word s word k) :
    s.text = word ++ brackets k := by
  cases h with
  | scalar k => simp [text, brackets]
  | named n => simp [text, brackets]
  | emptyArray => rfl

theorem Word.all_isKept {s : Shape} {word : Text} {k : Nat} (h : Word s word k) (hs : Legible s) :
    word.all Name.isKept = true := by
  cases h with
  | scalar k => cases k <;> rfl
  | named n => exact hs.1
  | emptyArray => rfl

theorem word_mem_reserved (k : Kind) : k.word ∈ reserved := by cases k <;> decide

theorem word_injective {k l : Kind} (h : k.word = l.word) : k = l := by
  revert h
  cases k <;> cases l <;> decide

theorem word_ne_unknown (k : Kind) : k.word ≠ "unknown" := by cases k <;> decide

/-- Legible shapes of one word are equal. -/
theorem Word.unique {s t : Shape} {word : Text} {k l : Nat} (h : Word s word k) (g : Word t word l)
    (hs : Legible s) (ht : Legible t) : s = t ∧ k = l := by
  generalize hw : word = word' at g
  cases h <;> cases g
  · exact ⟨congrArg _ (word_injective hw), rfl⟩
  · exact absurd (hw ▸ word_mem_reserved _) ht.2
  · exact absurd hw (word_ne_unknown _)
  · exact absurd (hw ▸ word_mem_reserved _) hs.2
  · exact ⟨congrArg _ hw, rfl⟩
  · exact absurd (by rw [hw]; decide) hs.2
  · exact absurd hw.symm (word_ne_unknown _)
  · exact absurd (by rw [← hw]; decide) ht.2
  · exact ⟨rfl, rfl⟩

/-- A word ends where a character stands that no word has. -/
theorem word_append_inj {p : CodePoint → Bool} {v w r q : Text} (hv : v.all p = true)
    (hw : w.all p = true) (hr : ∀ c ∈ r.head?, p c = false) (hq : ∀ c ∈ q.head?, p c = false)
    (h : v ++ r = w ++ q) : v = w ∧ r = q := by
  induction v generalizing w with
  | nil =>
    cases w with
    | nil => exact ⟨rfl, h⟩
    | cons d w =>
      rw [List.nil_append] at h
      subst h
      simp [hr d rfl] at hw
  | cons c v ih =>
    cases w with
    | nil =>
      rw [List.nil_append] at h
      subst h
      simp [hq c rfl] at hv
    | cons d w =>
      rw [List.cons_append, List.cons_append, List.cons.injEq] at h
      obtain ⟨rfl, h⟩ := h
      rw [List.all_cons, Bool.and_eq_true] at hv hw
      obtain ⟨rfl, hrq⟩ := ih hv.2 hw.2 h
      exact ⟨rfl, hrq⟩

/-- What may stand right behind a word. -/
theorem head_brackets {n : Nat} {u : Text} (hu : Stops u) : ∀ c ∈ (brackets n ++ u).head?,
    c = ('[' : CodePoint) ∨ c = (' ' : CodePoint) ∨ c = (')' : CodePoint) := by
  intro c hc
  cases n with
  | zero => exact Or.inr (hu c hc)
  | succ n => exact Or.inl (Option.some.inj hc).symm

theorem isKept_head_brackets {n : Nat} {u : Text} (hu : Stops u) :
    ∀ c ∈ (brackets n ++ u).head?, Name.isKept c = false := by
  intro c hc
  rcases head_brackets hu c hc with rfl | rfl | rfl <;> rfl

/-! ### Shapes that are separated by their texts -/

/-- Two shapes, in whatever arrays, have the same text only if they are the same. -/
def Separates (s t : Shape) : Prop :=
  ∀ (m n : Nat) (u w : Text), Stops u → Stops w →
    s.text ++ (brackets m ++ u) = t.text ++ (brackets n ++ w) → boxed m s = boxed n t ∧ u = w

theorem Separates.symm {s t : Shape} (h : Separates s t) : Separates t s := by
  intro m n u w hu hw he
  obtain ⟨hs, rfl⟩ := h n m w u hw hu he.symm
  exact ⟨hs.symm, rfl⟩

/-- The brackets of an array may be counted to those behind it. -/
theorem Separates.array {e t : Shape} (h : Separates e t) : Separates (.array e) t := by
  intro m n u w hu hw he
  refine h (m + 1) n u w hu hw ?_
  rw [← he, text, List.append_assoc]
  rfl

theorem Separates.of_words {s t : Shape} {v w : Text} {k l : Nat} (hv : Word s v k)
    (hw : Word t w l) (hs : Legible s) (ht : Legible t) : Separates s t := by
  intro m n u x hu hx he
  rw [hv.text_eq, hw.text_eq, List.append_assoc, List.append_assoc,
    ← List.append_assoc (brackets k), ← List.append_assoc (brackets l), ← brackets_add,
    ← brackets_add] at he
  obtain ⟨rfl, hr⟩ := word_append_inj (hv.all_isKept hs) (hw.all_isKept ht)
    (isKept_head_brackets hu) (isKept_head_brackets hx) he
  obtain ⟨rfl, rfl⟩ := hv.unique hw hs ht
  obtain ⟨hm, rfl⟩ := brackets_append_inj hu hx hr
  exact ⟨by rw [Nat.add_left_cancel hm], rfl⟩

/-! ### Members of unions -/

/-- Members behind bars, and what follows the last one. -/
def members (u : Text) : List Shape → Text
  | [] => ")" ++ u
  | s :: ss => " | " ++ (s.text ++ members u ss)

theorem stops_members (u : Text) (ss : List Shape) : Stops (members u ss) := by
  cases ss with
  | nil => exact fun c hc => Or.inr (Option.some.inj hc).symm
  | cons s ss => exact fun c hc => Or.inl (Option.some.inj hc).symm

theorem members_nil_ne_cons {u w : Text} {s : Shape} {ss : List Shape} :
    members u [] ≠ members w (s :: ss) := by
  intro h
  have hc : (')' : CodePoint) = (' ' : CodePoint) := Option.some.inj (congrArg List.head? h)
  exact absurd hc (by decide)

theorem join_append_eq_members (s : Shape) (ss : List Shape) (u : Text) :
    Text.join " | " (texts (s :: ss)) ++ (")" ++ u) = s.text ++ members u ss := by
  induction ss generalizing s with
  | nil => simp [texts, Text.join, members]
  | cons t ss ih =>
    have hj : Text.join " | " (texts (s :: t :: ss)) =
        s.text ++ (" | " ++ Text.join " | " (texts (t :: ss))) := by
      simp [texts, Text.join, List.intercalate]
    rw [hj, List.append_assoc, List.append_assoc, ih, members]

/-- A union with two members at least is written in parentheses. -/
theorem text_union_append (s t : Shape) (ss : List Shape) (u : Text) :
    (Shape.union (s :: t :: ss)).text ++ u = "(" ++ (s.text ++ members u (t :: ss)) := by
  rw [← join_append_eq_members, text, texts, texts, unionText]
  · simp
  · simp

theorem exists_of_two_le_length {ms : List Shape} (h : 2 ≤ ms.length) :
    ∃ s t ss, ms = s :: t :: ss := by
  rcases ms with _ | ⟨s, _ | ⟨t, ss⟩⟩
  · simp at h
  · simp at h
  · exact ⟨s, t, ss, rfl⟩

/-- No word starts with a parenthesis. -/
theorem Separates.of_word_of_union {s : Shape} {v : Text} {k : Nat} (hv : Word s v k)
    (hs : Legible s) {ms : List Shape} (hm : 2 ≤ ms.length) : Separates s (.union ms) := by
  intro m n u w hu hw he
  obtain ⟨a, b, ss, rfl⟩ := exists_of_two_le_length hm
  rw [hv.text_eq, text_union_append, List.append_assoc, ← List.append_assoc (brackets k),
    ← brackets_add] at he
  obtain ⟨-, hr⟩ := word_append_inj (w := []) (hv.all_isKept hs) rfl (isKept_head_brackets hu)
    (fun c hc => by cases hc; rfl) he
  have hc := head_brackets (n := k + m) hu '(' (by rw [hr]; rfl)
  exact absurd hc (by decide)

/-- The members of a union are separated one after another, each from what follows it. -/
theorem Separates.of_unions {ss ts : List Shape} (hs : 2 ≤ ss.length) (ht : 2 ≤ ts.length)
    (h : ∀ u w : Text, members u ss = members w ts → ss = ts ∧ u = w) :
    Separates (.union ss) (.union ts) := by
  intro m n u w hu hw he
  obtain ⟨a, b, ss, rfl⟩ := exists_of_two_le_length hs
  obtain ⟨c, d, ts, rfl⟩ := exists_of_two_le_length ht
  rw [text_union_append, text_union_append] at he
  have hm : members (brackets m ++ u) (a :: b :: ss) =
      members (brackets n ++ w) (c :: d :: ts) := by
    rw [members, List.append_cancel_left he]
    rfl
  obtain ⟨hst, hr⟩ := h _ _ hm
  obtain ⟨rfl, rfl⟩ := brackets_append_inj hu hw hr
  exact ⟨by rw [hst], rfl⟩

/-- What a shape is separated from may be told by the words and the unions among it. -/
theorem Separates.of_cases {s : Shape}
    (hw : ∀ {t : Shape} {w : Text} {k : Nat}, Word t w k → Legible t → Separates s t)
    (hu : ∀ {ts : List Shape}, Legible (.union ts) → Separates s (.union ts)) :
    ∀ t : Shape, Legible t → Separates s t
  | .array f, ht => (of_cases hw hu f ht).symm.array.symm
  | .union _, ht => hu ht
  | .scalar k, ht => hw (.scalar k) ht
  | .named n, ht => hw (.named n) ht
  | .emptyArray, ht => hw .emptyArray ht

theorem Separates.of_word {s : Shape} {v : Text} {k : Nat} (hv : Word s v k) (hs : Legible s) :
    ∀ t : Shape, Legible t → Separates s t :=
  of_cases (fun hw ht => of_words hv hw hs ht) fun ht => of_word_of_union hv hs ht.1

mutual

theorem separates : ∀ s : Shape, Legible s → ∀ t : Shape, Legible t → Separates s t
  | .array e, hs, t, ht => (separates e hs t ht).array
  | .union ss, hs, t, ht =>
    Separates.of_cases (fun hw hv => (Separates.of_word_of_union hw hv hs.1).symm)
      (fun hu => .of_unions hs.1 hu.1 (members_injective ss hs.2 _ hu.2)) t ht
  | .scalar k, hs, t, ht => .of_word (.scalar k) hs t ht
  | .named n, hs, t, ht => .of_word (.named n) hs t ht
  | .emptyArray, hs, t, ht => .of_word .emptyArray hs t ht

theorem members_injective : ∀ ss : List Shape, AllLegible ss → ∀ ts : List Shape, AllLegible ts →
    ∀ u w : Text, members u ss = members w ts → ss = ts ∧ u = w
  | [], _, [], _, u, w, h => ⟨rfl, List.append_cancel_left h⟩
  | [], _, _ :: _, _, _, _, h => absurd h members_nil_ne_cons
  | _ :: _, _, [], _, _, _, h => absurd h.symm members_nil_ne_cons
  | s :: ss, hs, t :: ts, ht, u, w, h => by
    obtain ⟨hst, hr⟩ := separates s hs.1 t ht.1 0 0 _ _ (stops_members u ss) (stops_members w ts)
      (List.append_cancel_left h)
    obtain ⟨rfl, rfl⟩ := members_injective ss hs.2 ts ht.2 u w hr
    exact ⟨congrArg (· :: ss) hst, rfl⟩

end

/-- **A text is the text of one legible shape.** -/
theorem text_injective {s t : Shape} (hs : Legible s) (ht : Legible t) (h : s.text = t.text) :
    s = t :=
  (separates s hs t ht 0 0 [] [] stops_nil stops_nil (by rw [h])).1

/-! ### Inferred shapes -/

theorem firsts_ne_nil {s : Shape} {ss : List Shape} (h : s ∈ ss) : firsts ss ≠ [] := by
  obtain ⟨t, ht, -⟩ := exists_mem_firsts h
  exact List.ne_nil_of_mem ht

theorem legible_unionOf {s : Shape} {ss : List Shape} (hs : s ∈ ss) (h : AllLegible ss) :
    Legible (unionOf ss) := by
  rw [allLegible_iff] at h
  unfold unionOf
  split
  · next t ht => exact h t (mem_of_mem_firsts (by simp [ht]))
  · next hone =>
    refine ⟨?_, allLegible_iff.2 fun t ht => h t (mem_of_mem_firsts ht)⟩
    have hne := firsts_ne_nil hs
    rcases hf : firsts ss with _ | ⟨t, _ | ⟨u, us⟩⟩
    · exact absurd hf hne
    · exact absurd hf (hone t)
    · simp

mutual

theorem legible_of : ∀ v : Json, Legible (of v)
  | .null | .bool _ | .number _ | .string _ | .object _ | .array [] => trivial
  | .array (x :: xs) => by
    rw [of, Legible]
    exact legible_unionOf List.mem_cons_self ⟨legible_of x, allLegible_ofAll xs⟩

theorem allLegible_ofAll : ∀ xs : List Json, AllLegible (ofAll xs)
  | [] => trivial
  | x :: xs => ⟨legible_of x, allLegible_ofAll xs⟩

end

end JsonShape.Shape
