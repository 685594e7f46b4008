import JsonShape.Proofs.Terminal.Style

/-!
# Escaped text in marked-up text

`Markup.escape` puts an odd number of backslashes before each tag, and its backslashes make no new
tags; so all that is found in an escaped text is plain (`isPlain_of_mem_pieces_escape`).  A message
of a label in a style and an escaped text can therefore be shown, whatever the text is
(`exists_shown_escape`).
-/

namespace JsonShape

theorem Text.upTo_eq_some_iff {stop : CodePoint} {refused : CodePoint → Bool}
    {t inside rest : Text} :
    upTo stop refused t = some (inside, rest) ↔
      t = inside ++ stop :: rest ∧ ∀ c ∈ inside, c ≠ stop ∧ refused c = false := by
  induction t generalizing inside with
  | nil => simp [upTo]
  | cons c t ih =>
    rw [upTo]
    by_cases hstop : c = stop
    · rw [if_pos hstop]
      cases inside with
      | nil => simp [hstop]
      | cons d inside =>
        simp only [Option.some.injEq, Prod.mk.injEq, reduceCtorEq, false_and, false_iff]
        rintro ⟨heq, hall⟩
        cases heq
        exact (hall c List.mem_cons_self).1 hstop
    · rw [if_neg hstop]
      cases inside with
      | nil =>
        cases hc : refused c with
        | true => simp [hstop]
        | false => simp [hstop]
      | cons d inside =>
        cases hc : refused c with
        | true =>
          simp only [if_true, reduceCtorEq, false_iff]
          rintro ⟨heq, hall⟩
          cases heq
          rw [(hall c List.mem_cons_self).2] at hc
          cases hc
        | false =>
          rw [if_neg (by decide), Option.map_eq_some_iff]
          constructor
          · rintro ⟨⟨i, r⟩, hr, heq⟩
            cases heq
            obtain ⟨rfl, hall⟩ := ih.1 hr
            exact ⟨rfl, List.forall_mem_cons.2 ⟨⟨hstop, hc⟩, hall⟩⟩
          · rintro ⟨heq, hall⟩
            cases heq
            exact ⟨(inside, rest), ih.2 ⟨rfl, (List.forall_mem_cons.1 hall).2⟩, rfl⟩

namespace Markup

/-! ### Tags -/

section Tags

variable {t u inside rest : Text} {c : CodePoint}

theorem tag?_cons_of_ne (h : c ≠ ('[' : CodePoint)) (t : Text) : tag? (c :: t) = none := if_neg h

theorem tag?_bracket (c : CodePoint) (t : Text) :
    tag? ('[' :: c :: t) = if startsTag c then Text.upTo ']' (· = '[') (c :: t) else none := rfl

/-- A tag has no brackets inside, and what follows it does not matter. -/
theorem tag?_eq_some_iff :
    tag? t = some (inside, rest) ↔
      t = ('[' : CodePoint) :: (inside ++ (']' : CodePoint) :: rest) ∧
        inside.head?.any startsTag = true ∧
        ∀ c ∈ inside, c ≠ (']' : CodePoint) ∧ decide (c = ('[' : CodePoint)) = false := by
  constructor
  · intro h
    match t with
    | [] => cases h
    | [b] =>
      simp only [tag?] at h
      split at h <;> cases h
    | b :: c :: t =>
      simp only [tag?] at h
      split at h
      · next hb =>
        split at h
        · next hstarts =>
          obtain ⟨heq, hall⟩ := Text.upTo_eq_some_iff.1 h
          refine ⟨by rw [hb, heq], ?_, hall⟩
          cases inside with
          | nil =>
            cases heq
            cases hstarts
          | cons d inside =>
            cases heq
            exact hstarts
        · cases h
      · cases h
  · rintro ⟨rfl, hstarts, hall⟩
    cases inside with
    | nil => cases hstarts
    | cons c inside =>
      have hc : startsTag c = true := hstarts
      rw [List.cons_append, tag?_bracket, if_pos hc]
      exact Text.upTo_eq_some_iff.2 ⟨rfl, hall⟩

theorem tag?_append (h : tag? t = some (inside, rest)) (u : Text) :
    tag? ("[" ++ inside ++ "]" ++ u) = some (inside, u) := by
  have happ : Text.ofString "[" ++ inside ++ Text.ofString "]" ++ u =
      ('[' : CodePoint) :: (inside ++ (']' : CodePoint) :: u) := by
    simp [Text.ofString]
  rw [happ]
  exact tag?_eq_some_iff.2 ⟨rfl, (tag?_eq_some_iff.1 h).2⟩

/-! ### Pieces -/

theorem pieces_of_tag (before : Text) (h : tag? t = some (inside, rest)) :
    pieces before t =
      .plain (before.drop (before.takeWhile (· = ('\\' : CodePoint))).length).reverse ::
        .plain (backslashes ((before.takeWhile (· = ('\\' : CodePoint))).length / 2)) ::
        (if (before.takeWhile (· = ('\\' : CodePoint))).length % 2 = 1 then
            .plain ("[" ++ inside ++ "]")
          else .ofTag inside) ::
        pieces [] rest := by
  rw [pieces.eq_def]
  split
  · next i r heq =>
    rw [h] at heq
    cases heq
    rfl
  · next heq =>
    rw [h] at heq
    cases heq

theorem pieces_cons (before : Text) (h : tag? (c :: t) = none) :
    pieces before (c :: t) = pieces (c :: before) t := by
  rw [pieces.eq_def]
  split
  · next i r heq =>
    rw [h] at heq
    cases heq
  · rfl

theorem pieces_nil (before : Text) : pieces before [] = [.plain before.reverse] := by
  rw [pieces.eq_def]
  rfl

/-- Text without opening brackets is passed over. -/
theorem pieces_append {w : Text} (hw : ∀ c ∈ w, c ≠ ('[' : CodePoint)) (before t : Text) :
    pieces before (w ++ t) = pieces (w.reverse ++ before) t := by
  induction w generalizing before with
  | nil => rfl
  | cons c w ih =>
    rw [List.forall_mem_cons] at hw
    rw [List.cons_append, pieces_cons before (tag?_cons_of_ne hw.1 _), ih hw.2,
      List.reverse_cons, List.append_assoc]
    rfl

end Tags

/-! ### Backslashes -/

section Backslashes

theorem upTo_backslashes (n : Nat) (t : Text) :
    Text.upTo ']' (· = '[') (backslashes n ++ t) = none ↔ Text.upTo ']' (· = '[') t = none := by
  induction n with
  | zero => rfl
  | succ n ih =>
    rw [backslashes, List.replicate_succ, List.cons_append, Text.upTo, if_neg (by decide),
      if_neg (by decide), Option.map_eq_none_iff]
    exact ih

theorem pieces_backslashes (n : Nat) (before t : Text) :
    pieces before (backslashes n ++ t) = pieces (backslashes n ++ before) t := by
  have hw : ∀ c ∈ backslashes n, c ≠ ('[' : CodePoint) := fun c hc =>
    List.eq_of_mem_replicate hc ▸ by decide
  have hreverse : (backslashes n).reverse = backslashes n := List.reverse_replicate ..
  rw [pieces_append hw, hreverse]

end Backslashes

/-! ### Escaped texts -/

section Escaped

/-- What escapes look like at the front, in its four cases. -/
theorem escapeTags_of_tag {t inside rest : Text} (run : Nat) (h : tag? t = some (inside, rest)) :
    escapeTags run t =
      backslashes (2 * run + 1) ++ "[" ++ inside ++ "]" ++ escapeTags 0 rest := by
  rw [escapeTags.eq_def]
  split
  · next i r heq =>
    rw [h] at heq
    cases heq
    rfl
  · next heq =>
    rw [h] at heq
    cases heq

theorem escapeTags_nil (run : Nat) : escapeTags run [] = backslashes run := by
  rw [escapeTags.eq_def]
  rfl

theorem escapeTags_cons {c : CodePoint} {t : Text} (run : Nat) (h : tag? (c :: t) = none) :
    escapeTags run (c :: t) =
      if c = '\\' then escapeTags (run + 1) t else backslashes run ++ [c] ++ escapeTags 0 t := by
  rw [escapeTags.eq_def]
  split
  · next i r heq =>
    rw [h] at heq
    cases heq
  · rfl

/-- Where no tag ends in a text, none ends in the escaped text and what follows it. -/
theorem upTo_escapeTags (run : Nat) {t tail : Text} (h : Text.upTo ']' (· = '[') t = none)
    (htail : Text.upTo ']' (· = '[') tail = none) :
    Text.upTo ']' (· = '[') (escapeTags run t ++ tail) = none := by
  fun_induction escapeTags run t with
  | case1 run t inside rest htag ih =>
    simp only [List.append_assoc]
    exact (upTo_backslashes _ _).2 rfl
  | case2 run htag => exact (upTo_backslashes _ _).2 htail
  | case3 run rest htag ih =>
    rw [Text.upTo, if_neg (by decide), if_neg (by decide), Option.map_eq_none_iff] at h
    exact ih h
  | case4 run c rest htag hc ih =>
    simp only [List.append_assoc]
    refine (upTo_backslashes _ _).2 ?_
    rw [List.singleton_append]
    rw [Text.upTo] at h ⊢
    split at h
    · cases h
    · next hstop =>
      rw [if_neg hstop]
      split at h
      · next hopen => rw [if_pos hopen]
      · next hopen =>
        rw [if_neg hopen, Option.map_eq_none_iff]
        exact ih (Option.map_eq_none_iff.1 h)

/-- The backslashes before a text stay in front of it. -/
theorem exists_escapeTags_succ (run : Nat) (t : Text) :
    ∃ u, escapeTags (run + 1) t = ('\\' : CodePoint) :: u := by
  cases htag : tag? t with
  | some found => exact ⟨_, escapeTags_of_tag (run + 1) htag⟩
  | none =>
    induction t generalizing run with
    | nil => exact ⟨_, escapeTags_nil (run + 1)⟩
    | cons c t ih =>
      rw [escapeTags_cons (run + 1) htag]
      split
      · cases htail : tag? t with
        | some found => exact ⟨_, escapeTags_of_tag (run + 1 + 1) htail⟩
        | none => exact ih (run + 1) htail
      · exact ⟨_, rfl⟩

/-- An opening bracket that is not escaped opens no tag. -/
theorem tag?_escapeTags {t tail : Text} (h : tag? ('[' :: t) = none)
    (htail : Text.upTo ']' (· = '[') tail = none) :
    tag? ('[' :: (escapeTags 0 t ++ tail)) = none := by
  cases htag : tag? t with
  | some found =>
    -- a backslash follows the bracket
    rw [escapeTags_of_tag 0 htag]
    rfl
  | none =>
    cases t with
    | nil =>
      rw [escapeTags_nil]
      cases tail with
      | nil => rfl
      | cons c tail =>
        change tag? ('[' :: c :: tail) = none
        rw [tag?_bracket, htail, ite_self]
    | cons c t =>
      by_cases hstarts : startsTag c = true
      · rw [tag?_bracket, if_pos hstarts] at h
        have hup := upTo_escapeTags 0 h htail
        have hc : c ≠ ('\\' : CodePoint) := by
          rintro rfl
          cases hstarts
        rw [escapeTags_cons 0 htag, if_neg hc] at hup ⊢
        exact (if_pos hstarts).trans hup
      · rw [escapeTags_cons 0 htag]
        split
        · obtain ⟨u, hu⟩ := exists_escapeTags_succ 0 t
          rw [hu]
          rfl
        · exact if_neg hstarts

/-- A piece without a style. -/
def Piece.IsPlain (x : Piece) : Prop := ∃ t, x = .plain t

theorem length_takeWhile_backslashes (n : Nat) {before : Text}
    (hbefore : before.head? ≠ some ('\\' : CodePoint)) :
    ((backslashes n ++ before).takeWhile (· = ('\\' : CodePoint))).length = n := by
  induction n with
  | zero =>
    cases before with
    | nil => rfl
    | cons c before =>
      have hc : c ≠ ('\\' : CodePoint) := fun hc => hbefore (congrArg some hc)
      change ((c :: before).takeWhile _).length = 0
      rw [List.takeWhile_cons_of_neg (by simpa using hc)]
      rfl
  | succ n ih =>
    rw [backslashes, List.replicate_succ, List.cons_append,
      List.takeWhile_cons_of_pos (by decide), List.length_cons]
    exact congrArg (· + 1) ih

/-- All of an escaped text is plain, after whatever does not end in a backslash, and so is what
follows without brackets. -/
theorem isPlain_of_mem_pieces (run : Nat) (t : Text) {before tail : Text}
    (hbefore : before.head? ≠ some ('\\' : CodePoint))
    (hopen : ∀ c ∈ tail, c ≠ ('[' : CodePoint)) (hclose : Text.upTo ']' (· = '[') tail = none) :
    ∀ x ∈ pieces before (escapeTags run t ++ tail), x.IsPlain := by
  fun_induction escapeTags run t generalizing before with
  | case1 run t inside rest htag ih =>
    have happ : backslashes (2 * run + 1) ++ Text.ofString "[" ++ inside ++ Text.ofString "]" ++
        escapeTags 0 rest ++ tail = backslashes (2 * run + 1) ++
          (Text.ofString "[" ++ inside ++ Text.ofString "]" ++ (escapeTags 0 rest ++ tail)) := by
      simp
    rw [happ, pieces_backslashes, pieces_of_tag _ (tag?_append htag _),
      length_takeWhile_backslashes _ hbefore, if_pos (by omega)]
    simp only [List.forall_mem_cons]
    exact ⟨⟨_, rfl⟩, ⟨_, rfl⟩, ⟨_, rfl⟩, ih (by decide)⟩
  | case2 run htag =>
    have hpieces := pieces_append hopen (backslashes run ++ before) []
    rw [List.append_nil, pieces_nil] at hpieces
    rw [pieces_backslashes, hpieces]
    exact List.forall_mem_singleton.2 ⟨_, rfl⟩
  | case3 run rest htag ih => exact ih hbefore
  | case4 run c rest htag hc ih =>
    have happ : backslashes run ++ [c] ++ escapeTags 0 rest ++ tail =
        backslashes run ++ c :: (escapeTags 0 rest ++ tail) := by simp
    have hnone : tag? (c :: (escapeTags 0 rest ++ tail)) = none := by
      by_cases hc : c = '['
      · subst hc
        exact tag?_escapeTags htag hclose
      · exact tag?_cons_of_ne hc _
    rw [happ, pieces_backslashes, pieces_cons _ hnone]
    exact ih fun h => hc (Option.some.inj h)

/-- **An escaped text has no tags,** and what follows it without brackets makes none. -/
theorem isPlain_of_mem_pieces_escape {before tail : Text}
    (hbefore : before.head? ≠ some ('\\' : CodePoint)) (t : Text)
    (htail : ∀ c ∈ tail, c ≠ ('[' : CodePoint) ∧ c ≠ (']' : CodePoint)) :
    ∀ x ∈ pieces before (escape t ++ tail), x.IsPlain := by
  have hescape : ∃ n, escape t = escapeTags 0 t ++ backslashes n := by
    rw [escape]
    split
    · exact ⟨1, rfl⟩
    · exact ⟨0, (List.append_nil _).symm⟩
  obtain ⟨n, hn⟩ := hescape
  rw [hn, List.append_assoc]
  have hopen : ∀ c ∈ tail, c ≠ ('[' : CodePoint) := fun c hc => (htail c hc).1
  have hclose : Text.upTo ']' (· = '[') tail = none := by
    cases hup : Text.upTo ']' (· = '[') tail with
    | none => rfl
    | some found =>
      obtain ⟨rfl, -⟩ := Text.upTo_eq_some_iff.1 hup
      exact absurd rfl (htail _ (List.mem_append_right _ List.mem_cons_self)).2
  refine isPlain_of_mem_pieces 0 t hbefore ?_ ((upTo_backslashes n tail).2 hclose)
  exact List.forall_mem_append.2 ⟨fun c hc => List.eq_of_mem_replicate hc ▸ by decide, hopen⟩

end Escaped

/-! ### Texts without tags and codes -/

section Plain

variable {P : CodePoint → Prop} {t : Text}

theorem replace_of_no_colon (h : ∀ c ∈ t, c ≠ (':' : CodePoint)) : Emoji.replace t = t := by
  induction t with
  | nil =>
    rw [Emoji.replace.eq_def]
    rfl
  | cons c t ih =>
    obtain ⟨hc, ht⟩ := List.forall_mem_cons.1 h
    rw [Emoji.replace.eq_def]
    split
    · next hcode =>
      rw [Emoji.code?, if_neg hc] at hcode
      cases hcode
    · exact congrArg (c :: ·) (ih ht)

theorem forall_mem_dropBackslashes (h : ∀ c ∈ t, P c) : ∀ c ∈ dropBackslashes t, P c := by
  induction t with
  | nil => exact List.forall_mem_nil _
  | cons c t ih =>
    obtain ⟨hc, ht⟩ := List.forall_mem_cons.1 h
    rw [dropBackslashes]
    split
    · exact ih ht
    · exact List.forall_mem_cons.2 ⟨hc, ih ht⟩

/-- Of a text without codes only its own characters are shown. -/
theorem forall_mem_visible (hcolon : ∀ c ∈ t, c ≠ (':' : CodePoint)) (h : ∀ c ∈ t, P c) :
    ∀ c ∈ visible t, P c := by
  intro c hc
  rw [visible, replace_of_no_colon (forall_mem_dropBackslashes hcolon)] at hc
  exact forall_mem_dropBackslashes h c (List.mem_filter.1 hc).1

end Plain

/-! ### Labelled messages -/

section Labels

variable {isName : Text → Bool}

/-- Plain pieces bring in no styles. -/
theorem exists_showPieces {ps : List Piece} (h : ∀ x ∈ ps, x.IsPlain) (before : Styled) :
    ∃ s, showPieces isName before [] ps = .ok s ∧ s.spans = before.spans := by
  induction ps generalizing before with
  | nil => exact ⟨_, rfl, List.append_nil _⟩
  | cons x ps ih =>
    rw [List.forall_mem_cons] at h
    obtain ⟨⟨t, rfl⟩, h⟩ := h
    exact ih h _

variable {style label : Text} (hstyle : tag? ("[" ++ style ++ "]") = some (style, []))
  (hopens : Piece.ofTag style = .opening style none)
  (hname : style.all (fun c => c.val < 0x80 ∧ c ≠ '(') = true)
  (hlabel : label.all (· ≠ ('[' : CodePoint)) = true)
  (hend : label.reverse.head? ≠ some ('\\' : CodePoint))
include hstyle hopens hlabel hend

/-- A label opens its style and closes it again. -/
theorem pieces_label (t : Text) :
    pieces [] ("[" ++ style ++ "]" ++ label ++ "[/] " ++ t) =
      .plain [] :: .plain [] :: .opening style none :: .plain label :: .plain [] :: .closing [] ::
        pieces " " t := by
  have happ : Text.ofString "[" ++ style ++ Text.ofString "]" ++ label ++ Text.ofString "[/] " ++
      t = Text.ofString "[" ++ style ++ Text.ofString "]" ++
        (label ++ (Text.ofString "[" ++ Text.ofString "/" ++ Text.ofString "]" ++
          (Text.ofString " " ++ t))) := by
    simp [Text.ofString]
  have hclosing : tag? (Text.ofString "[" ++ Text.ofString "/" ++ Text.ofString "]") =
      some (Text.ofString "/", []) := rfl
  have hrun : (label.reverse.takeWhile (· = ('\\' : CodePoint))).length = 0 :=
    length_takeWhile_backslashes 0 hend
  have hsolid : ∀ c ∈ label, c ≠ ('[' : CodePoint) := fun c hc =>
    of_decide_eq_true (List.all_eq_true.1 hlabel c hc)
  have hspace : ∀ c ∈ Text.ofString " ", c ≠ ('[' : CodePoint) :=
    List.forall_mem_singleton.2 (by decide)
  rw [happ, pieces_of_tag _ (tag?_append hstyle _), pieces_append hsolid, List.append_nil,
    pieces_of_tag _ (tag?_append hclosing _), pieces_append hspace, hrun]
  have hback : (label.reverse.drop 0).reverse = label := label.reverse_reverse
  simp only [List.takeWhile_nil, List.length_nil, hopens, hback]
  rfl

include hname in
/-- The label is shown, and then what follows it. -/
theorem shown_label (t : Text) :
    ∃ front : Styled, front.text = visible label ∧ HasGoodColours front ∧
      shown ("[" ++ style ++ "]" ++ label ++ "[/] " ++ t) isName =
        showPieces isName front [] (pieces " " t) := by
  have hnothing : visible [] = [] := by
    rw [visible, dropBackslashes, replace_of_no_colon (List.forall_mem_nil _)]
    rfl
  obtain ⟨name, hname, hplain⟩ := normalForm_of_plain (Style.isPlain_of_all hname)
  refine ⟨⟨visible label, [⟨0, (visible label).length, name⟩]⟩, rfl,
    List.forall_mem_singleton.2 (hasBadColour_of_plain hplain), ?_⟩
  rw [shown, pieces_label hstyle hopens hlabel hend]
  simp only [showPieces, hname, bind, Except.bind, close, if_pos, checkHandler, hnothing,
    List.append_nil, List.nil_append]
  rfl

include hname in
/-- **A label in a style and an escaped text can be shown.** -/
theorem exists_shown_escape (t : Text) :
    ∃ s, shown ("[" ++ style ++ "]" ++ label ++ "[/] " ++ escape t) isName = .ok s ∧
      HasGoodColours s := by
  obtain ⟨front, -, hgood, h⟩ := shown_label hstyle hopens hname hlabel hend (escape t)
  have hplain : ∀ x ∈ pieces " " (escape t ++ []), x.IsPlain :=
    isPlain_of_mem_pieces_escape (by decide) t (List.forall_mem_nil _)
  rw [List.append_nil] at hplain
  obtain ⟨s, hs, hspans⟩ := exists_showPieces hplain front
  exact ⟨s, h.trans hs, fun p hp => hgood p (hspans ▸ hp)⟩

include hname in
/-- So can one and a text without brackets. -/
theorem shown_of_no_bracket {t : Text} (ht : ∀ c ∈ t, c ≠ ('[' : CodePoint)) :
    ∃ s, shown ("[" ++ style ++ "]" ++ label ++ "[/] " ++ t) isName = .ok s ∧
      HasGoodColours s ∧ s.text = visible label ++ visible (" " ++ t) := by
  have hpieces := pieces_append ht " " []
  rw [List.append_nil, pieces_nil, List.reverse_append, List.reverse_reverse] at hpieces
  obtain ⟨front, htext, hgood, h⟩ := shown_label hstyle hopens hname hlabel hend t
  rw [h, hpieces, ← htext]
  exact ⟨_, rfl, List.forall_mem_append.2 ⟨hgood, List.forall_mem_nil _⟩, rfl⟩

end Labels

end Markup

end JsonShape
