import ServoScript.Script.Line
import ServoScript.Script.Machine

/-!
# The lines and the tokens of a script

Texts are cut as `List.splitOn` cuts lists. A text made of lines is cut into these lines again, and a
line made of tokens, blanks and a comment into these tokens, as long as no token has a blank or a
comment sign in it.
-/

namespace ServoScript

namespace Text

theorem splitWhere_eq_splitOnP (p : CodePoint → Bool) (t : Text) : splitWhere p t = t.splitOnP p := by
  induction t with
  | nil => rfl
  | cons c t ih =>
    rw [splitWhere, ih, List.splitOnP_cons_eq_if_modifyHead]
    cases hs : t.splitOnP p with
    | nil => exact absurd hs (List.splitOnP_ne_nil p t)
    | cons piece pieces => simp only [List.modifyHead_cons]

theorem split_eq_splitOn (mark : CodePoint) (t : Text) : split mark t = t.splitOn mark :=
  splitWhere_eq_splitOnP _ t

theorem split_append_cons (mark : CodePoint) (t u : Text) :
    split mark (t ++ mark :: u) = split mark t ++ split mark u := by
  simp only [split, splitWhere_eq_splitOnP]
  exact List.splitOnP_append_cons t u (beq_self_eq_true mark)

/-- The pieces of a text have its characters, but none at which it was cut. -/
theorem of_mem_splitWhere {p : CodePoint → Bool} {t piece : Text} (h : piece ∈ splitWhere p t) {c : CodePoint}
    (hc : c ∈ piece) : c ∈ t ∧ p c = false := by
  induction t generalizing piece with
  | nil =>
    rw [List.mem_singleton.mp h] at hc
    exact absurd hc List.not_mem_nil
  | cons d t ih =>
    have hlater : ∀ {rest : Text}, rest ∈ splitWhere p t → c ∈ rest → c ∈ d :: t ∧ p c = false := by
      intro rest hrest hmem
      exact ⟨List.mem_cons_of_mem d (ih hrest hmem).1, (ih hrest hmem).2⟩
    by_cases hd : p d = true
    · rw [splitWhere, if_pos hd] at h
      rcases List.mem_cons.mp h with rfl | hrest
      · exact absurd hc List.not_mem_nil
      · exact hlater hrest hc
    · have hfirst : c = d → c ∈ d :: t ∧ p c = false := by
        rintro rfl
        exact ⟨List.mem_cons_self, Bool.not_eq_true _ ▸ hd⟩
      rw [splitWhere, if_neg hd] at h
      cases hs : splitWhere p t with
      | nil =>
        simp only [hs, List.mem_singleton] at h
        rw [h, List.mem_singleton] at hc
        exact hfirst hc
      | cons first rest =>
        simp only [hs] at h hlater
        rcases List.mem_cons.mp h with rfl | hrest
        · rcases List.mem_cons.mp hc with he | hmem
          · exact hfirst he
          · exact hlater List.mem_cons_self hmem
        · exact hlater (List.mem_cons_of_mem _ hrest) hc

theorem not_mem_of_mem_split {mark : CodePoint} {t piece : Text} (h : piece ∈ split mark t) :
    mark ∉ piece := by
  intro hm
  have hmark := (of_mem_splitWhere h hm).2
  rw [beq_self_eq_true] at hmark
  exact Bool.noConfusion hmark

theorem length_split (mark : CodePoint) (t : Text) : (split mark t).length = t.count mark + 1 := by
  induction t with
  | nil => rfl
  | cons c t ih =>
    rw [split] at ih ⊢
    by_cases hc : c = mark
    · rw [splitWhere, if_pos (beq_iff_eq.mpr hc), List.length_cons, ih, hc, List.count_cons_self]
    · rw [splitWhere, if_neg (fun h => hc (beq_iff_eq.mp h)), List.count_cons_of_ne hc, ← ih]
      cases hs : splitWhere (· == mark) t with
      | nil => rw [hs] at ih; simp at ih
      | cons piece pieces => rfl

theorem words_append_cons {c : CodePoint} (hc : isBlank c = true) (t u : Text) :
    words (t ++ c :: u) = words t ++ words u := by
  simp only [words, splitWhere_eq_splitOnP]
  rw [List.splitOnP_append_cons t u hc, List.filter_append]

theorem words_cons_blank {c : CodePoint} (hc : isBlank c = true) (t : Text) :
    words (c :: t) = words t := by
  simpa [words, splitWhere] using words_append_cons hc [] t

theorem words_eq_singleton {t : Text} (hne : t ≠ []) (h : ∀ c ∈ t, isBlank c = false) :
    words t = [t] := by
  rw [words, splitWhere_eq_splitOnP, List.splitOnP_eq_singleton h]
  simp [hne]

theorem words_blanks_append {gap : Text} (h : ∀ c ∈ gap, isBlank c = true) (t : Text) :
    words (gap ++ t) = words t := by
  induction gap with
  | nil => rfl
  | cons c gap ih =>
    rw [List.cons_append, words_cons_blank (h c List.mem_cons_self)]
    exact ih fun d hd => h d (List.mem_cons_of_mem c hd)

theorem words_append_gap {gap : Text} (hne : gap ≠ []) (h : ∀ c ∈ gap, isBlank c = true) (t u : Text) :
    words (t ++ gap ++ u) = words t ++ words u := by
  cases gap with
  | nil => exact absurd rfl hne
  | cons c gap =>
    rw [List.append_assoc, List.cons_append, words_append_cons (h c List.mem_cons_self)]
    rw [words_blanks_append fun d hd => h d (List.mem_cons_of_mem c hd)]

theorem words_append_blanks {gap : Text} (h : ∀ c ∈ gap, isBlank c = true) (t : Text) :
    words (t ++ gap) = words t := by
  by_cases hne : gap = []
  · rw [hne, List.append_nil]
  · simpa [words, splitWhere] using words_append_gap hne h t []

/-- Words with blanks between each two of them are read back. -/
theorem words_intercalate {gap : Text} (hne : gap ≠ []) (h : ∀ c ∈ gap, isBlank c = true)
    {pieces : List Text} (hpieces : ∀ w ∈ pieces, w ≠ [] ∧ ∀ c ∈ w, isBlank c = false) :
    words (List.intercalate gap pieces) = pieces := by
  induction pieces with
  | nil => rfl
  | cons w pieces ih =>
    obtain ⟨hw, hrest⟩ := List.forall_mem_cons.mp hpieces
    have hfirst : words w = [w] := words_eq_singleton hw.1 hw.2
    cases pieces with
    | nil => rwa [List.intercalate_singleton]
    | cons next pieces =>
      rw [List.intercalate_cons_cons, words_append_gap hne h, hfirst, ih hrest]
      rfl

end Text

namespace Script

/-- A text that is read back as one token: neither empty, nor with a blank or a comment in it. -/
structure IsToken (t : Text) : Prop where
  ne_nil : t ≠ []
  not_blank : ∀ c ∈ t, Text.isBlank c = false
  no_comment : CodePoint.char '#' ∉ t

-- The blanks are sought along the text: the search over all characters would not end.
instance (t : Text) : Decidable (IsToken t) :=
  decidable_of_iff (t ≠ [] ∧ t.all (fun c => !Text.isBlank c) = true ∧ CodePoint.char '#' ∉ t)
    ⟨fun ⟨hne, hblank, hcomment⟩ => ⟨hne, by simpa using hblank, hcomment⟩,
      fun h => ⟨h.ne_nil, by simpa using h.not_blank, h.no_comment⟩⟩

theorem IsToken.no_feed {t : Text} (h : IsToken t) : CodePoint.char '\n' ∉ t := by
  intro hc
  have hb := h.not_blank '\n' hc
  exact absurd hb (by decide)

theorem withoutComment_append {t : Text} (h : CodePoint.char '#' ∉ t) (u : Text) :
    withoutComment (t ++ u) = t ++ withoutComment u := by
  apply List.takeWhile_append_of_pos
  intro c hc
  exact bne_iff_ne.mpr (fun he => h (he ▸ hc))

@[simp] theorem lineTokens_nil : lineTokens [] = [] := rfl

@[simp] theorem lineTokens_comment (t : Text) : lineTokens ('#' :: t) = [] := rfl

@[simp] theorem lineTokens_space (t : Text) : lineTokens (' ' :: t) = lineTokens t :=
  Text.words_cons_blank (by decide) _

theorem lineTokens_token_space {w : Text} (h : IsToken w) (t : Text) :
    lineTokens (w ++ CodePoint.char ' ' :: t) = w :: lineTokens t := by
  have hc : withoutComment (w ++ CodePoint.char ' ' :: t) = w ++ CodePoint.char ' ' :: withoutComment t :=
    withoutComment_append h.no_comment _
  rw [lineTokens, hc, Text.words_append_cons (by decide),
    Text.words_eq_singleton h.ne_nil h.not_blank]
  rfl

theorem lineTokens_token {w : Text} (h : IsToken w) : lineTokens w = [w] := by
  have hc : withoutComment w = w := by
    simpa [withoutComment] using withoutComment_append h.no_comment []
  rw [lineTokens, hc, Text.words_eq_singleton h.ne_nil h.not_blank]

@[simp] theorem text_nil : text [] = [] := rfl

@[simp] theorem text_cons (line : Text) (lines : List Text) :
    text (line :: lines) = line ++ CodePoint.char '\n' :: text lines := by
  simp [text]

theorem text_append (lines more : List Text) : text (lines ++ more) = text lines ++ text more :=
  List.flatMap_append

/-- Lines come back as they were written, with the empty piece behind the last feed. -/
theorem split_text {lines : List Text} (h : ∀ line ∈ lines, CodePoint.char '\n' ∉ line) :
    Text.split '\n' (text lines) = lines ++ [[]] := by
  rw [Text.split_eq_splitOn]
  induction lines with
  | nil => rfl
  | cons line lines ih =>
    have hl : CodePoint.char '\n' ∉ line := h line List.mem_cons_self
    rw [text_cons, List.splitOn_append_cons_self_of_not_mem hl,
      ih (fun l hl => h l (List.mem_cons_of_mem _ hl)), List.cons_append]

theorem tokens_text {lines : List Text} (h : ∀ line ∈ lines, CodePoint.char '\n' ∉ line) :
    tokens (text lines) = lines.flatMap lineTokens := by
  simp [tokens, split_text h]

end Script

end ServoScript
