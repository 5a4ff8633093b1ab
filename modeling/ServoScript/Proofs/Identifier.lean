import Mathlib.Data.List.SplitBy
import Mathlib.Logic.Relation
import ServoScript.Proofs.Token

/-!
# The identifiers of names

A name becomes an identifier run by run: each maximal run of blanks becomes one low line, and of each other run the
letters, digits and low lines stay. So it does not matter which blanks a run has, nor which foreign characters
stand beside the others, and an identifier is its own identifier.
-/

namespace ServoScript

namespace Text

def isGap (t : Text) : Bool :=
  t.all isBlank

theorem isGap_iff {t : Text} : isGap t = true ↔ ∀ c ∈ t, isBlank c = true :=
  List.all_eq_true

/-- Whether two characters are both blank, or neither is. -/
def alike (c d : CodePoint) : Bool :=
  isBlank c == isBlank d

/-- The maximal runs of a text, those of blanks and those of other characters in turn. -/
def runs (t : Text) : List Text :=
  t.splitBy alike

def blankRuns (t : Text) : List Text :=
  (runs t).filter isGap

theorem flatten_runs (t : Text) : (runs t).flatten = t :=
  List.flatten_splitBy alike t

theorem isBlank_eq_of_isChain {c : CodePoint} {t : Text} (h : (c :: t).IsChain fun a b => alike a b = true) :
    ∀ d ∈ c :: t, isBlank d = isBlank c := by
  induction t generalizing c with
  | nil =>
    intro d hd
    rw [List.mem_singleton.mp hd]
  | cons next t ih =>
    obtain ⟨hc, hrest⟩ := List.isChain_cons_cons.mp h
    intro d hd
    rcases List.mem_cons.mp hd with rfl | hd
    · rfl
    · rw [ih hrest d hd, beq_iff_eq.mp hc]

/-- Where one run ends and the next one starts, blanks and other characters meet. -/
def Turn (run next : Text) : Prop :=
  ∃ hrun hnext, alike (run.getLast hrun) (next.head hnext) = false

theorem solid_of_turn {gap : Text} {runs : List Text} (hgap : ∀ c ∈ gap, isBlank c = true)
    (hturn : (gap :: runs).IsChain Turn) : ∀ c ∈ runs.flatten.head?, isBlank c = false := by
  intro c hc
  cases runs with
  | nil => cases hc
  | cons next runs =>
    obtain ⟨⟨hrun, hnext, hdiffer⟩, -⟩ := List.isChain_cons_cons.mp hturn
    cases next with
    | nil => exact absurd rfl hnext
    | cons d next =>
      cases hc
      rw [alike, hgap _ (List.getLast_mem hrun)] at hdiffer
      simpa using hdiffer

end Text

namespace Identifier

/-! ### Joining blanks -/

theorem joinBlanks_cons_blank {c : CodePoint} (hc : Text.isBlank c = true) (inRun : Bool) (t : Text) :
    joinBlanks inRun (c :: t) = if inRun then joinBlanks true t else '_' :: joinBlanks true t := by
  rw [joinBlanks, if_pos hc]

theorem joinBlanks_cons_solid {c : CodePoint} (hc : Text.isBlank c = false) (inRun : Bool) (t : Text) :
    joinBlanks inRun (c :: t) = c :: joinBlanks false t := by
  rw [joinBlanks, if_neg (by simp [hc])]

theorem joinBlanks_of_solid_head {t : Text} (h : ∀ c ∈ t.head?, Text.isBlank c = false) (inRun : Bool) :
    joinBlanks inRun t = joinBlanks false t := by
  cases t with
  | nil => rfl
  | cons c t => rw [joinBlanks_cons_solid (h c rfl), joinBlanks_cons_solid (h c rfl)]

/-- Whether a run of blanks goes on behind a text. -/
def endsBlank (inRun : Bool) (t : Text) : Bool :=
  t.foldl (fun _ c => Text.isBlank c) inRun

theorem joinBlanks_append (inRun : Bool) (t u : Text) :
    joinBlanks inRun (t ++ u) = joinBlanks inRun t ++ joinBlanks (endsBlank inRun t) u := by
  induction t generalizing inRun with
  | nil => rfl
  | cons c t ih =>
    rw [endsBlank, List.foldl_cons, ← endsBlank, List.cons_append]
    by_cases hc : Text.isBlank c = true
    · rw [joinBlanks_cons_blank hc, joinBlanks_cons_blank hc, hc, ih true]
      cases inRun <;> rfl
    · rw [Bool.not_eq_true] at hc
      rw [joinBlanks_cons_solid hc, joinBlanks_cons_solid hc, hc, ih false, List.cons_append]

theorem joinBlanks_blanks_append {gap : Text} (h : ∀ c ∈ gap, Text.isBlank c = true) (t : Text) :
    joinBlanks true (gap ++ t) = joinBlanks true t := by
  induction gap with
  | nil => rfl
  | cons c gap ih =>
    rw [List.cons_append, joinBlanks_cons_blank (h c List.mem_cons_self), if_pos rfl]
    exact ih fun d hd => h d (List.mem_cons_of_mem c hd)

/-- Blanks become one low line, or none if a run goes on; it does not matter which blanks they are. -/
theorem joinBlanks_gap_append {gap : Text} (hne : gap ≠ []) (h : ∀ c ∈ gap, Text.isBlank c = true)
    (inRun : Bool) (t : Text) :
    joinBlanks inRun (gap ++ t) = if inRun then joinBlanks true t else '_' :: joinBlanks true t := by
  cases gap with
  | nil => exact absurd rfl hne
  | cons c gap =>
    rw [List.cons_append, joinBlanks_cons_blank (h c List.mem_cons_self),
      joinBlanks_blanks_append fun d hd => h d (List.mem_cons_of_mem c hd)]

theorem joinBlanks_solid_append {t : Text} (h : ∀ c ∈ t, Text.isBlank c = false) (u : Text) :
    joinBlanks false (t ++ u) = t ++ joinBlanks false u := by
  induction t with
  | nil => rfl
  | cons c t ih =>
    rw [List.cons_append, joinBlanks_cons_solid (h c List.mem_cons_self), List.cons_append]
    rw [ih fun d hd => h d (List.mem_cons_of_mem c hd)]

theorem joinBlanks_of_solid {t : Text} (h : ∀ c ∈ t, Text.isBlank c = false) : joinBlanks false t = t := by
  have happend := joinBlanks_solid_append h []
  rwa [List.append_nil, joinBlanks, List.append_nil] at happend

/-! ### Run by run -/

def joined (run : Text) : Text :=
  if Text.isGap run then ['_'] else run

-- The induction is on the runs. Behind a run of blanks the next run is none of blanks, so that it does not
-- matter there that a run has just been joined.
theorem joinBlanks_flatten {runs : List Text} (hne : [] ∉ runs)
    (huniform : ∀ run ∈ runs, run.IsChain fun c d => Text.alike c d = true) (hturn : runs.IsChain Text.Turn) :
    joinBlanks false runs.flatten = runs.flatMap joined := by
  induction runs with
  | nil => rfl
  | cons run runs ih =>
    have hrest := ih (fun h => hne (List.mem_cons_of_mem run h))
      (fun r hr => huniform r (List.mem_cons_of_mem run hr)) hturn.tail
    rw [List.flatten_cons, List.flatMap_cons, ← hrest]
    cases run with
    | nil => exact absurd List.mem_cons_self hne
    | cons c run =>
      have hsame := Text.isBlank_eq_of_isChain (huniform _ List.mem_cons_self)
      by_cases hc : Text.isBlank c = true
      · have hblank : ∀ d ∈ c :: run, Text.isBlank d = true := fun d hd => (hsame d hd).trans hc
        rw [joinBlanks_gap_append (List.cons_ne_nil c run) hblank, joined, if_pos (Text.isGap_iff.mpr hblank),
          joinBlanks_of_solid_head (Text.solid_of_turn hblank hturn)]
        rfl
      · rw [Bool.not_eq_true] at hc
        have hsolid : ∀ d ∈ c :: run, Text.isBlank d = false := fun d hd => (hsame d hd).trans hc
        have hgap : ¬ Text.isGap (c :: run) = true := by simp [Text.isGap, hc]
        rw [joinBlanks_solid_append hsolid, joined, if_neg hgap]

theorem joinBlanks_eq_flatMap (t : Text) : joinBlanks false t = (Text.runs t).flatMap joined := by
  have hjoin : joinBlanks false (Text.runs t).flatten = (Text.runs t).flatMap joined :=
    joinBlanks_flatten (List.nil_notMem_splitBy Text.alike t)
      (fun _ hrun => List.isChain_of_mem_splitBy hrun) (List.isChain_getLast_head_splitBy Text.alike t)
  rwa [Text.flatten_runs] at hjoin

theorem count_flatMap_joined (runs : List Text) :
    (runs.flatMap joined).count (CodePoint.char '_') =
      runs.flatten.count (CodePoint.char '_') + (runs.filter Text.isGap).length := by
  induction runs with
  | nil => rfl
  | cons run runs ih =>
    rw [List.flatMap_cons, List.flatten_cons, List.count_append, List.count_append, ih, joined]
    by_cases hgap : Text.isGap run = true
    · have hnone : run.count (CodePoint.char '_') = 0 := by
        apply List.count_eq_zero_of_not_mem
        intro hmem
        exact absurd (Text.isGap_iff.mp hgap '_' hmem) (by decide)
      rw [if_pos hgap, List.filter_cons_of_pos hgap, hnone, List.length_cons, List.count_singleton_self]
      omega
    · rw [if_neg hgap, List.filter_cons_of_neg hgap]
      omega

/-! ### Identifiers -/

theorem ofName_of_parts {name : Text} (hne : name ≠ []) (hparts : ∀ c ∈ name, isPart c = true)
    (hsolid : ∀ c ∈ name, Text.isBlank c = false) : ofName name = name := by
  rw [ofName, joinBlanks_of_solid hsolid, List.filter_eq_self.mpr hparts]
  cases name with
  | nil => exact absurd rfl hne
  | cons c name => rfl

theorem ofName_ofName (name : Text) : ofName (ofName name) = ofName name :=
  ofName_of_parts (ofName_ne_nil name) (fun _ => isPart_of_mem_ofName) (Script.isToken_ofName name).not_blank

theorem count_ofName (name : Text) :
    (ofName name).count (CodePoint.char '_') =
      name.count (CodePoint.char '_') + (Text.blankRuns name).length := by
  have hkept : ((joinBlanks false name).filter isPart).count (CodePoint.char '_') =
      name.count (CodePoint.char '_') + (Text.blankRuns name).length := by
    rw [List.count_filter (by decide), joinBlanks_eq_flatMap, count_flatMap_joined, Text.flatten_runs]
    rfl
  rw [← hkept, ofName]
  split
  · next hnil =>
    rw [hnil]
    decide
  · rfl

theorem ofName_congr {name other : Text}
    (h : (joinBlanks false name).filter isPart = (joinBlanks false other).filter isPart) :
    ofName name = ofName other := by
  simp only [ofName, h]

/-- Foreign characters are dropped without a trace where no run of blanks goes on. -/
theorem filter_joinBlanks_foreign {inRun : Bool} {marks t : Text}
    (hmarks : ∀ c ∈ marks, Text.isBlank c = false ∧ isPart c = false)
    (ht : joinBlanks inRun t = joinBlanks false t) :
    (joinBlanks inRun (marks ++ t)).filter isPart = (joinBlanks inRun t).filter isPart := by
  induction marks generalizing inRun with
  | nil => rfl
  | cons c marks ih =>
    obtain ⟨hc, hpart⟩ := hmarks c List.mem_cons_self
    rw [List.cons_append, joinBlanks_cons_solid hc, List.filter_cons_of_neg (by simp [hpart]), ht]
    exact ih (fun d hd => hmarks d (List.mem_cons_of_mem c hd)) rfl

/-- The edits that an identifier does not show: other blanks in place of a run of blanks, and foreign characters
beside a character that is not blank. -/
inductive Edit : Text → Text → Prop
  | blanks (before gap other after : Text) (gap_ne_nil : gap ≠ [])
    (gap_blank : ∀ c ∈ gap, Text.isBlank c = true) (other_ne_nil : other ≠ [])
    (other_blank : ∀ c ∈ other, Text.isBlank c = true) :
    Edit (before ++ gap ++ after) (before ++ other ++ after)
  | behind (before : Text) (c : CodePoint) (marks after : Text) (solid : Text.isBlank c = false)
    (foreign : ∀ m ∈ marks, Text.isBlank m = false ∧ isPart m = false) :
    Edit (before ++ c :: after) (before ++ c :: (marks ++ after))
  | ahead (before marks : Text) (c : CodePoint) (after : Text) (solid : Text.isBlank c = false)
    (foreign : ∀ m ∈ marks, Text.isBlank m = false ∧ isPart m = false) :
    Edit (before ++ c :: after) (before ++ (marks ++ c :: after))

theorem ofName_edit {name other : Text} (h : Edit name other) : ofName other = ofName name := by
  apply ofName_congr
  cases h with
  | blanks before gap other after gap_ne_nil gap_blank other_ne_nil other_blank =>
    rw [List.append_assoc, List.append_assoc, joinBlanks_append false before, joinBlanks_append false before,
      joinBlanks_gap_append gap_ne_nil gap_blank, joinBlanks_gap_append other_ne_nil other_blank]
  | behind before c marks after solid foreign =>
    rw [joinBlanks_append, joinBlanks_append, joinBlanks_cons_solid solid, joinBlanks_cons_solid solid]
    simp only [List.filter_append, List.filter_cons, filter_joinBlanks_foreign foreign rfl]
  | ahead before marks c after solid foreign =>
    have hhead : ∀ d ∈ (c :: after).head?, Text.isBlank d = false := by
      intro d hd
      rwa [← Option.some.inj hd]
    rw [joinBlanks_append false before, joinBlanks_append false before, List.filter_append, List.filter_append,
      filter_joinBlanks_foreign foreign (joinBlanks_of_solid_head hhead _)]

theorem ofName_edits {name other : Text} (h : Relation.ReflTransGen Edit name other) :
    ofName other = ofName name := by
  induction h with
  | refl => rfl
  | tail _ hedit ih => exact (ofName_edit hedit).trans ih

/-- Every identifier has a character and only letters, digits and low lines of ASCII, and is its own identifier.
It does not change with the blanks of a run, nor with foreign characters beside one that is not blank, however
often such edits are made. It has a low line for each one of the name and for each maximal run of blanks. -/
theorem ofName_canonical (name : Text) :
    (ofName name ≠ [] ∧ ∀ c ∈ ofName name, isPart c = true) ∧
    ofName (ofName name) = ofName name ∧
    (∀ other, Relation.ReflTransGen Edit name other → ofName other = ofName name) ∧
    (ofName name).count (CodePoint.char '_') = name.count (CodePoint.char '_') + (Text.blankRuns name).length :=
  ⟨⟨ofName_ne_nil name, fun _ => isPart_of_mem_ofName⟩, ofName_ofName name, fun _ => ofName_edits,
    count_ofName name⟩

/-- Three runs of blanks and a low line give four low lines, also with another run in the middle and foreign
characters behind it. -/
theorem ofName_canonical_wave :
    ofName " _Wave\t¡éhello! " = ofName " _Wave  \u3000hello! " ∧
      ofName " _Wave  \u3000hello! " = "__Wave_hello_" ∧
      (" _Wave  \u3000hello! " : Text).count (CodePoint.char '_') +
        (Text.blankRuns " _Wave  \u3000hello! ").length = 4 := by
  have hblanks : Edit " _Wave  \u3000hello! " " _Wave\thello! " :=
    .blanks " _Wave" "  \u3000" "\t" "hello! " (by decide) (List.all_eq_true.mp rfl) (by decide)
      (List.all_eq_true.mp rfl)
  have hforeign : Edit " _Wave\thello! " " _Wave\t¡éhello! " :=
    .ahead " _Wave\t" "¡é" 'h' "ello! " rfl
      (List.forall_mem_cons.mpr ⟨⟨rfl, rfl⟩, List.forall_mem_singleton.mpr ⟨rfl, rfl⟩⟩)
  have hcanonical := ofName_canonical " _Wave  \u3000hello! "
  refine ⟨hcanonical.2.2.1 _ (.tail (.single hblanks) hforeign), by decide, ?_⟩
  rw [← hcanonical.2.2.2]
  decide

end Identifier

end ServoScript
