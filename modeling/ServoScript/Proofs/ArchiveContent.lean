import Mathlib.Data.List.Basic
import ServoScript.Archive.Content
import ServoScript.Proofs.Word

/-!
# Which arrays are a sequence

An archive is a sequence if its arrays agree on the number of frames and all durations and targets are
words. Numbers are checked only after they are converted to 64 bits, where large ones turn negative. But no
integer that an array can hold turns into a word unless it was this word before, so that the check tells
what is stored. The rows of the grid are then the targets of the frames.
-/

namespace ServoScript.Archive

/-! ### Integers of 64 bits -/

/-- An integer that some signed or unsigned type of up to 64 bits holds. -/
def IsStorable (n : Int) : Prop :=
  -(Nat.pow 2 63 : Int) ≤ n ∧ n < (Nat.pow 2 64 : Int)

instance (n : Int) : Decidable (IsStorable n) :=
  inferInstanceAs (Decidable (_ ∧ _))

theorem wrap_of_lt {n : Int} (hlow : -(Nat.pow 2 63 : Int) ≤ n) (hhigh : n < (Nat.pow 2 63 : Int)) :
    Entries.wrap n = n := by
  have hlow' : -((Nat.pow 2 64 / 2 : Nat) : Int) ≤ n := hlow
  have hhigh' : n < (((Nat.pow 2 64 + 1) / 2 : Nat) : Int) := hhigh
  exact Int.bmod_eq_of_le hlow' hhigh'

/-- An integer from `2 ^ 63` on turns negative. -/
theorem wrap_of_le {n : Int} (hlow : (Nat.pow 2 63 : Int) ≤ n) (hhigh : n < (Nat.pow 2 64 : Int)) :
    Entries.wrap n = n - (Nat.pow 2 64 : Int) := by
  have hlow' : -(Nat.pow 2 63 : Int) ≤ n - (Nat.pow 2 64 : Int) := by
    have hpow : (Nat.pow 2 64 : Int) = 2 * (Nat.pow 2 63 : Int) := by decide
    omega
  have hhigh' : n - (Nat.pow 2 64 : Int) < (Nat.pow 2 63 : Int) := by
    have hpos : (0 : Int) < (Nat.pow 2 63 : Int) := by decide
    omega
  have hself : Entries.wrap (n - (Nat.pow 2 64 : Int)) = n - (Nat.pow 2 64 : Int) :=
    wrap_of_lt hlow' hhigh'
  rw [← hself]
  exact (Int.sub_bmod_right n (Nat.pow 2 64)).symm

/-- No integer wraps around to a word. -/
theorem isWord_wrap {n : Int} (h : IsStorable n) : Word.isWord (Entries.wrap n) = Word.isWord n := by
  by_cases hn : n < (Nat.pow 2 63 : Int)
  · rw [wrap_of_lt h.1 hn]
  · have hle : (Nat.pow 2 63 : Int) ≤ n := Int.not_lt.mp hn
    have hlarge : (65535 : Int) < (Nat.pow 2 63 : Int) := by decide
    have hneg : ¬ (0 ≤ Entries.wrap n ∧ Entries.wrap n ≤ 65535) := by
      rw [wrap_of_le hle h.2]
      have hhigh := h.2
      omega
    have hbig : ¬ (0 ≤ n ∧ n ≤ 65535) := by omega
    rw [Bool.eq_iff_iff, Word.isWord_iff, Word.isWord_iff]
    exact iff_of_false hneg hbig

theorem all_isWord_wrap {values : List Int} (h : ∀ v ∈ values, IsStorable v) :
    (values.map Entries.wrap).all Word.isWord = values.all Word.isWord := by
  rw [List.all_map, Bool.eq_iff_iff, List.all_eq_true, List.all_eq_true]
  refine forall₂_congr fun v hv => ?_
  rw [Function.comp_apply, isWord_wrap (h v hv)]

theorem map_wrap_of_words {values : List Int} (h : values.all Word.isWord = true) :
    values.map Entries.wrap = values := by
  apply map_eq_self
  intro v hv
  obtain ⟨hlow, hhigh⟩ := Word.isWord_iff.mp (List.all_eq_true.mp h v hv)
  have hneg : -(Nat.pow 2 63 : Int) ≤ 0 := by decide
  have hlarge : (65535 : Int) < (Nat.pow 2 63 : Int) := by decide
  exact wrap_of_lt (by omega) (by omega)

/-! ### Rows of a grid -/

section Rows

variable {α : Type} {size : Nat}

theorem length_parts (size count : Nat) (l : List α) : (parts size count l).length = count := by
  induction count generalizing l with
  | zero => rfl
  | succ count ih => rw [parts, List.length_cons, ih]

theorem length_of_mem_parts {count : Nat} {l part : List α} (hl : l.length = count * size)
    (h : part ∈ parts size count l) : part.length = size := by
  induction count generalizing l with
  | zero => exact absurd h List.not_mem_nil
  | succ count ih =>
    rw [Nat.succ_mul] at hl
    rcases List.mem_cons.mp h with rfl | hrest
    · rw [List.length_take]
      omega
    · exact ih (by rw [List.length_drop]; omega) hrest

theorem flatten_parts {count : Nat} {l : List α} (hl : l.length = count * size) :
    (parts size count l).flatten = l := by
  induction count generalizing l with
  | zero =>
    rw [Nat.zero_mul] at hl
    exact (List.eq_nil_of_length_eq_zero hl).symm
  | succ count ih =>
    rw [Nat.succ_mul] at hl
    rw [parts, List.flatten_cons, ih (by rw [List.length_drop]; omega), List.take_append_drop]

theorem parts_flatten {rows : List (List α)} (h : ∀ row ∈ rows, row.length = size) :
    parts size rows.length rows.flatten = rows := by
  induction rows with
  | nil => rfl
  | cons row rows ih =>
    have hrow : row.length = size := h row List.mem_cons_self
    rw [List.length_cons, List.flatten_cons, parts, List.take_left' hrow, List.drop_left' hrow,
      ih fun r hr => h r (List.mem_cons_of_mem _ hr)]

end Rows

section Frames

variable {names : List Text} {durations : List Int} {rows : List (List Int)}

/-- Lists of one length are told apart again in the frames that they make. -/
theorem map_framesOf (hd : durations.length = names.length) (hr : rows.length = names.length) :
    (framesOf names durations rows).map Frame.name = names ∧
      (framesOf names durations rows).map Frame.duration = durations ∧
      (framesOf names durations rows).map Frame.targets = rows := by
  induction names generalizing durations rows with
  | nil =>
    rw [List.eq_nil_of_length_eq_zero hd, List.eq_nil_of_length_eq_zero hr]
    exact ⟨rfl, rfl, rfl⟩
  | cons name names ih =>
    obtain ⟨duration, durations, rfl⟩ := List.exists_cons_of_length_eq_add_one hd
    obtain ⟨targets, rows, rfl⟩ := List.exists_cons_of_length_eq_add_one hr
    obtain ⟨hnames, hdurations, hrows⟩ := ih (Nat.succ.inj hd) (Nat.succ.inj hr)
    simp only [framesOf, List.map_cons, hnames, hdurations, hrows, and_self]

end Frames

/-! ### What is checked -/

/-- An array with as many entries as its shape has room for. -/
def Table.IsFull (t : Table) : Prop :=
  t.entries.length = volume t.shape

/-- A grid with a row for each of `count` frames; for no frames, also entries that are no grid and of
which there are none. -/
def Table.IsGridFor (t : Table) (count : Nat) : Prop :=
  (∃ columns, t.shape = [count, columns]) ∨
    count = 0 ∧ t.shape.length ≠ 2 ∧ t.entries.length = 0

theorem volume_singleton (n : Nat) : volume [n] = n := by
  simp [volume]

theorem volume_pair (rows columns : Nat) : volume [rows, columns] = rows * columns := by
  simp [volume]

/-- A shape that is no grid has another number of directions than two. -/
theorem columns_of_length {t : Table} (h : t.shape.length ≠ 2) (count : Nat) :
    columns count t = if volume t.shape = 0 && count = 0 then .ok 0 else .error .flatTargets := by
  unfold columns
  split
  · next heq => simp [heq] at h
  · rfl

theorem columns_of_pair {t : Table} {rows width : Nat} (h : t.shape = [rows, width]) (count : Nat) :
    columns count t = if rows = count then .ok width else .error .rows := by
  simp only [columns, h]

theorem columns_eq_ok_iff {t : Table} {count width : Nat} :
    columns count t = .ok width ↔
      t.shape = [count, width] ∨
        t.shape.length ≠ 2 ∧ volume t.shape = 0 ∧ count = 0 ∧ width = 0 := by
  by_cases hlength : t.shape.length = 2
  · obtain ⟨rows, columns, hshape⟩ := List.length_eq_two.mp hlength
    rw [columns_of_pair hshape, hshape]
    by_cases hrows : rows = count
    · simp [hrows]
    · simp [hrows]
  · have hne : t.shape ≠ [count, width] := fun h => hlength (by rw [h]; rfl)
    rw [columns_of_length hlength]
    simp only [hne, false_or, ne_eq, hlength, not_false_eq_true, true_and]
    by_cases hempty : volume t.shape = 0 ∧ count = 0
    · simp [hempty, eq_comm]
    · have hcond : (volume t.shape = 0 && count = 0) = false := by simpa using hempty
      rw [hcond]
      simp only [Bool.false_eq_true, if_false, reduceCtorEq, false_iff]
      exact fun h => hempty ⟨h.1, h.2.1⟩

theorem exists_columns_iff {t : Table} (hfull : t.IsFull) {count : Nat} :
    (∃ width, columns count t = .ok width) ↔ t.IsGridFor count := by
  rw [Table.IsFull] at hfull
  simp only [columns_eq_ok_iff, Table.IsGridFor, hfull]
  constructor
  · rintro ⟨width, hgrid | ⟨hlength, hvolume, hcount, _⟩⟩
    · exact Or.inl ⟨width, hgrid⟩
    · exact Or.inr ⟨hcount, hlength, hvolume⟩
  · rintro (⟨width, hgrid⟩ | ⟨hcount, hlength, hvolume⟩)
    · exact ⟨width, Or.inl hgrid⟩
    · exact ⟨0, Or.inr ⟨hlength, hvolume, hcount, rfl⟩⟩

/-- What a sequence needs of its arrays, and what it is then. -/
theorem Parts.toSequence_eq_ok_iff [Memory] {a : Parts} {s : Sequence} :
    a.toSequence = .ok s ↔ ∃ width durations targets,
      a.durations.entries.length = a.frameNames.entries.labels.length ∧
      columns a.frameNames.entries.labels.length a.targets = .ok width ∧
      longs a.durations = .ok durations ∧
      gridLongs a.frameNames.entries.labels.length width a.targets = .ok targets ∧
      durations.all Word.isWord = true ∧ targets.all Word.isWord = true ∧
      s = ⟨a.name, framesOf a.frameNames.entries.labels durations
        (parts width a.frameNames.entries.labels.length targets)⟩ := by
  constructor
  · intro h
    simp only [toSequence, bind, Except.bind] at h
    split at h
    · cases h
    next hlength =>
    split at h
    · cases h
    next width hcolumns =>
    split at h
    · cases h
    next durations hdurations =>
    split at h
    · cases h
    next targets htargets =>
    split_ifs at h with hd ht
    cases h
    exact ⟨width, durations, targets, not_not.mp hlength, hcolumns, hdurations, htargets,
      by simpa using hd, by simpa using ht, rfl⟩
  · rintro ⟨width, durations, targets, hlength, hcolumns, hdurations, htargets, hd, ht, rfl⟩
    simp only [toSequence, bind, Except.bind, hlength, hcolumns, hdurations, htargets, hd, ht, ne_eq,
      not_true, if_false, Bool.not_true, Bool.false_eq_true]

/-- No flaw is worded like success. -/
theorem Flaw.message_ne_ok (flaw : Flaw) : flaw.message ≠ "ok" := by
  have hhead : flaw.message.head? ≠ some (CodePoint.char 'o') := by
    cases flaw <;> exact of_decide_eq_true rfl
  intro h
  exact hhead (by rw [h]; rfl)

/-! ### What is read -/

variable {γ : Type} {codec : Codec γ} {content : γ} {p : Parts} {names : List Text}
  {durations targets : List Int}

theorem load_of_parts [Memory] (h : codec.parts content = .ok p) : load codec content = p.toSequence := by
  rw [load, h]
  rfl

theorem longs_of_integers {t : Table} {values : List Int} (h : t.entries = .integers values) :
    longs t = .ok (values.map Entries.wrap) := by
  simp only [longs, h, Entries.toLongs]

/-- Arrays with the names of frames, and with durations and targets of integer types. -/
structure Parts.Holds (p : Parts) (names : List Text) (durations targets : List Int) : Prop where
  names_eq : p.frameNames.entries = .texts names
  durations_eq : p.durations.entries = .integers durations
  targets_eq : p.targets.entries = .integers targets
  full : p.targets.IsFull
  storable : ∀ v ∈ durations ++ targets, IsStorable v

/-- The grid of targets for `count` frames is converted to 64 bits by taking its entries modulo
`2 ^ 64`. -/
def Parts.Converts [Memory] (p : Parts) (count : Nat) (targets : List Int) : Prop :=
  ∀ columns, p.targets.shape = [count, columns] →
    gridLongs count columns p.targets = .ok (targets.map Entries.wrap)

namespace Parts.Holds

theorem gridLongs_of_room [Memory] (h : p.Holds names durations targets) {rows columns : Nat}
    (hroom : checkRoom "int64" longSize rows columns = .ok ()) :
    gridLongs rows columns p.targets = .ok (targets.map Entries.wrap) := by
  rw [gridLongs, hroom]
  exact longs_of_integers h.targets_eq

/-- Entries that are no grid are converted as well, since there are none. -/
theorem gridLongs_eq [Memory] (h : p.Holds names durations targets) (hc : p.Converts names.length targets)
    {width : Nat} (hwidth : columns names.length p.targets = .ok width) :
    gridLongs names.length width p.targets = .ok (targets.map Entries.wrap) := by
  rcases columns_eq_ok_iff.mp hwidth with hshape | ⟨_, _, hcount, rfl⟩
  · exact hc width hshape
  · rw [hcount]
    exact h.gridLongs_of_room rfl

theorem length_targets (h : p.Holds names durations targets) {width : Nat}
    (hwidth : columns names.length p.targets = .ok width) : targets.length = names.length * width := by
  have hlength : targets.length = volume p.targets.shape := by
    have hfull := h.full
    rwa [Table.IsFull, h.targets_eq] at hfull
  rcases columns_eq_ok_iff.mp hwidth with hshape | ⟨_, hvolume, hcount, _⟩
  · rw [hlength, hshape, volume_pair]
  · rw [hlength, hvolume, hcount, Nat.zero_mul]

/-- What is stored decides, although what is converted is checked. -/
theorem toSequence_eq_ok_iff [Memory] (h : p.Holds names durations targets)
    (hc : p.Converts names.length targets) {s : Sequence} :
    p.toSequence = .ok s ↔ durations.length = names.length ∧
      (durations ++ targets).all Word.isWord = true ∧
      ∃ width, columns names.length p.targets = .ok width ∧
        s = ⟨p.name, framesOf (names.map stored) durations (parts width names.length targets)⟩ := by
  have hlabels : p.frameNames.entries.labels = names.map stored := by rw [h.names_eq]; rfl
  have hdurations : p.durations.entries.length = durations.length := by rw [h.durations_eq]; rfl
  have hsafe : ∀ v ∈ durations, IsStorable v := fun v hv => h.storable v (List.mem_append_left _ hv)
  have hsafe' : ∀ v ∈ targets, IsStorable v := fun v hv => h.storable v (List.mem_append_right _ hv)
  rw [Parts.toSequence_eq_ok_iff, hlabels, hdurations, List.length_map, List.all_append,
    Bool.and_eq_true]
  constructor
  · rintro ⟨width, ds, ts, hlength, hwidth, hds, hts, hd, ht, rfl⟩
    rw [longs_of_integers h.durations_eq] at hds
    rw [h.gridLongs_eq hc hwidth] at hts
    cases hds
    cases hts
    rw [all_isWord_wrap hsafe] at hd
    rw [all_isWord_wrap hsafe'] at ht
    refine ⟨hlength, ⟨hd, ht⟩, width, hwidth, ?_⟩
    rw [map_wrap_of_words hd, map_wrap_of_words ht]
  · rintro ⟨hlength, ⟨hd, ht⟩, width, hwidth, rfl⟩
    have hds : longs p.durations = .ok durations := by
      rw [longs_of_integers h.durations_eq, map_wrap_of_words hd]
    have hts : gridLongs names.length width p.targets = .ok targets := by
      rw [h.gridLongs_eq hc hwidth, map_wrap_of_words ht]
    exact ⟨width, durations, targets, hlength, hwidth, hds, hts, hd, ht, rfl⟩

end Parts.Holds

/-- Of the arrays that are read from an archive, with names of frames as texts and with durations and
targets of any integer types of up to 64 bits, a sequence is made if and only if there are as many names
as durations, the targets are a grid with a row for each of them, or there are none of all, and every
duration and every target that is stored is a word. The frames have just these names, durations and
targets. All other archives have a flaw, whose wording is not that of success. -/
theorem load_stored [Memory] (hread : codec.parts content = .ok p) (h : p.Holds names durations targets)
    (hconvert : p.Converts names.length targets) :
    ((∃ s, load codec content = .ok s) ↔
      durations.length = names.length ∧ p.targets.IsGridFor names.length ∧
        ∀ v ∈ durations ++ targets, 0 ≤ v ∧ v ≤ 65535) ∧
    (∀ s, load codec content = .ok s →
      s.name = p.name ∧ s.frames.length = names.length ∧
      s.frames.map Frame.name = names.map stored ∧ s.frames.map Frame.duration = durations ∧
      (s.frames.map Frame.targets).flatten = targets ∧
      ∀ columns, p.targets.shape = [names.length, columns] →
        ∀ f ∈ s.frames, f.targets.length = columns) ∧
    ((¬ ∃ s, load codec content = .ok s) →
      ∃ flaw, load codec content = .error flaw ∧ flaw.message ≠ "ok") := by
  have hwords : (durations ++ targets).all Word.isWord = true ↔
      ∀ v ∈ durations ++ targets, 0 ≤ v ∧ v ≤ 65535 := by
    rw [List.all_eq_true]
    exact forall₂_congr fun v _ => Word.isWord_iff
  rw [load_of_parts hread]
  refine ⟨?_, ?_, ?_⟩
  · rw [← exists_columns_iff h.full, ← hwords]
    simp only [h.toSequence_eq_ok_iff hconvert]
    constructor
    · rintro ⟨s, hlength, hall, width, hwidth, _⟩
      exact ⟨hlength, ⟨width, hwidth⟩, hall⟩
    · rintro ⟨hlength, ⟨width, hwidth⟩, hall⟩
      exact ⟨_, hlength, hall, width, hwidth, rfl⟩
  · intro s hs
    obtain ⟨hlength, _, width, hwidth, rfl⟩ := (h.toSequence_eq_ok_iff hconvert).mp hs
    have hgrid := h.length_targets hwidth
    have hlabels : durations.length = (names.map stored).length := by rw [hlength, List.length_map]
    have hrows : (parts width names.length targets).length = (names.map stored).length := by
      rw [length_parts, List.length_map]
    obtain ⟨hn, hd, ht⟩ := map_framesOf hlabels hrows
    refine ⟨rfl, ?_, hn, hd, ?_, ?_⟩
    · have hcount := congrArg List.length hd
      rwa [List.length_map, hlength] at hcount
    · rw [ht, flatten_parts hgrid]
    · intro columns hshape f hf
      have hcolumns : columns = width := by
        have hread := columns_eq_ok_iff.mpr (Or.inl hshape)
        rw [hwidth] at hread
        exact (Except.ok.inj hread).symm
      have hrow : f.targets ∈ parts width names.length targets := by
        rw [← ht]
        exact List.mem_map_of_mem hf
      rw [hcolumns, length_of_mem_parts hgrid hrow]
  · intro hnone
    cases hload : p.toSequence with
    | ok s => exact absurd ⟨s, hload⟩ hnone
    | error flaw => exact ⟨flaw, rfl, flaw.message_ne_ok⟩

/-- The names lie in a column, the durations in a row, and the last duration is the greatest word. -/
theorem load_stored_pair :
    letI : Memory := ⟨25, 64, by decide, by decide⟩
    ∃ s, load Content.codec (.arrays [("targets", ⟨[2, 3], .integers [1, 2, 3, 4, 5, 6]⟩),
        ("durations", ⟨[1, 2], .integers [0, 65535]⟩), ("frame_names", ⟨[2, 1], .texts ["A", "B"]⟩),
        ("sequence_name", ⟨[], .texts ["wave"]⟩)]) = .ok s ∧
      s.frames.map Frame.duration = [0, 65535] ∧
      (s.frames.map Frame.targets).flatten = [1, 2, 3, 4, 5, 6] := by
  let _ : Memory := ⟨25, 64, by decide, by decide⟩
  let p : Parts := ⟨"wave", ⟨[2, 1], .texts ["A", "B"]⟩, ⟨[1, 2], .integers [0, 65535]⟩,
    ⟨[2, 3], .integers [1, 2, 3, 4, 5, 6]⟩⟩
  have hread : Content.codec.parts (.arrays [("targets", ⟨[2, 3], .integers [1, 2, 3, 4, 5, 6]⟩),
      ("durations", ⟨[1, 2], .integers [0, 65535]⟩), ("frame_names", ⟨[2, 1], .texts ["A", "B"]⟩),
      ("sequence_name", ⟨[], .texts ["wave"]⟩)]) = .ok p := rfl
  have h : p.Holds ["A", "B"] [0, 65535] [1, 2, 3, 4, 5, 6] :=
    ⟨rfl, rfl, rfl, rfl, by decide⟩
  have hconvert : p.Converts 2 [1, 2, 3, 4, 5, 6] := by
    intro columns hshape
    cases hshape
    rfl
  obtain ⟨hiff, hexact, _⟩ := load_stored hread h hconvert
  obtain ⟨s, hs⟩ := hiff.mpr ⟨rfl, Or.inl ⟨3, rfl⟩, by decide⟩
  obtain ⟨_, _, _, hdurations, htargets, _⟩ := hexact s hs
  exact ⟨s, hs, hdurations, htargets⟩

end ServoScript.Archive
