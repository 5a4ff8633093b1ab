import Mathlib.Algebra.Order.Floor.Div
import ServoScript.Proofs.ClosedScript

/-!
# The shape of wrapped frames

The lines of a frame hold its values in rows. Every row but the last is full, and the last one is not empty,
since a row is begun for a value only; so the call behind the last value is never alone on its line. The
number of rows follows from this.
-/

namespace ServoScript.Script

/-- Rows of values that are full but for the last one, which has at least one value. -/
structure Filled {α : Type} (width : Nat) (rows : List (List α)) : Prop where
  full : ∀ row ∈ rows.dropLast, row.length = width
  last : ∃ row, rows.getLast? = some row ∧ 1 ≤ row.length ∧ row.length ≤ width

/-! ### Rows -/

section

variable {α : Type} {width : Nat}

/-- The first row takes what there is room for, and what is left begins a row of its own. -/
theorem rowsFrom_eq (hw : 0 < width) (room : Nat) (values : List α) :
    rowsFrom width room values = values.take room ::
      if values.length ≤ room then [] else rowsFrom width width (values.drop room) := by
  induction values generalizing room with
  | nil => cases room <;> rfl
  | cons a values ih =>
    cases room with
    | zero =>
      obtain ⟨rest, rfl⟩ : ∃ rest, width = rest + 1 := ⟨width - 1, by omega⟩
      rw [if_neg (by simp), List.drop_zero, List.take_zero]
      rfl
    | succ room =>
      rw [rowsFrom, ih room, List.take_succ_cons, List.drop_succ_cons, List.length_cons]
      by_cases h : values.length ≤ room
      · rw [if_pos h, if_pos (by omega)]
        rfl
      · rw [if_neg h, if_neg (by omega)]
        rfl

theorem filled_singleton_iff {row : List α} : Filled width [row] ↔ 1 ≤ row.length ∧ row.length ≤ width := by
  constructor
  · intro h
    obtain ⟨last, hlast, hrange⟩ := h.last
    have hrow : row = last := by simpa using hlast
    exact hrow ▸ hrange
  · intro hrange
    exact ⟨by simp, row, rfl, hrange⟩

theorem filled_cons_iff {row : List α} {rows : List (List α)} (hne : rows ≠ []) :
    Filled width (row :: rows) ↔ row.length = width ∧ Filled width rows := by
  have hlast : (row :: rows).getLast? = rows.getLast? := List.getLast?_cons_of_ne_nil hne
  have hfull : (row :: rows).dropLast = row :: rows.dropLast := List.dropLast_cons_of_ne_nil hne
  constructor
  · intro h
    have hrows := h.full
    rw [hfull, List.forall_mem_cons] at hrows
    exact ⟨hrows.1, hrows.2, hlast ▸ h.last⟩
  · rintro ⟨hrow, h⟩
    refine ⟨?_, hlast ▸ h.last⟩
    rw [hfull]
    exact List.forall_mem_cons.mpr ⟨hrow, h.full⟩

theorem rowsFrom_ne_nil (width room : Nat) (values : List α) : rowsFrom width room values ≠ [] := by
  cases values with
  | nil => simp [rowsFrom]
  | cons a values =>
    cases room with
    | zero => simp [rowsFrom]
    | succ room =>
      rw [rowsFrom]
      cases rowsFrom width room values <;> simp [consRow]

theorem rows_ne_nil (width : LineWidth) (values : List α) : rows width values ≠ [] := by
  cases width with
  | none => simp [rows]
  | some n => exact rowsFrom_ne_nil n n values

theorem filled_rowsFrom (hw : 0 < width) {values : List α} (hne : values ≠ []) :
    Filled width (rowsFrom width width values) := by
  induction hn : values.length using Nat.strong_induction_on generalizing values with
  | _ n ih =>
    have hpos : 0 < values.length := List.length_pos_iff.mpr hne
    rw [rowsFrom_eq hw]
    by_cases h : values.length ≤ width
    · rw [if_pos h, List.take_of_length_le h]
      exact filled_singleton_iff.mpr ⟨hpos, h⟩
    · have hrest : values.drop width ≠ [] := by
        intro hnil
        have := List.drop_eq_nil_iff.mp hnil
        omega
      have hfirst : (values.take width).length = width := by
        rw [List.length_take]
        omega
      have hless : (values.drop width).length < n := by
        rw [List.length_drop]
        omega
      rw [if_neg h, filled_cons_iff (rowsFrom_ne_nil _ _ _)]
      exact ⟨hfirst, ih _ hless hrest rfl⟩

/-- How many rows there are follows from how they are filled. -/
theorem Filled.length_eq (hw : 0 < width) {rows : List (List α)} (h : Filled width rows) :
    rows.length = rows.flatten.length ⌈/⌉ width := by
  induction rows with
  | nil =>
    obtain ⟨_, hlast, _⟩ := h.last
    cases hlast
  | cons row rows ih =>
    rw [Nat.ceilDiv_eq_add_pred_div, List.flatten_cons, List.length_append, List.length_cons]
    by_cases hrows : rows = []
    · subst hrows
      obtain ⟨hone, hle⟩ := filled_singleton_iff.mp h
      have hsum : row.length + 0 + width - 1 = row.length - 1 + width := by omega
      have hless : row.length - 1 < width := by omega
      rw [List.flatten_nil, List.length_nil, List.length_nil, hsum, Nat.add_div_right _ hw,
        Nat.div_eq_of_lt hless]
    · obtain ⟨hrow, hrest⟩ := (filled_cons_iff hrows).mp h
      have hsum : width + rows.flatten.length + width - 1 = rows.flatten.length + width - 1 + width := by
        omega
      rw [ih hrest, Nat.ceilDiv_eq_add_pred_div, hrow, hsum, Nat.add_div_right _ hw]

end

/-! ### Lines -/

/-- The line with the row at a place among `count` rows: `lead` stands on the first one, `close` on the
last. -/
def rowLine (lead close : Text) (count place : Nat) (row : List Int) : Text :=
  indent ++ (if place = 0 then lead else []) ++ cells row ++ (if place + 1 = count then close else [])

theorem rowLines_eq_mapIdx {rows : List (List Int)} (hne : rows ≠ []) (lead close : Text) :
    rowLines lead close rows = rows.mapIdx (rowLine lead close rows.length) := by
  induction rows generalizing lead with
  | nil => exact absurd rfl hne
  | cons row rows ih =>
    cases rows with
    | nil => simp [rowLines, rowLine]
    | cons next rows =>
      have hplace : ∀ place, rowLine lead close (rows.length + 1 + 1) (place + 1) =
          rowLine [] close (rows.length + 1) place := by
        intro place
        funext other
        simp [rowLine]
      rw [rowLines, ih (List.cons_ne_nil _ _), List.mapIdx_cons]
      · simp [hplace, rowLine]
      · exact List.cons_ne_nil _ _

/-- The lines of a frame, with the values that they hold: a delay for a frame that changes nothing, and
otherwise the duration, the values and one call. -/
inductive Holds (f : Frame) : Update → List (List Int) → List Text → Prop
  | delay : Holds f [] [] [indent ++ Text.ofInt f.duration ++ " delay # " ++ comment f.name]
  | call {u : Update} {name : Text} {rows : List (List Int)} (hne : u ≠ [])
      (hname : subroutineName u.channels = .ok name) (hvalues : rows.flatten = u.values) :
      Holds f u rows (rows.mapIdx
        (rowLine (Text.ofInt f.duration ++ " ") (name ++ " # " ++ comment f.name) rows.length))

/-- The lines of a frame with rows of a width. -/
def Wrapped (width : Nat) (f : Frame) (u : Update) (block : List Text) : Prop :=
  ∃ rows, Holds f u rows block ∧
    (u ≠ [] → block.length = u.values.length ⌈/⌉ width ∧ Filled width rows)

/-- The lines of a frame with all its values in one row. -/
def Unwrapped (f : Frame) (u : Update) (block : List Text) : Prop :=
  ∃ rows, Holds f u rows block ∧ block.length = 1

theorem holds_playLines_nil (width : LineWidth) (f : Frame) : Holds f [] [] (playLines width f []) := by
  have hline : playLines width f [] = [indent ++ Text.ofInt f.duration ++ " delay # " ++ comment f.name] := by
    simp [playLines]
  rw [hline]
  exact .delay

theorem playLines_eq_mapIdx {u : Update} (h : u ≠ []) (width : LineWidth) (f : Frame) :
    playLines width f u = (rows width u.values).mapIdx (rowLine (Text.ofInt f.duration ++ " ")
      (setterName u.channels ++ " # " ++ comment f.name) (rows width u.values).length) := by
  rw [← rowLines_eq_mapIdx (rows_ne_nil width u.values), playLines, if_neg (by simpa using h)]
  simp

theorem length_playLines {u : Update} (h : u ≠ []) (width : LineWidth) (f : Frame) :
    (playLines width f u).length = (rows width u.values).length := by
  rw [playLines_eq_mapIdx h, List.length_mapIdx]

theorem holds_playLines {u : Update} (h : u ≠ []) {f : Frame}
    (hshort : ∀ n ∈ playIntegers f u, Numeral.isShort n = true) (width : LineWidth) :
    Holds f u (rows width u.values) (playLines width f u) := by
  have hchannels : ∀ n ∈ u.channels, Numeral.isShort n = true :=
    fun n hn => hshort n (List.mem_cons_of_mem _ (List.mem_append_right _ hn))
  rw [playLines_eq_mapIdx h]
  exact .call h (subroutineName_eq (channels_ne_nil h) hchannels) (flatten_rows width u.values)

theorem wrapped_playLines {width : Nat} (hw : 0 < width) {f : Frame} {u : Update}
    (hshort : ∀ n ∈ playIntegers f u, Numeral.isShort n = true) :
    Wrapped width f u (playLines (some width) f u) := by
  by_cases hu : u = []
  · subst hu
    exact ⟨[], holds_playLines_nil _ f, fun hne => absurd rfl hne⟩
  · have hvalues : u.values ≠ [] := by simpa [Update.values] using hu
    have hfilled : Filled width (rows (some width) u.values) := filled_rowsFrom hw hvalues
    refine ⟨_, holds_playLines hu hshort _, fun _ => ⟨?_, hfilled⟩⟩
    rw [length_playLines hu, hfilled.length_eq hw, flatten_rows]

theorem unwrapped_playLines {f : Frame} {u : Update}
    (hshort : ∀ n ∈ playIntegers f u, Numeral.isShort n = true) :
    Unwrapped f u (playLines none f u) := by
  by_cases hu : u = []
  · subst hu
    exact ⟨[], holds_playLines_nil none f, rfl⟩
  · exact ⟨_, holds_playLines hu hshort none, length_playLines hu none f⟩

/-! ### Texts of frames -/

/-- The text of frames, cut into lines, consists of one block of lines for each frame, in order, and of the
empty piece behind the last feed. -/
def LaidOut (shape : Frame → Update → List Text → Prop) (enabled : List Int) (width : LineWidth)
    (r : Registry) (frames : List Frame) : Prop :=
  ∃ lines blocks, (framesLines enabled width r frames).1 = .ok lines ∧
    Text.split '\n' (text lines) = blocks.flatten ++ [[]] ∧ blocks.length = frames.length ∧
    List.Forall₂ (fun p block => shape p.1 p.2 block) (frames.zip (Update.ofFrames enabled frames)) blocks

theorem laidOut_of_playLines {shape : Frame → Update → List Text → Prop} {width : LineWidth}
    (h : ∀ f u, (∀ n ∈ playIntegers f u, Numeral.isShort n = true) → shape f u (playLines width f u))
    {enabled : List Int} {frames : List Frame} (hprint : ∀ f ∈ frames, f.Printable enabled)
    (r : Registry) : LaidOut shape enabled width r frames := by
  refine ⟨sequenceLines enabled width frames,
    (frames.zip (Update.ofFrames enabled frames)).map fun p => playLines width p.1 p.2, ?_, ?_, ?_, ?_⟩
  · rw [framesLines_eq width hprint]
  · rw [split_text (no_feed_sequenceLines enabled width frames), sequenceLines, List.flatMap_def]
  · rw [List.length_map, List.length_zip, Update.length_ofFrames, Nat.min_self]
  · rw [List.forall₂_map_right_iff, List.forall₂_same]
    exact fun p hp => h p.1 p.2 ((integers_iff enabled frames).mpr hprint p hp)

/-- With a width of at least one, a frame that changes nothing is one line, and another one has its values in
rows that are full but for the last, of which the number is that of the values divided by the width, rounded
up. Without a width, or with a lower one, every frame is one line. Frames have no lines at all exactly if an
integer in them has too many digits. -/
theorem framesLines_wrapped (enabled : List Int) (r : Registry) (frames : List Frame) :
    ((∀ f ∈ frames, f.Printable enabled) →
      (∀ t : Int, 1 ≤ t → LaidOut (Wrapped t.toNat) enabled (LineWidth.ofInt t) r frames) ∧
      LaidOut Unwrapped enabled none r frames ∧
      ∀ t : Int, t < 1 → LaidOut Unwrapped enabled (LineWidth.ofInt t) r frames) ∧
    ((¬ ∀ f ∈ frames, f.Printable enabled) → ∀ width : LineWidth,
      (framesLines enabled width r frames).1 = .error .tooLongToWrite) := by
  refine ⟨fun hprint => ?_, fun hlong width => framesLines_eq_error width hlong r⟩
  have hunwrapped : LaidOut Unwrapped enabled none r frames :=
    laidOut_of_playLines (fun _ _ hshort => unwrapped_playLines hshort) hprint r
  refine ⟨fun t ht => ?_, hunwrapped, fun t ht => ?_⟩
  · have hpos : 0 < t.toNat := by omega
    rw [LineWidth.ofInt, if_neg (by omega)]
    exact laidOut_of_playLines (fun _ _ hshort => wrapped_playLines hpos hshort) hprint r
  · rw [LineWidth.ofInt, if_pos ht]
    exact hunwrapped

/-- A frame with one value more than two rows have room for, one that fills its row, and one that changes
nothing; and the same frames without a width. -/
theorem framesLines_wrapped_pair :
    (1 : Int) ≤ 2 ∧
      LaidOut (Wrapped 2) [0, 1, 2, 3, 4] (LineWidth.ofInt 2) .empty
        [⟨"A", 10, [1, 2, 3, 4, 5]⟩, ⟨"B", 20, [6, 7, 3, 4, 5]⟩, ⟨"C", 30, [6, 7, 3, 4, 5]⟩] ∧
      (-1 : Int) < 1 ∧
      LaidOut Unwrapped [0, 1, 2, 3, 4] (LineWidth.ofInt (-1)) .empty
        [⟨"A", 10, [1, 2, 3, 4, 5]⟩, ⟨"B", 20, [6, 7, 3, 4, 5]⟩, ⟨"C", 30, [6, 7, 3, 4, 5]⟩] := by
  obtain ⟨hwrapped, _, hlow⟩ := (framesLines_wrapped [0, 1, 2, 3, 4] .empty
    [⟨"A", 10, [1, 2, 3, 4, 5]⟩, ⟨"B", 20, [6, 7, 3, 4, 5]⟩, ⟨"C", 30, [6, 7, 3, 4, 5]⟩]).1
    (by decide +kernel)
  exact ⟨by decide, hwrapped 2 (by decide), by decide, hlow (-1) (by decide)⟩

/-- A frame with a channel of one digit too many has no lines. -/
theorem framesLines_long_channel :
    (framesLines [Nat.pow 10 Numeral.maxDigits] none .empty [⟨"A", 500, []⟩]).1 =
      .error .tooLongToWrite := by
  refine framesLines_eq_error none (fun h => ?_) _
  have hchannel := (h _ (List.mem_singleton_self _)).channels _ (List.mem_singleton_self _)
  exact Bool.noConfusion (hchannel.symm.trans Numeral.isShort_bound)

end ServoScript.Script
