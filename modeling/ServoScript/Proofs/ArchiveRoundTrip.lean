import Mathlib.Data.List.DropRight
import ServoScript.Proofs.ArchiveContent
import ServoScript.Proofs.Transport

/-!
# Archives give back what was saved

A sequence of words is saved as arrays without a fault, as long as there is room for a grid with a row for
each frame and a column for each channel. Frames may have targets of any number: the grid has the targets of
the channels, and zeros where a frame has none. Loading passes all its checks on such arrays, also on a grid
without rows, and scripts read the same targets as before. The file of an archive has a suffix that a path
may lack: then the archive is found under another path than the one it was saved at.
-/

namespace ServoScript.Archive

/-! ### Arrays of texts -/

/-- A text that an array keeps as it is: its last character is not null. -/
def IsKept (t : Text) : Prop :=
  t.getLast? ≠ some (CodePoint.char '\x00')

instance (t : Text) : Decidable (IsKept t) :=
  inferInstanceAs (Decidable (_ ≠ _))

theorem stored_eq_self {t : Text} (h : IsKept t) : stored t = t := by
  have hkept : t.rdropWhile (· == CodePoint.char '\x00') = t := by
    rw [List.rdropWhile_eq_self_iff]
    intro hne hnull
    have hlast : t.getLast hne = '\x00' := by simpa using hnull
    exact h (by rw [List.getLast?_eq_some_getLast hne, hlast])
  exact hkept

theorem leavesOf_texts (ts : List Text) : leavesOf (ts.map Json.text) = ts := by
  induction ts with
  | nil => rfl
  | cons t ts ih =>
    rw [List.map_cons, leavesOf, ih]
    rfl

/-- The first text of a list fixes the number of directions, and the others agree with it. -/
theorem addItems_texts (shape : List Nat) (ts : List Text) :
    Outline.addItems ⟨shape, 1, true, false⟩ 1 (ts.map Json.text) = ⟨shape, 1, true, false⟩ := by
  induction ts with
  | nil => rfl
  | cons t ts ih =>
    rw [List.map_cons, Outline.addItems]
    exact ih

theorem ofNested_texts (ts : List Text) :
    Table.ofNested (.list (ts.map Json.text)) = .ok ⟨[ts.length], .texts ts⟩ := by
  have hleaves : leaves (.list (ts.map Json.text)) = ts := leavesOf_texts ts
  have houtline : Outline.blank.add 0 (.list (ts.map Json.text)) = ⟨[ts.length], 1, true, false⟩ := by
    cases ts with
    | nil => rfl
    | cons t ts =>
      have hlength : ((t :: ts).map Json.text).length = (t :: ts).length := List.length_map _
      rw [← hlength]
      exact addItems_texts _ ts
  simp only [Table.ofNested, houtline, hleaves]
  rfl

/-! ### The arrays of a sequence -/

/-- A sequence whose names an array keeps and whose frames have words. -/
structure Storable (s : Sequence) : Prop where
  name : IsKept s.name
  names : ∀ f ∈ s.frames, IsKept f.name
  range : ∀ f ∈ s.frames, f.InRange

/-- The arrays that a sequence with `count` channels is saved as. -/
def arraysOf (count : Nat) (s : Sequence) : Arrays where
  name := ⟨[], .texts [s.name]⟩
  frameNames := ⟨[s.frames.length], .texts (s.frames.map Frame.name)⟩
  durations := ⟨[s.frames.length], .integers (s.frames.map Frame.duration)⟩
  targets := ⟨[s.frames.length, count],
    .integers (s.frames.map fun f => row count f.targets).flatten⟩

theorem length_row (count : Nat) (targets : List Int) : (row count targets).length = count := by
  rw [row, List.length_map, List.length_range]

theorem mem_row_range {targets : List Int} (h : ∀ v ∈ targets, 0 ≤ v ∧ v ≤ 65535) {count : Nat}
    {v : Int} (hv : v ∈ row count targets) : 0 ≤ v ∧ v ≤ 65535 := by
  obtain ⟨channel, _, rfl⟩ := List.mem_map.mp hv
  exact targetAt_range h channel

theorem mapM_word {values : List Int} (h : ∀ v ∈ values, 0 ≤ v ∧ v ≤ 65535) :
    values.mapM word = .ok values := by
  have hword : ∀ v ∈ values, word v = .ok (id v) := by
    intro v hv
    rw [word, if_pos (Word.isWord_iff.mpr (h v hv)), id]
  rw [mapM_ok hword, List.map_id]

variable {s : Sequence} {count : Int}

theorem save_of_lt [Memory] (h : count < 1) (s : Sequence) : save count s = .error .emptyArchive := by
  have hless : Json.Relation.less.holds (.int count) (.int 1) = .ok true := by
    have hcompare : Ord.compare count 1 = .lt := compare_lt_iff_lt.mpr h
    rw [Json.Relation.holds, hcompare]
    rfl
  rw [save, saveDraft, hless]
  rfl

/-- A sequence of words is saved if there is room for the grid of its targets. -/
theorem save_of_le [Memory] (h : 1 ≤ count) (hs : Storable s) :
    save count s = (do
      let extent ← extentOf (.int count)
      checkRoom "uint16" wordSize s.frames.length extent
      .ok (arraysOf extent s)) := by
  have hless : Json.Relation.less.holds (.int count) (.int 1) = .ok false := by
    have hcompare : Ord.compare count 1 ≠ .lt := fun hlt => by
      have := compare_lt_iff_lt.mp hlt
      omega
    rw [Json.Relation.holds, Json.Relation.admits]
    simpa using hcompare
  have htargets : ∀ extent : Nat, (s.draft.frames.mapM fun f => (row extent f.targets).mapM word) =
      .ok (s.frames.map fun f => row extent f.targets) := by
    intro extent
    rw [Sequence.draft, List.mapM_map]
    exact mapM_ok fun f hf => mapM_word fun v hv => mem_row_range (hs.range f hf).targets hv
  have hnames : Table.ofNested (.list (s.draft.frames.map Frame.Draft.name)) =
      .ok ⟨[s.frames.length], .texts (s.frames.map Frame.name)⟩ := by
    have hlist := ofNested_texts (s.frames.map Frame.name)
    rw [List.length_map, List.map_map] at hlist
    rw [Sequence.draft, List.map_map]
    exact hlist
  have hdurations : (s.draft.frames.mapM fun f => f.duration.toInt) =
      .ok (s.frames.map Frame.duration) := by
    rw [Sequence.draft, List.mapM_map]
    exact mapM_ok fun f _ => rfl
  have hwords : (s.frames.map Frame.duration).mapM word = .ok (s.frames.map Frame.duration) := by
    apply mapM_word
    intro v hv
    obtain ⟨f, hf, rfl⟩ := List.mem_map.mp hv
    exact (hs.range f hf).duration
  have hframes : s.draft.frames.length = s.frames.length := List.length_map _
  have hflat : Table.flat ⟨[s.frames.length], .texts (s.frames.map Frame.name)⟩ =
      (arraysOf 0 s).frameNames := by
    rw [Table.flat, Entries.length, List.length_map]
    rfl
  rw [save, saveDraft, hless]
  simp only [bind, Except.bind, Bool.false_eq_true, if_false, htargets, hnames, hdurations, hwords,
    hframes, hflat]
  rfl

/-! ### Room for the grid -/

/-- There can be a grid of 64-bit integers with so many rows and columns, and unless it has no rows there is
room for it. -/
def HasRoom [Memory] (rows columns : Nat) : Prop :=
  longSize * (max rows 1 * columns) < Nat.pow 2 63 ∧
    (0 < rows → longSize * (rows * columns) < Memory.octets)

instance [Memory] (rows columns : Nat) : Decidable (HasRoom rows columns) :=
  inferInstanceAs (Decidable (_ ∧ _))

theorem wordBound_le_iff {n : Nat} : Json.wordBound ≤ (n : Int) ↔ ¬ n < Nat.pow 2 63 :=
  ⟨fun hle => Nat.not_lt.mpr (Int.ofNat_le.mp hle), fun hlt => Int.ofNat_le.mpr (Nat.not_lt.mp hlt)⟩

theorem checkSize_eq (size rows : Nat) {columns : Nat} (h : 1 ≤ columns) :
    checkSize size rows columns =
      if size * (max rows 1 * columns) < Nat.pow 2 63 then .ok () else .error .hugeArray := by
  rw [checkSize, Nat.max_eq_left h, Nat.mul_assoc]
  simp only [wordBound_le_iff, ite_not]

theorem extentOf_eq (h : 1 ≤ count) :
    extentOf (.int count) =
      if count.toNat < Nat.pow 2 63 then .ok count.toNat else .error .hugeExtent := by
  obtain ⟨n, rfl⟩ := Int.eq_ofNat_of_zero_le (by omega : 0 ≤ count)
  rw [extentOf, Int.toNat_natCast]
  simp only [wordBound_le_iff, ite_not]

theorem checkRoom_eq_ok_iff [Memory] (kind : Text) (size : Nat) {rows columns : Nat} (h : 1 ≤ columns) :
    checkRoom kind size rows columns = .ok () ↔
      size * (max rows 1 * columns) < Nat.pow 2 63 ∧
        (0 < rows → size * (rows * columns) < Memory.octets) := by
  rw [checkRoom, checkSize_eq size rows h]
  by_cases hsize : size * (max rows 1 * columns) < Nat.pow 2 63
  · rw [if_pos hsize, and_iff_right hsize]
    simp only [bind, Except.bind, pure, Except.pure]
    by_cases hrows : 0 < rows
    · have hcells : 0 < rows * columns := Nat.mul_pos hrows h
      by_cases hroom : size * (rows * columns) < Memory.octets
      · simp [hrows, hroom]
      · simp [hrows, hcells, Nat.not_lt.mp hroom]
    · simp [Nat.eq_zero_of_not_pos hrows]
  · rw [if_neg hsize]
    exact iff_of_false (by rintro ⟨⟩) fun h => hsize h.1

/-! ### Files -/

/-- An array of words, or of texts that an array keeps. -/
def Table.IsPlain (t : Table) : Prop :=
  t.IsFull ∧
    match t.entries with
    | .integers values => ∀ v ∈ values, 0 ≤ v ∧ v ≤ 65535
    | .texts texts => ∀ text ∈ texts, IsKept text
    | _ => False

/-- Arrays of words and of texts that are written are the same when they are opened again. -/
def Codec.Faithful {γ : Type} (codec : Codec γ) : Prop :=
  ∀ a : Arrays, (∀ m ∈ a.named, m.2.IsPlain) →
    ∃ opened, codec.opened (codec.write a.named) = .ok opened ∧
      ∀ m ∈ a.named, opened m.1 = some (.ok (.table m.2))

def Slot.IsOpen {γ : Type} : Slot γ → Prop
  | .free => True
  | .file _ => True
  | _ => False

instance {γ : Type} : DecidablePred (@Slot.IsOpen γ)
  | .free => isTrue trivial
  | .file _ => isTrue trivial
  | .stray => isFalse id
  | .blocked => isFalse id
  | .folder => isFalse id

/-! ### Loading -/

def partsOf (extent : Nat) (s : Sequence) : Parts :=
  ⟨s.name, (arraysOf extent s).frameNames, (arraysOf extent s).durations, (arraysOf extent s).targets⟩

theorem length_flatten_rows (frames : List Frame) (extent : Nat) :
    (frames.map fun f => row extent f.targets).flatten.length = frames.length * extent := by
  induction frames with
  | nil => simp
  | cons f frames ih =>
    rw [List.map_cons, List.flatten_cons, List.length_append, ih, length_row, List.length_cons,
      Nat.succ_mul, Nat.add_comm]

theorem range_of_mem_arrays (hs : Storable s) {extent : Nat} {v : Int}
    (hv : v ∈ s.frames.map Frame.duration ++ (s.frames.map fun f => row extent f.targets).flatten) :
    0 ≤ v ∧ v ≤ 65535 := by
  rcases List.mem_append.mp hv with hd | ht
  · obtain ⟨f, hf, rfl⟩ := List.mem_map.mp hd
    exact (hs.range f hf).duration
  · obtain ⟨targets, hrow, hmem⟩ := List.mem_flatten.mp ht
    obtain ⟨f, hf, rfl⟩ := List.mem_map.mp hrow
    exact mem_row_range (hs.range f hf).targets hmem

theorem holds_partsOf (hs : Storable s) (extent : Nat) :
    (partsOf extent s).Holds (s.frames.map Frame.name) (s.frames.map Frame.duration)
      (s.frames.map fun f => row extent f.targets).flatten where
  names_eq := rfl
  durations_eq := rfl
  targets_eq := rfl
  full := by
    have hvolume := volume_pair s.frames.length extent
    exact (length_flatten_rows s.frames extent).trans hvolume.symm
  storable v hv := by
    have hlow : -(Nat.pow 2 63 : Int) ≤ 0 := by decide
    have hhigh : (65535 : Int) < (Nat.pow 2 64 : Int) := by decide
    have hrange := range_of_mem_arrays hs hv
    exact ⟨by omega, by omega⟩

theorem isPlain_arraysOf (hs : Storable s) (extent : Nat) : ∀ m ∈ (arraysOf extent s).named, m.2.IsPlain := by
  have hrange : ∀ v ∈ s.frames.map Frame.duration ++ (s.frames.map fun f => row extent f.targets).flatten,
      0 ≤ v ∧ v ≤ 65535 := fun _ => range_of_mem_arrays hs
  simp only [Arrays.named, List.forall_mem_cons, List.not_mem_nil, false_implies, implies_true, and_true]
  refine ⟨⟨rfl, List.forall_mem_singleton.mpr hs.name⟩, ⟨?_, ?_⟩, ⟨?_, ?_⟩, ?_, ?_⟩
  · exact (List.length_map _).trans (volume_singleton _).symm
  · intro text ht
    obtain ⟨f, hf, rfl⟩ := List.mem_map.mp ht
    exact hs.names f hf
  · exact (List.length_map _).trans (volume_singleton _).symm
  · exact fun v hv => hrange v (List.mem_append_left _ hv)
  · exact (length_flatten_rows s.frames extent).trans (volume_pair _ _).symm
  · exact fun v hv => hrange v (List.mem_append_right _ hv)

theorem parts_arraysOf {γ : Type} {codec : Codec γ} (hcodec : codec.Faithful) (hs : Storable s)
    (extent : Nat) : codec.parts (codec.write (arraysOf extent s).named) = .ok (partsOf extent s) := by
  have hname : Table.text ⟨[], .texts [s.name]⟩ = s.name := by
    simp [Table.text, Entries.labels, stored_eq_self hs.name]
  obtain ⟨opened, hopened, hvalues⟩ := hcodec (arraysOf extent s) (isPlain_arraysOf hs extent)
  simp only [Arrays.named, List.forall_mem_cons, List.not_mem_nil, false_implies, implies_true, and_true]
    at hvalues
  obtain ⟨hfirst, hnames, hdurations, htargets⟩ := hvalues
  have hvalue {key : Text} {t : Table} (h : opened key = some (.ok (.table t))) :
      opened.value key = .ok (.table t) := by
    rw [Opened.value, h]
  rw [Codec.parts, hopened]
  simp only [Opened.parts, List.any_cons, List.any_nil, hfirst, hnames, hdurations, htargets,
    hvalue hfirst, hvalue hnames, hvalue hdurations, hvalue htargets, Option.isNone_some, Bool.or_false,
    Bool.false_eq_true, if_false, bind, Except.bind, Value.text, Value.toTable]
  rw [arraysOf, hname]
  rfl

theorem framesOf_map (frames : List Frame) (extent : Nat) :
    framesOf (frames.map Frame.name) (frames.map Frame.duration)
        (frames.map fun f => row extent f.targets) =
      frames.map fun f => ⟨f.name, f.duration, row extent f.targets⟩ := by
  induction frames with
  | nil => rfl
  | cons f frames ih => simp only [List.map_cons, framesOf, ih]

section

variable [Memory] {γ : Type} {codec : Codec γ}

/-- The arrays of a sequence pass all checks, if there is room for a grid of 64-bit integers. -/
theorem load_arraysOf (hcodec : codec.Faithful) (hs : Storable s) {extent : Nat}
    (hroom : checkRoom "int64" longSize s.frames.length extent = .ok ()) :
    load codec (codec.write (arraysOf extent s).named) =
      .ok ⟨s.name, s.frames.map fun f => ⟨f.name, f.duration, row extent f.targets⟩⟩ := by
  have hholds := holds_partsOf hs extent
  have hcount : (s.frames.map Frame.name).length = s.frames.length := List.length_map _
  have hconvert : (partsOf extent s).Converts (s.frames.map Frame.name).length
      (s.frames.map fun f => row extent f.targets).flatten := by
    rw [hcount]
    intro columns hshape
    cases hshape
    exact hholds.gridLongs_of_room hroom
  rw [load_of_parts (parts_arraysOf hcodec hs extent), hholds.toSequence_eq_ok_iff hconvert]
  refine ⟨by rw [List.length_map, List.length_map], ?_, extent, ?_, ?_⟩
  · rw [List.all_eq_true]
    exact fun v hv => Word.isWord_iff.mpr (range_of_mem_arrays hs hv)
  · rw [hcount, columns_eq_ok_iff]
    exact Or.inl rfl
  · have hnames : (s.frames.map Frame.name).map stored = s.frames.map Frame.name := by
      apply map_eq_self
      intro name hn
      obtain ⟨f, hf, rfl⟩ := List.mem_map.mp hn
      exact stored_eq_self (hs.names f hf)
    have hrows : parts extent s.frames.length (s.frames.map fun f => row extent f.targets).flatten =
        s.frames.map fun f => row extent f.targets := by
      have hlength : ∀ r ∈ s.frames.map fun f => row extent f.targets, r.length = extent := by
        intro r hr
        obtain ⟨f, _, rfl⟩ := List.mem_map.mp hr
        exact length_row extent f.targets
      have hparts := parts_flatten hlength
      rwa [List.length_map] at hparts
    rw [hnames, hcount, hrows, framesOf_map]
    rfl

/-- Arrays whose grid has no room for 64-bit integers are saved but not loaded. -/
theorem load_arraysOf_of_error (hcodec : codec.Faithful) (hs : Storable s) {extent : Nat} {fault : Fault}
    (hroom : checkRoom "int64" longSize s.frames.length extent = .error fault) :
    load codec (codec.write (arraysOf extent s).named) = .error (.unreadableNumber fault) := by
  have hcolumns : columns s.frames.length (partsOf extent s).targets = .ok extent :=
    columns_eq_ok_iff.mpr (Or.inl rfl)
  have hlabels : (partsOf extent s).frameNames.entries.labels.length = s.frames.length := by
    have hentries : (partsOf extent s).frameNames.entries.labels =
        (s.frames.map Frame.name).map stored := rfl
    rw [hentries, List.length_map, List.length_map]
  have hdurations : (partsOf extent s).durations.entries.length = s.frames.length := List.length_map _
  rw [load_of_parts (parts_arraysOf hcodec hs extent), Parts.toSequence]
  simp only [bind, Except.bind, hlabels, hdurations, hcolumns, gridLongs, hroom,
    longs_of_integers (holds_partsOf hs extent).durations_eq, ne_eq, not_true, if_false]

/-! ### Saving and loading -/

/-- Room for a grid of 64-bit integers is room for one of 16-bit words. -/
theorem HasRoom.save_eq (h : HasRoom s.frames.length count.toNat) (hcount : 1 ≤ count) (hs : Storable s) :
    save count s = .ok (arraysOf count.toNat s) := by
  obtain ⟨hlong, hroom⟩ := h
  have hcells : count.toNat ≤ max s.frames.length 1 * count.toNat :=
    Nat.le_mul_of_pos_left _ (by omega)
  rw [longSize] at hlong hroom
  have hextent : count.toNat < Nat.pow 2 63 := by omega
  have hcheck : checkRoom "uint16" wordSize s.frames.length count.toNat = .ok () := by
    rw [checkRoom_eq_ok_iff "uint16" wordSize (by omega), wordSize]
    exact ⟨by omega, fun hrows => by have := hroom hrows; omega⟩
  rw [save_of_le hcount hs, extentOf_eq hcount, if_pos hextent]
  simp only [bind, Except.bind, hcheck]

theorem saveTo_of_error {disk : Disk γ} {fault : Fault} (h : save count s = .error fault) (path : Text) :
    saveTo codec disk path count s = (.error fault, disk) := by
  rw [saveTo, h]

theorem saveTo_of_isOpen {disk : Disk γ} {path : Text} {arrays : Arrays} (h : save count s = .ok arrays)
    (hopen : (disk (filePath path)).IsOpen) :
    saveTo codec disk path count s = (.ok (), disk.put (filePath path) (codec.write arrays.named)) := by
  simp only [saveTo, h]
  split
  · next hslot => rw [hslot] at hopen; exact hopen.elim
  · next hslot => rw [hslot] at hopen; exact hopen.elim
  · next hslot => rw [hslot] at hopen; exact hopen.elim
  · rfl

/-- Where no file can be written, saving is refused by the system. -/
theorem saveTo_of_not_isOpen {disk : Disk γ} {path : Text} {arrays : Arrays} (h : save count s = .ok arrays)
    (hclosed : ¬ (disk (filePath path)).IsOpen) :
    ∃ fault, saveTo codec disk path count s = (.error fault, disk) ∧ fault.isSystem = true := by
  simp only [saveTo, h]
  cases hslot : disk (filePath path) with
  | free =>
    rw [hslot] at hclosed
    exact absurd trivial hclosed
  | file content =>
    rw [hslot] at hclosed
    exact absurd trivial hclosed
  | stray => exact ⟨_, rfl, rfl⟩
  | blocked => exact ⟨_, rfl, rfl⟩
  | folder => exact ⟨_, rfl, rfl⟩

theorem loadFrom_put (disk : Disk γ) (path : Text) (content : γ) :
    loadFrom codec (disk.put path content) path = load codec content := by
  rw [loadFrom, Disk.put, if_pos rfl]

theorem loadFrom_put_of_ne (disk : Disk γ) {path other : Text} (h : other ≠ path) (content : γ) :
    loadFrom codec (disk.put path content) other = loadFrom codec disk other := by
  rw [loadFrom, loadFrom, Disk.put, if_neg h]

/-- Without room, saving fails or leaves an archive that cannot be loaded. -/
theorem saveTo_of_not_hasRoom (hcodec : codec.Faithful) (h : ¬ HasRoom s.frames.length count.toNat)
    (hcount : 1 ≤ count) (hs : Storable s) (disk : Disk γ) (path : Text) :
    (∃ fault, saveTo codec disk path count s = (.error fault, disk)) ∨
      ∃ after fault, saveTo codec disk path count s = (.ok (), after) ∧
        loadFrom codec after (filePath path) = .error (.unreadableNumber fault) := by
  cases hsave : save count s with
  | error fault => exact .inl ⟨fault, saveTo_of_error hsave path⟩
  | ok arrays =>
    by_cases hopen : (disk (filePath path)).IsOpen
    · have hmade := hsave
      rw [save_of_le hcount hs] at hmade
      obtain ⟨extent, hextent, hmade⟩ := bind_eq_ok hmade
      obtain ⟨_, _, harrays⟩ := bind_eq_ok hmade
      have hnat : extent = count.toNat := by
        rw [extentOf_eq hcount] at hextent
        split_ifs at hextent
        exact (Except.ok.inj hextent).symm
      subst hnat
      -- There was room for 16-bit words, so it is the conversion to 64 bits that fails.
      obtain ⟨fault, hfault⟩ : ∃ fault,
          checkRoom "int64" longSize s.frames.length count.toNat = .error fault := by
        cases hcheck : checkRoom "int64" longSize s.frames.length count.toNat with
        | ok _ => exact absurd ((checkRoom_eq_ok_iff "int64" longSize (by omega)).mp hcheck) h
        | error fault => exact ⟨fault, rfl⟩
      refine .inr ⟨_, fault, saveTo_of_isOpen hsave hopen, ?_⟩
      rw [loadFrom_put, ← Except.ok.inj harrays]
      exact load_arraysOf_of_error hcodec hs hfault
    · exact .inl ((saveTo_of_not_isOpen hsave hopen).imp fun _ hfault => hfault.1)

end

theorem targetAt_row {extent : Nat} {channel : Int} (h : channel < extent) (targets : List Int) :
    targetAt (row extent targets) channel = targetAt targets channel := by
  cases channel with
  | negSucc k => rfl
  | ofNat k =>
    have hlt : k < extent := Int.ofNat_lt.mp h
    simp [targetAt, row, hlt]

theorem filePath_of_suffix {path : Text} (h : suffix <:+ path) : filePath path = path :=
  if_pos (List.isSuffixOf_iff_suffix.mpr h)

theorem ne_filePath {path : Text} (h : ¬ suffix <:+ path) : path ≠ filePath path := by
  rw [filePath, if_neg fun hsuffix => h (List.isSuffixOf_iff_suffix.mp hsuffix)]
  intro heq
  have hlength := congrArg List.length heq
  rw [List.length_append] at hlength
  have hpos : suffix.length = 4 := rfl
  omega

/-- A sequence that is given back with `count` channels: the same names and durations, and the targets of
these channels, so that all updates of them are the same. -/
structure GivenBack (count : Int) (s t : Sequence) : Prop where
  name : t.name = s.name
  names : t.frames.map Frame.name = s.frames.map Frame.name
  durations : t.frames.map Frame.duration = s.frames.map Frame.duration
  targets : t.frames.map Frame.targets =
    s.frames.map fun f => (List.range count.toNat).map fun channel : Nat => f.target channel
  updates : ∀ enabled : List Int, (∀ channel ∈ enabled, channel < count) →
    Update.ofFrames enabled t.frames = Update.ofFrames enabled s.frames

theorem givenBack_rows (count : Int) (s : Sequence) :
    GivenBack count s ⟨s.name, s.frames.map fun f => ⟨f.name, f.duration, row count.toNat f.targets⟩⟩ where
  name := rfl
  names := by
    rw [List.map_map]
    rfl
  durations := by
    rw [List.map_map]
    rfl
  targets := by
    rw [List.map_map]
    rfl
  updates enabled henabled := by
    apply Update.ofFrames_congr
    rw [List.forall₂_map_left_iff, List.forall₂_same]
    intro f _ channel hchannel
    have hlt := henabled channel hchannel
    exact targetAt_row (by omega) f.targets

theorem known_of_isPlain {t : Table} (h : t.IsPlain) : known t = .ok (.table t) := by
  obtain ⟨shape, entries⟩ := t
  cases entries with
  | foreign => exact h.2.elim
  | _ => rfl

/-- Files whose arrays are not written out keep them. -/
theorem Content.faithful_codec : Content.codec.Faithful := by
  intro a hplain
  refine ⟨_, rfl, fun m hm => ?_⟩
  have hknown := known_of_isPlain (hplain m hm)
  simp only [Arrays.named, List.mem_cons, List.not_mem_nil, or_false] at hm
  rw [← hknown]
  rcases hm with rfl | rfl | rfl | rfl
  all_goals rfl

end ServoScript.Archive
