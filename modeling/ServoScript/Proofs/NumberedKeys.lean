import ServoScript.Proofs.StableSort
import ServoScript.Proofs.StoreContent

/-!
# Keys that are numbers

Keys are sorted by the numbers that they stand for, and keys of equal numbers keep their order. A key that is
no number is equal to all others, so that two numbers on both sides of it may stay out of order. Where no two
numbers are out of order in this way, such keys do no harm: the numbers are sorted as if they were alone, and
the frames under them are read in the order of their numbers.
-/

namespace ServoScript.Store

def keyNumber? (key : Text) : Option Nat :=
  (Word.parse key).toOption

def isNumbered (key : Text) : Bool :=
  (keyNumber? key).isSome

/-- Two keys may follow each other: if both are numbers, the first one is not greater. -/
def InOrder (x y : Text) : Prop :=
  ∀ m ∈ keyNumber? x, ∀ n ∈ keyNumber? y, m ≤ n

/-- No key that is no number stands between two numbers of which the first one is greater. -/
def Undivided (keys : List Text) : Prop :=
  ∀ i j k : Fin keys.length, i < j → j < k →
    ∀ m ∈ keyNumber? (keys.get i), ∀ n ∈ keyNumber? (keys.get k), n < m → isNumbered (keys.get j) = true

instance (keys : List Text) : Decidable (Undivided keys) :=
  inferInstanceAs (Decidable (∀ i j k : Fin keys.length, i < j → j < k →
    ∀ m ∈ keyNumber? (keys.get i), ∀ n ∈ keyNumber? (keys.get k), n < m → isNumbered (keys.get j) = true))

/-! ### Two keys -/

theorem keyBefore_iff {x y : Text} :
    keyBefore x y = true ↔ ∃ m ∈ keyNumber? x, ∃ n ∈ keyNumber? y, m < n := by
  unfold keyBefore compareKeys keyNumber?
  cases Word.parse x with
  | error fault => simp [Except.toOption]
  | ok m =>
    cases Word.parse y with
    | error fault => simp [Except.toOption]
    | ok n => simp [Except.toOption]

theorem keyBefore_eq_false_iff {x y : Text} : keyBefore x y = false ↔ InOrder y x := by
  rw [← Bool.not_eq_true, keyBefore_iff]
  constructor
  · intro h n hn m hm
    by_contra hlt
    exact h ⟨m, hm, n, hn, by omega⟩
  · rintro h ⟨m, hm, n, hn, hlt⟩
    have := h n hn m hm
    omega

theorem keyBefore_asymm (x y : Text) (h : keyBefore x y = true) : keyBefore y x = false := by
  obtain ⟨m, hm, n, hn, hlt⟩ := keyBefore_iff.mp h
  rw [keyBefore_eq_false_iff]
  intro m' hm' n' hn'
  have hm := Option.mem_unique hm hm'
  have hn := Option.mem_unique hn hn'
  omega

/-! ### Lists of keys -/

variable {keys : List Text}

theorem Undivided.consistent (h : Undivided keys) : RunSort.Consistent keyBefore keys where
  ascending i j k hij hjk hj hk := by
    rw [keyBefore_eq_false_iff] at hj hk ⊢
    intro m hm n hn
    by_contra hlt
    have hmiddle := h i j k hij hjk m hm n hn (by omega)
    obtain ⟨w, hw⟩ := Option.isSome_iff_exists.mp hmiddle
    have hmw := hj m hm w hw
    have hwn := hk w hw n hn
    omega
  descending i j k _ _ hj hk := by
    rw [keyBefore_iff] at hj hk ⊢
    obtain ⟨w, hw, m, hm, hwm⟩ := hj
    obtain ⟨n, hn, w', hw', hnw⟩ := hk
    have hw := Option.mem_unique hw hw'
    exact ⟨n, hn, m, hm, by omega⟩

theorem Undivided.pairwise_sortKeys (h : Undivided keys) : (sortKeys keys).Pairwise InOrder := by
  apply (h.consistent.pairwise_sort keyBefore_asymm).imp
  intro x y hxy
  exact keyBefore_eq_false_iff.mp hxy

theorem Undivided.filter_sortKeys (h : Undivided keys) (p : Text → Bool) :
    (sortKeys keys).filter p = sortKeys (keys.filter p) :=
  h.consistent.filter_sort p

theorem undivided_of_numbered (h : ∀ key ∈ keys, isNumbered key = true) : Undivided keys :=
  fun _ j _ _ _ _ _ _ _ _ => h _ (List.get_mem keys j)

theorem sortKeys_eq_self (h : keys.Pairwise InOrder) : sortKeys keys = keys := by
  apply RunSort.sort_eq_self
  apply h.imp
  intro x y hxy
  exact keyBefore_eq_false_iff.mpr hxy

theorem filter_sortKeys_number (h : Undivided keys) (n : Nat) :
    (sortKeys keys).filter (fun key => keyNumber? key = some n) =
      keys.filter (fun key => keyNumber? key = some n) := by
  rw [h.filter_sortKeys]
  apply sortKeys_eq_self
  apply List.pairwise_of_forall_mem_list
  intro x hx y hy m hm n' hn'
  have hnx : keyNumber? x = some n := by simpa using (List.mem_filter.mp hx).2
  have hny : keyNumber? y = some n := by simpa using (List.mem_filter.mp hy).2
  have hm := Option.mem_unique hm hnx
  have hn' := Option.mem_unique hn' hny
  omega

/-- No key is lost in sorting and none is added. If all keys are numbers, they do not decrease, and those of
one number stay in their order. -/
theorem sortKeys_stable (keys : List Text) :
    (sortKeys keys).Perm keys ∧
    ((∀ key ∈ keys, isNumbered key = true) →
      (sortKeys keys).Pairwise (fun x y => ∀ m ∈ keyNumber? x, ∀ n ∈ keyNumber? y, m ≤ n) ∧
      ∀ n, (sortKeys keys).filter (fun key => keyNumber? key = some n) =
        keys.filter (fun key => keyNumber? key = some n)) := by
  refine ⟨RunSort.sort_perm keyBefore keys, fun h => ?_⟩
  have hundivided := undivided_of_numbered h
  exact ⟨hundivided.pairwise_sortKeys, filter_sortKeys_number hundivided⟩

/-- Three keys for one number, written in three ways, among other numbers. -/
theorem sortKeys_stable_sevens :
    (∀ key ∈ [("10" : Text), "+7", "9", "7", "0007", "0"], isNumbered key = true) ∧
      (sortKeys ["10", "+7", "9", "7", "0007", "0"]).Pairwise
        (fun x y => ∀ m ∈ keyNumber? x, ∀ n ∈ keyNumber? y, m ≤ n) ∧
      (sortKeys ["10", "+7", "9", "7", "0007", "0"]).filter (fun key => keyNumber? key = some 7) =
        ["+7", "7", "0007"] := by
  have hnumbered : ∀ key ∈ [("10" : Text), "+7", "9", "7", "0007", "0"], isNumbered key = true := by decide
  obtain ⟨hpairwise, hfilter⟩ := (sortKeys_stable ["10", "+7", "9", "7", "0007", "0"]).2 hnumbered
  exact ⟨hnumbered, hpairwise, (hfilter 7).trans (by decide)⟩

/-! ### Other keys among the numbers -/

theorem exists_not_undivided (h : ¬ Undivided keys) :
    ∃ x y z, [x, y, z].Sublist keys ∧ isNumbered y = false ∧ keyBefore z x = true := by
  unfold Undivided at h
  push Not at h
  obtain ⟨i, j, k, hij, hjk, m, hm, n, hn, hlt, hmiddle⟩ := h
  have hpositions : [i, j, k].Pairwise (· < ·) := by
    simp [hij, hjk, hij.trans hjk]
  exact ⟨_, _, _, List.map_getElem_sublist hpositions, Bool.eq_false_iff.mpr hmiddle,
    keyBefore_iff.mpr ⟨n, hn, m, hm, hlt⟩⟩

/-- Three keys of which neither of the first two is moved for the sake of the one behind it are one run. -/
theorem sortKeys_of_divided {x y z : Text} (hy : isNumbered y = false) (h : keyBefore z x = true) :
    (sortKeys [x, y, z]).filter isNumbered ≠ sortKeys ([x, y, z].filter isNumbered) := by
  have hnone : keyNumber? y = none := by simpa [isNumbered] using hy
  have hyx : keyBefore y x = false := by simp [keyBefore_eq_false_iff, InOrder, hnone]
  have hzy : keyBefore z y = false := by simp [keyBefore_eq_false_iff, InOrder, hnone]
  obtain ⟨n, hn, m, hm, hlt⟩ := keyBefore_iff.mp h
  have hx : isNumbered x = true := Option.isSome_of_mem hm
  have hz : isNumbered z = true := Option.isSome_of_mem hn
  have hne : x ≠ z := by
    rintro rfl
    have := Option.mem_unique hm hn
    omega
  have hrun : sortKeys [x, y, z] = [x, y, z] := by
    simp [sortKeys, RunSort.sort, RunSort.mergeLength, RunSort.firstRun, RunSort.span, hyx, hzy]
  have hpair : sortKeys [x, z] = [z, x] := by
    simp [sortKeys, RunSort.sort, RunSort.mergeLength, RunSort.firstRun, RunSort.span, h]
  have hkept : [x, y, z].filter isNumbered = [x, z] := by simp [hx, hy, hz]
  rw [hrun, hkept, hpair]
  simp [hne]

/-! ### Frames under their keys -/

theorem keys_inKeyOrder_sublist (nodes : Json.Members) :
    ((inKeyOrder nodes).map Prod.fst).Sublist (sortKeys (nodes.map Prod.fst)) := by
  unfold inKeyOrder
  induction sortKeys (nodes.map Prod.fst) with
  | nil => exact List.Sublist.refl _
  | cons key keys ih =>
    rw [List.filterMap_cons]
    split
    · exact ih.cons key
    · next entry hentry =>
      split at hentry
      · cases hentry
        exact ih.cons_cons key
      · cases hentry

/-- A sequence as it is read from an entry: a frame for each object among the entries of its frames, and if
no other key divides the numbers among the keys, the numbers do not decrease. -/
def PlaysNumbered (count : Nat) (entry : Text × Json.Members) (s : Sequence) : Prop :=
  ∃ order : List (Text × Json.Members),
    order.Perm (objects (membersAt "frames" (.object entry.2))) ∧
    s.frames = order.map (fun node => frameOf count node.1 node.2) ∧
    (Undivided ((membersAt "frames" (.object entry.2)).map Prod.fst) →
      order.Pairwise fun a b => ∀ m ∈ keyNumber? a.1, ∀ n ∈ keyNumber? b.1, m ≤ n)

theorem playsNumbered_sequenceOf (count : Nat) {key : Text} {members : Json.Members}
    (h : (Json.object members).Readable) :
    PlaysNumbered count (key, members) (sequenceOf count key members) := by
  refine ⟨inKeyOrder (membersAt "frames" (.object members)),
    inKeyOrder_perm (readable_membersAt h "frames").nodup_keys, ?_, fun hundivided => ?_⟩
  · rw [frames_sequenceOf, framesOf_eq_map]
  · have hkeys := hundivided.pairwise_sortKeys.sublist (keys_inKeyOrder_sublist _)
    exact List.pairwise_map.mp hkeys

/-- If no key that is no number divides two numbers that are out of order, then such keys have no influence on
how numbers are sorted. Otherwise they have it in a list of three of the keys. The frames of every sequence in
a file are read in the order of their numbers, unless these are divided in this way. -/
theorem sortKeys_undivided [Memory] :
    (∀ keys, Undivided keys → (sortKeys keys).filter isNumbered = sortKeys (keys.filter isNumbered)) ∧
    (∀ keys, ¬ Undivided keys → ∃ x y z, [x, y, z].Sublist keys ∧
      (sortKeys [x, y, z]).filter isNumbered ≠ sortKeys ([x, y, z].filter isNumbered)) ∧
    ∀ (file : File) (count : Int), count < Memory.items →
      ∃ sequences, read count file = .ok sequences ∧
        List.Forall₂ (PlaysNumbered count.toNat) (sequenceEntries file) sequences := by
  refine ⟨fun keys h => h.filter_sortKeys isNumbered, fun keys h => ?_, fun file count hroom => ?_⟩
  · obtain ⟨x, y, z, hsublist, hy, hbefore⟩ := exists_not_undivided h
    exact ⟨x, y, z, hsublist, sortKeys_of_divided hy hbefore⟩
  · refine ⟨sequencesOf count.toNat (tree file), ?_, ?_⟩
    · rw [read, Frame.targetCount_of_room hroom]
      rfl
    · rw [sequencesOf_eq_map, List.forall₂_map_right_iff, List.forall₂_same]
      intro entry hentry
      exact playsNumbered_sequenceOf count.toNat (readable_of_mem_sequenceEntries hentry)

/-- Other keys stand between two blocks of numbers and on both sides of them, and between two numbers that are
out of order; in a file they stand between numbers that are in order. -/
theorem sortKeys_undivided_blocks :
    Undivided ["b", "2", "1", "x", "9", "3", "y"] ∧
      (sortKeys ["b", "2", "1", "x", "9", "3", "y"]).filter isNumbered = ["1", "2", "3", "9"] ∧
      ¬ Undivided ["0", "2", "x", "1"] ∧
      (∃ x y z : Text, [x, y, z].Sublist ["0", "2", "x", "1"] ∧
        (sortKeys [x, y, z]).filter isNumbered ≠ sortKeys ([x, y, z].filter isNumbered)) ∧
      ∃ sequences, @read Memory.least 1 ⟨"root", "store", "sequences.json", .octets (Utf8.encode
          ("\x7b\"sequences\": " ++ "\x7b\"a\": \x7b\"frames\": " ++
            "\x7b\"1\": \x7b\x7d, \"x\": null, \"2\": \x7b\x7d\x7d\x7d\x7d\x7d"))⟩ =
        .ok sequences ∧ sequences.length = 1 := by
  obtain ⟨hundivided, hdivided, hread⟩ := @sortKeys_undivided Memory.least
  have hblocks : Undivided ["b", "2", "1", "x", "9", "3", "y"] := by decide
  have hapart : ¬ Undivided ["0", "2", "x", "1"] := by decide
  refine ⟨hblocks, (hundivided _ hblocks).trans (by decide), hapart, hdivided _ hapart, ?_⟩
  refine Exists.imp (fun sequences h => ⟨h.1, ?_⟩) (hread _ 1 (by decide))
  rw [← h.2.length_eq]
  decide +kernel

/-- A key between two numbers keeps them in their places, and so the frames under them. -/
theorem sortKeys_divided :
    (sortKeys ["2", "x", "1"]).filter isNumbered ≠ sortKeys (["2", "x", "1"].filter isNumbered) ∧
      (@read Memory.least 0 ⟨"root", "store", "sequences.json", .octets (Utf8.encode
          ("\x7b\"sequences\": \x7b\"0\": " ++
          "\x7b\"name\": \"A\", \"frames\": \x7b\"2\": \x7b\"name\": \"two\"\x7d, \"x\": null, " ++
          "\"1\": \x7b\"name\": \"one\"\x7d\x7d\x7d\x7d\x7d"))⟩).toOption =
        some [⟨"A", [⟨"two", 0, []⟩, ⟨"one", 0, []⟩]⟩] := by
  constructor
  · decide
  · decide +kernel

end ServoScript.Store
