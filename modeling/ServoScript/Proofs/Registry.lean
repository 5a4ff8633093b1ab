import ServoScript.Registry

/-!
# What a registry holds

Adding lists keeps the old ones in front and adds what is new, each list once and at its first
occurrence. Adding the lists of a registry that was filled from nothing is the same as adding the
lists that it was filled with. Registering adds, and goes on until it comes to a list that is new and
too long to be named.
-/

namespace ServoScript.Registry

def addAll (r : Registry) (lists : List (List Int)) : Registry :=
  lists.foldl add r

theorem contains_iff {r : Registry} {channels : List Int} :
    r.contains channels = true ↔ channels ∈ r.lists := by
  simp [contains, find?]

theorem add_of_mem {r : Registry} {channels : List Int} (h : channels ∈ r.lists) :
    r.add channels = r := by
  rw [add, if_pos (contains_iff.mpr h)]

theorem add_of_not_mem {r : Registry} {channels : List Int} (h : channels ∉ r.lists) :
    r.add channels = ⟨r.lists ++ [channels]⟩ := by
  rw [add, if_neg (fun hc => h (contains_iff.mp hc))]

@[simp] theorem addAll_nil (r : Registry) : r.addAll [] = r := rfl

theorem addAll_cons (r : Registry) (channels : List Int) (lists : List (List Int)) :
    r.addAll (channels :: lists) = (r.add channels).addAll lists := rfl

theorem addAll_append (r : Registry) (lists more : List (List Int)) :
    r.addAll (lists ++ more) = (r.addAll lists).addAll more :=
  List.foldl_append

/-- The old lists stay in front; behind them come the new ones, each at its first occurrence. -/
theorem addAll_lists (r : Registry) (lists : List (List Int)) :
    (r.addAll lists).lists = r.lists ++ (lists.removeAll r.lists).eraseDups := by
  induction lists generalizing r with
  | nil => simp
  | cons channels lists ih =>
    rw [addAll_cons, ih]
    by_cases h : channels ∈ r.lists
    · rw [add_of_mem h, List.cons_removeAll, if_neg (by simpa using h)]
    · have hrest : lists.removeAll (r.lists ++ [channels]) =
          (lists.removeAll r.lists).filter (fun b => !b == channels) := by
        rw [List.removeAll, List.removeAll, List.filter_filter]
        apply List.filter_congr
        intro b _
        by_cases he : b = channels <;> simp [he]
      rw [add_of_not_mem h, List.cons_removeAll, if_pos (by simpa using h),
        List.eraseDups_cons, hrest, List.append_assoc, List.singleton_append]

/-- A registry that holds the first occurrences of what was offered to it goes on to do so. -/
theorem addAll_of_offered {r : Registry} {offered : List (List Int)}
    (h : r.lists = offered.eraseDups) (lists : List (List Int)) :
    (r.addAll lists).lists = (offered ++ lists).eraseDups := by
  have hnew : lists.removeAll r.lists = lists.removeAll offered := by
    rw [List.removeAll, List.removeAll]
    apply List.filter_congr
    intro channels _
    have hmem : channels ∈ r.lists ↔ channels ∈ offered := by rw [h, List.mem_eraseDups]
    simp [hmem]
  rw [addAll_lists, List.eraseDups_append, hnew, h]

theorem addAll_empty_lists (lists : List (List Int)) : (empty.addAll lists).lists = lists.eraseDups := by
  have hempty : empty.lists = List.eraseDups [] := rfl
  exact addAll_of_offered hempty lists

theorem prefix_addAll (r : Registry) (lists : List (List Int)) :
    r.lists <+: (r.addAll lists).lists := by
  rw [addAll_lists]
  exact List.prefix_append _ _

theorem mem_addAll {r : Registry} {lists : List (List Int)} {channels : List Int} :
    channels ∈ (r.addAll lists).lists ↔ channels ∈ r.lists ∨ channels ∈ lists := by
  rw [addAll_lists, List.mem_append, List.mem_eraseDups]
  simp only [List.removeAll, List.mem_filter, List.elem_eq_mem, Bool.not_eq_eq_eq_not,
    Bool.not_true, decide_eq_false_iff_not]
  by_cases h : channels ∈ r.lists <;> simp [h]

theorem nodup_add {r : Registry} (h : r.lists.Nodup) (channels : List Int) :
    (r.add channels).lists.Nodup := by
  by_cases hc : channels ∈ r.lists
  · rwa [add_of_mem hc]
  · rw [add_of_not_mem hc]
    refine List.nodup_append.mpr ⟨h, by simp, ?_⟩
    intro a ha b hb he
    rw [List.mem_singleton] at hb
    exact hc (hb ▸ he ▸ ha)

theorem nodup_addAll {r : Registry} (h : r.lists.Nodup) (lists : List (List Int)) :
    (r.addAll lists).lists.Nodup := by
  induction lists generalizing r with
  | nil => exact h
  | cons channels lists ih => exact ih (nodup_add h channels)

/-- A list that is added to a registry may as well be added behind all lists of that registry. -/
theorem addAll_add (r other : Registry) (channels : List Int) :
    r.addAll (other.add channels).lists = (r.addAll other.lists).add channels := by
  by_cases h : channels ∈ other.lists
  · have hm : channels ∈ (r.addAll other.lists).lists := mem_addAll.mpr (Or.inr h)
    rw [add_of_mem h, add_of_mem hm]
  · rw [add_of_not_mem h]
    exact addAll_append r other.lists [channels]

theorem addAll_addAll (r other : Registry) (lists : List (List Int)) :
    r.addAll (other.addAll lists).lists = (r.addAll other.lists).addAll lists := by
  induction lists generalizing other with
  | nil => rfl
  | cons channels lists ih => rw [addAll_cons, ih, addAll_add, addAll_cons]

theorem addAll_of_subset {r : Registry} {lists : List (List Int)}
    (h : ∀ channels ∈ lists, channels ∈ r.lists) : r.addAll lists = r := by
  induction lists with
  | nil => rfl
  | cons channels lists ih =>
    rw [addAll_cons, add_of_mem (h channels List.mem_cons_self)]
    exact ih fun c hc => h c (List.mem_cons_of_mem _ hc)

/-- In a registry without repetitions a list has one place at most, so that finding it tells the place. -/
theorem find?_eq_some_iff {r : Registry} (h : r.lists.Nodup) {channels : List Int} {i : Nat} :
    r.find? channels = some i ↔ r.lists[i]? = some channels := by
  rw [find?, List.findIdx?_eq_some_iff_getElem, List.getElem?_eq_some_iff]
  constructor
  · rintro ⟨hi, hfound, _⟩
    exact ⟨hi, by simpa using hfound⟩
  · rintro ⟨hi, hfound⟩
    refine ⟨hi, by simpa using hfound, ?_⟩
    intro j hj hsame
    have hplaces : r.lists[j]? = r.lists[i]? := by
      rw [List.getElem?_eq_getElem hi, List.getElem?_eq_getElem (Nat.lt_trans hj hi), hfound]
      exact congrArg some (by simpa using hsame)
    have heq := (List.getElem?_inj (Nat.lt_trans hj hi) h).mp hplaces
    omega

theorem find?_eq_none_iff {r : Registry} {channels : List Int} :
    r.find? channels = none ↔ channels ∉ r.lists := by
  rw [← contains_iff, contains, Bool.not_eq_true, Option.isSome_eq_false_iff, Option.isNone_iff_eq_none]

/-! ### Registering -/

/-- A registry takes a list without a fault: it has it already, or can name it. -/
def Takes (r : Registry) (channels : List Int) : Prop :=
  channels ∈ r.lists ∨ ∀ n ∈ channels, Numeral.isShort n = true

instance (r : Registry) (channels : List Int) : Decidable (r.Takes channels) :=
  inferInstanceAs (Decidable (_ ∨ _))

theorem register_of_mem {r : Registry} {channels : List Int} (h : channels ∈ r.lists) :
    r.register channels = (.ok false, r) := by
  rw [register, if_pos (contains_iff.mpr h), add_of_mem h]

theorem register_of_not_mem {r : Registry} {channels : List Int} (h : channels ∉ r.lists) :
    r.register channels =
      ((Numeral.checkShort channels).map fun _ => true, ⟨r.lists ++ [channels]⟩) := by
  rw [register, if_neg (fun hc => h (contains_iff.mp hc)), add_of_not_mem h]

theorem register_of_takes {r : Registry} {channels : List Int} (h : r.Takes channels) :
    r.register channels = (.ok (decide (channels ∉ r.lists)), r.add channels) := by
  by_cases hmem : channels ∈ r.lists
  · rw [register_of_mem hmem, add_of_mem hmem, decide_eq_false (not_not_intro hmem)]
  · have hshort := h.resolve_left hmem
    rw [register_of_not_mem hmem, add_of_not_mem hmem, Numeral.checkShort_eq_ok hshort,
      decide_eq_true hmem]
    rfl

theorem register_of_not_takes {r : Registry} {channels : List Int} (h : ¬ r.Takes channels) :
    r.register channels = (.error .tooLongToWrite, ⟨r.lists ++ [channels]⟩) := by
  obtain ⟨hmem, hlong⟩ := not_or.mp h
  rw [register_of_not_mem hmem, Numeral.checkShort_eq_error hlong]
  rfl

/-- What a registry takes does not change while it takes lists. -/
theorem takes_add_iff {r : Registry} {channels : List Int} (h : r.Takes channels) (other : List Int) :
    (r.add channels).Takes other ↔ r.Takes other := by
  have hlists : other ∈ (r.add channels).lists ↔ other ∈ r.lists ∨ other ∈ [channels] :=
    @mem_addAll r [channels] other
  rw [Takes, Takes, hlists, List.mem_singleton]
  constructor
  · rintro ((hmem | rfl) | hshort)
    · exact Or.inl hmem
    · exact h
    · exact Or.inr hshort
  · rintro (hmem | hshort)
    · exact Or.inl (Or.inl hmem)
    · exact Or.inr hshort

theorem size_add (r : Registry) (channels : List Int) :
    (r.add channels).size = r.size + (decide (channels ∉ r.lists)).toNat := by
  by_cases h : channels ∈ r.lists
  · rw [add_of_mem h, decide_eq_false (not_not_intro h)]
    rfl
  · rw [add_of_not_mem h, decide_eq_true h]
    exact List.length_append

theorem registerAll_of_takes {r : Registry} {lists : List (List Int)}
    (h : ∀ channels ∈ lists, r.Takes channels) :
    ∃ count, r.registerAll lists = (.ok count, r.addAll lists) ∧
      (r.addAll lists).size = r.size + count := by
  induction lists generalizing r with
  | nil => exact ⟨0, rfl, rfl⟩
  | cons channels lists ih =>
    obtain ⟨hfirst, hrest⟩ := List.forall_mem_cons.mp h
    obtain ⟨count, hcount, hsize⟩ := ih fun c hc => (takes_add_iff hfirst c).mpr (hrest c hc)
    refine ⟨(decide (channels ∉ r.lists)).toNat + count, ?_, ?_⟩
    · rw [registerAll, register_of_takes hfirst]
      simp only [hcount]
      rfl
    · rw [addAll_cons, hsize, size_add]
      omega

/-- The lists that are offered to a registry: those up to the first one that it does not take. -/
def reached (r : Registry) : List (List Int) → List (List Int)
  | [] => []
  | channels :: rest => channels :: if r.Takes channels then r.reached rest else []

theorem reached_of_takes {r : Registry} {lists : List (List Int)}
    (h : ∀ channels ∈ lists, r.Takes channels) : r.reached lists = lists := by
  induction lists with
  | nil => rfl
  | cons channels lists ih =>
    obtain ⟨hfirst, hrest⟩ := List.forall_mem_cons.mp h
    rw [reached, if_pos hfirst, ih hrest]

theorem reached_add {r : Registry} {channels : List Int} (h : r.Takes channels)
    (lists : List (List Int)) : (r.add channels).reached lists = r.reached lists := by
  induction lists with
  | nil => rfl
  | cons other lists ih => simp only [reached, ih, takes_add_iff h other]

/-- Whatever comes of it, a registry holds the lists that were offered to it. -/
theorem registerAll_snd (r : Registry) (lists : List (List Int)) :
    (r.registerAll lists).2 = r.addAll (r.reached lists) := by
  induction lists generalizing r with
  | nil => rfl
  | cons channels lists ih =>
    by_cases h : r.Takes channels
    · rw [registerAll, register_of_takes h, reached, if_pos h, addAll_cons, ← reached_add h]
      exact ih (r.add channels)
    · rw [registerAll, register_of_not_takes h, reached, if_neg h, addAll_cons,
        add_of_not_mem (not_or.mp h).1]
      rfl

theorem registerAll_of_not_takes {r : Registry} {lists : List (List Int)}
    (h : ¬ ∀ channels ∈ lists, r.Takes channels) :
    (r.registerAll lists).1 = .error .tooLongToWrite := by
  induction lists generalizing r with
  | nil => exact absurd (by simp) h
  | cons channels lists ih =>
    by_cases hfirst : r.Takes channels
    · have hrest : ¬ ∀ c ∈ lists, (r.add channels).Takes c := by
        intro hall
        exact h (List.forall_mem_cons.mpr ⟨hfirst, fun c hc => (takes_add_iff hfirst c).mp (hall c hc)⟩)
      rw [registerAll, register_of_takes hfirst]
      change ((r.add channels).registerAll lists).1.map _ = _
      rw [ih hrest]
      rfl
    · rw [registerAll, register_of_not_takes hfirst]

end ServoScript.Registry
