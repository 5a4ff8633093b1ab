import ServoScript.Draft.ChannelList
import ServoScript.Proofs.Layout

/-!
# Registries and what was offered to them

Any number of registries are made, filled and merged in any order; a registry may also be merged with
itself. Whatever happens, a registry holds the lists that were offered to it, each once and in the order in
which they first came, and what it holds stays in front. So the subroutines of its lists have different
names. A call fails if it comes to a list that is new and too long to be named; that list is in the registry
then, and the lists behind it were not offered.
-/

namespace ServoScript.Registry

/-- A call on registries that are numbered in the order in which they were made. -/
inductive Call where
  | make (lists : List (List Int))
  | register (number : Nat) (channels : List Int)
  | merge (number other : Nat)

/-- A registry with everything that was offered to it so far, repetitions included. -/
structure Record where
  registry : Registry
  offered : List (List Int)

namespace Record

/-- The registries after a call. Nothing happens to a number that no registry has, and a registry that
fails to be made is lost. -/
def step (records : List Record) : Call → List Record
  | .make lists =>
    match ofLists lists with
    | .ok r => records ++ [⟨r, lists⟩]
    | .error _ => records
  | .register number channels => records.modify number fun a =>
    ⟨(a.registry.register channels).2, a.offered ++ [channels]⟩
  | .merge number other =>
    match records[other]? with
    | some b => records.modify number fun a =>
      ⟨(a.registry.merge b.registry).2, a.offered ++ a.registry.reached b.registry.lists⟩
    | none => records

/-- The registries after calls, of which the first finds none. -/
def ofCalls (calls : List Call) : List Record :=
  calls.foldl step []

/-! ### One call -/

def extend (a : Record) (lists : List (List Int)) : Record :=
  ⟨a.registry.addAll lists, a.offered ++ lists⟩

theorem extend_nil (a : Record) : a.extend [] = a := by
  simp [extend]

theorem extend_extend (a : Record) (lists more : List (List Int)) :
    (a.extend lists).extend more = a.extend (lists ++ more) := by
  simp only [extend, addAll_append, List.append_assoc]

/-- A call offers lists to every registry, most often none, or makes one and offers them to it. -/
theorem step_cases (records : List Record) (call : Call) :
    (∃ (number : Nat) (offer : Record → List (List Int)),
        step records call = records.modify number fun a => a.extend (offer a)) ∨
      ∃ lists, step records call = records ++ [extend ⟨empty, []⟩ lists] := by
  have hnone : ∃ (number : Nat) (offer : Record → List (List Int)),
      records = records.modify number fun a => a.extend (offer a) :=
    ⟨records.length, fun _ => [], (List.modify_eq_self (Nat.le_refl _)).symm⟩
  cases call with
  | make lists =>
    rw [step]
    cases hmade : ofLists lists with
    | error fault => exact Or.inl hnone
    | ok r =>
      obtain ⟨count, hcount, hr⟩ := map_eq_ok hmade
      have htakes : ∀ channels ∈ lists, empty.Takes channels := by
        by_contra hnot
        rw [registerAll_of_not_takes hnot] at hcount
        cases hcount
      refine Or.inr ⟨lists, ?_⟩
      rw [← hr, registerAll_snd, reached_of_takes htakes]
      rfl
  | register number channels => exact Or.inl ⟨number, fun _ => [channels], rfl⟩
  | merge number other =>
    rw [step]
    cases records[other]? with
    | none => exact Or.inl hnone
    | some b =>
      refine Or.inl ⟨number, fun a => a.registry.reached b.registry.lists, ?_⟩
      simp only [merge, registerAll_snd]
      rfl

variable {records : List Record} {a b : Record} {i : Nat}

theorem getElem?_modify_extend (h : records[i]? = some a) (number : Nat)
    (offer : Record → List (List Int)) :
    ∃ more, (records.modify number fun a => a.extend (offer a))[i]? = some (a.extend more) := by
  rw [List.getElem?_modify, h]
  by_cases hi : number = i
  · exact ⟨offer a, by simp [hi]⟩
  · exact ⟨[], by simp [hi, extend_nil]⟩

theorem getElem?_step (h : records[i]? = some a) (call : Call) :
    ∃ lists, (step records call)[i]? = some (a.extend lists) := by
  rcases step_cases records call with ⟨number, offer, hstep⟩ | ⟨lists, hstep⟩
  · rw [hstep]
    exact getElem?_modify_extend h number offer
  · obtain ⟨hi, _⟩ := List.getElem?_eq_some_iff.mp h
    refine ⟨[], ?_⟩
    rw [hstep, List.getElem?_append_left hi, h, extend_nil]

theorem mem_step {call : Call} (h : b ∈ step records call) :
    ∃ a lists, (a ∈ records ∨ a = ⟨empty, []⟩) ∧ b = a.extend lists := by
  rcases step_cases records call with ⟨number, offer, hstep⟩ | ⟨lists, hstep⟩
  · rw [hstep] at h
    obtain ⟨i, hb⟩ := List.mem_iff_getElem?.mp h
    have hi : i < records.length := by
      have hlt := (List.getElem?_eq_some_iff.mp hb).1
      rwa [List.length_modify] at hlt
    obtain ⟨more, hmore⟩ := getElem?_modify_extend (List.getElem?_eq_getElem hi) number offer
    exact ⟨records[i], more, Or.inl (List.getElem_mem hi), Option.some.inj (hb.symm.trans hmore)⟩
  · rw [hstep] at h
    rcases List.mem_append.mp h with hold | hnew
    · exact ⟨b, [], Or.inl hold, (extend_nil b).symm⟩
    · exact ⟨_, lists, Or.inr rfl, List.mem_singleton.mp hnew⟩

/-- The registry holds the first occurrences of what was offered to it, and nothing twice. -/
structure KeepsFirst (a : Record) : Prop where
  nodup : a.registry.lists.Nodup
  lists_eq : a.registry.lists = a.offered.eraseDups

theorem KeepsFirst.extend (h : a.KeepsFirst) (lists : List (List Int)) : (a.extend lists).KeepsFirst where
  nodup := nodup_addAll h.nodup lists
  lists_eq := addAll_of_offered h.lists_eq lists

theorem keepsFirst_step (h : ∀ a ∈ records, a.KeepsFirst) (call : Call) :
    ∀ b ∈ step records call, b.KeepsFirst := by
  intro b hb
  obtain ⟨a, lists, ha | rfl, rfl⟩ := mem_step hb
  · exact (h a ha).extend lists
  · have hempty : KeepsFirst ⟨empty, []⟩ := ⟨List.nodup_nil, rfl⟩
    exact hempty.extend lists

/-! ### All calls -/

theorem keepsFirst_foldl (h : ∀ a ∈ records, a.KeepsFirst) (calls : List Call) :
    ∀ b ∈ calls.foldl step records, b.KeepsFirst := by
  induction calls generalizing records with
  | nil => exact h
  | cons call calls ih => exact ih (keepsFirst_step h call)

theorem keepsFirst_ofCalls (calls : List Call) : ∀ a ∈ ofCalls calls, a.KeepsFirst :=
  keepsFirst_foldl (by simp) calls

theorem getElem?_foldl_step (h : records[i]? = some a) (calls : List Call) :
    ∃ lists, (calls.foldl step records)[i]? = some (a.extend lists) := by
  induction calls generalizing records a with
  | nil => exact ⟨[], by rw [List.foldl_nil, h, extend_nil]⟩
  | cons call calls ih =>
    obtain ⟨lists, hstep⟩ := getElem?_step h call
    obtain ⟨more, hrest⟩ := ih hstep
    exact ⟨lists ++ more, by rw [List.foldl_cons, hrest, extend_extend]⟩

end Record

/-! ### What calls tell -/

theorem registerDraft_ofInts (r : Registry) (channels : List Int) :
    r.registerDraft (.ofInts channels) = r.register channels := by
  have hlength : (Json.ofInts channels).length = .ok (channels.map Json.int).length := rfl
  rw [registerDraft, Json.toInts_ofInts, hlength]
  cases r.lists.isEmpty <;> rfl

theorem findDraft?_ofInts (r : Registry) (channels : List Int) :
    r.findDraft? (.ofInts channels) = .ok (r.find? channels) := by
  have hlength : (Json.ofInts channels).length = .ok (channels.map Json.int).length := rfl
  rw [findDraft?, Json.toInts_ofInts, hlength]
  cases hlists : r.lists with
  | nil => simp [find?, hlists]
  | cons first rest => rfl

/-- A registry takes all lists of another one without a fault. -/
def TakesAll (r other : Registry) : Prop :=
  ∀ channels ∈ other.lists, r.Takes channels

theorem merge_of_takesAll {r other : Registry} (h : r.TakesAll other) :
    ∃ count, r.merge other = (.ok count, r.addAll other.lists) ∧
      (r.addAll other.lists).size = r.size + count :=
  registerAll_of_takes h

/-- Merging what has been merged already adds nothing. -/
theorem merge_of_subset {r other : Registry} (h : ∀ channels ∈ other.lists, channels ∈ r.lists) :
    r.merge other = (.ok 0, r) := by
  obtain ⟨count, hmerge, hsize⟩ := merge_of_takesAll fun channels hc => Or.inl (h channels hc)
  rw [addAll_of_subset h] at hmerge hsize
  have hzero : count = 0 := by omega
  rw [hmerge, hzero]

theorem merge_merge {a b c : Registry} (hab : a.TakesAll b) (hbc : b.TakesAll c) :
    ((a.merge b).2.merge c).2 = (a.merge (b.merge c).2).2 ∧
      (∃ count, ((a.merge b).2.merge c).1 = .ok count) ∧ ∃ count, (a.merge (b.merge c).2).1 = .ok count := by
  obtain ⟨_, hmerge, _⟩ := merge_of_takesAll hab
  obtain ⟨_, hmerge', _⟩ := merge_of_takesAll hbc
  have hleft : (a.addAll b.lists).TakesAll c := by
    intro channels hc
    rcases hbc channels hc with hmem | hshort
    · exact Or.inl (mem_addAll.mpr (Or.inr hmem))
    · exact Or.inr hshort
  have hright : a.TakesAll (b.addAll c.lists) := by
    intro channels hc
    rcases mem_addAll.mp hc with hmem | hmem
    · exact hab channels hmem
    · rcases hbc channels hmem with hmem | hshort
      · exact hab channels hmem
      · exact Or.inr hshort
  obtain ⟨_, hfirst, _⟩ := merge_of_takesAll hleft
  obtain ⟨_, hsecond, _⟩ := merge_of_takesAll hright
  rw [hmerge, hmerge', hfirst, hsecond]
  exact ⟨(addAll_addAll a b c.lists).symm, ⟨_, rfl⟩, _, rfl⟩

/-- After any calls, no registry holds a list twice, and each holds what was offered to it, every list
where it first came. Registering tells whether a list is new, unless it is new and too long to be named; it is
registered in any case. Finding tells the place of a list, and fails if and only if it is nowhere. A merge
tells by how much the registry grows, unless it comes to such a list; merging the same again changes nothing,
nor does merging a registry with itself, and two merges one after the other are the merge of the two merged.
Further calls leave what a registry holds in front. -/
theorem ofCalls_keep_first (calls : List Call) :
    (∀ a ∈ Record.ofCalls calls,
      a.registry.lists.Nodup ∧ a.registry.lists = a.offered.eraseDups ∧
      (∀ channels,
        (a.registry.Takes channels → ∃ isNew after,
          a.registry.registerDraft (.ofInts channels) = (.ok isNew, after) ∧
            (isNew = true ↔ channels ∉ a.registry.lists) ∧
            after.lists = if isNew then a.registry.lists ++ [channels] else a.registry.lists) ∧
        (¬ a.registry.Takes channels → a.registry.registerDraft (.ofInts channels) =
          (.error .tooLongToWrite, ⟨a.registry.lists ++ [channels]⟩))) ∧
      (∀ channels, ∃ place, a.registry.findDraft? (.ofInts channels) = .ok place ∧
        (∀ i, place = some i ↔ a.registry.lists[i]? = some channels) ∧
        (place = none ↔ channels ∉ a.registry.lists)) ∧
      a.registry.merge a.registry = (.ok 0, a.registry) ∧
      ∀ b ∈ Record.ofCalls calls,
        (a.registry.TakesAll b.registry → ∃ count after,
          a.registry.merge b.registry = (.ok count, after) ∧ after.size = a.registry.size + count ∧
            after.merge b.registry = (.ok 0, after)) ∧
        (¬ a.registry.TakesAll b.registry →
          (a.registry.merge b.registry).1 = .error .tooLongToWrite) ∧
        ∀ c ∈ Record.ofCalls calls, a.registry.TakesAll b.registry → b.registry.TakesAll c.registry →
          ((a.registry.merge b.registry).2.merge c.registry).2 =
              (a.registry.merge (b.registry.merge c.registry).2).2 ∧
            (∃ count, ((a.registry.merge b.registry).2.merge c.registry).1 = .ok count) ∧
            ∃ count, (a.registry.merge (b.registry.merge c.registry).2).1 = .ok count) ∧
    ∀ (more : List Call) (i : Nat) (a : Record), (Record.ofCalls calls)[i]? = some a →
      ∃ b, (Record.ofCalls (calls ++ more))[i]? = some b ∧ a.registry.lists <+: b.registry.lists := by
  refine ⟨fun a ha => ?_, ?_⟩
  · obtain ⟨hnodup, hlists⟩ := Record.keepsFirst_ofCalls calls a ha
    refine ⟨hnodup, hlists, fun channels => ⟨fun htakes => ?_, fun hlong => ?_⟩, ?_,
      merge_of_subset fun _ hc => hc, ?_⟩
    · refine ⟨_, _, (registerDraft_ofInts _ _).trans (register_of_takes htakes), decide_eq_true_iff, ?_⟩
      by_cases hmem : channels ∈ a.registry.lists
      · rw [add_of_mem hmem, if_neg (by simpa using hmem)]
      · rw [add_of_not_mem hmem, if_pos (by simpa using hmem)]
    · rw [registerDraft_ofInts, register_of_not_takes hlong]
    · intro channels
      exact ⟨_, findDraft?_ofInts a.registry channels, fun i => find?_eq_some_iff hnodup, find?_eq_none_iff⟩
    · intro b _
      refine ⟨fun htakes => ?_, registerAll_of_not_takes, fun c _ hab hbc => merge_merge hab hbc⟩
      obtain ⟨count, hmerge, hsize⟩ := merge_of_takesAll htakes
      exact ⟨count, _, hmerge, hsize, merge_of_subset fun channels hc => mem_addAll.mpr (Or.inr hc)⟩
  · intro more i a ha
    obtain ⟨lists, hlists⟩ := Record.getElem?_foldl_step ha more
    refine ⟨a.extend lists, ?_, prefix_addAll a.registry lists⟩
    rw [Record.ofCalls, List.foldl_append]
    exact hlists

/-- The second registry is merged into the first one, and the first one with itself. -/
theorem ofCalls_keep_first_twice : ∃ a ∈ Record.ofCalls
      [.make [[1], [1], [2]], .make [[2], [3]], .merge 0 1, .merge 0 0],
    a.offered = [[1], [1], [2], [2], [3], [1], [2], [3]] ∧ a.registry.lists = [[1], [2], [3]] ∧
      a.registry.lists = a.offered.eraseDups ∧
      ∃ after, a.registry.registerDraft (.ofInts [4]) = (.ok true, after) := by
  have hrun : ((Record.ofCalls [.make [[1], [1], [2]], .make [[2], [3]], .merge 0 1, .merge 0 0])[0]?.map
      fun a => (a.registry.lists, a.offered)) =
        some ([[1], [2], [3]], [[1], [1], [2], [2], [3], [1], [2], [3]]) := by decide +kernel
  obtain ⟨a, ha, hfields⟩ := Option.map_eq_some_iff.mp hrun
  obtain ⟨hlists, hoffered⟩ := Prod.mk.inj hfields
  have hmem := List.mem_of_getElem? ha
  obtain ⟨_, heq, hregister, _⟩ := (ofCalls_keep_first _).1 a hmem
  obtain ⟨isNew, after, hnew, hiff, _⟩ := (hregister [4]).1 (Or.inr (by decide +kernel))
  have htrue : isNew = true := hiff.mpr (by rw [hlists]; decide)
  exact ⟨a, hmem, hoffered, hlists, heq, after, htrue ▸ hnew⟩

/-- A list with an integer of one digit too many is registered, but it is not told that it was new. -/
theorem register_long_channel :
    empty.registerDraft (.ofInts [Nat.pow 10 Numeral.maxDigits]) =
      (.error .tooLongToWrite, ⟨[[Nat.pow 10 Numeral.maxDigits]]⟩) := by
  rw [registerDraft_ofInts, register_of_not_takes]
  · rfl
  · rintro (hmem | hshort)
    · cases hmem
    · exact Bool.noConfusion ((hshort _ (List.mem_singleton_self _)).symm.trans Numeral.isShort_bound)

/-! ### Names -/

theorem name_ofInts {channels : List Int} (h : channels ≠ [])
    (hshort : ∀ n ∈ channels, Numeral.isShort n = true) :
    ChannelList.name (.ofInts channels) = .ok (Script.setterName channels) := by
  have hlength : (Json.ofInts channels).length = .ok channels.length :=
    congrArg Except.ok (List.length_map _)
  have hcount : channels.length ≠ 0 := fun hzero => h (List.eq_nil_of_length_eq_zero hzero)
  rw [ChannelList.name, hlength, Json.toInts_ofInts, ← Script.subroutineName_eq h hshort]
  simp only [bind, Except.bind, hcount, if_false]

/-- Channel lists that are not empty and can be named have the same name if and only if they are the same. So
after any calls the subroutines of a registry without the empty list have different names, one for each list,
unless one of its lists cannot be named. -/
theorem names_distinct :
    (∀ a b : List Int, a ≠ [] → b ≠ [] → (∀ n ∈ a, Numeral.isShort n = true) →
      (∀ n ∈ b, Numeral.isShort n = true) →
      ∃ name name', ChannelList.name (.ofInts a) = .ok name ∧ ChannelList.name (.ofInts b) = .ok name' ∧
        (name = name' ↔ a = b)) ∧
    ∀ calls, ∀ a ∈ Record.ofCalls calls, [] ∉ a.registry.lists →
      ((∀ channels ∈ a.registry.lists, ∀ n ∈ channels, Numeral.isShort n = true) →
        ∃ names, a.registry.subroutineNames = .ok names ∧ names.length = a.registry.size ∧
          names.Nodup) ∧
      ((¬ ∀ channels ∈ a.registry.lists, ∀ n ∈ channels, Numeral.isShort n = true) →
        a.registry.subroutineNames = .error .tooLongToWrite) := by
  constructor
  · intro a b ha hb hshort hshort'
    refine ⟨_, _, name_ofInts ha hshort, name_ofInts hb hshort', ?_⟩
    exact ⟨Script.setterName_injective ha hb, congrArg Script.setterName⟩
  · intro calls a ha hempty
    have hne : ∀ channels ∈ a.registry.lists, channels ≠ [] := by
      rintro channels hm rfl
      exact hempty hm
    refine ⟨fun hshort => ?_, fun hlong => ?_⟩
    · refine ⟨a.registry.lists.map Script.setterName, ?_, List.length_map _, ?_⟩
      · exact mapM_ok fun channels hm => Script.subroutineName_eq (hne channels hm) (hshort channels hm)
      · exact Script.nodup_map_setterName (Record.keepsFirst_ofCalls calls a ha).nodup hne
    · refine mapM_error (fun channels hm => ?_) ?_
      · by_cases hshort : ∀ n ∈ channels, Numeral.isShort n = true
        · exact Or.inr ⟨_, Script.subroutineName_eq (hne channels hm) hshort⟩
        · exact Or.inl (Script.subroutineName_eq_error (hne channels hm) hshort)
      · obtain ⟨channels, hnot⟩ := not_forall.mp hlong
        obtain ⟨hm, hlong⟩ := Classical.not_imp.mp hnot
        exact ⟨channels, hm, Script.subroutineName_eq_error (hne channels hm) hlong⟩

/-- Signs, orders and the places of the gaps tell lists with the same digits apart. -/
theorem names_distinct_digits : ∃ a ∈ Record.ofCalls
      [.make [[1, 2], [12], [1, -2], [2, 1]], .make [[12], [-12]], .merge 0 1],
    ∃ names, a.registry.subroutineNames = .ok names ∧ names.length = 5 ∧ names.Nodup := by
  have hrun : ((Record.ofCalls [.make [[1, 2], [12], [1, -2], [2, 1]], .make [[12], [-12]],
      .merge 0 1])[0]?.map fun a => a.registry.lists) = some [[1, 2], [12], [1, -2], [2, 1], [-12]] := by
    decide +kernel
  obtain ⟨a, ha, hlists⟩ := Option.map_eq_some_iff.mp hrun
  have hmem := List.mem_of_getElem? ha
  have hempty : [] ∉ a.registry.lists := by
    rw [hlists]
    decide
  have hshort : ∀ channels ∈ a.registry.lists, ∀ n ∈ channels, Numeral.isShort n = true := by
    rw [hlists]
    decide +kernel
  obtain ⟨names, hnames, hlength, hnodup⟩ := (names_distinct.2 _ a hmem hempty).1 hshort
  refine ⟨a, hmem, names, hnames, ?_, hnodup⟩
  rw [hlength, size, hlists]
  rfl

end ServoScript.Registry
