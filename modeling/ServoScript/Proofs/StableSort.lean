import Mathlib.Data.List.FinRange
import ServoScript.Proofs.KeyOrder

/-!
# Sorting by runs is stable

Sorting asks of two entries only whether the later one comes before the earlier one. If the answers
put the entries into one order, then sorting gives this order, whatever the relation says about other
pairs. The entries that are left after some have been dropped are then sorted as if the others had never
been there.
-/

namespace ServoScript.RunSort

variable {α β : Type} {before : α → α → Bool}

/-! ### Entries that stand for others -/

theorem span_map (f : β → α) (related : α → α → Bool) (last : β) (l : List β) :
    span related (f last) (l.map f) =
      ((span (fun a b => related (f a) (f b)) last l).1.map f,
        (span (fun a b => related (f a) (f b)) last l).2.map f) := by
  induction l generalizing last with
  | nil => rfl
  | cons a l ih =>
    rw [List.map_cons, span, span]
    by_cases h : related (f a) (f last) = true
    · simp [h, ih a]
    · simp [h]

theorem firstRun_map (f : β → α) (before : α → α → Bool) (l : List β) :
    firstRun before (l.map f) =
      ((firstRun (fun a b => before (f a) (f b)) l).1.map f,
        (firstRun (fun a b => before (f a) (f b)) l).2.map f) := by
  match l with
  | [] => rfl
  | [a] => rfl
  | a :: b :: l =>
    rw [List.map_cons, List.map_cons, firstRun, firstRun]
    by_cases h : before (f b) (f a) = true
    · simp [h, span_map]
    · simp [h, span_map f (fun x y => !before x y)]

theorem place_map (f : β → α) (before : α → α → Bool) (sorted : List β) (entry : β)
    (fuel low high : Nat) :
    place before (sorted.map f) (f entry) fuel low high =
      place (fun a b => before (f a) (f b)) sorted entry fuel low high := by
  induction fuel generalizing low high with
  | zero => rfl
  | succ fuel ih =>
    rw [place, place]
    dsimp only
    rw [List.getElem?_map]
    cases sorted[low + (high - low) / 2]? with
    | none => rfl
    | some a => simp only [Option.map_some, ih]

theorem insert_map (f : β → α) (before : α → α → Bool) (sorted : List β) (entry : β) :
    insert before (sorted.map f) (f entry) =
      (insert (fun a b => before (f a) (f b)) sorted entry).map f := by
  rw [insert, insert, place_map, List.length_map]
  simp only [List.map_append, List.map_take, List.map_cons, List.map_drop]

theorem sort_map (f : β → α) (before : α → α → Bool) (l : List β) :
    sort before (l.map f) = (sort (fun a b => before (f a) (f b)) l).map f := by
  rw [sort, sort, List.length_map]
  by_cases h : l.length < mergeLength
  · rw [if_pos h, if_pos h, firstRun_map]
    dsimp only
    rw [List.foldl_map]
    exact List.foldl_hom (List.map f) fun sorted entry => insert_map f before sorted entry
  · rw [if_neg h, if_neg h]
    symm
    apply List.map_mergeSort
    intro a _ b _
    rfl

/-! ### Halves -/

theorem mergeSort_eq_merge (le : α → α → Bool) {l : List α} (h : 2 ≤ l.length) :
    l.mergeSort le = ((l.take ((l.length + 1) / 2)).mergeSort le).merge
      ((l.drop ((l.length + 1) / 2)).mergeSort le) le := by
  match l with
  | [] => simp at h
  | [a] => simp at h
  | a :: b :: l =>
    simp only [List.mergeSort, List.MergeSort.Internal.splitInTwo_fst,
      List.MergeSort.Internal.splitInTwo_snd, List.length_cons]

/-! ### The order that the answers give -/

/-- Whether the later of two entries comes before the earlier one decides which of them is ahead. -/
structure Decides (before : α → α → Bool) (ahead : α → α → Prop) (earlier later : α) : Prop where
  later_ahead : before later earlier = true → ahead later earlier
  earlier_ahead : before later earlier = false → ahead earlier later

section

variable {ahead : α → α → Prop} (htrans : ∀ a b c, ahead a b → ahead b c → ahead a c)
include htrans

theorem ahead_of_head {a b : α} {l : List α} (hab : ahead a b) (hl : (b :: l).Pairwise ahead) :
    ∀ x ∈ b :: l, ahead a x := by
  intro x hx
  rcases List.mem_cons.mp hx with rfl | hx
  · exact hab
  · exact htrans a b x hab (List.rel_of_pairwise_cons hl hx)

theorem pairwise_span {related : α → α → Bool} {last : α} {l : List α}
    (h : (last :: l).Pairwise fun a b => related b a = true → ahead a b) :
    (last :: (span related last l).1).Pairwise ahead := by
  induction l generalizing last with
  | nil => exact List.pairwise_singleton ahead last
  | cons a l ih =>
    rw [span]
    by_cases ha : related a last = true
    · have hfirst : ahead last a := List.rel_of_pairwise_cons h List.mem_cons_self ha
      have hrun := ih h.tail
      rw [if_pos ha]
      exact List.pairwise_cons.mpr ⟨ahead_of_head htrans hfirst hrun, hrun⟩
    · rw [if_neg ha]
      exact List.pairwise_singleton ahead last

theorem pairwise_firstRun {l : List α} (h : l.Pairwise (Decides before ahead)) :
    (firstRun before l).1.Pairwise ahead := by
  match l with
  | [] => exact List.Pairwise.nil
  | [a] => exact List.pairwise_singleton ahead a
  | a :: b :: l =>
    have hab : Decides before ahead a b := List.rel_of_pairwise_cons h List.mem_cons_self
    rw [firstRun]
    by_cases hb : before b a = true
    · -- A run that strictly descends is put into order by turning it round.
      have hback : ∀ x y z, ahead y x → ahead z y → ahead z x := fun x y z hyx hzy => htrans z y x hzy hyx
      have hrun : (b :: (span before b l).1).Pairwise fun x y => ahead y x := by
        apply pairwise_span hback
        exact h.tail.imp fun hxy => hxy.later_ahead
      rw [if_pos hb]
      dsimp only
      rw [List.pairwise_reverse]
      exact List.pairwise_cons.mpr ⟨ahead_of_head hback (hab.later_ahead hb) hrun, hrun⟩
    · have hrun : (b :: (span (fun x y => !before x y) b l).1).Pairwise ahead := by
        apply pairwise_span htrans
        exact h.tail.imp fun hxy hnot => hxy.earlier_ahead (by simpa using hnot)
      have hfirst := hab.earlier_ahead (by simpa using hb)
      rw [if_neg hb]
      exact List.pairwise_cons.mpr ⟨ahead_of_head htrans hfirst hrun, hrun⟩

/-! ### Binary insertion -/

/-- The place of an entry is between `low` and `high`: what stands below is ahead of it, and it is ahead
of what stands above. -/
structure Enclosed (ahead : α → α → Prop) (sorted : List α) (entry : α) (low high : Nat) : Prop where
  le : low ≤ high
  le_length : high ≤ sorted.length
  below : ∀ a ∈ sorted.take low, ahead a entry
  above : ∀ a ∈ sorted.drop high, ahead entry a

section

variable {sorted : List α} {entry : α} {low high middle : Nat} (hsorted : sorted.Pairwise ahead)
include hsorted

theorem Enclosed.lower (h : Enclosed ahead sorted entry low high) (hlow : low ≤ middle)
    (hm : middle < sorted.length) (hahead : ahead entry sorted[middle]) :
    Enclosed ahead sorted entry low middle := by
  have hrest : (sorted.drop middle).Pairwise ahead := hsorted.sublist (List.drop_sublist middle sorted)
  refine ⟨hlow, Nat.le_of_lt hm, h.below, ?_⟩
  rw [List.drop_eq_getElem_cons hm] at hrest ⊢
  exact ahead_of_head htrans hahead hrest

theorem Enclosed.raise (h : Enclosed ahead sorted entry low high) (hhigh : middle < high)
    (hm : middle < sorted.length) (hahead : ahead sorted[middle] entry) :
    Enclosed ahead sorted entry (middle + 1) high := by
  refine ⟨hhigh, h.le_length, fun a ha => ?_, h.above⟩
  have hfront : (sorted.take (middle + 1)).Pairwise ahead :=
    hsorted.sublist (List.take_sublist (middle + 1) sorted)
  rw [List.take_succ_eq_append_getElem hm] at ha hfront
  rcases List.mem_append.mp ha with ha | ha
  · have hlast := (List.pairwise_append.mp hfront).2.2 a ha _ (List.mem_singleton_self _)
    exact htrans _ _ _ hlast hahead
  · rw [List.mem_singleton.mp ha]
    exact hahead

/-- Halving loses no place: the fuel suffices for the two bounds to meet. -/
theorem enclosed_place (hentry : ∀ a ∈ sorted, Decides before ahead a entry) {fuel : Nat}
    (hfuel : high - low ≤ fuel) (h : Enclosed ahead sorted entry low high) :
    Enclosed ahead sorted entry (place before sorted entry fuel low high)
      (place before sorted entry fuel low high) := by
  induction fuel generalizing low high with
  | zero =>
    have hmeet : high = low := by
      have := h.le
      omega
    rw [place]
    exact hmeet ▸ h
  | succ fuel ih =>
    rw [place]
    by_cases hlt : low < high
    · have hm : low + (high - low) / 2 < sorted.length := by
        have := h.le_length
        omega
      have hdecides := hentry _ (List.getElem_mem hm)
      rw [if_pos hlt]
      dsimp only
      rw [List.getElem?_eq_getElem hm]
      dsimp only
      by_cases hbefore : before entry sorted[low + (high - low) / 2] = true
      · rw [if_pos hbefore]
        apply ih (by omega)
        exact h.lower htrans hsorted (by omega) hm (hdecides.later_ahead hbefore)
      · rw [if_neg hbefore]
        apply ih (by omega)
        exact h.raise htrans hsorted (by omega) hm (hdecides.earlier_ahead (by simpa using hbefore))
    · have hmeet : high = low := by
        have := h.le
        omega
      rw [if_neg hlt]
      exact hmeet ▸ h

theorem pairwise_insert (hentry : ∀ a ∈ sorted, Decides before ahead a entry) :
    (insert before sorted entry).Pairwise ahead := by
  have hall : Enclosed ahead sorted entry 0 sorted.length :=
    ⟨Nat.zero_le _, Nat.le_refl _, by simp, by simp⟩
  have hplace := enclosed_place htrans hsorted hentry (Nat.sub_le _ _) hall
  rw [insert]
  generalize place before sorted entry sorted.length 0 sorted.length = n at hplace ⊢
  have hparts : (sorted.take n ++ sorted.drop n).Pairwise ahead := by
    rwa [List.take_append_drop]
  obtain ⟨hfront, hback, hcross⟩ := List.pairwise_append.mp hparts
  refine List.pairwise_append.mpr ⟨hfront, List.pairwise_cons.mpr ⟨hplace.above, hback⟩, ?_⟩
  intro a ha b hb
  rcases List.mem_cons.mp hb with rfl | hb
  · exact hplace.below a ha
  · exact hcross a ha b hb

end

theorem pairwise_foldl_insert {run others : List α} (hrun : run.Pairwise ahead)
    (hothers : others.Pairwise (Decides before ahead))
    (hcross : ∀ a ∈ run, ∀ b ∈ others, Decides before ahead a b) :
    (others.foldl (insert before) run).Pairwise ahead := by
  induction others generalizing run with
  | nil => exact hrun
  | cons entry others ih =>
    have hentry : ∀ a ∈ run, Decides before ahead a entry :=
      fun a ha => hcross a ha entry List.mem_cons_self
    rw [List.foldl_cons]
    apply ih (pairwise_insert htrans hrun hentry) hothers.tail
    intro a ha b hb
    rcases List.mem_cons.mp ((insert_perm before run entry).mem_iff.mp ha) with rfl | ha
    · exact List.rel_of_pairwise_cons hothers hb
    · exact hcross a ha b (List.mem_cons_of_mem _ hb)

/-! ### Merging -/

theorem pairwise_merge {l r : List α} (hl : l.Pairwise ahead) (hr : r.Pairwise ahead)
    (hcross : ∀ a ∈ l, ∀ b ∈ r, Decides before ahead a b) :
    (l.merge r fun a b => !before b a).Pairwise ahead := by
  induction l generalizing r with
  | nil => simpa using hr
  | cons a l ihl =>
    induction r with
    | nil => simpa using hl
    | cons b r ihr =>
      have hab := hcross a List.mem_cons_self b List.mem_cons_self
      rw [List.cons_merge_cons]
      by_cases hb : before b a = true
      · have hba := hab.later_ahead hb
        rw [if_neg (by simp [hb])]
        refine List.pairwise_cons.mpr ⟨fun x hx => ?_, ihr hr.tail fun x hx y hy => ?_⟩
        · rcases List.mem_merge.mp hx with hx | hx
          · exact ahead_of_head htrans hba hl x hx
          · exact List.rel_of_pairwise_cons hr hx
        · exact hcross x hx y (List.mem_cons_of_mem _ hy)
      · have hab := hab.earlier_ahead (by simpa using hb)
        rw [if_pos (by simp [hb])]
        refine List.pairwise_cons.mpr ⟨fun x hx => ?_, ihl hl.tail hr fun x hx y hy => ?_⟩
        · rcases List.mem_merge.mp hx with hx | hx
          · exact List.rel_of_pairwise_cons hl hx
          · exact ahead_of_head htrans hab hr x hx
        · exact hcross x (List.mem_cons_of_mem _ hx) y hy

theorem pairwise_mergeSort {l : List α} (h : l.Pairwise (Decides before ahead)) :
    (l.mergeSort fun a b => !before b a).Pairwise ahead := by
  induction hn : l.length using Nat.strong_induction_on generalizing l with
  | _ n ih =>
    by_cases hlength : 2 ≤ l.length
    · have hparts : (l.take ((l.length + 1) / 2) ++ l.drop ((l.length + 1) / 2)).Pairwise
          (Decides before ahead) := by rwa [List.take_append_drop]
      obtain ⟨hfront, hback, hcross⟩ := List.pairwise_append.mp hparts
      have htake : (l.take ((l.length + 1) / 2)).length < n := by
        rw [List.length_take]
        omega
      have hdrop : (l.drop ((l.length + 1) / 2)).length < n := by
        rw [List.length_drop]
        omega
      rw [mergeSort_eq_merge _ hlength]
      apply pairwise_merge htrans (ih _ htake hfront rfl) (ih _ hdrop hback rfl)
      intro x hx y hy
      exact hcross x (List.mem_mergeSort.mp hx) y (List.mem_mergeSort.mp hy)
    · match l with
      | [] => simp
      | [a] => simp
      | a :: b :: l => simp at hlength

/-- Sorting gives the order that the answers about later and earlier entries decide. -/
theorem pairwise_sort {l : List α} (h : l.Pairwise (Decides before ahead)) :
    (sort before l).Pairwise ahead := by
  rw [sort]
  by_cases hshort : l.length < mergeLength
  · obtain ⟨front, hperm, hfront⟩ := firstRun_split before l
    have hparts := h
    rw [← hfront] at hparts
    obtain ⟨-, hothers, hcross⟩ := List.pairwise_append.mp hparts
    rw [if_pos hshort]
    apply pairwise_foldl_insert htrans (pairwise_firstRun htrans h) hothers
    intro a ha b hb
    exact hcross a (hperm.mem_iff.mpr ha) b hb
  · rw [if_neg hshort]
    exact pairwise_mergeSort htrans h

end

/-! ### Positions -/

/-- Of two positions in a list the one whose entry is ahead: the earlier one, unless the entry at the later
one comes before. -/
def Ahead (before : α → α → Bool) (l : List α) (i j : Fin l.length) : Prop :=
  (i < j ∧ before (l.get j) (l.get i) = false) ∨ (j < i ∧ before (l.get i) (l.get j) = true)

/-- No three entries of a list contradict each other. -/
structure Consistent (before : α → α → Bool) (l : List α) : Prop where
  ascending : ∀ i j k : Fin l.length, i < j → j < k → before (l.get j) (l.get i) = false →
    before (l.get k) (l.get j) = false → before (l.get k) (l.get i) = false
  descending : ∀ i j k : Fin l.length, i < j → j < k → before (l.get j) (l.get i) = true →
    before (l.get k) (l.get j) = true → before (l.get k) (l.get i) = true

variable {l : List α}

theorem ahead_asymm {i j : Fin l.length} (h : Ahead before l i j) : ¬ Ahead before l j i := by
  rintro (⟨hji, hback⟩ | ⟨hij, hback⟩)
  · rcases h with ⟨hij, _⟩ | ⟨_, hforth⟩
    · omega
    · exact Bool.false_ne_true (hback.symm.trans hforth)
  · rcases h with ⟨_, hforth⟩ | ⟨hji, _⟩
    · exact Bool.false_ne_true (hforth.symm.trans hback)
    · omega

theorem Consistent.ahead_trans (h : Consistent before l) (i j k : Fin l.length)
    (hij : Ahead before l i j) (hjk : Ahead before l j k) : Ahead before l i k := by
  rcases hij with ⟨hij, hj⟩ | ⟨hji, hj⟩
  · rcases hjk with ⟨hjk, hk⟩ | ⟨hkj, hk⟩
    · exact Or.inl ⟨hij.trans hjk, h.ascending i j k hij hjk hj hk⟩
    -- The third position may be anywhere in front of the second one.
    · rcases lt_trichotomy i k with hik | rfl | hki
      · refine Or.inl ⟨hik, Bool.eq_false_iff.mpr fun hki => ?_⟩
        exact Bool.false_ne_true (hj.symm.trans (h.descending i k j hik hkj hki hk))
      · exact absurd (hj.symm.trans hk) Bool.false_ne_true
      · refine Or.inr ⟨hki, Bool.of_not_eq_false fun hik => ?_⟩
        exact Bool.false_ne_true ((h.ascending k i j hki hij hik hj).symm.trans hk)
  · rcases hjk with ⟨hjk, hk⟩ | ⟨hkj, hk⟩
    · rcases lt_trichotomy i k with hik | rfl | hki
      · refine Or.inl ⟨hik, Bool.eq_false_iff.mpr fun hki => ?_⟩
        exact Bool.false_ne_true (hk.symm.trans (h.descending j i k hji hik hj hki))
      · exact absurd (hk.symm.trans hj) Bool.false_ne_true
      · refine Or.inr ⟨hki, Bool.of_not_eq_false fun hik => ?_⟩
        exact Bool.false_ne_true ((h.ascending j k i hjk hki hk hik).symm.trans hj)
    · exact Or.inr ⟨hkj.trans hji, h.descending k j i hkj hji hk hj⟩

theorem decides_of_pairwise_lt (before : α → α → Bool) {positions : List (Fin l.length)}
    (h : positions.Pairwise (· < ·)) :
    positions.Pairwise (Decides (fun i j => before (l.get i) (l.get j)) (Ahead before l)) := by
  apply h.imp
  intro i j hij
  exact ⟨fun hlater => Or.inr ⟨hij, hlater⟩, fun hearlier => Or.inl ⟨hij, hearlier⟩⟩

/-- The positions of a list, in the order in which sorting puts their entries. -/
def order (before : α → α → Bool) (l : List α) : List (Fin l.length) :=
  sort (fun i j => before (l.get i) (l.get j)) (List.finRange l.length)

theorem sort_eq_map_order (before : α → α → Bool) (l : List α) :
    sort before l = (order before l).map l.get := by
  rw [order, ← sort_map, List.map_get_finRange]

theorem Consistent.pairwise_order (h : Consistent before l) :
    (order before l).Pairwise (Ahead before l) :=
  pairwise_sort h.ahead_trans (decides_of_pairwise_lt before (List.pairwise_lt_finRange l.length))

/-- What is dropped has no influence on the order of the others. -/
theorem Consistent.filter_sort (h : Consistent before l) (p : α → Bool) :
    (sort before l).filter p = sort before (l.filter p) := by
  have hkept : l.filter p = ((List.finRange l.length).filter (p ∘ l.get)).map l.get := by
    rw [← List.filter_map, List.map_get_finRange]
  have hascending : ((List.finRange l.length).filter (p ∘ l.get)).Pairwise (· < ·) :=
    (List.pairwise_lt_finRange l.length).filter _
  have hfiltered : ((order before l).filter (p ∘ l.get)).Pairwise (Ahead before l) :=
    h.pairwise_order.filter _
  have hsorted := pairwise_sort h.ahead_trans (decides_of_pairwise_lt before hascending)
  have hperm := ((sort_perm (fun i j => before (l.get i) (l.get j)) (List.finRange l.length)).filter
    (p ∘ l.get)).trans (sort_perm (fun i j => before (l.get i) (l.get j)) _).symm
  rw [sort_eq_map_order, List.filter_map, hkept, sort_map]
  -- Both are the positions of what is kept, and in both each one is ahead of those behind it.
  refine congrArg (List.map l.get) (List.Perm.eq_of_pairwise (fun i j _ _ hij hji => ?_) hfiltered hsorted hperm)
  exact absurd hji (ahead_asymm hij)

theorem Consistent.pairwise_sort (h : Consistent before l)
    (hasymm : ∀ a b, before a b = true → before b a = false) :
    (sort before l).Pairwise fun a b => before b a = false := by
  rw [sort_eq_map_order, List.pairwise_map]
  apply h.pairwise_order.imp
  rintro i j (⟨_, hij⟩ | ⟨_, hji⟩)
  · exact hij
  · exact hasymm _ _ hji

end ServoScript.RunSort
