import ServoScript.Proofs.WrittenNumber
import ServoScript.Store

/-!
# The order of keys

Sorting loses no entry and adds none, even if the relation is no order. It leaves a list as it is if no
entry comes before one in front of it. Numbers as keys are like this however many there are: a key beyond
the greatest word is equal to all keys.
-/

namespace ServoScript

namespace RunSort

variable {α : Type} {before : α → α → Bool}

theorem span_append (related : α → α → Bool) (last : α) (l : List α) :
    (span related last l).1 ++ (span related last l).2 = l := by
  induction l generalizing last with
  | nil => rfl
  | cons a l ih =>
    rw [span]
    split
    · exact congrArg (a :: ·) (ih a)
    · rfl

theorem firstRun_split (before : α → α → Bool) (l : List α) :
    ∃ front, front.Perm (firstRun before l).1 ∧ front ++ (firstRun before l).2 = l := by
  match l with
  | [] => exact ⟨[], .refl _, rfl⟩
  | [a] => exact ⟨[a], .refl _, rfl⟩
  | a :: b :: l =>
    rw [firstRun]
    by_cases hb : before b a = true
    · refine ⟨a :: b :: (span before b l).1, ?_, ?_⟩
      · rw [if_pos hb]
        exact (List.reverse_perm _).symm
      · rw [if_pos hb]
        exact congrArg (a :: b :: ·) (span_append before b l)
    · refine ⟨a :: b :: (span (fun x y => !before x y) b l).1, ?_, ?_⟩
      · rw [if_neg hb]
      · rw [if_neg hb]
        exact congrArg (a :: b :: ·) (span_append _ b l)

theorem firstRun_perm (before : α → α → Bool) (l : List α) :
    ((firstRun before l).1 ++ (firstRun before l).2).Perm l := by
  obtain ⟨front, hperm, hsplit⟩ := firstRun_split before l
  exact (hperm.symm.append_right _).trans (.of_eq hsplit)

theorem insert_perm (before : α → α → Bool) (sorted : List α) (entry : α) :
    (insert before sorted entry).Perm (entry :: sorted) := by
  rw [insert]
  refine List.perm_middle.trans (.of_eq ?_)
  rw [List.take_append_drop]

theorem foldl_insert_perm (before : α → α → Bool) (run others : List α) :
    (others.foldl (insert before) run).Perm (run ++ others) := by
  induction others generalizing run with
  | nil => simp
  | cons entry others ih =>
    rw [List.foldl_cons]
    exact (ih _).trans (((insert_perm before run entry).append_right others).trans List.perm_middle.symm)

theorem sort_perm (before : α → α → Bool) (l : List α) : (sort before l).Perm l := by
  rw [sort]
  split
  · exact (foldl_insert_perm before _ _).trans (firstRun_perm before l)
  · exact List.mergeSort_perm l _

theorem span_eq_self {last : α} {l : List α}
    (h : (last :: l).Pairwise fun a b => before b a = false) :
    span (fun x y => !before x y) last l = (l, []) := by
  induction l generalizing last with
  | nil => rfl
  | cons a l ih =>
    have ha : before a last = false := List.rel_of_pairwise_cons h (by simp)
    simp [span, ha, ih h.tail]

theorem firstRun_eq_self {l : List α} (h : l.Pairwise fun a b => before b a = false) :
    firstRun before l = (l, []) := by
  match l with
  | [] => rfl
  | [a] => rfl
  | a :: b :: l =>
    have hb : before b a = false := List.rel_of_pairwise_cons h (by simp)
    simp [firstRun, hb, span_eq_self h.tail]

theorem sort_eq_self {l : List α} (h : l.Pairwise fun a b => before b a = false) :
    sort before l = l := by
  rw [sort]
  split
  -- The whole list is one run, into which nothing is left to insert.
  · rw [firstRun_eq_self h]
    rfl
  · exact List.mergeSort_of_pairwise (h.imp fun hab => by simp [hab])

end RunSort

namespace Text

theorem padded_injective (width : Nat) : Function.Injective (padded width) :=
  Function.LeftInverse.injective (natOfDigits_padded width)

end Text

theorem Word.parse_padded {width n m : Nat} (h : parse (Text.padded width n) = .ok m) : m = n := by
  have hm := eq_of_parse_digits (Json.isDigits_padded width n).digits h
  rwa [Text.natOfDigits_padded] at hm

namespace Store

theorem keyBefore_padded (width : Nat) {i j : Nat} (h : i ≤ j) :
    keyBefore (Text.padded width j) (Text.padded width i) = false := by
  rw [keyBefore, compareKeys]
  split
  · next m n hm hn =>
    rw [Word.parse_padded hm, Word.parse_padded hn]
    simp
    omega
  · simp

theorem sortKeys_padded (width n : Nat) :
    sortKeys ((List.range n).map (Text.padded width)) = (List.range n).map (Text.padded width) := by
  refine RunSort.sort_eq_self ?_
  rw [List.pairwise_map]
  exact List.pairwise_lt_range.imp fun hlt => keyBefore_padded width (Nat.le_of_lt hlt)

end Store

end ServoScript
