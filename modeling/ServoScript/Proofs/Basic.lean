import Mathlib.Data.List.Forall2

/-!
# Results and lists

What a chain of steps that may fail tells about its parts, and lists that a function leaves alone or
cannot tell apart.
-/

namespace ServoScript

theorem bind_eq_ok {ε α β : Type} {x : Except ε α} {f : α → Except ε β} {b : β}
    (h : x >>= f = .ok b) : ∃ a, x = .ok a ∧ f a = .ok b := by
  cases x with
  | error e => cases h
  | ok a => exact ⟨a, rfl, h⟩

theorem map_eq_ok {ε α β : Type} {x : Except ε α} {f : α → β} {b : β}
    (h : x.map f = .ok b) : ∃ a, x = .ok a ∧ f a = b := by
  cases x with
  | error e => cases h
  | ok a => exact ⟨a, rfl, Except.ok.inj h⟩

theorem bind_ok_eq_map {ε α β : Type} (x : Except ε α) (f : α → β) :
    (x >>= fun a => .ok (f a)) = x.map f := by
  cases x <;> rfl

theorem map_eq_self {α : Type} {f : α → α} {l : List α} (h : ∀ a ∈ l, f a = a) : l.map f = l :=
  (List.map_congr_left h).trans (List.map_id l)

theorem mapM_ok {ε α β : Type} {f : α → Except ε β} {g : α → β} {l : List α}
    (h : ∀ a ∈ l, f a = .ok (g a)) : l.mapM f = .ok (l.map g) := by
  induction l with
  | nil => rfl
  | cons a l ih =>
    rw [List.mapM_cons, h a List.mem_cons_self, ih (fun b hb => h b (List.mem_cons_of_mem _ hb))]
    rfl

/-- Where all faults are the same, one of them is what comes of the list. -/
theorem mapM_error {ε α β : Type} {f : α → Except ε β} {e : ε} {l : List α}
    (h : ∀ a ∈ l, f a = .error e ∨ ∃ b, f a = .ok b) (hex : ∃ a ∈ l, f a = .error e) :
    l.mapM f = .error e := by
  induction l with
  | nil =>
    obtain ⟨a, ha, _⟩ := hex
    cases ha
  | cons a l ih =>
    obtain ⟨hfirst, hrest⟩ := List.forall_mem_cons.mp h
    rw [List.mapM_cons]
    rcases hfirst with herror | ⟨b, hb⟩
    · rw [herror]
      rfl
    · obtain ⟨c, hc, herror⟩ := hex
      have hlater : c ∈ l := by
        rcases List.mem_cons.mp hc with rfl | hlater
        · rw [hb] at herror
          cases herror
        · exact hlater
      rw [hb, ih hrest ⟨c, hlater, herror⟩]
      rfl

theorem map_eq_of_forall₂ {α β : Type} {R : α → α → Prop} {l l' : List α} {make : α → β}
    (h : List.Forall₂ R l l') (hmake : ∀ a b, R a b → make a = make b) : l.map make = l'.map make := by
  have heq : List.Forall₂ (· = ·) (l.map make) (l'.map make) := by
    rw [List.forall₂_map_left_iff, List.forall₂_map_right_iff]
    exact h.imp hmake
  rwa [List.forall₂_eq_eq_eq] at heq

theorem forall_mem_iff_of_forall₂ {α : Type} {R : α → α → Prop} {p : α → Prop} {l l' : List α}
    (h : List.Forall₂ R l l') (hp : ∀ a b, R a b → (p a ↔ p b)) : (∀ a ∈ l, p a) ↔ ∀ a ∈ l', p a := by
  induction h with
  | nil => simp
  | cons hfirst _ ih => rw [List.forall_mem_cons, List.forall_mem_cons, hp _ _ hfirst, ih]

end ServoScript
