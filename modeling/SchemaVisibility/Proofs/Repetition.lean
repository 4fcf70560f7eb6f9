import SchemaVisibility.Proofs.Fallible

/-! # Lists that repeat others

The items of one list stand for those of another, in their order, and in between they may stand
again for what came before. A run over the repeating list comes to what the run over the other one
comes to, if each step stands for its like and a step taken again changes nothing
(`Repeats.foldlM_eq`).
-/

namespace SchemaVisibility

open Fallible

/-- **A list that repeats another one.** Each item stands for the next item of the other list, or
again for one that was seen before. -/
inductive Repeats {α β : Type} (stands : α → β → Prop) : List α → List α → List β → Prop
  | nil {seen : List α} : Repeats stands seen [] []
  | first {seen items : List α} {more : List β} {a : α} {b : β} : stands a b →
      Repeats stands (a :: seen) items more → Repeats stands seen (a :: items) (b :: more)
  | again {seen items : List α} {more : List β} {a : α} {b : β} : a ∈ seen → stands a b →
      Repeats stands seen items more → Repeats stands seen items (b :: more)

namespace Repeats

variable {α β : Type} {stands : α → β → Prop} {seen items : List α} {others : List β}

theorem mono {further : List α} (h : Repeats stands seen items others) (hsub : seen ⊆ further) :
    Repeats stands further items others := by
  induction h generalizing further with
  | nil => exact .nil
  | first hab _ ih => exact .first hab (ih (List.cons_subset_cons _ hsub))
  | again ha hab _ ih => exact .again (hsub ha) hab (ih hsub)

theorem append {more : List α} {rest : List β} (h : Repeats stands seen items others)
    (g : Repeats stands (items ++ seen) more rest) :
    Repeats stands seen (items ++ more) (others ++ rest) := by
  induction h with
  | nil => exact g
  | first hab _ ih =>
    refine .first hab (ih (g.mono fun a ha => ?_))
    simpa [or_left_comm] using ha
  | again ha hab _ ih => exact .again ha hab (ih g)

/-- A list whose items all stand for what was seen repeats no further item. -/
theorem of_seen (h : ∀ b ∈ others, ∃ a ∈ seen, stands a b) : Repeats stands seen [] others := by
  induction others with
  | nil => exact .nil
  | cons b rest ih =>
    obtain ⟨⟨a, ha, hab⟩, hrest⟩ := List.forall_mem_cons.mp h
    exact .again ha hab (ih hrest)

/-- Lists side by side repeat nothing. -/
theorem of_forall₂ (h : List.Forall₂ stands items others) : Repeats stands seen items others := by
  induction h generalizing seen with
  | nil => exact .nil
  | cons hab _ ih => exact .first hab ih

/-- Every item has one that stands for it. -/
theorem exists_right (h : Repeats stands seen items others) {a : α} (ha : a ∈ items) :
    ∃ b ∈ others, stands a b := by
  induction h with
  | nil => cases ha
  | @first _ _ _ _ b hab _ ih =>
    rcases List.mem_cons.mp ha with rfl | ha
    · exact ⟨b, List.mem_cons_self, hab⟩
    · obtain ⟨c, hc, hac⟩ := ih ha
      exact ⟨c, List.mem_cons_of_mem _ hc, hac⟩
  | again _ _ _ ih =>
    obtain ⟨c, hc, hac⟩ := ih ha
    exact ⟨c, List.mem_cons_of_mem _ hc, hac⟩

/-- Every item stands for one of the list or for one that was seen. -/
theorem exists_left (h : Repeats stands seen items others) {b : β} (hb : b ∈ others) :
    ∃ a, (a ∈ seen ∨ a ∈ items) ∧ stands a b := by
  induction h with
  | nil => cases hb
  | @first _ _ _ a _ hab _ ih =>
    rcases List.mem_cons.mp hb with rfl | hb
    · exact ⟨a, Or.inr List.mem_cons_self, hab⟩
    · obtain ⟨c, hc, hcb⟩ := ih hb
      refine ⟨c, ?_, hcb⟩
      simpa [or_assoc, or_left_comm] using hc
  | @again _ _ _ a _ ha hab _ ih =>
    rcases List.mem_cons.mp hb with rfl | hb
    · exact ⟨a, Or.inl ha, hab⟩
    · exact ih hb

/-- Whether some item passes a test is the same for both lists, if items pass it like those that
they stand for. -/
theorem any_eq {p : α → Bool} {q : β → Bool} (h : Repeats stands [] items others)
    (hpq : ∀ a b, stands a b → q b = p a) : others.any q = items.any p := by
  rw [Bool.eq_iff_iff, List.any_eq_true, List.any_eq_true]
  constructor
  · rintro ⟨b, hb, hq⟩
    obtain ⟨a, ha, hab⟩ := h.exists_left hb
    exact ⟨a, ha.resolve_left List.not_mem_nil, hpq a b hab ▸ hq⟩
  · rintro ⟨a, ha, hp⟩
    obtain ⟨b, hb, hab⟩ := h.exists_right ha
    exact ⟨b, hb, (hpq a b hab).trans hp⟩

section Run

variable {ε σ τ : Type} {R : σ → σ → Prop} {f : σ → α → Except ε σ} {g : τ → β → Except ε τ}
  {t : σ → τ}

theorem foldlM_eq_of_seen (h : Repeats stands seen items others)
    (hstep : ∀ a b s, stands a b → g (t s) b = (f s a).map t)
    (hrefl : ∀ s, R s s) (htrans : ∀ s t u, R s t → R t u → R s u)
    (hleads : ∀ a s s', f s a = .ok s' → R s s')
    (hrests : ∀ a s s' r, f s a = .ok s' → R s' r → f r a = .ok r) :
    ∀ s, (∀ a ∈ seen, ∀ r, R s r → f r a = .ok r) →
      others.foldlM g (t s) = (items.foldlM f s).map t := by
  induction h with
  | nil => intro s _; rfl
  | @first _ _ _ a b hab _ ih =>
    intro s hseen
    rw [List.foldlM_cons, List.foldlM_cons, hstep a b s hab]
    cases hs : f s a with
    | error e => rfl
    | ok m =>
      refine ih m (List.forall_mem_cons.mpr ⟨fun r => hrests a s m r hs, fun c hc r hr => ?_⟩)
      exact hseen c hc r (htrans s m r (hleads a s m hs) hr)
  | @again _ _ _ a b ha hab _ ih =>
    intro s hseen
    rw [List.foldlM_cons, hstep a b s hab, hseen a ha s (hrefl s)]
    exact ih s hseen

/-- **A run with repeated steps.** The steps of the repeating list do to a translated state what the
others do to the state, and a step is at rest in whatever the steps since have made of its
result. -/
theorem foldlM_eq (h : Repeats stands [] items others)
    (hstep : ∀ a b s, stands a b → g (t s) b = (f s a).map t)
    (hrefl : ∀ s, R s s) (htrans : ∀ s t u, R s t → R t u → R s u)
    (hleads : ∀ a s s', f s a = .ok s' → R s s')
    (hrests : ∀ a s s' r, f s a = .ok s' → R s' r → f r a = .ok r) (s : σ) :
    others.foldlM g (t s) = (items.foldlM f s).map t :=
  h.foldlM_eq_of_seen hstep hrefl htrans hleads hrests s fun _ ha => absurd ha List.not_mem_nil

end Run

end Repeats

end SchemaVisibility
