import Mathlib.Data.List.Forall2

/-! # Steps that can fail

A run of steps in `Except` gives a result exactly if each of its steps does. What one step keeps a
whole run keeps (`foldlM_keeps`), a run that comes back to its start along an order never left it
(`still_of_foldlM`), two steps that agree as long as something is kept agree over a whole run
(`foldlM_congr`), and a run over a list of items succeeds item by item (`mapM_eq_ok_iff`).
`foldlM_related` runs the same steps from two related starts. If no step fails where something holds
that the steps keep, then no run fails (`exists_foldlM`).
-/

namespace SchemaVisibility.Fallible

variable {ε α β σ τ : Type}

theorem bind_eq_ok {x : Except ε α} {f : α → Except ε β} {b : β} :
    x >>= f = .ok b ↔ ∃ a, x = .ok a ∧ f a = .ok b := by
  cases x with
  | error e => simp [bind, Except.bind]
  | ok a => simp [bind, Except.bind]

@[simp] theorem pure_eq_ok {a b : α} : (pure a : Except ε α) = .ok b ↔ a = b :=
  ⟨fun h => Except.ok.inj h, fun h => h ▸ rfl⟩

theorem map_eq_ok {x : Except ε α} {f : α → β} {b : β} :
    x.map f = .ok b ↔ ∃ a, x = .ok a ∧ f a = b := by
  cases x <;> simp [Except.map]

theorem toOption_eq_some {e : Except ε α} {a : α} : e.toOption = some a ↔ e = .ok a := by
  cases e <;> simp [Except.toOption]

theorem toOption_eq_none {e : Except ε α} : e.toOption = none ↔ ∃ error, e = .error error := by
  cases e <;> simp [Except.toOption]

@[simp] theorem ok_bind (a : α) (f : α → Except ε β) : Except.ok a >>= f = f a := rfl

/-- What every step keeps is kept by a run. -/
theorem foldlM_keeps {P : σ → Prop} {step : σ → α → Except ε σ} :
    ∀ {items : List α} {s r : σ}, (∀ a ∈ items, ∀ s r, P s → step s a = .ok r → P r) →
      P s → items.foldlM step s = .ok r → P r := by
  intro items
  induction items with
  | nil =>
    intro s r _ hs hr
    cases hr
    exact hs
  | cons a rest ih =>
    intro s r hstep hs hr
    rw [List.foldlM_cons, bind_eq_ok] at hr
    obtain ⟨m, hm, hr⟩ := hr
    exact ih (fun b hb => hstep b (List.mem_cons_of_mem a hb))
      (hstep a List.mem_cons_self s m hs hm) hr

/-- A run from where something holds succeeds if every step from there succeeds and keeps it. -/
theorem exists_foldlM {P : σ → Prop} {step : σ → α → Except ε σ} :
    ∀ {items : List α} {s : σ}, (∀ a ∈ items, ∀ s, P s → ∃ r, step s a = .ok r ∧ P r) →
      P s → ∃ r, items.foldlM step s = .ok r ∧ P r := by
  intro items
  induction items with
  | nil => intro s _ hs; exact ⟨s, rfl, hs⟩
  | cons a rest ih =>
    intro s hstep hs
    obtain ⟨m, hm, hkept⟩ := hstep a List.mem_cons_self s hs
    rw [List.foldlM_cons, hm]
    exact ih (fun b hb => hstep b (List.mem_cons_of_mem a hb)) hkept

/-- A run stays where it starts if no step leads away from there. -/
theorem foldlM_still {step : σ → α → Except ε σ} {s : σ} :
    ∀ {items : List α}, (∀ a ∈ items, step s a = .ok s) → items.foldlM step s = .ok s := by
  intro items
  induction items with
  | nil => intro _; rfl
  | cons a rest ih =>
    intro h
    rw [List.foldlM_cons, h a List.mem_cons_self]
    exact ih fun b hb => h b (List.mem_cons_of_mem a hb)

section Order

variable {R : σ → σ → Prop} {step : σ → α → Except ε σ} {start : σ}

/-- A run leads where its steps lead, as long as they go on from where the start leads. -/
theorem foldlM_leads (hrefl : ∀ s, R s s) (htrans : ∀ s t u, R s t → R t u → R s u)
    {items : List α} {s t : σ} (hs : R start s)
    (hstep : ∀ a ∈ items, ∀ s t, R start s → step s a = .ok t → R s t)
    (ht : items.foldlM step s = .ok t) : R s t :=
  (foldlM_keeps (P := fun u => R start u ∧ R s u)
    (fun a ha u v hu hv =>
      have huv := hstep a ha u v hu.1 hv
      ⟨htrans start u v hu.1 huv, htrans s u v hu.2 huv⟩) ⟨hs, hrefl s⟩ ht).2

/-- A run is at rest where each of its steps is: if every step leads somewhere and changes nothing
in whatever its own result leads to, then the run changes nothing in whatever its result leads
to. -/
theorem foldlM_rests (hrefl : ∀ s, R s s) (htrans : ∀ s t u, R s t → R t u → R s u) :
    ∀ {items : List α} {s t r : σ}, R start s →
      (∀ a ∈ items, ∀ s t, R start s → step s a = .ok t → R s t) →
      (∀ a ∈ items, ∀ s t r, step s a = .ok t → R t r → step r a = .ok r) →
      items.foldlM step s = .ok t → R t r → items.foldlM step r = .ok r := by
  intro items
  induction items with
  | nil => intro s t r _ _ _ _ _; rfl
  | cons a rest ih =>
    intro s t r hs hstep hrests ht hr
    rw [List.foldlM_cons, bind_eq_ok] at ht
    obtain ⟨m, hm, ht⟩ := ht
    have hsm : R s m := hstep a List.mem_cons_self s m hs hm
    have hstart : R start m := htrans start s m hs hsm
    have hstep' := fun b hb => hstep b (List.mem_cons_of_mem a hb)
    have hmt : R m t := foldlM_leads hrefl htrans hstart hstep' ht
    rw [List.foldlM_cons, hrests a List.mem_cons_self s m r hm (htrans m t r hmt hr)]
    exact ih hstart hstep' (fun b hb => hrests b (List.mem_cons_of_mem a hb)) ht hr

/-- A run that comes back to where it started never left, if its steps lead on along an order. -/
theorem still_of_foldlM (hrefl : ∀ s, R s s) (htrans : ∀ s t u, R s t → R t u → R s u)
    (hantisymm : ∀ s t, R s t → R t s → s = t) :
    ∀ {items : List α}, (∀ a ∈ items, ∀ s t, R start s → step s a = .ok t → R s t) →
      items.foldlM step start = .ok start → ∀ a ∈ items, step start a = .ok start := by
  intro items
  induction items with
  | nil => intro _ _ a ha; cases ha
  | cons first rest ih =>
    intro hstep h
    rw [List.foldlM_cons, bind_eq_ok] at h
    obtain ⟨m, hm, hrest⟩ := h
    have hstep' := fun a ha => hstep a (List.mem_cons_of_mem first ha)
    have hout : R start m := hstep first List.mem_cons_self start m (hrefl start) hm
    -- the rest of the run leads from the first result back to the start
    have hback : R m start := foldlM_leads hrefl htrans hout hstep' hrest
    obtain rfl := hantisymm start m hout hback
    intro a ha
    rcases List.mem_cons.mp ha with rfl | ha
    · exact hm
    · exact ih hstep' hrest a ha

end Order

/-- Steps that agree where something holds that they keep agree over a run. -/
theorem foldlM_congr {P : σ → Prop} {step other : σ → α → Except ε σ} :
    ∀ {items : List α} {s : σ}, (∀ a ∈ items, ∀ s, P s → step s a = other s a) →
      (∀ a ∈ items, ∀ s r, P s → step s a = .ok r → P r) → P s →
      items.foldlM step s = items.foldlM other s := by
  intro items
  induction items with
  | nil => intro s _ _ _; rfl
  | cons a rest ih =>
    intro s heq hkeep hs
    rw [List.foldlM_cons, List.foldlM_cons, ← heq a List.mem_cons_self s hs]
    cases hm : step s a with
    | error e => rfl
    | ok m =>
      exact ih (fun b hb => heq b (List.mem_cons_of_mem a hb))
        (fun b hb => hkeep b (List.mem_cons_of_mem a hb))
        (hkeep a List.mem_cons_self s m hs hm)

/-- One run of steps from two starts: if the relation that holds with steps still to come carries
over each of them, then both runs end, and in related results. -/
theorem foldlM_related {R : List α → σ → τ → Prop} {f : σ → α → Except ε σ}
    {g : τ → α → Except ε τ}
    (hstep : ∀ a rest s t, R (a :: rest) s t →
      ∃ s' t', f s a = .ok s' ∧ g t a = .ok t' ∧ R rest s' t') :
    ∀ {l : List α} {s : σ} {t : τ}, R l s t →
      ∃ s' t', l.foldlM f s = .ok s' ∧ l.foldlM g t = .ok t' ∧ R [] s' t' := by
  intro l
  induction l with
  | nil => intro s t h; exact ⟨s, t, rfl, rfl, h⟩
  | cons a rest ih =>
    intro s t h
    obtain ⟨s₁, t₁, hs, ht, h₁⟩ := hstep a rest s t h
    obtain ⟨s', t', hs', ht', h'⟩ := ih h₁
    refine ⟨s', t', ?_, ?_, h'⟩
    · rw [List.foldlM_cons, hs]; exact hs'
    · rw [List.foldlM_cons, ht]; exact ht'

/-- A run from a related start follows another run: if related states are taken to related ones by
every step that succeeds on the first of them, then the second run succeeds when the first does. -/
theorem foldlM_follows {R : σ → τ → Prop} {f : σ → α → Except ε σ} {g : τ → α → Except ε τ} :
    ∀ {items : List α} {s r : σ} {t : τ},
      (∀ a ∈ items, ∀ s r t, R s t → f s a = .ok r → ∃ r', g t a = .ok r' ∧ R r r') →
      R s t → items.foldlM f s = .ok r → ∃ r', items.foldlM g t = .ok r' ∧ R r r' := by
  intro items
  induction items with
  | nil =>
    intro s r t _ hst h
    cases h
    exact ⟨t, rfl, hst⟩
  | cons a rest ih =>
    intro s r t hstep hst h
    rw [List.foldlM_cons, bind_eq_ok] at h
    obtain ⟨m, hm, h⟩ := h
    obtain ⟨m', hm', hmm⟩ := hstep a List.mem_cons_self s m t hst hm
    rw [List.foldlM_cons, hm']
    exact ih (fun b hb => hstep b (List.mem_cons_of_mem a hb)) hmm h

/-- A run over items succeeds exactly if every item does. -/
theorem mapM_eq_ok_iff {f : α → Except ε β} {items : List α} {results : List β} :
    items.mapM f = .ok results ↔ List.Forall₂ (fun a b => f a = .ok b) items results := by
  induction items generalizing results with
  | nil =>
    rw [List.mapM_nil, pure_eq_ok, List.forall₂_nil_left_iff]
    exact eq_comm
  | cons a rest ih =>
    rw [List.mapM_cons, bind_eq_ok, List.forall₂_cons_left_iff]
    constructor
    · rintro ⟨b, hb, h⟩
      obtain ⟨bs, hbs, h⟩ := bind_eq_ok.mp h
      exact ⟨b, bs, hb, ih.mp hbs, (pure_eq_ok.mp h).symm⟩
    · rintro ⟨b, bs, hb, hbs, rfl⟩
      exact ⟨b, hb, bind_eq_ok.mpr ⟨bs, ih.mpr hbs, rfl⟩⟩

/-- A run over items succeeds if every item does. -/
theorem exists_mapM {f : α → Except ε β} {items : List α} (h : ∀ a ∈ items, ∃ b, f a = .ok b) :
    ∃ results, items.mapM f = .ok results := by
  induction items with
  | nil => exact ⟨[], rfl⟩
  | cons a rest ih =>
    obtain ⟨b, hb⟩ := h a List.mem_cons_self
    obtain ⟨bs, hbs⟩ := ih fun other ho => h other (List.mem_cons_of_mem a ho)
    exact ⟨b :: bs, by rw [List.mapM_cons, hb, ok_bind, hbs]; rfl⟩

/-- Every result of a run over items is the result of an item. -/
theorem exists_of_mem_mapM {f : α → Except ε β} {items : List α} {results : List β} {b : β}
    (h : items.mapM f = .ok results) (hb : b ∈ results) : ∃ a ∈ items, f a = .ok b := by
  rw [mapM_eq_ok_iff] at h
  induction h with
  | nil => cases hb
  | @cons a _ _ _ hab _ ih =>
    rcases List.mem_cons.mp hb with rfl | hb
    · exact ⟨a, List.mem_cons_self, hab⟩
    · obtain ⟨other, ho, hother⟩ := ih hb
      exact ⟨other, List.mem_cons_of_mem a ho, hother⟩

/-- Runs over related items end in related results if the steps on related items do. -/
theorem mapM_related {γ δ : Type} {R : α → γ → Prop} {Q : β → δ → Prop} {f : α → Except ε β}
    {g : γ → Except ε δ} {as : List α} {cs : List γ} (h : List.Forall₂ R as cs)
    (hstep : ∀ a c, R a c → ∃ b d, f a = .ok b ∧ g c = .ok d ∧ Q b d) :
    ∃ bs ds, as.mapM f = .ok bs ∧ cs.mapM g = .ok ds ∧ List.Forall₂ Q bs ds := by
  induction h with
  | nil => exact ⟨[], [], rfl, rfl, .nil⟩
  | cons hac _ ih =>
    obtain ⟨b, d, hb, hd, hbd⟩ := hstep _ _ hac
    obtain ⟨bs, ds, hbs, hds, hrest⟩ := ih
    refine ⟨b :: bs, d :: ds, ?_, ?_, .cons hbd hrest⟩
    · rw [List.mapM_cons, hb, ok_bind, hbs]; rfl
    · rw [List.mapM_cons, hd, ok_bind, hds]; rfl

/-- Steps that agree on every item agree over a run. -/
theorem mapM_congr {f g : α → Except ε β} {items : List α} (h : ∀ a ∈ items, f a = g a) :
    items.mapM f = items.mapM g := by
  induction items with
  | nil => rfl
  | cons a rest ih =>
    rw [List.mapM_cons, List.mapM_cons, h a List.mem_cons_self,
      ih fun b hb => h b (List.mem_cons_of_mem a hb)]

/-- A run over translated items is a translated run, if the steps are translated steps. -/
theorem mapM_translated {γ δ : Type} {f : α → Except ε β} {g : γ → Except ε δ} {t : α → γ}
    {u : β → δ} (h : ∀ a, g (t a) = (f a).map u) (items : List α) :
    (items.map t).mapM g = (items.mapM f).map (List.map u) := by
  induction items with
  | nil => rfl
  | cons a rest ih =>
    rw [List.map_cons, List.mapM_cons, List.mapM_cons, h, ih]
    cases f a with
    | error e => rfl
    | ok b => cases rest.mapM f <;> rfl

end SchemaVisibility.Fallible
