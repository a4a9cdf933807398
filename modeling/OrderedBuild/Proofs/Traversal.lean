namespace OrderedBuild.Traversal

variable {α β ε : Type} {f : α → Except ε (List β)} {xs : List α}

theorem map_eq_ok_iff {x : Except ε α} {g : α → β} {b : β} :
    x.map g = .ok b ↔ ∃ a, x = .ok a ∧ g a = b := by
  cases x with
  | error e => simp [Except.map]
  | ok a => simp [Except.map]

theorem map_eq_error_iff {x : Except ε α} {g : α → β} {e : ε} :
    x.map g = .error e ↔ x = .error e := by
  cases x with
  | error e => simp [Except.map]
  | ok a => simp [Except.map]

theorem bind_eq_ok_iff {β : Type} {x : Except ε α} {g : α → Except ε β} {b : β} :
    x >>= g = .ok b ↔ ∃ a, x = .ok a ∧ g a = .ok b := by
  cases x with
  | error e => simp [bind, Except.bind]
  | ok a => simp [bind, Except.bind]

theorem mapM_eq_ok_of_forall {g : α → List β} (h : ∀ x ∈ xs, f x = .ok (g x)) :
    xs.mapM f = .ok (xs.map g) := by
  induction xs with
  | nil => rfl
  | cons x xs ih =>
    have hx := h x List.mem_cons_self
    have hxs := ih fun y hy => h y (List.mem_cons_of_mem _ hy)
    simp [List.mapM_cons, hx, hxs, bind, Except.bind, pure, Except.pure]

theorem exists_forall_of_forall_exists (h : ∀ x ∈ xs, ∃ y, f x = .ok y) :
    ∃ g : α → List β, ∀ x ∈ xs, f x = .ok (g x) := by
  refine ⟨fun x => (f x).toOption.getD [], fun x hx => ?_⟩
  obtain ⟨y, hy⟩ := h x hx
  simp [hy, Except.toOption]

theorem exists_of_mapM_eq_ok {ys : List (List β)} (h : xs.mapM f = .ok ys) :
    ∃ g : α → List β, (∀ x ∈ xs, f x = .ok (g x)) ∧ ys = xs.map g := by
  have hall : ∀ x ∈ xs, ∃ y, f x = .ok y := by
    induction xs generalizing ys with
    | nil => simp
    | cons x xs ih =>
      rw [List.mapM_cons] at h
      cases hx : f x with
      | error e => simp [hx, bind, Except.bind] at h
      | ok y =>
        cases hxs : xs.mapM f with
        | error e => simp [hx, hxs, bind, Except.bind] at h
        | ok zs => exact List.forall_mem_cons.mpr ⟨⟨y, hx⟩, ih hxs⟩
  obtain ⟨g, hg⟩ := exists_forall_of_forall_exists hall
  rw [mapM_eq_ok_of_forall hg] at h
  exact ⟨g, hg, (Except.ok.inj h).symm⟩

theorem exists_of_mapM_eq_error {e : ε} (h : xs.mapM f = .error e) :
    ∃ x ∈ xs, f x = .error e := by
  induction xs with
  | nil => simp [pure, Except.pure] at h
  | cons x xs ih =>
    rw [List.mapM_cons] at h
    cases hx : f x with
    | error e' =>
      have he : e' = e := by simpa [hx, bind, Except.bind] using h
      exact ⟨x, List.mem_cons_self, he ▸ hx⟩
    | ok y =>
      cases hxs : xs.mapM f with
      | error e' =>
        have he : e' = e := by simpa [hx, hxs, bind, Except.bind] using h
        obtain ⟨z, hz, hfz⟩ := ih (he ▸ hxs)
        exact ⟨z, List.mem_cons_of_mem _ hz, hfz⟩
      | ok zs => simp [hx, hxs, bind, Except.bind, pure, Except.pure] at h

theorem mapM_append_cons_eq_error {x : α} {before after : List α} {e : ε}
    (h : ∀ y ∈ before, ∃ z, f y = .ok z) (hx : f x = .error e) :
    (before ++ x :: after).mapM f = .error e := by
  obtain ⟨g, hg⟩ := exists_forall_of_forall_exists h
  rw [List.mapM_append, mapM_eq_ok_of_forall hg]
  simp [List.mapM_cons, hx, bind, Except.bind]

theorem exists_foldlM_eq_ok {σ : Type} {step : σ → α → Except ε σ}
    (h : ∀ x ∈ xs, ∀ s, ∃ s', step s x = .ok s') (s : σ) : ∃ s', xs.foldlM step s = .ok s' := by
  induction xs generalizing s with
  | nil => exact ⟨s, rfl⟩
  | cons x xs ih =>
    obtain ⟨hx, hxs⟩ := List.forall_mem_cons.mp h
    obtain ⟨s', hs⟩ := hx s
    obtain ⟨s'', hs'⟩ := ih hxs s'
    refine ⟨s'', ?_⟩
    rw [List.foldlM_cons, hs]
    exact hs'

theorem foldlM_cons_eq_ok_iff {σ : Type} {step : σ → α → Except ε σ} {x : α} {s s'' : σ} :
    (x :: xs).foldlM step s = .ok s'' ↔
      ∃ s', step s x = .ok s' ∧ xs.foldlM step s' = .ok s'' := by
  rw [List.foldlM_cons]
  cases step s x with
  | error e => simp [bind, Except.bind]
  | ok s' => simp [bind, Except.bind]

theorem foldlM_append_eq_ok_iff {σ : Type} {step : σ → α → Except ε σ} {ys : List α} {s s'' : σ} :
    (xs ++ ys).foldlM step s = .ok s'' ↔
      ∃ s', xs.foldlM step s = .ok s' ∧ ys.foldlM step s' = .ok s'' := by
  rw [List.foldlM_append]
  cases xs.foldlM step s with
  | error e => simp [bind, Except.bind]
  | ok s' => simp [bind, Except.bind]

theorem of_foldlM_eq_ok {σ : Type} {step : σ → α → Except ε σ} (inv : σ → Prop)
    (h : ∀ x ∈ xs, ∀ s s', inv s → step s x = .ok s' → inv s') {s s' : σ} (hs : inv s)
    (hf : xs.foldlM step s = .ok s') : inv s' := by
  induction xs generalizing s with
  | nil =>
    obtain rfl := Except.ok.inj hf
    exact hs
  | cons x xs ih =>
    obtain ⟨hx, hxs⟩ := List.forall_mem_cons.mp h
    obtain ⟨t, ht, hrest⟩ := foldlM_cons_eq_ok_iff.mp hf
    exact ih hxs (hx s t hs ht) hrest

/-- Steps that agree wherever the others can lead come to the same. -/
theorem foldlM_congr_of_forall {σ : Type} {step step' : σ → α → Except ε σ} (inv : σ → Prop)
    (heq : ∀ x ∈ xs, ∀ s, inv s → step' s x = step s x)
    (h : ∀ x ∈ xs, ∀ s s', inv s → step s x = .ok s' → inv s') {s : σ} (hs : inv s) :
    xs.foldlM step' s = xs.foldlM step s := by
  induction xs generalizing s with
  | nil => rfl
  | cons x xs ih =>
    obtain ⟨heqx, heqxs⟩ := List.forall_mem_cons.mp heq
    obtain ⟨hx, hxs⟩ := List.forall_mem_cons.mp h
    rw [List.foldlM_cons, List.foldlM_cons, heqx s hs]
    cases ht : step s x with
    | error e => rfl
    | ok t => exact ih heqxs hxs (hx s t hs ht)

end OrderedBuild.Traversal
