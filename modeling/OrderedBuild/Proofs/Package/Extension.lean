import OrderedBuild.Proofs.Package.Planning

namespace OrderedBuild.Depends

variable {d : Depends} {path names new more : List String} {name p q : String}
  {s s' s'' : Planning}

/-- Packages appended below a path: none was planned or is on the path, and the prerequisites of
each are planned by the time it is appended. -/
structure Appends (d : Depends) (path : List String) (s s' : Planning) (new : List String) :
    Prop where
  plan_eq : s'.plan = s.plan ++ new
  mem_planned_iff : ∀ p, p ∈ s'.planned ↔ p ∈ s.planned ∨ p ∈ new
  nodup : new.Nodup
  fresh : ∀ p ∈ new, p ∉ s.planned
  off_path : ∀ p ∈ new, p ∉ path
  ordered : ∀ before p after, new = before ++ p :: after →
    ∀ q ∈ d.prerequisites p, q ∈ s.planned ∨ q ∈ before

theorem Appends.refl (d : Depends) (path : List String) (s : Planning) :
    d.Appends path s s [] := by
  constructor <;> simp

theorem Appends.trans (h : d.Appends path s s' new) (h' : d.Appends path s' s'' more) :
    d.Appends path s s'' (new ++ more) := by
  constructor
  · rw [h'.plan_eq, h.plan_eq, List.append_assoc]
  · intro p
    rw [h'.mem_planned_iff, h.mem_planned_iff, List.mem_append, or_assoc]
  · refine List.nodup_append.mpr ⟨h.nodup, h'.nodup, ?_⟩
    rintro p hp q hq rfl
    exact h'.fresh p hq ((h.mem_planned_iff p).mpr (.inr hp))
  · intro p hp hmem
    rcases List.mem_append.mp hp with hp | hp
    · exact h.fresh p hp hmem
    · exact h'.fresh p hp ((h.mem_planned_iff p).mpr (.inl hmem))
  · exact List.forall_mem_append.mpr ⟨h.off_path, h'.off_path⟩
  · refine forall_split_append h.ordered fun before p after hp q hq => ?_
    rw [List.mem_append, ← or_assoc, ← h.mem_planned_iff]
    exact h'.ordered before p after hp q hq

theorem Appends.push (h : d.Appends (path ++ [name]) s s' new) (hs : name ∉ s.planned)
    (hn : name ∉ path) (hdeps : ∀ q ∈ d.prerequisites name, q ∈ s'.planned) :
    d.Appends path s (s'.push name) (new ++ [name]) := by
  have hnew : name ∉ new := fun hmem => h.off_path name hmem (by simp)
  constructor
  · simp [Planning.push, h.plan_eq]
  · intro p
    rw [Planning.mem_planned_push, h.mem_planned_iff, List.mem_append, List.mem_singleton,
      or_assoc]
  · rw [← List.concat_eq_append]
    exact h.nodup.concat hnew
  · exact List.forall_mem_append.mpr ⟨h.fresh, List.forall_mem_singleton.mpr hs⟩
  · refine List.forall_mem_append.mpr ⟨fun p hp hmem => ?_, List.forall_mem_singleton.mpr hn⟩
    exact h.off_path p hp (List.mem_append_left _ hmem)
  · exact forall_split_concat_iff.mpr
      ⟨h.ordered, fun q hq => (h.mem_planned_iff q).mp (hdeps q hq)⟩

theorem exists_appends_of_foldlM_eq_ok
    (ih : ∀ name ∈ names, ∀ s s', d.extend path name s = .ok s' →
      ∃ new, d.Appends path s s' new ∧ name ∈ s'.planned)
    (h : names.foldlM (fun s name => d.extend path name s) s = .ok s') :
    ∃ new, d.Appends path s s' new ∧ ∀ name ∈ names, name ∈ s'.planned := by
  induction names generalizing s with
  | nil =>
    obtain rfl := Except.ok.inj h
    exact ⟨[], .refl d path s, by simp⟩
  | cons name names ihn =>
    obtain ⟨hname, hnames⟩ := List.forall_mem_cons.mp ih
    obtain ⟨t, ht, hrest⟩ := Traversal.foldlM_cons_eq_ok_iff.mp h
    obtain ⟨new, hnew, hmem⟩ := hname s t ht
    obtain ⟨more, hmore, hall⟩ := ihn hnames hrest
    refine ⟨new ++ more, hnew.trans hmore, List.forall_mem_cons.mpr ⟨?_, hall⟩⟩
    exact (hmore.mem_planned_iff name).mpr (.inl hmem)

theorem exists_appends_of_extend_eq_ok (h : d.extend path name s = .ok s') :
    ∃ new, d.Appends path s s' new ∧ name ∈ s'.planned := by
  induction path, name using d.path_induction generalizing s s' with
  | step path name ih =>
    rcases extend_eq_ok_iff.mp h with ⟨hs, rfl⟩ | ⟨hs, hn, t, ht, rfl⟩
    · exact ⟨[], .refl d path s, hs⟩
    · obtain ⟨new, hnew, hdeps⟩ :=
        exists_appends_of_foldlM_eq_ok (fun dep hdep _ _ hd => ih hn dep hdep hd) ht
      exact ⟨new ++ [name], hnew.push hs hn hdeps, by simp⟩

theorem Acyclic.exists_extend_eq_ok (h : d.Acyclic) (hpath : ∀ q ∈ path, d.Needs q name)
    (s : Planning) : ∃ s', d.extend path name s = .ok s' := by
  induction path, name using d.path_induction generalizing s with
  | step path name ih =>
    have hn : name ∉ path := fun hmem => h name (hpath name hmem)
    rw [extend_eq]
    by_cases hs : name ∈ s.planned
    · exact ⟨s, by rw [if_pos hs]⟩
    · have hdeps : ∀ dep ∈ d.prerequisites name, ∀ s, ∃ s',
          d.extend (path ++ [name]) dep s = .ok s' := by
        intro dep hdep s
        refine ih hn dep hdep (fun q hq => ?_) s
        rcases List.mem_append.mp hq with hq | hq
        · exact (hpath q hq).trans (.direct hdep)
        · rw [List.mem_singleton.mp hq]
          exact .direct hdep
      obtain ⟨t, ht⟩ := Traversal.exists_foldlM_eq_ok hdeps s
      exact ⟨t.push name, by rw [if_neg hs, if_neg hn, ht]; rfl⟩

theorem exists_appends_of_planInto_eq_ok (h : d.planInto s name = .ok s') :
    ∃ new, d.Appends [] s s' new := by
  obtain ⟨new, hnew, -⟩ := exists_appends_of_extend_eq_ok h
  exact ⟨new, hnew⟩

theorem Acyclic.exists_planInto_eq_ok (h : d.Acyclic) (s : Planning) (name : String) :
    ∃ s', d.planInto s name = .ok s' :=
  h.exists_extend_eq_ok (by simp) s

end OrderedBuild.Depends
