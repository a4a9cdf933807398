import OrderedBuild.Proofs.Package.Extension
import OrderedBuild.Proofs.Package.Table

namespace OrderedBuild.Depends

variable {d d' : Depends} {path new planned more : List String} {name p q : String}
  {s s' : Planning}

/-- There is a chain of zero or more steps from a package to a prerequisite on which no name is
planned, its ends included. -/
inductive Reaches (d : Depends) (planned : List String) : String → String → Prop
  | here {p : String} (h : p ∉ planned) : Reaches d planned p p
  | step {p q r : String} (h : p ∉ planned) (hq : q ∈ d.prerequisites p)
    (t : Reaches d planned q r) : Reaches d planned p r

theorem Reaches.notMem_planned (h : d.Reaches planned p q) : p ∉ planned := by
  cases h with
  | here h => exact h
  | step h _ _ => exact h

theorem Reaches.of_subset (hsub : ∀ p ∈ planned, p ∈ more) (h : d.Reaches more p q) :
    d.Reaches planned p q := by
  induction h with
  | here h => exact .here fun hmem => h (hsub _ hmem)
  | step h hq _ ih => exact .step (fun hmem => h (hsub _ hmem)) hq ih

theorem Reaches.eq_or_needs (h : d.Reaches planned p q) : q = p ∨ d.Needs p q := by
  induction h with
  | here h => exact .inl rfl
  | step h hq _ ih => exact .inr (needs_iff.mpr ⟨_, hq, ih⟩)

/-- From an appended package nothing but planned and appended packages can be reached. -/
theorem Appends.mem_of_reaches (h : d.Appends path s s' new) (hp : p ∈ new)
    (hr : d.Reaches s.planned p q) : q ∈ new := by
  induction hr with
  | here _ => exact hp
  | step _ hq t ih =>
    obtain ⟨before, after, rfl⟩ := List.append_of_mem hp
    rcases h.ordered before _ after rfl _ hq with hplanned | hbefore
    · exact absurd hplanned t.notMem_planned
    · exact ih (List.mem_append_left _ hbefore)

/-- What has been planned from a package on lies within its reach. -/
structure Stays (d : Depends) (planned : List String) (name : String) (s : Planning) : Prop where
  subset : ∀ p ∈ planned, p ∈ s.planned
  reaches : ∀ p ∈ s.planned, p ∈ planned ∨ d.Reaches planned name p

theorem Stays.refl (d : Depends) (name : String) (s : Planning) : d.Stays s.planned name s :=
  ⟨fun _ hp => hp, fun _ hp => .inl hp⟩

/-- What a prerequisite reaches past more planned names its package reaches past fewer. -/
theorem Stays.trans (h : d.Stays planned name s) (hn : name ∉ planned)
    (hq : q ∈ d.prerequisites name) (h' : d.Stays s.planned q s') : d.Stays planned name s' := by
  refine ⟨fun p hp => h'.subset p (h.subset p hp), fun p hp => ?_⟩
  rcases h'.reaches p hp with hp | hp
  · exact h.reaches p hp
  · exact .inr (.step hn hq (hp.of_subset h.subset))

theorem Stays.push (h : d.Stays planned name s) (hn : name ∉ planned) :
    d.Stays planned name (s.push name) := by
  refine ⟨fun p hp => Planning.mem_planned_push.mpr (.inl (h.subset p hp)), fun p hp => ?_⟩
  rcases Planning.mem_planned_push.mp hp with hp | rfl
  · exact h.reaches p hp
  · exact .inr (.here hn)

theorem stays_of_extend_eq_ok (h : d.extend path name s = .ok s') : d.Stays s.planned name s' := by
  induction path, name using d.path_induction generalizing s s' with
  | step path name ih =>
    rcases extend_eq_ok_iff.mp h with ⟨-, rfl⟩ | ⟨hs, hn, t, ht, rfl⟩
    · exact .refl d name s
    · -- More is planned from one prerequisite to the next, so what is kept speaks of the names
      -- that were planned before the first.
      have hdeps : d.Stays s.planned name t :=
        Traversal.of_foldlM_eq_ok (d.Stays s.planned name)
          (fun dep hdep _ _ hu hstep => hu.trans hs hdep (ih hn dep hdep hstep))
          (.refl d name s) ht
      exact hdeps.push hs

/-- Maps that say the same of every package within reach plan alike, failures included. -/
theorem extend_congr (h : ∀ p, d.Reaches s.planned name p → d'.find? p = d.find? p) :
    d'.extend path name s = d.extend path name s := by
  induction path, name using d.path_induction generalizing s with
  | step path name ih =>
    rw [extend_eq, extend_eq]
    by_cases hs : name ∈ s.planned
    · rw [if_pos hs, if_pos hs]
    · by_cases hn : name ∈ path
      · rw [if_neg hs, if_neg hs, if_pos hn, if_pos hn]
      · have hdeps : d'.prerequisites name = d.prerequisites name := by
          unfold prerequisites
          rw [h name (.here hs)]
        have hfold : (d.prerequisites name).foldlM
              (fun s dep => d'.extend (path ++ [name]) dep s) s =
            (d.prerequisites name).foldlM (fun s dep => d.extend (path ++ [name]) dep s) s :=
          Traversal.foldlM_congr_of_forall (d.Stays s.planned name)
            (fun dep hdep t ht => ih hn dep hdep fun p hp =>
              h p (.step hs hdep (hp.of_subset ht.subset)))
            (fun dep hdep t t' ht hstep => ht.trans hs hdep (stays_of_extend_eq_ok hstep))
            (.refl d name s)
        rw [if_neg hs, if_neg hs, if_neg hn, if_neg hn, hdeps, hfold]

theorem Closed.planAll_congr {names : List String} (hd : d.Closed) (hnames : ∀ n ∈ names, n ∈ d.names)
    (h : ∀ p ∈ d.names, d'.find? p = d.find? p) (s : Planning) :
    d'.planAll s names = d.planAll s names := by
  refine Traversal.foldlM_congr_of_forall (fun _ => True) (fun n hn t _ => ?_)
    (fun _ _ _ _ _ _ => trivial) trivial
  refine extend_congr fun p hp => ?_
  rcases hp.eq_or_needs with rfl | hp
  · exact h p (hnames p hn)
  · exact h p (hd.mem_names_of_needs hp)

theorem mem_iff_reaches_of_planInto_eq_ok (h : d.planInto s name = .ok s')
    (hnew : d.Appends [] s s' new) (hname : name ∈ s'.planned) :
    p ∈ new ↔ d.Reaches s.planned name p := by
  constructor
  · intro hp
    have hplanned : p ∈ s'.planned := (hnew.mem_planned_iff p).mpr (.inr hp)
    exact ((stays_of_extend_eq_ok h).reaches p hplanned).resolve_left (hnew.fresh p hp)
  · intro hr
    have hmem : name ∈ new :=
      ((hnew.mem_planned_iff name).mp hname).resolve_left hr.notMem_planned
    exact hnew.mem_of_reaches hmem hr

/-- Whatever counts as planned, planning a package succeeds and appends what can be reached past the
planned names, prerequisites first. It comes to the same with any map that says the same of the
packages within reach. -/
theorem planInto_appends_what_is_reached {t : DependencyTable} (h : t.Accepted) (s : Planning)
    (name : String) :
    ∃ s' new, t.depends.planInto s name = .ok s' ∧ s'.plan = s.plan ++ new ∧ new.Nodup ∧
      (∀ p, p ∈ new ↔ t.depends.Reaches s.planned name p) ∧
      (∀ before p after, new = before ++ p :: after →
        ∀ q ∈ t.depends.prerequisites p, q ∉ s.planned → q ∈ before) ∧
      (∀ p, p ∈ s'.planned ↔ p ∈ s.planned ∨ p ∈ new) ∧
      ∀ d' : Depends,
        (∀ p, t.depends.Reaches s.planned name p → d'.find? p = t.depends.find? p) →
        d'.planInto s name = .ok s' := by
  obtain ⟨s', hs⟩ := h.sound.acyclic.exists_planInto_eq_ok s name
  obtain ⟨new, hnew, hname⟩ := exists_appends_of_extend_eq_ok hs
  refine ⟨s', new, hs, hnew.plan_eq, hnew.nodup, fun p => ?_, ?_, hnew.mem_planned_iff, ?_⟩
  · exact mem_iff_reaches_of_planInto_eq_ok hs hnew hname
  · exact fun before p after hp q hq hout =>
      (hnew.ordered before p after hp q hq).resolve_left hout
  · exact fun d' hsame => (extend_congr hsame).trans hs

theorem planInto_casacore_stops_at_planned :
    DependencyTable.casacore.Accepted ∧
    ∃ s', DependencyTable.casacore.depends.planInto ⟨["tables"], ["msvis"]⟩ "measures" = .ok s' ∧
      s'.plan = ["msvis", "casa", "scimath", "measures"] ∧
      (∀ p, DependencyTable.casacore.depends.Reaches ["tables"] "measures" p ↔
        p ∈ ["casa", "scimath", "measures"]) ∧
      (DependencyTable.casacore.depends.insert "tables" ["measures"]).planInto
        ⟨["tables"], ["msvis"]⟩ "measures" = .ok s' := by
  obtain ⟨s', new, hs, hplan, -, hmem, -, -, hsame⟩ :=
    planInto_appends_what_is_reached .casacore ⟨["tables"], ["msvis"]⟩ "measures"
  have hcomputed : (DependencyTable.casacore.depends.planInto
      ⟨["tables"], ["msvis"]⟩ "measures").map Planning.plan =
        .ok ["msvis", "casa", "scimath", "measures"] := by decide +kernel
  rw [hs] at hcomputed
  have hplan' : s'.plan = ["msvis", "casa", "scimath", "measures"] := Except.ok.inj hcomputed
  obtain rfl : ["casa", "scimath", "measures"] = new := by simpa [hplan'] using hplan
  have hlookups : ∀ p ∈ ["casa", "scimath", "measures"],
      (DependencyTable.casacore.depends.insert "tables" ["measures"]).find? p =
        DependencyTable.casacore.depends.find? p := by decide
  exact ⟨.casacore, s', hs, hplan', fun p => (hmem p).symm,
    hsame _ fun p hp => hlookups p ((hmem p).mpr hp)⟩

end OrderedBuild.Depends
