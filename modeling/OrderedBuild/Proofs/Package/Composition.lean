import OrderedBuild.Proofs.Package.Plan

namespace OrderedBuild

variable {d : Depends} {t : DependencyTable} {names more : List String}

theorem eraseDups_filter (keep : String → Bool) (xs : List String) :
    (xs.filter keep).eraseDups = xs.eraseDups.filter keep := by
  induction xs generalizing keep with
  | nil => rfl
  | cons x xs ih =>
    rw [List.eraseDups_cons]
    by_cases hx : keep x
    · rw [List.filter_cons_of_pos hx, List.filter_cons_of_pos hx, List.eraseDups_cons,
        List.filter_filter, ih, ih, List.filter_filter]
      simp only [Bool.and_comm]
    · -- What is left out as a repetition of `x` is not kept anyway.
      rw [List.filter_cons_of_neg hx, List.filter_cons_of_neg hx, ih, ih, List.filter_filter]
      apply List.filter_congr
      intro y _
      by_cases hy : y = x
      · simp [hy, hx]
      · simp [hy]

theorem eraseDups_append_eq_filter (xs ys : List String) :
    (xs ++ ys).eraseDups = xs.eraseDups ++ ys.eraseDups.filter (· ∉ xs.eraseDups) := by
  have hnew : ys.removeAll xs = ys.filter (· ∉ xs.eraseDups) := by
    apply List.filter_congr
    intro y _
    simp
  rw [List.eraseDups_append, hnew, eraseDups_filter]

namespace BuildPlan

variable {plan rest : BuildPlan}

theorem forPackages_append (h : forPackages d names = .ok plan)
    (h' : forPackages d more = .ok rest) :
    forPackages d (names ++ more) =
      .ok ⟨plan.packages ++ rest.packages.filter (· ∉ plan.packages)⟩ := by
  rw [forPackages_eq_map_closures] at h h'
  obtain ⟨parts, hparts, rfl⟩ := Traversal.map_eq_ok_iff.mp h
  obtain ⟨parts', hparts', rfl⟩ := Traversal.map_eq_ok_iff.mp h'
  have hall : (names ++ more).mapM d.closure = .ok (parts ++ parts') := by
    rw [List.mapM_append, hparts, hparts']
    rfl
  rw [forPackages_eq_map_closures, hall, ← eraseDups_append_eq_filter, ← List.flatten_append]
  rfl

/-- On an accepted table the plan of two requests together is the plan of the first, followed by
what the plan of the second has beyond it. So a longer request only lengthens the plan, and not even
that if all it adds is planned already. -/
theorem forPackages_append_extends_plan (h : t.Accepted) (names more : List String) :
    ∃ plan rest whole, forPackages t.depends names = .ok plan ∧
      forPackages t.depends more = .ok rest ∧
      forPackages t.depends (names ++ more) = .ok whole ∧
      whole.packages = plan.packages ++ rest.packages.filter (· ∉ plan.packages) ∧
      plan.packages <+: whole.packages ∧
      ((∀ n ∈ more, n ∈ plan.packages) → whole = plan) := by
  obtain ⟨plan, hplan, -, ho, -⟩ := exists_forPackages_eq_ok h.sound names
  obtain ⟨rest, hrest, hmem, -, -⟩ := exists_forPackages_eq_ok h.sound more
  refine ⟨plan, rest, _, hplan, hrest, forPackages_append hplan hrest, rfl,
    List.prefix_append _ _, fun hin => ?_⟩
  have hnone : rest.packages.filter (· ∉ plan.packages) = [] := by
    apply List.filter_eq_nil_iff.mpr
    intro q hq
    have hq : q ∈ plan.packages := by
      rcases (hmem q).mp hq with hq | ⟨n, hn, hq⟩
      · exact hin q hq
      · obtain ⟨before, after, hsplit⟩ := List.append_of_mem (hin n hn)
        rw [hsplit] at ho ⊢
        exact List.mem_append_left _ (ho.mem_of_needs hq)
    simpa using hq
  rw [hnone, List.append_nil]

theorem forPackages_casacore_append_extends_plan :
    DependencyTable.casacore.Accepted ∧
    forPackages DependencyTable.casacore.depends ["fits", "derived", "images", "fits"] =
      .ok ⟨["casa", "tables", "scimath", "measures", "fits",
        "derived", "coordinates", "components", "mirlib", "images"]⟩ ∧
    forPackages DependencyTable.casacore.depends ["fits", "tables", "casa", "tables"] =
      forPackages DependencyTable.casacore.depends ["fits"] := by
  have hplan : forPackages DependencyTable.casacore.depends ["fits"] =
      .ok ⟨["casa", "tables", "scimath", "measures", "fits"]⟩ := by decide +kernel
  have hrest : forPackages DependencyTable.casacore.depends ["derived", "images", "fits"] =
      .ok ⟨["derived", "casa", "tables", "scimath", "measures", "fits", "coordinates",
        "components", "mirlib", "images"]⟩ := by decide +kernel
  refine ⟨.casacore, ?_, ?_⟩
  · obtain ⟨plan, rest, ⟨packages⟩, hp, hr, hw, hpackages, -⟩ :=
      forPackages_append_extends_plan .casacore ["fits"] ["derived", "images", "fits"]
    obtain rfl := Except.ok.inj (hplan.symm.trans hp)
    obtain rfl := Except.ok.inj (hrest.symm.trans hr)
    obtain rfl : packages = _ := hpackages
    exact hw
  · obtain ⟨plan, rest, whole, hp, hr, hw, -, -, hsame⟩ :=
      forPackages_append_extends_plan .casacore ["fits"] ["tables", "casa", "tables"]
    obtain rfl := Except.ok.inj (hplan.symm.trans hp)
    obtain rfl := hsame (by decide)
    exact hw.trans hp.symm

end BuildPlan

end OrderedBuild
