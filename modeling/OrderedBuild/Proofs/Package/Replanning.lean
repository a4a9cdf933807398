import OrderedBuild.Proofs.Package.Plan

namespace OrderedBuild

variable {d : Depends} {t : DependencyTable} {xs c : List String} {closures : String → List String}
  {p : String}

theorem eraseDups_eq_self (h : xs.Nodup) : xs.eraseDups = xs := by
  induction xs with
  | nil => exact List.eraseDups_nil
  | cons x xs ih =>
    obtain ⟨hx, hxs⟩ := List.nodup_cons.mp h
    have hf : xs.filter (fun y => !y == x) = xs := by
      apply List.filter_eq_self.mpr
      intro y hy
      have hne : y ≠ x := fun he => hx (he ▸ hy)
      simpa using hne
    rw [List.eraseDups_cons, hf, ih hxs]

namespace Depends

theorem Ordered.eraseDups_flatMap (ho : d.Ordered xs)
    (h : ∀ n ∈ xs, d.closure n = .ok (closures n)) :
    (xs.flatMap closures).eraseDups = xs.eraseDups := by
  induction xs using List.reverseRecOn with
  | nil => rfl
  | append_singleton xs p ih =>
    obtain ⟨hxs, hp⟩ := List.forall_mem_append.mp h
    have ih := ih (ordered_concat_iff.mp ho).1 hxs
    have hmem : ∀ q, q ∈ xs.flatMap closures ↔ q ∈ xs := fun q => by
      rw [← List.mem_eraseDups, ih, List.mem_eraseDups]
    have hclosure := hp p List.mem_cons_self
    obtain ⟨below, hbelow, hneeds⟩ := exists_eq_concat_of_closure hclosure
    have hnone : below.removeAll (xs.flatMap closures) = [] := by
      apply List.filter_eq_nil_iff.mpr
      intro q hq
      have hqs : q ∈ xs := ho.mem_of_needs ((hneeds q).mp hq)
      simpa [hmem] using hqs
    have hlast : (closures p).removeAll (xs.flatMap closures) = [p].removeAll xs := by
      unfold List.removeAll at hnone ⊢
      rw [hbelow, List.filter_append, hnone, List.nil_append]
      apply List.filter_congr
      intro q _
      simp [hmem]
    rw [List.flatMap_append, List.flatMap_singleton, List.eraseDups_append,
      List.eraseDups_append, ih, hlast]

end Depends

namespace BuildPlan

theorem forPackages_of_ordered (h : t.Sound) (ho : t.depends.Ordered xs) :
    forPackages t.depends xs = .ok ⟨xs.eraseDups⟩ := by
  obtain ⟨closures, hc⟩ := exists_closures h xs
  rw [forPackages_eq_ok_of_forall hc, ho.eraseDups_flatMap hc]

/-- A plan asked for package by package is the plan itself, and so is the plan of everything when
the default order is asked for. -/
theorem forPackages_replans_plan (h : t.Accepted) :
    (∀ r, ∃ plan, ofRequest t r = .ok plan ∧ forPackages t.depends plan.packages = .ok plan) ∧
      forPackages t.depends t.defaultOrder = .ok (all t) := by
  constructor
  · intro r
    obtain ⟨plan, hplan, ho, hn⟩ := exists_ofRequest_eq_ok h.sound r
    refine ⟨plan, hplan, ?_⟩
    rw [forPackages_of_ordered h.sound ho, eraseDups_eq_self hn]
  · exact forPackages_of_ordered h.sound h.sound.safeOrder.ordered

def someOfDiamond : DependencyTable :=
  ⟨Depends.diamond, ["base", "right", "base"]⟩

theorem accepted_someOfDiamond : someOfDiamond.Accepted := by
  have htopological : Depends.diamond.topologicalOrder = .ok ["base", "left", "right", "top"] := by
    decide +kernel
  exact .of_checkOrder (by decide) htopological (by decide)

theorem forPackages_someOfDiamond_replans_plan :
    someOfDiamond.Accepted ∧
    (∃ plan, ofRequest someOfDiamond (.packages ["top", "left", "top"]) = .ok plan ∧
      forPackages someOfDiamond.depends plan.packages = .ok plan) ∧
    forPackages Depends.diamond ["base", "right", "base"] = .ok ⟨["base", "right"]⟩ :=
  ⟨accepted_someOfDiamond, (forPackages_replans_plan accepted_someOfDiamond).1 _,
    (forPackages_replans_plan accepted_someOfDiamond).2⟩

end BuildPlan

end OrderedBuild
