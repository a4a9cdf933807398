import OrderedBuild.Package.Plan
import OrderedBuild.Proofs.Package.Search
import OrderedBuild.Proofs.Package.Table

namespace OrderedBuild.BuildPlan

open Depends

variable {d : Depends} {names : List String} {t : DependencyTable}

theorem forPackages_eq_map_closures (d : Depends) (names : List String) :
    forPackages d names =
      (names.mapM d.closure).map fun parts => ⟨parts.flatten.eraseDups⟩ := by
  unfold forPackages
  rw [planAll_eq_map_closures (d.ready_empty [])]
  cases names.mapM d.closure with
  | error e => rfl
  | ok parts => simp [Except.map, Planning.plan_absorb_empty]

theorem forPackages_eq_ok_of_forall {closures : String → List String}
    (h : ∀ n ∈ names, d.closure n = .ok (closures n)) :
    forPackages d names = .ok ⟨(names.flatMap closures).eraseDups⟩ := by
  rw [forPackages_eq_map_closures, Traversal.mapM_eq_ok_of_forall h]
  rfl

/-- Either every package asked for has a closure and the plan is made of these, or the cycle met
first is that of the first package without one. -/
theorem forPackages_merges_closures (d : Depends) (names : List String) :
    (∀ closures : String → List String, (∀ n ∈ names, d.closure n = .ok (closures n)) →
      forPackages d names = .ok ⟨(names.flatMap closures).eraseDups⟩) ∧
    ∀ before n after e, names = before ++ n :: after →
      (∀ m ∈ before, ∃ c, d.closure m = .ok c) → d.closure n = .error e →
      forPackages d names = .error e ∧ ∃ cycle, e = .circularDependency cycle := by
  refine ⟨fun closures h => forPackages_eq_ok_of_forall h, ?_⟩
  rintro before n after e rfl hbefore hn
  obtain ⟨cycle, rfl, -⟩ := exists_isCycle_of_closure_eq_error hn
  refine ⟨?_, cycle, rfl⟩
  rw [forPackages_eq_map_closures, Traversal.mapM_append_cons_eq_error hbefore hn]
  rfl

theorem forPackages_diamond_and_knot :
    forPackages diamond ["right", "top"] = .ok ⟨["base", "right", "left", "top"]⟩ ∧
      forPackages knot ["base", "right", "left"] =
        .error (.circularDependency ["right", "left", "right"]) := by
  constructor
  · have hclosures : ∀ n ∈ ["right", "top"], diamond.closure n = .ok
        (if n = "right" then ["base", "right"] else ["base", "left", "base", "right", "top"]) := by
      refine List.forall_mem_cons.mpr ⟨?_, List.forall_mem_singleton.mpr ?_⟩
      · decide +kernel
      · decide +kernel
    exact (forPackages_merges_closures diamond ["right", "top"]).1 _ hclosures
  · have hbase : ∀ m ∈ ["base"], ∃ c, knot.closure m = .ok c :=
      List.forall_mem_singleton.mpr ⟨["base"], by decide +kernel⟩
    have hright : knot.closure "right" =
        .error (.circularDependency ["right", "left", "right"]) := by decide +kernel
    exact ((forPackages_merges_closures knot _).2 ["base"] "right" ["left"] _ rfl hbase hright).1

theorem exists_closures (h : t.Sound) (names : List String) :
    ∃ closures : String → List String, ∀ n ∈ names, t.depends.closure n = .ok (closures n) :=
  Traversal.exists_forall_of_forall_exists fun n _ => h.acyclic.exists_closure_eq_ok n

theorem mem_flatMap_closures_iff {closures : String → List String}
    (h : ∀ n ∈ names, d.closure n = .ok (closures n)) {p : String} :
    p ∈ names.flatMap closures ↔ p ∈ names ∨ ∃ n ∈ names, d.Needs n p := by
  rw [List.mem_flatMap]
  constructor
  · rintro ⟨n, hn, hp⟩
    rcases (mem_expand_iff (h n hn)).mp hp with rfl | hp
    · exact .inl hn
    · exact .inr ⟨n, hn, hp⟩
  · rintro (hp | ⟨n, hn, hp⟩)
    · exact ⟨p, hp, (mem_expand_iff (h p hp)).mpr (.inl rfl)⟩
    · exact ⟨n, hn, (mem_expand_iff (h n hn)).mpr (.inr hp)⟩

theorem exists_forPackages_eq_ok (h : t.Sound) (names : List String) :
    ∃ plan, forPackages t.depends names = .ok plan ∧
      (∀ p, p ∈ plan.packages ↔ p ∈ names ∨ ∃ n ∈ names, t.depends.Needs n p) ∧
      t.depends.Ordered plan.packages ∧ plan.packages.Nodup := by
  obtain ⟨closures, hc⟩ := exists_closures h names
  refine ⟨_, forPackages_eq_ok_of_forall hc, fun p => ?_, ?_, nodup_eraseDups _⟩
  · rw [List.mem_eraseDups, mem_flatMap_closures_iff hc]
  · exact (ordered_flatMap fun n hn => ordered_expand (hc n hn)).eraseDups

/-- There is a plan for whatever is asked of an accepted table: the names asked for and what they
require, each once and after what it requires. -/
theorem forPackages_lists_what_is_required (h : t.Accepted) (names : List String) :
    ∃ plan, forPackages t.depends names = .ok plan ∧
      (∀ p, p ∈ plan.packages ↔ p ∈ names ∨ ∃ n ∈ names, t.depends.requires n p = true) ∧
      plan.packages.Nodup ∧
      ∀ before p after, plan.packages = before ++ p :: after →
        ∀ q, t.depends.requires p q = true → q ∈ before := by
  obtain ⟨plan, hplan, hmem, ho, hn⟩ := exists_forPackages_eq_ok h.sound names
  refine ⟨plan, hplan, fun p => ?_, hn, ?_⟩
  · simp only [hmem, requires_iff]
  · rintro before p after hp q hq
    rw [hp] at ho
    exact ho.mem_of_needs (requires_iff.mp hq)

theorem forPackages_casacore_lists_what_is_required :
    DependencyTable.casacore.Accepted ∧
    ∃ plan, forPackages DependencyTable.casacore.depends ["msvis", "derived", "msvis"] = .ok plan ∧
      (∀ p, p ∈ plan.packages ↔ p ∈ ["msvis", "derived", "msvis"] ∨
        ∃ n ∈ ["msvis", "derived", "msvis"],
          DependencyTable.casacore.depends.requires n p = true) ∧
      plan.packages.Nodup ∧
      ∀ before p after, plan.packages = before ++ p :: after →
        ∀ q, DependencyTable.casacore.depends.requires p q = true → q ∈ before :=
  ⟨.casacore, forPackages_lists_what_is_required .casacore _⟩

theorem exists_ofRequest_eq_ok (h : t.Sound) (r : BuildRequest) :
    ∃ plan, ofRequest t r = .ok plan ∧ t.depends.Ordered plan.packages ∧
      plan.packages.Nodup := by
  cases r with
  | all => exact ⟨all t, rfl, h.safeOrder.ordered.eraseDups, nodup_eraseDups _⟩
  | packages names =>
    obtain ⟨plan, hplan, -, ho, hn⟩ := exists_forPackages_eq_ok h names
    exact ⟨plan, hplan, ho, hn⟩

end OrderedBuild.BuildPlan
