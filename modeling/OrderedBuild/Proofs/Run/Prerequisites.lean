import OrderedBuild.Proofs.Package.Plan
import OrderedBuild.Proofs.Run.Unroll

namespace OrderedBuild

variable {σ : Type} {d : Depends} {t : DependencyTable} {builds : List BuildCall}
  {packages : List String}

/-- A build call comes after successful calls for everything its package needs, and there is one
call for a package at most. -/
structure SafeBuilds (d : Depends) (builds : List BuildCall) : Prop where
  succeeded : ∀ before c after, builds = before ++ c :: after → ∀ q, d.Needs c.package q →
    ∃ b ∈ before, b.package = q ∧ b.answer = .ok .success
  nodup : (builds.map BuildCall.package).Nodup

namespace BuildJob

theorem FollowsPlan.safeBuilds (h : FollowsPlan builds packages) (ho : d.Ordered packages)
    (hn : packages.Nodup) : SafeBuilds d builds := by
  obtain ⟨hplan, hsuccess⟩ := h
  refine ⟨?_, hplan.sublist.nodup hn⟩
  rintro before c after rfl q hq
  obtain ⟨rest, rfl⟩ := hplan
  rw [List.map_append, List.map_cons, List.append_assoc, List.cons_append] at ho
  obtain ⟨b, hb, rfl⟩ := List.mem_map.mp (ho.mem_of_needs hq)
  refine ⟨b, hb, rfl, hsuccess b ?_⟩
  rw [List.dropLast_append_of_ne_nil (List.cons_ne_nil c after)]
  exact List.mem_append_left _ hb

/-- Whatever the tools answer and whenever the run is interrupted. -/
theorem run_builds_after_prerequisites (h : t.Accepted) (r : BuildRequest) :
    ∃ plan, BuildPlan.ofRequest t r = .ok plan ∧
      ∀ {σ : Type} (j : BuildJob) (tools : Tools σ) (s : RunState σ), ∃ calls : List Call,
        j.run tools.recorded plan (s.recorded []) = (j.run tools plan s).recorded calls ∧
        SafeBuilds t.depends (calls.filterMap Call.build?) := by
  obtain ⟨plan, hplan, ho, hn⟩ := BuildPlan.exists_ofRequest_eq_ok h.sound r
  refine ⟨plan, hplan, fun j tools s => ?_⟩
  obtain ⟨calls, hcalls, hfollows⟩ :=
    j.runFrom_recorded tools plan.packages.length 0 plan.packages .empty s []
  exact ⟨calls, hcalls, hfollows.safeBuilds ho hn⟩

theorem run_casacore_builds_after_prerequisites :
    DependencyTable.casacore.Accepted ∧
    ∃ plan, BuildPlan.ofRequest .casacore (.packages ["images", "ms", "images"]) = .ok plan ∧
      ∀ {σ : Type} (j : BuildJob) (tools : Tools σ) (s : RunState σ), ∃ calls : List Call,
        j.run tools.recorded plan (s.recorded []) = (j.run tools plan s).recorded calls ∧
        SafeBuilds DependencyTable.casacore.depends (calls.filterMap Call.build?) :=
  ⟨.casacore, run_builds_after_prerequisites .casacore _⟩

end BuildJob

end OrderedBuild
