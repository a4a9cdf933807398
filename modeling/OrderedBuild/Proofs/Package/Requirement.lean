import OrderedBuild.Proofs.Package.Search
import OrderedBuild.Proofs.Package.Table

namespace OrderedBuild.Depends

variable {d : Depends} {c order : List String} {p q r : String}

theorem mem_dropLast_closure_iff (h : d.closure p = .ok c) : q ∈ c.dropLast ↔ d.Needs p q := by
  obtain ⟨below, rfl, hbelow⟩ := exists_eq_concat_of_closure h
  rw [List.dropLast_concat, hbelow]

theorem requires_self_iff : d.requires p p = true ↔ ∃ cycle, d.IsCycle cycle ∧ p ∈ cycle :=
  requires_iff.trans needs_self_iff

theorem Acyclic.requires_self_eq_false (h : d.Acyclic) (p : String) : d.requires p p = false :=
  Bool.eq_false_iff.mpr fun hp => h p (requires_iff.mp hp)

theorem requires_trans (hq : d.requires p q = true) (hr : d.requires q r = true) :
    d.requires p r = true :=
  requires_iff.mpr ((requires_iff.mp hq).trans (requires_iff.mp hr))

/-- The search decides whether a chain of prerequisites leads from one package to another, on any
map. On the map of an accepted table it finds what the closure of the package lists before it. -/
theorem requires_decides_chains (d : Depends) :
    (∀ p q, d.requires p q = true ↔ d.Needs p q) ∧
    (∀ p, d.requires p p = true ↔ ∃ cycle, d.IsCycle cycle ∧ p ∈ cycle) ∧
    (∀ p q r, d.requires p q = true → d.requires q r = true → d.requires p r = true) ∧
    ∀ order, DependencyTable.Accepted ⟨d, order⟩ →
      (∀ p, d.requires p p = false) ∧
      ∀ p, ∃ c, d.closure p = .ok c ∧ ∀ q, d.requires p q = true ↔ q ∈ c.dropLast := by
  refine ⟨fun p q => requires_iff, fun p => requires_self_iff, fun p q r => requires_trans,
    fun order h => ?_⟩
  have hacyclic : d.Acyclic := h.sound.acyclic
  refine ⟨hacyclic.requires_self_eq_false, fun p => ?_⟩
  obtain ⟨c, hc⟩ := hacyclic.exists_closure_eq_ok p
  exact ⟨c, hc, fun q => requires_iff.trans (mem_dropLast_closure_iff hc).symm⟩

theorem requires_casacore_decides_chains :
    DependencyTable.casacore.Accepted ∧
    (∀ p, DependencyTable.casacore.depends.requires p p = false) ∧
    DependencyTable.casacore.depends.closure "msvis" =
      .ok ["casa", "tables", "casa", "scimath", "measures", "ms", "msvis"] ∧
    ∀ q, DependencyTable.casacore.depends.requires "msvis" q = true ↔
      q ∈ ["casa", "tables", "casa", "scimath", "measures", "ms"] := by
  have hclosure : DependencyTable.casacore.depends.closure "msvis" =
      .ok ["casa", "tables", "casa", "scimath", "measures", "ms", "msvis"] := by decide +kernel
  obtain ⟨hself, hbelow⟩ := (requires_decides_chains DependencyTable.casacore.depends).2.2.2
    DependencyTable.casacore.defaultOrder .casacore
  obtain ⟨c, hc, hrequires⟩ := hbelow "msvis"
  obtain rfl := Except.ok.inj (hclosure.symm.trans hc)
  exact ⟨.casacore, hself, hclosure, hrequires⟩

example : knot.requires "left" "left" = true ∧ knot.requires "base" "base" = false := by
  decide +kernel

end OrderedBuild.Depends
