import Mathlib.Data.List.Perm.Subperm
import OrderedBuild.Package.Listing
import OrderedBuild.Proofs.Package.Replanning

namespace OrderedBuild

variable {d : Depends} {t : DependencyTable} {p : String}

namespace DependencyTable

/-- The packages that the default order leaves out, by name. -/
def leftOut (t : DependencyTable) : List String :=
  t.names.filter (· ∉ t.defaultOrder)

def listedNames (t : DependencyTable) : List String :=
  t.listEntries.map PackageEntry.name

theorem listedNames_eq (t : DependencyTable) : t.listedNames = t.defaultOrder ++ t.leftOut := by
  simp [listedNames, listEntries, leftOut, Function.comp_def]

theorem mem_leftOut_iff : p ∈ t.leftOut ↔ p ∈ t.names ∧ p ∉ t.defaultOrder := by
  simp [leftOut]

theorem pairwise_bytes_leftOut (t : DependencyTable) :
    t.leftOut.Pairwise fun a b => Text.bytes a < Text.bytes b :=
  (t.depends.pairwise_names.filter _).imp Text.bytes_lt_bytes_iff.mpr

theorem nodup_leftOut (t : DependencyTable) : t.leftOut.Nodup :=
  t.depends.nodup_names.filter _

theorem Sound.mem_listedNames_iff (h : t.Sound) : p ∈ t.listedNames ↔ p ∈ t.names := by
  rw [listedNames_eq, List.mem_append, mem_leftOut_iff]
  constructor
  · rintro (hp | ⟨hp, -⟩)
    · exact h.safeOrder.mem_names p hp
    · exact hp
  · intro hp
    by_cases ho : p ∈ t.defaultOrder
    · exact .inl ho
    · exact .inr ⟨hp, ho⟩

theorem nodup_listedNames_iff : t.listedNames.Nodup ↔ t.defaultOrder.Nodup := by
  rw [listedNames_eq]
  refine ⟨fun h => (List.nodup_append.mp h).1, fun h => ?_⟩
  refine List.nodup_append.mpr ⟨h, t.nodup_leftOut, ?_⟩
  rintro p hp q hq rfl
  exact (mem_leftOut_iff.mp hq).2 hp

theorem eraseDups_listedNames (t : DependencyTable) :
    t.listedNames.eraseDups = (BuildPlan.all t).packages ++ t.leftOut := by
  have hnew : t.leftOut.removeAll t.defaultOrder = t.leftOut := by
    apply List.filter_eq_self.mpr
    intro p hp
    simpa using (mem_leftOut_iff.mp hp).2
  rw [listedNames_eq, List.eraseDups_append, hnew, eraseDups_eq_self t.nodup_leftOut]
  rfl

theorem Sound.length_listedNames_eq_iff (h : t.Sound) :
    t.listedNames.length = t.depends.size ↔ t.listedNames.Nodup := by
  have hsize : t.depends.size = t.names.length := (List.length_map _).symm
  have hnames : t.names.Nodup := t.depends.nodup_names
  rw [hsize]
  constructor
  · intro hlen
    have hsub : t.names.Subperm t.listedNames :=
      hnames.subperm fun p hp => h.mem_listedNames_iff.mpr hp
    exact (hsub.perm_of_length_le hlen.le).nodup hnames
  · intro hn
    exact ((List.perm_ext_iff_of_nodup hn hnames).mpr fun _ => h.mem_listedNames_iff).length_eq

theorem Sound.find?_of_mem_listEntries (h : t.Sound) {e : PackageEntry} (he : e ∈ t.listEntries) :
    t.depends.find? e.name = some e.depends := by
  have hname : e.name ∈ t.names := h.mem_listedNames_iff.mp (List.mem_map_of_mem he)
  obtain ⟨deps, hf⟩ := Option.isSome_iff_exists.mp (Depends.contains_iff.mpr hname)
  obtain ⟨name, -, rfl⟩ := List.mem_map.mp he
  simp [hf]

/-- The list shows each package of an accepted table with its prerequisites, first those of a full
build and then all others by name. It shows each once, and is as long as the table, exactly if the
default order repeats none; whatever it repeats comes from there. -/
theorem listEntries_repeat_default_order (h : t.Accepted) :
    (∀ e ∈ t.listEntries, t.depends.find? e.name = some e.depends) ∧
    (∀ p, p ∈ t.listEntries.map PackageEntry.name ↔ p ∈ t.names) ∧
    ∃ rest : List String, rest.Pairwise (fun a b => Text.bytes a < Text.bytes b) ∧
      (∀ p, p ∈ rest ↔ p ∈ t.names ∧ p ∉ t.defaultOrder) ∧
      t.listEntries.map PackageEntry.name = t.defaultOrder ++ rest ∧
      (t.listEntries.map PackageEntry.name).eraseDups = (BuildPlan.all t).packages ++ rest ∧
      (t.listEntries.map PackageEntry.name = (BuildPlan.all t).packages ++ rest ↔
        t.defaultOrder.Nodup) ∧
      (t.listEntries.length = t.depends.size ↔ t.defaultOrder.Nodup) := by
  refine ⟨fun e he => h.sound.find?_of_mem_listEntries he, fun p => h.sound.mem_listedNames_iff,
    t.leftOut, t.pairwise_bytes_leftOut, fun p => mem_leftOut_iff, t.listedNames_eq,
    t.eraseDups_listedNames, ?_, ?_⟩
  · rw [← eraseDups_listedNames, ← nodup_listedNames_iff]
    refine ⟨fun he => ?_, fun hn => (eraseDups_eq_self hn).symm⟩
    rw [listedNames, he]
    exact Depends.nodup_eraseDups _
  · rw [← nodup_listedNames_iff, ← h.sound.length_listedNames_eq_iff, listedNames, List.length_map]

theorem listEntries_casacore_are_plan_of_all :
    casacore.Accepted ∧
    casacore.listEntries.map PackageEntry.name = (BuildPlan.all casacore).packages ∧
    casacore.listEntries.length = casacore.depends.size := by
  have hnodup : casacore.defaultOrder.Nodup := by decide
  have hall : ∀ p ∈ casacore.names, p ∈ casacore.defaultOrder := by decide
  obtain ⟨-, -, rest, -, hrest, -, -, hlisted, hlength⟩ := listEntries_repeat_default_order .casacore
  obtain rfl : rest = [] := List.eq_nil_iff_forall_not_mem.mpr fun p hp =>
    ((hrest p).mp hp).2 (hall p ((hrest p).mp hp).1)
  exact ⟨.casacore, by simpa using hlisted.mpr hnodup, hlength.mpr hnodup⟩

/-- A package that the default order names twice is listed twice, although it is planned once. -/
theorem listEntries_someOfDiamond_show_base_twice :
    BuildPlan.someOfDiamond.Accepted ∧
    (BuildPlan.all BuildPlan.someOfDiamond).packages = ["base", "right"] ∧
    BuildPlan.someOfDiamond.listEntries.map PackageEntry.name =
      ["base", "right", "base", "left", "top"] ∧
    BuildPlan.someOfDiamond.listEntries.length ≠ BuildPlan.someOfDiamond.depends.size :=
  ⟨BuildPlan.accepted_someOfDiamond, by decide, by decide, by decide⟩

end DependencyTable

end OrderedBuild
