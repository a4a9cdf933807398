import OrderedBuild.Proofs.Package.Needs

namespace OrderedBuild.Depends

variable {d : Depends} {seen todo rest : List String} {target name p q : String}

/-- What has been seen is still to be searched, or its prerequisites have been seen and none of
them is the target. -/
def Covers (d : Depends) (target : String) (seen todo : List String) : Prop :=
  ∀ p ∈ seen, p ∈ todo ∨ ∀ q ∈ d.prerequisites p, q ∈ seen ∧ q ≠ target

theorem covers_nil : d.Covers target [] todo := by
  simp [Covers]

theorem mem_fresh_iff : q ∈ d.fresh seen name ↔ q ∈ d.prerequisites name ∧ q ∉ seen := by
  simp [fresh, List.mem_eraseDups]

theorem mem_fresh_append_of_mem_prerequisites (hq : q ∈ d.prerequisites name) :
    q ∈ d.fresh seen name ++ seen := by
  by_cases hs : q ∈ seen
  · exact List.mem_append_right _ hs
  · exact List.mem_append_left _ (mem_fresh_iff.mpr ⟨hq, hs⟩)

theorem Covers.expand (h : d.Covers target seen (name :: rest))
    (hn : target ∉ d.prerequisites name) :
    d.Covers target (d.fresh seen name ++ seen) ((d.fresh seen name).reverse ++ rest) := by
  intro p hp
  rcases List.mem_append.mp hp with hp | hp
  · exact .inl (List.mem_append_left rest (List.mem_reverse.mpr hp))
  · rcases h p hp with hp | hp
    · rcases List.mem_cons.mp hp with rfl | hp
      · right
        intro q hq
        exact ⟨mem_fresh_append_of_mem_prerequisites hq, fun he => hn (he ▸ hq)⟩
      · exact .inl (List.mem_append_right _ hp)
    · exact .inr fun q hq => ⟨List.mem_append_right _ (hp q hq).1, (hp q hq).2⟩

/-- Every way from a package that has been seen to the target leads through one that is still to
be searched. -/
theorem Covers.exists_mem_of_needs (h : d.Covers target seen todo) (hp : p ∈ seen)
    (n : d.Needs p target) : ∃ q ∈ todo, d.Needs q target := by
  induction n with
  | @direct p target hq =>
    rcases h p hp with ht | hclosed
    · exact ⟨p, ht, .direct hq⟩
    · exact absurd rfl (hclosed target hq).2
  | @step p q target hq n ih =>
    rcases h p hp with ht | hclosed
    · exact ⟨p, ht, .step hq n⟩
    · exact ih h (hclosed q hq).1

theorem search_eq_true_iff (h : d.Covers target seen todo) :
    d.search target seen todo = true ↔ ∃ p ∈ todo, d.Needs p target := by
  induction seen, todo using search.induct d target with
  | case1 seen => simp [search]
  | case2 seen name rest ht =>
    rw [search, if_pos ht]
    exact iff_of_true rfl ⟨name, List.mem_cons_self, .direct ht⟩
  | case3 seen name rest ht ih =>
    rw [search, if_neg ht, ih (h.expand ht)]
    constructor
    · rintro ⟨p, hp, n⟩
      rcases List.mem_append.mp hp with hp | hp
      · have hq := (mem_fresh_iff.mp (List.mem_reverse.mp hp)).1
        exact ⟨name, List.mem_cons_self, .step hq n⟩
      · exact ⟨p, List.mem_cons_of_mem name hp, n⟩
    · rintro ⟨p, hp, n⟩
      rcases List.mem_cons.mp hp with rfl | hp
      · obtain ⟨q, hq, rfl | n⟩ := needs_iff.mp n
        · exact absurd hq ht
        · exact (h.expand ht).exists_mem_of_needs (mem_fresh_append_of_mem_prerequisites hq) n
      · exact ⟨p, List.mem_append_right _ hp, n⟩

theorem requires_iff : d.requires p q = true ↔ d.Needs p q := by
  rw [requires, search_eq_true_iff covers_nil]
  simp

end OrderedBuild.Depends
