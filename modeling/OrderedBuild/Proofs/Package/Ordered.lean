import OrderedBuild.Proofs.Package.Needs
import OrderedBuild.Proofs.Splits

namespace OrderedBuild.Depends

variable {d : Depends} {xs ys : List String} {p q : String}

/-- Whatever a package declares stands before it. -/
def Ordered (d : Depends) (xs : List String) : Prop :=
  ∀ before p after, xs = before ++ p :: after → ∀ q ∈ d.prerequisites p, q ∈ before

theorem ordered_nil : d.Ordered [] := by
  intro before p after h
  simp at h

theorem ordered_concat_iff :
    d.Ordered (xs ++ [p]) ↔ d.Ordered xs ∧ ∀ q ∈ d.prerequisites p, q ∈ xs :=
  forall_split_concat_iff

theorem ordered_flatMap {part : String → List String} (h : ∀ x ∈ xs, d.Ordered (part x)) :
    d.Ordered (xs.flatMap part) :=
  forall_split_flatMap (fun front _ _ hp q hq => List.mem_append_right front (hp q hq)) h

theorem Ordered.eraseDups (h : d.Ordered xs) : d.Ordered xs.eraseDups := by
  induction xs using List.reverseRecOn with
  | nil => exact ordered_nil
  | append_singleton xs p ih =>
    obtain ⟨hxs, hp⟩ := ordered_concat_iff.mp h
    rw [List.eraseDups_append]
    by_cases hmem : p ∈ xs
    · have hnone : [p].removeAll xs = [] := by simp [List.removeAll, hmem]
      rw [hnone, List.eraseDups_nil, List.append_nil]
      exact ih hxs
    · have hone : ([p].removeAll xs).eraseDups = [p] := by
        simp [List.removeAll, hmem, List.eraseDups_cons]
      rw [hone]
      exact ordered_concat_iff.mpr ⟨ih hxs, fun q hq => List.mem_eraseDups.mpr (hp q hq)⟩

theorem Ordered.mem_of_needs {before after : List String} (h : d.Ordered (before ++ p :: after))
    (n : d.Needs p q) : q ∈ before := by
  induction n generalizing before after with
  | direct hq => exact h before _ after rfl _ hq
  | step hr _ ih =>
    obtain ⟨front, back, rfl⟩ := List.append_of_mem (h before _ after rfl _ hr)
    rw [List.append_assoc, List.cons_append] at h
    exact List.mem_append_left _ (ih h)

theorem Ordered.not_needs_self (h : d.Ordered xs) (hp : p ∈ xs) : ¬ d.Needs p p := by
  intro n
  obtain ⟨before, after, rfl, hb⟩ := List.eq_append_cons_of_mem hp
  exact hb (h.mem_of_needs n)

end OrderedBuild.Depends
