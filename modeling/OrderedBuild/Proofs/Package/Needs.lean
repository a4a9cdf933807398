import Mathlib.Data.List.Chain
import OrderedBuild.Package.Requires

namespace OrderedBuild.Depends

variable {d : Depends} {p q r : String}

/-- Every prerequisite is itself a package of the map. -/
def Closed (d : Depends) : Prop :=
  ∀ p, ∀ q ∈ d.prerequisites p, q ∈ d.names

def Acyclic (d : Depends) : Prop :=
  ∀ p, ¬ d.Needs p p

/-- A walk along direct prerequisites back to its start that meets nothing else twice. -/
structure IsCycle (d : Depends) (cycle : List String) : Prop where
  two_le_length : 2 ≤ cycle.length
  head?_eq_getLast? : cycle.head? = cycle.getLast?
  nodup_dropLast : cycle.dropLast.Nodup
  isChain : cycle.IsChain fun p q => q ∈ d.prerequisites p

def diamond : Depends :=
  .ofList [("base", []), ("left", ["base"]), ("right", ["base"]), ("top", ["left", "right"])]

def knot : Depends :=
  .ofList [("base", []), ("left", ["base", "right"]), ("right", ["left"])]

theorem pairwise_names (d : Depends) : d.names.Pairwise (· < ·) :=
  List.pairwise_map.mpr d.increasing

theorem nodup_names (d : Depends) : d.names.Nodup :=
  d.pairwise_names.imp String.ne_of_lt

theorem find?_eq_some_iff {deps : List String} :
    d.find? p = some deps ↔ (p, deps) ∈ d.entries := by
  have hi := d.increasing
  unfold find?
  generalize d.entries = es at hi
  induction es with
  | nil => simp
  | cons e es ih =>
    obtain ⟨he, hes⟩ := List.pairwise_cons.mp hi
    rw [List.lookup_cons, List.mem_cons]
    by_cases hp : p = e.1
    · have hnot : (p, deps) ∉ es := fun hmem => String.lt_irrefl p (by simpa [← hp] using he _ hmem)
      simp only [hp, beq_self_eq_true]
      constructor
      · intro h
        exact .inl (by rw [← Option.some.inj h])
      · rintro (h | h)
        · rw [← h]
        · exact absurd (hp ▸ h) hnot
    · have hne : (p, deps) ≠ e := fun h => hp (by rw [← h])
      simp [beq_eq_false_iff_ne.mpr hp, hne, ih hes]

theorem prerequisites_of_mem_entries {deps : List String} (h : (p, deps) ∈ d.entries) :
    d.prerequisites p = deps := by
  rw [prerequisites, find?_eq_some_iff.mpr h, Option.getD_some]

theorem mem_of_entries_eq_append {es es' : List (String × List String)}
    {e e' : String × List String} (hes : d.entries = es ++ e :: es') (h : e' ∈ d.entries)
    (hlt : e'.1 < e.1) : e' ∈ es := by
  have hi := d.increasing
  rw [hes] at h hi
  obtain ⟨-, htail, -⟩ := List.pairwise_append.mp hi
  rcases List.mem_append.mp h with h | h
  · exact h
  · rcases List.mem_cons.mp h with rfl | h
    · exact absurd hlt (String.lt_irrefl _)
    · have hgt := (List.pairwise_cons.mp htail).1 _ h
      exact absurd (String.lt_trans hlt hgt) (String.lt_irrefl _)

theorem contains_iff : d.contains p ↔ p ∈ d.names := by
  unfold contains names
  rw [Option.isSome_iff_exists]
  constructor
  · rintro ⟨deps, h⟩
    exact mem_names_of_find? h
  · intro h
    obtain ⟨⟨q, deps⟩, he, rfl⟩ := List.mem_map.mp h
    exact ⟨deps, find?_eq_some_iff.mpr he⟩

theorem exists_find?_of_mem_prerequisites (h : q ∈ d.prerequisites p) :
    ∃ deps, d.find? p = some deps := by
  unfold prerequisites at h
  cases hf : d.find? p with
  | none => simp [hf] at h
  | some deps => exact ⟨deps, rfl⟩

theorem mem_names_of_mem_prerequisites (h : q ∈ d.prerequisites p) : p ∈ d.names := by
  obtain ⟨deps, hf⟩ := exists_find?_of_mem_prerequisites h
  exact mem_names_of_find? hf

theorem closed_iff : d.Closed ↔ ∀ e ∈ d.entries, ∀ q ∈ e.2, q ∈ d.names := by
  constructor
  · rintro h ⟨p, deps⟩ he q hq
    exact h p q (by rwa [prerequisites_of_mem_entries he])
  · intro h p q hq
    obtain ⟨deps, hf⟩ := exists_find?_of_mem_prerequisites hq
    have he := find?_eq_some_iff.mp hf
    exact h _ he q (by rwa [prerequisites_of_mem_entries he] at hq)

instance (d : Depends) : Decidable d.Closed :=
  decidable_of_iff _ closed_iff.symm

theorem needs_iff : d.Needs p q ↔ ∃ r ∈ d.prerequisites p, q = r ∨ d.Needs r q := by
  constructor
  · intro h
    cases h with
    | direct h => exact ⟨q, h, .inl rfl⟩
    | step h t => exact ⟨_, h, .inr t⟩
  · rintro ⟨r, h, rfl | t⟩
    · exact .direct h
    · exact .step h t

theorem Needs.trans (h : d.Needs p q) (t : d.Needs q r) : d.Needs p r := by
  induction h with
  | direct h => exact .step h t
  | step h _ ih => exact .step h (ih t)

theorem Needs.mem_names (h : d.Needs p q) : p ∈ d.names := by
  cases h with
  | direct h => exact mem_names_of_mem_prerequisites h
  | step h _ => exact mem_names_of_mem_prerequisites h

theorem Closed.mem_names_of_needs (h : d.Closed) (n : d.Needs p q) : q ∈ d.names := by
  induction n with
  | direct hq => exact h _ _ hq
  | step _ _ ih => exact ih

theorem needs_of_isChain {xs : List String}
    (h : (p :: (xs ++ [q])).IsChain fun a b => b ∈ d.prerequisites a) : d.Needs p q := by
  induction xs generalizing p with
  | nil => exact .direct (List.isChain_cons_cons.mp h).1
  | cons a xs ih =>
    obtain ⟨ha, ht⟩ := List.isChain_cons_cons.mp h
    exact .step ha (ih ht)

/-- A chain that leads back to a package on it can be cut short there, so there is one that meets
no package twice. -/
theorem Needs.exists_isChain (h : d.Needs p q) :
    ∃ xs, (p :: (xs ++ [q])).IsChain (fun a b => b ∈ d.prerequisites a) ∧ (p :: xs).Nodup := by
  induction h with
  | @direct p q hq =>
    exact ⟨[], List.isChain_pair.mpr hq, by simp⟩
  | @step p r q hr _ ih =>
    obtain ⟨xs, hchain, hnodup⟩ := ih
    by_cases hp : p ∈ r :: xs
    · obtain ⟨front, back, hback⟩ := List.append_of_mem hp
      rw [← List.cons_append, hback, List.append_assoc] at hchain
      rw [hback] at hnodup
      exact ⟨back, hchain.right_of_append, (List.nodup_append.mp hnodup).2.1⟩
    · exact ⟨r :: xs, List.isChain_cons_cons.mpr ⟨hr, hchain⟩, List.nodup_cons.mpr ⟨hp, hnodup⟩⟩

theorem IsCycle.exists_eq_cons_concat {cycle : List String} (h : d.IsCycle cycle) :
    ∃ p xs, cycle = p :: (xs ++ [p]) := by
  obtain ⟨hlen, hends, -, -⟩ := h
  cases cycle with
  | nil => simp at hlen
  | cons p rest =>
    rcases List.eq_nil_or_concat rest with rfl | ⟨xs, q, rfl⟩
    · simp at hlen
    · rw [List.concat_eq_append, ← List.cons_append, List.getLast?_concat, List.cons_append,
        List.head?_cons] at hends
      obtain rfl := Option.some.inj hends
      exact ⟨p, xs, by rw [List.concat_eq_append]⟩

/-- From any package on it a cycle leads on to its end, and from its start back to the package. -/
theorem IsCycle.needs_of_mem {cycle : List String} (h : d.IsCycle cycle) (hp : p ∈ cycle) :
    d.Needs p p := by
  obtain ⟨r, xs, rfl⟩ := h.exists_eq_cons_concat
  have hr : d.Needs r r := needs_of_isChain h.isChain
  by_cases hpr : p = r
  · rwa [hpr]
  · have hxs : p ∈ xs := by simpa [hpr] using hp
    obtain ⟨front, back, rfl⟩ := List.append_of_mem hxs
    have hchain := h.isChain
    rw [List.append_assoc, List.cons_append, ← List.cons_append] at hchain
    have hpend : d.Needs p r := needs_of_isChain hchain.right_of_append
    have hstart : ((r :: (front ++ [p])) ++ (back ++ [r])).IsChain
        fun a b => b ∈ d.prerequisites a := by simpa using hchain
    exact hpend.trans (needs_of_isChain hstart.left_of_append)

theorem needs_self_iff : d.Needs p p ↔ ∃ cycle, d.IsCycle cycle ∧ p ∈ cycle := by
  constructor
  · intro h
    obtain ⟨xs, hchain, hnodup⟩ := h.exists_isChain
    refine ⟨p :: (xs ++ [p]), ?_, List.mem_cons_self⟩
    exact {
      two_le_length := by simp
      head?_eq_getLast? := by rw [← List.cons_append, List.getLast?_concat]; rfl
      nodup_dropLast := by rwa [← List.cons_append, List.dropLast_concat]
      isChain := hchain }
  · rintro ⟨cycle, hcycle, hp⟩
    exact hcycle.needs_of_mem hp

theorem IsCycle.exists_needs {cycle : List String} (h : d.IsCycle cycle) :
    ∃ p, d.Needs p p := by
  obtain ⟨p, xs, rfl⟩ := h.exists_eq_cons_concat
  exact ⟨p, h.needs_of_mem List.mem_cons_self⟩

/-- A search goes on only below packages of the map that are not on its path yet, so it may be
followed by induction. -/
theorem path_induction (d : Depends) {motive : List String → String → Prop}
    (step : ∀ path name,
      (name ∉ path → ∀ dep ∈ d.prerequisites name, motive (path ++ [name]) dep) →
      motive path name)
    (path : List String) (name : String) : motive path name := by
  refine step path name fun hn dep hdep => ?_
  obtain ⟨deps, hf⟩ := exists_find?_of_mem_prerequisites hdep
  have hlt := offPath_concat_lt hf hn
  exact path_induction d step (path ++ [name]) dep
termination_by d.offPath path

end OrderedBuild.Depends
