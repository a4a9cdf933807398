import Mathlib.Data.List.Nodup
import OrderedBuild.Package.Closure
import OrderedBuild.Proofs.Package.Ordered
import OrderedBuild.Proofs.Traversal

namespace OrderedBuild.Depends

variable {d : Depends} {path c : List String} {name p q : String} {e : ResolverError}

theorem expand_eq (d : Depends) (path : List String) (name : String) :
    d.expand path name =
      if name ∈ path then .error (.circularDependency (cycleAt path name))
      else ((d.prerequisites name).mapM (d.expand (path ++ [name]))).map
        fun parts => parts.flatten ++ [name] := by
  rw [expand]
  split
  · rfl
  · unfold prerequisites
    split
    next h => simp [h, pure, Except.pure, Except.map]
    next deps h => simp [h, bind, Except.bind, pure, Except.pure, Except.map]

theorem expand_eq_ok_iff :
    d.expand path name = .ok c ↔ name ∉ path ∧ ∃ part : String → List String,
      (∀ dep ∈ d.prerequisites name, d.expand (path ++ [name]) dep = .ok (part dep)) ∧
      c = (d.prerequisites name).flatMap part ++ [name] := by
  rw [expand_eq]
  by_cases hn : name ∈ path
  · simp [hn]
  · rw [if_neg hn, Traversal.map_eq_ok_iff]
    constructor
    · rintro ⟨parts, hparts, rfl⟩
      obtain ⟨part, hpart, rfl⟩ := Traversal.exists_of_mapM_eq_ok hparts
      exact ⟨hn, part, hpart, rfl⟩
    · rintro ⟨-, part, hpart, rfl⟩
      exact ⟨_, Traversal.mapM_eq_ok_of_forall hpart, rfl⟩

theorem cases_of_expand_eq_error (h : d.expand path name = .error e) :
    (name ∈ path ∧ e = .circularDependency (cycleAt path name)) ∨
    (name ∉ path ∧ ∃ dep ∈ d.prerequisites name, d.expand (path ++ [name]) dep = .error e) := by
  rw [expand_eq] at h
  by_cases hn : name ∈ path
  · rw [if_pos hn] at h
    exact .inl ⟨hn, (Except.error.inj h).symm⟩
  · rw [if_neg hn, Traversal.map_eq_error_iff] at h
    exact .inr ⟨hn, Traversal.exists_of_mapM_eq_error h⟩

/-- Nothing on its path makes a difference to an expansion that succeeds. -/
theorem expand_of_subset {path' : List String} (h : d.expand path name = .ok c)
    (hsub : path' ⊆ path) : d.expand path' name = .ok c := by
  induction path, name using d.path_induction generalizing path' c with
  | step path name ih =>
    obtain ⟨hn, part, hpart, rfl⟩ := expand_eq_ok_iff.mp h
    refine expand_eq_ok_iff.mpr ⟨fun hmem => hn (hsub hmem), part, fun dep hdep => ?_, rfl⟩
    have hsub' : path' ++ [name] ⊆ path ++ [name] :=
      List.append_subset.mpr ⟨List.subset_append_of_subset_left _ hsub, by simp⟩
    exact ih hn dep hdep (hpart dep hdep) hsub'

theorem closure_of_expand (h : d.expand path name = .ok c) : d.closure name = .ok c :=
  expand_of_subset h (List.nil_subset path)

/-- The closure of a package is made of those of its prerequisites, so what the latter have in
common may be followed up to it. -/
theorem closure_induction {motive : String → List String → Prop}
    (step : ∀ name (part : String → List String),
      d.closure name = .ok ((d.prerequisites name).flatMap part ++ [name]) →
      (∀ dep ∈ d.prerequisites name, motive dep (part dep)) →
      motive name ((d.prerequisites name).flatMap part ++ [name]))
    (h : d.closure name = .ok c) : motive name c := by
  unfold closure at h
  generalize ([] : List String) = path at h
  induction path, name using d.path_induction generalizing c with
  | step path name ih =>
    obtain ⟨hn, part, hpart, rfl⟩ := expand_eq_ok_iff.mp h
    exact step name part (closure_of_expand h) fun dep hdep => ih hn dep hdep (hpart dep hdep)

theorem notMem_path_of_expand (h : d.expand path name = .ok c) (hq : q ∈ c) : q ∉ path := by
  induction path, name using d.path_induction generalizing c with
  | step path name ih =>
    obtain ⟨hn, part, hpart, rfl⟩ := expand_eq_ok_iff.mp h
    rcases List.mem_append.mp hq with hq | hq
    · obtain ⟨dep, hdep, hq⟩ := List.mem_flatMap.mp hq
      exact fun hmem => ih hn dep hdep (hpart dep hdep) hq (List.mem_append_left _ hmem)
    · rwa [List.mem_singleton.mp hq]

theorem mem_flatMap_prerequisites_iff {part : String → List String}
    (h : ∀ dep ∈ d.prerequisites p, q ∈ part dep ↔ q = dep ∨ d.Needs dep q) :
    q ∈ (d.prerequisites p).flatMap part ↔ d.Needs p q := by
  rw [List.mem_flatMap, needs_iff]
  exact exists_congr fun dep => and_congr_right fun hdep => h dep hdep

theorem mem_expand_iff (h : d.expand path name = .ok c) : q ∈ c ↔ q = name ∨ d.Needs name q := by
  refine closure_induction (motive := fun name c => q ∈ c ↔ q = name ∨ d.Needs name q)
    (fun name part _ hparts => ?_) (closure_of_expand h)
  rw [List.mem_append, List.mem_singleton, mem_flatMap_prerequisites_iff hparts, or_comm]

theorem not_needs_self_of_expand (h : d.expand path name = .ok c) (hp : p ∈ c) :
    ¬ d.Needs p p := by
  induction path, name using d.path_induction generalizing c with
  | step path name ih =>
    obtain ⟨hn, part, hpart, rfl⟩ := expand_eq_ok_iff.mp h
    rcases List.mem_append.mp hp with hp | hp
    · obtain ⟨dep, hdep, hp⟩ := List.mem_flatMap.mp hp
      exact ih hn dep hdep (hpart dep hdep) hp
    · obtain rfl := List.mem_singleton.mp hp
      intro hneeds
      obtain ⟨dep, hdep, hq⟩ := needs_iff.mp hneeds
      have hmem := (mem_expand_iff (hpart dep hdep)).mpr hq
      exact notMem_path_of_expand (hpart dep hdep) hmem (by simp)

/-- A closure ends in its package, which needs all that comes before. -/
theorem exists_eq_concat_of_closure (h : d.closure p = .ok c) :
    ∃ below, c = below ++ [p] ∧ ∀ q, q ∈ below ↔ d.Needs p q := by
  obtain ⟨-, part, hpart, rfl⟩ := expand_eq_ok_iff.mp h
  exact ⟨_, rfl, fun q =>
    mem_flatMap_prerequisites_iff fun dep hdep => mem_expand_iff (hpart dep hdep)⟩

theorem ordered_expand (h : d.expand path name = .ok c) : d.Ordered c := by
  refine closure_induction (motive := fun _ c => d.Ordered c) (fun name part hname hparts => ?_)
    (closure_of_expand h)
  refine ordered_concat_iff.mpr ⟨ordered_flatMap hparts, fun dep hdep => ?_⟩
  obtain ⟨below, hbelow, hmem⟩ := exists_eq_concat_of_closure hname
  obtain rfl := List.append_cancel_right hbelow
  exact (hmem dep).mpr (.direct hdep)

theorem exists_expand_eq_ok (hpath : ∀ q ∈ path, q ≠ name ∧ ¬ d.Needs name q)
    (hacyclic : ∀ q, q = name ∨ d.Needs name q → ¬ d.Needs q q) :
    ∃ c, d.expand path name = .ok c := by
  induction path, name using d.path_induction with
  | step path name ih =>
    have hn : name ∉ path := fun hmem => (hpath name hmem).1 rfl
    have hparts : ∀ dep ∈ d.prerequisites name, ∃ c, d.expand (path ++ [name]) dep = .ok c := by
      intro dep hdep
      have hbelow : ∀ q, q = dep ∨ d.Needs dep q → d.Needs name q :=
        fun q hq => needs_iff.mpr ⟨dep, hdep, hq⟩
      refine ih hn dep hdep (fun q hq => ?_) fun q hq => hacyclic q (.inr (hbelow q hq))
      have hnot : ¬ d.Needs name q := by
        rcases List.mem_append.mp hq with hq | hq
        · exact (hpath q hq).2
        · rw [List.mem_singleton.mp hq]
          exact hacyclic name (.inl rfl)
      exact ⟨fun he => hnot (hbelow q (.inl he)), fun h => hnot (hbelow q (.inr h))⟩
    obtain ⟨part, hpart⟩ := Traversal.exists_forall_of_forall_exists hparts
    exact ⟨_, expand_eq_ok_iff.mpr ⟨hn, part, hpart, rfl⟩⟩

theorem isCycle_cycleAt (hn : name ∈ path) (hpath : path.Nodup)
    (hchain : (path ++ [name]).IsChain fun p q => q ∈ d.prerequisites p) :
    d.IsCycle (cycleAt path name) := by
  obtain ⟨before, after, rfl, hb⟩ := List.eq_append_cons_of_mem hn
  have hcycle : cycleAt (before ++ name :: after) name = (name :: after) ++ [name] := by
    unfold cycleAt
    rw [List.dropWhile_append_of_pos fun x hx => by
      simpa using fun h : x = name => hb (h ▸ hx)]
    simp
  rw [hcycle]
  rw [List.append_assoc] at hchain
  exact {
    two_le_length := by simp
    head?_eq_getLast? := by rw [List.getLast?_concat]; rfl
    nodup_dropLast := by
      rw [List.dropLast_concat]
      exact (List.nodup_append.mp hpath).2.1
    isChain := hchain.right_of_append }

/-- The path of a search is a walk without repetition, so what closes it is a cycle. -/
theorem exists_isCycle_of_expand_eq_error (h : d.expand path name = .error e)
    (hpath : path.Nodup)
    (hchain : (path ++ [name]).IsChain fun p q => q ∈ d.prerequisites p) :
    ∃ cycle, e = .circularDependency cycle ∧ d.IsCycle cycle := by
  induction path, name using d.path_induction with
  | step path name ih =>
    rcases cases_of_expand_eq_error h with ⟨hn, rfl⟩ | ⟨hn, dep, hdep, h⟩
    · exact ⟨_, rfl, isCycle_cycleAt hn hpath hchain⟩
    · refine ih hn dep hdep h ?_ ?_
      · rw [← List.concat_eq_append]
        exact hpath.concat hn
      · refine List.isChain_append.mpr ⟨hchain, by simp, ?_⟩
        simpa using hdep

theorem exists_isCycle_of_closure_eq_error (h : d.closure name = .error e) :
    ∃ cycle, e = .circularDependency cycle ∧ d.IsCycle cycle :=
  exists_isCycle_of_expand_eq_error h .nil (List.IsChain.singleton name)

theorem exists_closure_eq_ok_iff :
    (∃ c, d.closure name = .ok c) ↔ ∀ q, q = name ∨ d.Needs name q → ¬ d.Needs q q := by
  constructor
  · rintro ⟨c, h⟩ q hq
    exact not_needs_self_of_expand h ((mem_expand_iff h).mpr hq)
  · exact exists_expand_eq_ok (by simp)

theorem Acyclic.exists_closure_eq_ok (h : d.Acyclic) (p : String) : ∃ c, d.closure p = .ok c :=
  exists_closure_eq_ok_iff.mpr fun q _ => h q

end OrderedBuild.Depends
