import OrderedBuild.Package.Planning
import OrderedBuild.Proofs.Package.Closure

namespace OrderedBuild

namespace Planning

variable {s : Planning} {c : List String} {p : String}

/-- Appends the packages of a closure that are not planned yet, each once. -/
def absorb (s : Planning) (c : List String) : Planning :=
  c.foldl (fun s name => if name ∈ s.planned then s else s.push name) s

@[simp] theorem absorb_nil (s : Planning) : s.absorb [] = s := rfl

theorem absorb_cons (s : Planning) (name : String) (c : List String) :
    s.absorb (name :: c) = (if name ∈ s.planned then s else s.push name).absorb c := rfl

theorem absorb_append (s : Planning) (c c' : List String) :
    s.absorb (c ++ c') = (s.absorb c).absorb c' :=
  List.foldl_append

theorem absorb_singleton (h : p ∉ s.planned) : s.absorb [p] = s.push p := by
  simp [absorb_cons, h]

@[simp] theorem mem_planned_push {q : String} :
    q ∈ (s.push p).planned ↔ q ∈ s.planned ∨ q = p := by
  simp [push, or_comm]

theorem mem_planned_absorb {q : String} :
    q ∈ (s.absorb c).planned ↔ q ∈ s.planned ∨ q ∈ c := by
  induction c generalizing s with
  | nil => simp
  | cons a c ih =>
    rw [absorb_cons, ih, List.mem_cons]
    split
    next ha => exact ⟨by tauto, by rintro (h | rfl | h) <;> tauto⟩
    next ha => rw [mem_planned_push, or_assoc]

theorem absorb_eq_self (h : ∀ q ∈ c, q ∈ s.planned) : s.absorb c = s := by
  induction c with
  | nil => rfl
  | cons a c ih =>
    obtain ⟨ha, hc⟩ := List.forall_mem_cons.mp h
    rw [absorb_cons, if_pos ha, ih hc]

theorem plan_absorb (s : Planning) (c : List String) :
    (s.absorb c).plan = s.plan ++ (c.filter (· ∉ s.planned)).eraseDups := by
  induction c generalizing s with
  | nil => simp
  | cons a c ih =>
    rw [absorb_cons, ih]
    by_cases ha : a ∈ s.planned
    · simp [ha]
    · have hf : c.filter (fun q => decide (q ∉ (s.push a).planned)) =
          (c.filter fun q => decide (q ∉ s.planned)).filter fun q => !q == a := by
        rw [List.filter_filter]
        refine List.filter_congr fun q _ => ?_
        by_cases hq : q = a <;> simp [hq]
      simp only [if_neg ha]
      rw [hf, List.filter_cons_of_pos (by simpa using ha), List.eraseDups_cons]
      simp [push]

theorem plan_absorb_empty (c : List String) : (empty.absorb c).plan = c.eraseDups := by
  rw [plan_absorb]
  simp [empty]

/-- The planned packages are those of the plan. -/
def Recorded (s : Planning) : Prop :=
  ∀ p, p ∈ s.planned ↔ p ∈ s.plan

theorem recorded_empty : empty.Recorded := fun _ => .rfl

theorem Recorded.push (h : s.Recorded) (p : String) : (s.push p).Recorded := by
  intro q
  rw [mem_planned_push, h q]
  simp [Planning.push]

theorem Recorded.absorb (h : s.Recorded) (c : List String) : (s.absorb c).Recorded := by
  induction c generalizing s with
  | nil => exact h
  | cons a c ih =>
    rw [absorb_cons]
    split
    · exact ih h
    · exact ih (h.push a)

end Planning

namespace Depends

variable {d : Depends} {path names c : List String} {name p q : String} {s : Planning}
  {e : ResolverError}

theorem extend_eq (d : Depends) (path : List String) (name : String) (s : Planning) :
    d.extend path name s =
      if name ∈ s.planned then .ok s
      else if name ∈ path then .error (.circularDependency (cycleAt path name))
      else ((d.prerequisites name).foldlM
        (fun s dep => d.extend (path ++ [name]) dep s) s).map (·.push name) := by
  rw [extend]
  split
  · rfl
  · split
    · rfl
    · unfold prerequisites
      split
      next h => simp [h, pure, Except.pure, Except.map]
      next deps h => simp [h, bind, Except.bind, pure, Except.pure, Except.map]

theorem extend_eq_ok_iff {s' : Planning} :
    d.extend path name s = .ok s' ↔
      (name ∈ s.planned ∧ s = s') ∨
      (name ∉ s.planned ∧ name ∉ path ∧ ∃ t,
        (d.prerequisites name).foldlM (fun s dep => d.extend (path ++ [name]) dep s) s = .ok t ∧
          t.push name = s') := by
  rw [extend_eq]
  by_cases hs : name ∈ s.planned
  · simp [hs]
  · by_cases hn : name ∈ path
    · simp [hs, hn]
    · simp [hs, hn, Traversal.map_eq_ok_iff]

/-- What lets planning below a path leave out what is planned. -/
structure Ready (d : Depends) (path : List String) (s : Planning) : Prop where
  closed : ∀ p ∈ s.planned, ∀ q ∈ d.prerequisites p, q ∈ s.planned
  acyclic : ∀ p ∈ s.planned, ¬ d.Needs p p
  free : ∀ p ∈ path, p ∉ s.planned

theorem ready_empty (d : Depends) (path : List String) : d.Ready path .empty := by
  constructor <;> simp [Planning.empty]

theorem Ready.mem_of_needs (h : d.Ready path s) (hp : p ∈ s.planned) (n : d.Needs p q) :
    q ∈ s.planned := by
  induction n with
  | direct hq => exact h.closed _ hp _ hq
  | step hr _ ih => exact ih (h.closed _ hp _ hr)

theorem Ready.concat (h : d.Ready path s) (hn : name ∉ s.planned) :
    d.Ready (path ++ [name]) s := by
  refine ⟨h.closed, h.acyclic, fun p hp => ?_⟩
  rcases List.mem_append.mp hp with hp | hp
  · exact h.free p hp
  · rwa [List.mem_singleton.mp hp]

theorem Ready.absorb (h : d.Ready path s) (hc : d.expand path name = .ok c) :
    d.Ready path (s.absorb c) := by
  constructor
  · intro p hp q hq
    rw [Planning.mem_planned_absorb] at hp ⊢
    rcases hp with hp | hp
    · exact .inl (h.closed p hp q hq)
    · right
      rw [mem_expand_iff hc] at hp ⊢
      rcases hp with rfl | hp
      · exact .inr (.direct hq)
      · exact .inr (hp.trans (.direct hq))
  · intro p hp
    rcases Planning.mem_planned_absorb.mp hp with hp | hp
    · exact h.acyclic p hp
    · exact not_needs_self_of_expand hc hp
  · intro p hp hmem
    rcases Planning.mem_planned_absorb.mp hmem with hmem | hmem
    · exact h.free p hp hmem
    · exact notMem_path_of_expand hc hmem hp

theorem Ready.exists_expand_eq_ok (h : d.Ready path s) (hn : name ∈ s.planned) :
    ∃ c, d.expand path name = .ok c ∧ s.absorb c = s := by
  have hbelow : ∀ q, q = name ∨ d.Needs name q → q ∈ s.planned := by
    rintro q (rfl | hq)
    · exact hn
    · exact h.mem_of_needs hn hq
  have hpath : ∀ q ∈ path, q ≠ name ∧ ¬ d.Needs name q := fun q hq =>
    ⟨fun he => h.free q hq (hbelow q (.inl he)), fun hq' => h.free q hq (hbelow q (.inr hq'))⟩
  obtain ⟨c, hc⟩ := Depends.exists_expand_eq_ok hpath fun q hq => h.acyclic q (hbelow q hq)
  exact ⟨c, hc, Planning.absorb_eq_self fun q hq => hbelow q ((mem_expand_iff hc).mp hq)⟩

theorem foldlM_extend_of
    (ih : ∀ name ∈ names, ∀ s, d.Ready path s →
      d.extend path name s = (d.expand path name).map s.absorb)
    (h : d.Ready path s) :
    names.foldlM (fun s name => d.extend path name s) s =
      (names.mapM (d.expand path)).map fun parts => s.absorb parts.flatten := by
  induction names generalizing s with
  | nil => rfl
  | cons name names ihn =>
    obtain ⟨hname, hnames⟩ := List.forall_mem_cons.mp ih
    rw [List.foldlM_cons, List.mapM_cons, hname s h]
    cases hc : d.expand path name with
    | error e => rfl
    | ok c =>
      have hrest := ihn hnames (h.absorb hc)
      simp only [Except.map, bind, Except.bind] at hrest ⊢
      rw [hrest]
      cases names.mapM (d.expand path) with
      | error e => rfl
      | ok parts => simp [pure, Except.pure, Planning.absorb_append]

theorem extend_eq_map_expand (h : d.Ready path s) :
    d.extend path name s = (d.expand path name).map s.absorb := by
  induction path, name using d.path_induction generalizing s with
  | step path name ih =>
    rw [extend_eq]
    by_cases hp : name ∈ s.planned
    · obtain ⟨c, hc, hs⟩ := h.exists_expand_eq_ok hp
      simp [hp, hc, Except.map, hs]
    · rw [if_neg hp, expand_eq]
      by_cases hn : name ∈ path
      · simp [hn, Except.map]
      · have hfold := foldlM_extend_of (fun dep hdep s hs => ih hn dep hdep hs) (h.concat hp)
        rw [if_neg hn, if_neg hn, hfold]
        cases hm : (d.prerequisites name).mapM (d.expand (path ++ [name])) with
        | error e => rfl
        | ok parts =>
          have hnew : name ∉ (s.absorb parts.flatten).planned := by
            obtain ⟨part, hpart, rfl⟩ := Traversal.exists_of_mapM_eq_ok hm
            rw [Planning.mem_planned_absorb, ← List.flatMap, List.mem_flatMap]
            rintro (hmem | ⟨dep, hdep, hmem⟩)
            · exact hp hmem
            · exact notMem_path_of_expand (hpart dep hdep) hmem (by simp)
          simp [Except.map, Planning.absorb_append, Planning.absorb_singleton hnew]

theorem exists_of_extend_eq_ok {s' : Planning} (h : d.Ready path s)
    (hs : d.extend path name s = .ok s') : ∃ c, d.expand path name = .ok c ∧ s.absorb c = s' := by
  rw [extend_eq_map_expand h] at hs
  exact Traversal.map_eq_ok_iff.mp hs

theorem planAll_eq_map_closures (h : d.Ready [] s) (names : List String) :
    d.planAll s names = (names.mapM d.closure).map fun parts => s.absorb parts.flatten :=
  foldlM_extend_of (fun _ _ _ hs => extend_eq_map_expand hs) h

theorem recorded_of_planAll_eq_ok (h : d.planAll .empty names = .ok s) : s.Recorded := by
  rw [planAll_eq_map_closures (d.ready_empty [])] at h
  obtain ⟨parts, -, rfl⟩ := Traversal.map_eq_ok_iff.mp h
  exact Planning.recorded_empty.absorb _

end Depends

end OrderedBuild
