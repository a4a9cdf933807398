import OrderedBuild.Package.Order
import OrderedBuild.Proofs.Package.Planning
import OrderedBuild.Proofs.Text.ByteOrder

namespace OrderedBuild

def Planning.visits (s : Planning) (path : List String) : Visits :=
  ⟨s.planned, path.reverse, s.plan, path⟩

namespace Visits

variable {s : Planning} {path : List String} {name : String}

theorem enter_visits (hn : name ∉ path) :
    (s.visits path).enter name = s.visits (path ++ [name]) := by
  simp [Planning.visits, enter, hn]

theorem leave_visits : (s.visits (path ++ [name])).leave name = (s.push name).visits path := by
  simp [Planning.visits, leave, Planning.push]

theorem cycle_visits (hn : name ∈ path) :
    (s.visits path).cycle name = Depends.cycleAt path name := by
  obtain ⟨i, hi⟩ := Option.isSome_iff_exists.mp (List.isSome_idxOf?.mpr hn)
  obtain ⟨-, hfirst⟩ := List.findIdx?_eq_some_iff_findIdx_eq.mp hi
  have hdrop : path.dropWhile (· != name) = path.drop i := by
    rw [List.dropWhile_eq_drop_findIdx_not, ← hfirst]
    simp [bne]
  rw [cycle, Depends.cycleAt, hdrop]
  simp [Planning.visits, hi]

end Visits

namespace Depends

variable {d : Depends} {path names order : List String} {name p q : String} {s : Planning}
  {e : ResolverError}

theorem map_val_foldlM {start : Visits} (names : List String) (v : start.After) :
    (names.foldlM (fun (v : start.After) dep => do
        let v' ← d.visit dep v.1
        return (⟨v'.1, v'.2.trans v.2⟩ : start.After)) v).map Subtype.val =
      names.foldlM (fun v dep => (d.visit dep v).map Subtype.val) v.1 := by
  induction names generalizing v with
  | nil => rfl
  | cons name names ih =>
    rw [List.foldlM_cons, List.foldlM_cons]
    cases hv : d.visit name v.1 with
    | error e => rfl
    | ok v' => exact ih ⟨v'.1, v'.2.trans v.2⟩

theorem visit_eq (d : Depends) (name : String) (v : Visits) :
    (d.visit name v).map Subtype.val =
      if name ∈ v.underway then .error (.circularDependency (v.cycle name))
      else if name ∈ v.visited then .ok v
      else ((d.prerequisites name).foldlM
        (fun v dep => (d.visit dep v).map Subtype.val) (v.enter name)).map (·.leave name) := by
  rw [visit]
  split
  · rfl
  · split
    · rfl
    · unfold prerequisites
      split
      next h => simp [h, pure, Except.pure, Except.map]
      next deps h =>
        rw [h, Option.getD_some, ← map_val_foldlM deps ⟨v.enter name, rfl⟩]
        cases List.foldlM (m := Except ResolverError) _ _ deps with
        | error e => rfl
        | ok v' => rfl

theorem foldlM_eq_map_extend (step : Visits → String → Except ResolverError Visits)
    (hstep : ∀ name ∈ names, ∀ s, d.Ready path s →
      step (s.visits path) name = (d.extend path name s).map (·.visits path))
    (h : d.Ready path s) :
    names.foldlM step (s.visits path) =
      (names.foldlM (fun s name => d.extend path name s) s).map (·.visits path) := by
  induction names generalizing s with
  | nil => rfl
  | cons name names ih =>
    obtain ⟨hname, hnames⟩ := List.forall_mem_cons.mp hstep
    rw [List.foldlM_cons, List.foldlM_cons, hname s h]
    cases hs : d.extend path name s with
    | error e => rfl
    | ok s' =>
      obtain ⟨c, hc, rfl⟩ := exists_of_extend_eq_ok h hs
      exact ih hnames (h.absorb hc)

/-- A package under way is not planned, so it makes no difference which of the two is asked
first. -/
theorem visit_eq_map_extend (h : d.Ready path s) :
    (d.visit name (s.visits path)).map Subtype.val =
      (d.extend path name s).map (·.visits path) := by
  induction path, name using d.path_induction generalizing s with
  | step path name ih =>
    have hunderway : name ∈ (s.visits path).underway ↔ name ∈ path := List.mem_reverse
    have hvisited : name ∈ (s.visits path).visited ↔ name ∈ s.planned := .rfl
    rw [visit_eq, extend_eq]
    by_cases hp : name ∈ s.planned
    · have hn : name ∉ path := fun hmem => h.free name hmem hp
      rw [if_neg (hunderway.not.mpr hn), if_pos hp, if_pos (hvisited.mpr hp)]
      rfl
    · rw [if_neg hp, if_neg (hvisited.not.mpr hp)]
      by_cases hn : name ∈ path
      · rw [if_pos (hunderway.mpr hn), if_pos hn, Visits.cycle_visits hn]
        rfl
      · have hfold := foldlM_eq_map_extend (fun v dep => (d.visit dep v).map Subtype.val)
          (fun dep hdep s hs => ih hn dep hdep hs) (h.concat hp)
        rw [if_neg (hunderway.not.mpr hn), if_neg hn, Visits.enter_visits hn, hfold]
        cases (d.prerequisites name).foldlM
            (fun s dep => d.extend (path ++ [name]) dep s) s with
        | error e => rfl
        | ok s' => exact congrArg Except.ok Visits.leave_visits

/-- The whole map is ordered as if all its names were asked for. -/
theorem topologicalOrder_eq_map_planAll (d : Depends) :
    d.topologicalOrder = (d.planAll .empty d.names).map Planning.plan := by
  have hstep : ∀ name ∈ d.names, ∀ s, d.Ready [] s →
      (if name ∈ (s.visits []).visited then .ok (s.visits [])
        else (d.visit name (s.visits [])).map Subtype.val) =
      (d.extend [] name s).map (·.visits []) := by
    intro name _ s hs
    split
    next hp =>
      have hplanned : name ∈ s.planned := hp
      rw [extend_eq, if_pos hplanned]
      rfl
    next hp => exact visit_eq_map_extend hs
  have hwalk := foldlM_eq_map_extend
    (fun v name => if name ∈ v.visited then .ok v else (d.visit name v).map Subtype.val)
    hstep (d.ready_empty [])
  unfold topologicalOrder planAll planInto
  rw [show Visits.empty = Planning.empty.visits [] from rfl, hwalk]
  cases d.names.foldlM (fun s name => d.extend [] name s) Planning.empty with
  | error e => rfl
  | ok s => rfl

theorem topologicalOrder_eq_map_closures (d : Depends) :
    d.topologicalOrder = (d.names.mapM d.closure).map fun parts => parts.flatten.eraseDups := by
  rw [topologicalOrder_eq_map_planAll, planAll_eq_map_closures (d.ready_empty [])]
  cases d.names.mapM d.closure with
  | error e => rfl
  | ok parts => simp [Except.map, Planning.plan_absorb_empty]

theorem exists_of_topologicalOrder_eq_ok (h : d.topologicalOrder = .ok order) :
    ∃ closures : String → List String,
      (∀ name ∈ d.names, d.closure name = .ok (closures name)) ∧
      order = (d.names.flatMap closures).eraseDups := by
  rw [topologicalOrder_eq_map_closures] at h
  obtain ⟨parts, hparts, rfl⟩ := Traversal.map_eq_ok_iff.mp h
  obtain ⟨closures, hc, rfl⟩ := Traversal.exists_of_mapM_eq_ok hparts
  exact ⟨closures, hc, rfl⟩

theorem exists_isCycle_of_topologicalOrder_eq_error (h : d.topologicalOrder = .error e) :
    ∃ cycle, e = .circularDependency cycle ∧ d.IsCycle cycle := by
  rw [topologicalOrder_eq_map_closures, Traversal.map_eq_error_iff] at h
  obtain ⟨name, -, hname⟩ := Traversal.exists_of_mapM_eq_error h
  exact exists_isCycle_of_closure_eq_error hname

/-- Ordering the whole map is planning its names one after the other in byte order: it comes to the
same list, besides which nothing is planned, or to the same cycle. -/
theorem topologicalOrder_plans_every_name (d : Depends) :
    d.names.Pairwise (fun p q => Text.bytes p < Text.bytes q) ∧
    (∀ p, p ∈ d.names ↔ ∃ deps, d.find? p = some deps) ∧
    (∀ order, d.topologicalOrder = .ok order ↔
      ∃ s, d.planAll .empty d.names = .ok s ∧ s.plan = order ∧ ∀ p, p ∈ s.planned ↔ p ∈ order) ∧
    ∀ e, d.topologicalOrder = .error e ↔
      ∃ cycle, e = .circularDependency cycle ∧
        d.planAll .empty d.names = .error (.circularDependency cycle) := by
  refine ⟨d.pairwise_names.imp Text.bytes_lt_bytes_iff.mpr, fun p => ?_, fun order => ?_,
    fun e => ?_⟩
  · rw [← contains_iff, contains, Option.isSome_iff_exists]
  · rw [topologicalOrder_eq_map_planAll, Traversal.map_eq_ok_iff]
    constructor
    · rintro ⟨s, hs, rfl⟩
      exact ⟨s, hs, rfl, recorded_of_planAll_eq_ok hs⟩
    · rintro ⟨s, hs, hplan, -⟩
      exact ⟨s, hs, hplan⟩
  · have hplan : d.topologicalOrder = .error e ↔ d.planAll .empty d.names = .error e := by
      rw [topologicalOrder_eq_map_planAll, Traversal.map_eq_error_iff]
    constructor
    · intro h
      obtain ⟨cycle, rfl, -⟩ := exists_isCycle_of_topologicalOrder_eq_error h
      exact ⟨cycle, rfl, hplan.mp h⟩
    · rintro ⟨cycle, rfl, h⟩
      exact hplan.mpr h

theorem exists_topologicalOrder_eq_ok_iff :
    (∃ order, d.topologicalOrder = .ok order) ↔ d.Acyclic := by
  constructor
  · rintro ⟨order, h⟩ p hp
    obtain ⟨closures, hc, -⟩ := exists_of_topologicalOrder_eq_ok h
    exact exists_closure_eq_ok_iff.mp ⟨_, hc p hp.mem_names⟩ p (.inl rfl) hp
  · intro h
    cases ht : d.topologicalOrder with
    | ok order => exact ⟨order, rfl⟩
    | error e =>
      obtain ⟨cycle, -, hcycle⟩ := exists_isCycle_of_topologicalOrder_eq_error ht
      obtain ⟨p, hp⟩ := hcycle.exists_needs
      exact absurd hp (h p)

theorem nodup_of_topologicalOrder (h : d.topologicalOrder = .ok order) : order.Nodup := by
  obtain ⟨closures, -, rfl⟩ := exists_of_topologicalOrder_eq_ok h
  exact nodup_eraseDups _

theorem ordered_of_topologicalOrder (h : d.topologicalOrder = .ok order) : d.Ordered order := by
  obtain ⟨closures, hc, rfl⟩ := exists_of_topologicalOrder_eq_ok h
  exact (ordered_flatMap fun name hname => ordered_expand (hc name hname)).eraseDups

theorem Closed.mem_topologicalOrder_iff (hd : d.Closed) (h : d.topologicalOrder = .ok order) :
    p ∈ order ↔ p ∈ d.names := by
  obtain ⟨closures, hc, rfl⟩ := exists_of_topologicalOrder_eq_ok h
  rw [List.mem_eraseDups, List.mem_flatMap]
  constructor
  · rintro ⟨name, hname, hp⟩
    rcases (mem_expand_iff (hc name hname)).mp hp with rfl | hp
    · exact hname
    · exact hd.mem_names_of_needs hp
  · exact fun hp => ⟨p, hp, (mem_expand_iff (hc p hp)).mpr (.inl rfl)⟩

/-- A closed map without cycles has an order, which lists its packages once and after everything
they need; any other shows a cycle. -/
theorem topologicalOrder_lists_packages_or_shows_cycle (hd : d.Closed) :
    ((∃ order, d.topologicalOrder = .ok order) ↔ ∀ p, ¬ d.Needs p p) ∧
    (∀ order, d.topologicalOrder = .ok order →
      order.Nodup ∧ (∀ p, p ∈ order ↔ p ∈ d.names) ∧
      ∀ before p after, order = before ++ p :: after → ∀ q, d.Needs p q → q ∈ before) ∧
    ∀ e, d.topologicalOrder = .error e →
      ∃ cycle, e = .circularDependency cycle ∧ d.IsCycle cycle := by
  refine ⟨exists_topologicalOrder_eq_ok_iff, fun order h => ?_, fun e h => ?_⟩
  · refine ⟨nodup_of_topologicalOrder h, fun p => hd.mem_topologicalOrder_iff h, ?_⟩
    rintro before p after rfl q hq
    exact (ordered_of_topologicalOrder h).mem_of_needs hq
  · exact exists_isCycle_of_topologicalOrder_eq_error h

theorem topologicalOrder_knot_shows_cycle :
    knot.Closed ∧ knot.topologicalOrder = .error (.circularDependency ["left", "right", "left"]) ∧
      knot.IsCycle ["left", "right", "left"] := by
  have hclosed : knot.Closed := by decide
  have horder : knot.topologicalOrder =
      .error (.circularDependency ["left", "right", "left"]) := by decide +kernel
  obtain ⟨cycle, he, hcycle⟩ :=
    (topologicalOrder_lists_packages_or_shows_cycle hclosed).2.2 _ horder
  obtain rfl := ResolverError.circularDependency.inj he
  exact ⟨hclosed, horder, hcycle⟩

example : diamond.topologicalOrder = .ok ["base", "left", "right", "top"] := by decide +kernel

end Depends

end OrderedBuild
