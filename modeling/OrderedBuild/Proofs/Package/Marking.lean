import OrderedBuild.Proofs.Package.Extension
import OrderedBuild.Proofs.Package.Table

namespace OrderedBuild

inductive PlanningStep where
  | plan (name : String)
  | mark (name : String)
deriving DecidableEq, Repr

def PlanningStep.take (d : Depends) (s : Planning) : PlanningStep → Except ResolverError Planning
  | .plan name => d.planInto s name
  | .mark name => .ok (s.mark name)

namespace Depends

variable {d : Depends} {steps : List PlanningStep} {step : PlanningStep} {s s' : Planning}
  {p q : String}

def follow (d : Depends) (steps : List PlanningStep) : Except ResolverError Planning :=
  steps.foldlM (fun s step => step.take d s) .empty

/-- A name was marked while a package was not in the plan yet. -/
def MarkedBefore (d : Depends) (steps : List PlanningStep) (q p : String) : Prop :=
  ∃ before after s, steps = before ++ .mark q :: after ∧ d.follow before = .ok s ∧ p ∉ s.plan

/-- What holds of the names planned and of the plan after any steps. -/
structure Follows (d : Depends) (steps : List PlanningStep) (s : Planning) : Prop where
  nodup : s.plan.Nodup
  mem_planned_iff : ∀ p, p ∈ s.planned ↔ p ∈ s.plan ∨ .mark p ∈ steps
  marked_out : ∀ p, d.MarkedBefore steps p p → p ∉ s.plan
  ordered : ∀ before p after, s.plan = before ++ p :: after →
    ∀ q ∈ d.prerequisites p, q ∈ before ∨ d.MarkedBefore steps q p

theorem follow_concat_eq_ok_iff :
    d.follow (steps ++ [step]) = .ok s' ↔ ∃ s, d.follow steps = .ok s ∧ step.take d s = .ok s' := by
  unfold follow
  rw [Traversal.foldlM_append_eq_ok_iff]
  refine exists_congr fun s => and_congr_right fun _ => ?_
  rw [Traversal.foldlM_cons_eq_ok_iff]
  simp [pure, Except.pure]

theorem plan_prefix_of_take_eq_ok (h : step.take d s = .ok s') : s.plan <+: s'.plan := by
  cases step with
  | plan name =>
    obtain ⟨new, hnew⟩ := exists_appends_of_planInto_eq_ok h
    exact ⟨new, hnew.plan_eq.symm⟩
  | mark name =>
    obtain rfl := Except.ok.inj h
    exact List.prefix_rfl

theorem MarkedBefore.mem (h : d.MarkedBefore steps q p) : .mark q ∈ steps := by
  obtain ⟨before, after, -, rfl, -⟩ := h
  simp

theorem markedBefore_concat_iff :
    d.MarkedBefore (steps ++ [step]) q p ↔
      d.MarkedBefore steps q p ∨ step = .mark q ∧ ∃ s, d.follow steps = .ok s ∧ p ∉ s.plan := by
  constructor
  · rintro ⟨before, after, s, hsteps, hs, hp⟩
    rcases List.eq_nil_or_concat after with rfl | ⟨after, last, rfl⟩
    · obtain ⟨rfl, rfl⟩ : steps = before ∧ step = .mark q := by simpa using hsteps
      exact .inr ⟨rfl, s, hs, hp⟩
    · have hsplit : steps ++ [step] = (before ++ .mark q :: after) ++ [last] := by
        simpa using hsteps
      exact .inl ⟨before, after, s, List.append_inj_left' hsplit rfl, hs, hp⟩
  · rintro (⟨before, after, s, rfl, hs, hp⟩ | ⟨rfl, s, hs, hp⟩)
    · exact ⟨before, after ++ [step], s, by simp, hs, hp⟩
    · exact ⟨steps, [], s, rfl, hs, hp⟩

theorem markedBefore_of_mem (hs : d.follow steps = .ok s) (hq : .mark q ∈ steps)
    (hp : p ∉ s.plan) : d.MarkedBefore steps q p := by
  induction steps using List.reverseRecOn generalizing s with
  | nil => simp at hq
  | append_singleton steps step ih =>
    obtain ⟨t, ht, hstep⟩ := follow_concat_eq_ok_iff.mp hs
    have hpt : p ∉ t.plan := fun hmem => hp ((plan_prefix_of_take_eq_ok hstep).subset hmem)
    refine markedBefore_concat_iff.mpr ?_
    rcases List.mem_append.mp hq with hq | hq
    · exact .inl (ih ht hq hpt)
    · exact .inr ⟨(List.mem_singleton.mp hq).symm, t, ht, hpt⟩

theorem follows_nil : d.Follows [] .empty := by
  constructor <;> simp [Planning.empty, MarkedBefore]

theorem Follows.mark (h : d.Follows steps s) (hs : d.follow steps = .ok s) (name : String) :
    d.Follows (steps ++ [.mark name]) (s.mark name) := by
  constructor
  · exact h.nodup
  · intro p
    have hmark : p ∈ (s.mark name).planned ↔ p = name ∨ p ∈ s.planned := List.mem_insert_iff
    rw [hmark, h.mem_planned_iff]
    simp only [Planning.mark, List.mem_append, List.mem_singleton, PlanningStep.mark.injEq]
    tauto
  · intro p hp
    rcases markedBefore_concat_iff.mp hp with hp | ⟨-, t, ht, hp⟩
    · exact h.marked_out p hp
    · obtain rfl := Except.ok.inj (hs.symm.trans ht)
      exact hp
  · intro before p after hp q hq
    exact (h.ordered before p after hp q hq).imp_right fun hm =>
      markedBefore_concat_iff.mpr (.inl hm)

theorem Follows.plan {new : List String} (h : d.Follows steps s) (hs : d.follow steps = .ok s)
    (hnew : d.Appends [] s s' new) (name : String) : d.Follows (steps ++ [.plan name]) s' := by
  have hfresh : ∀ p ∈ new, p ∉ s.plan := fun p hp hmem =>
    hnew.fresh p hp ((h.mem_planned_iff p).mpr (.inl hmem))
  have hmark : ∀ q p, d.MarkedBefore (steps ++ [.plan name]) q p ↔ d.MarkedBefore steps q p :=
    fun q p => markedBefore_concat_iff.trans (by simp)
  constructor
  · rw [hnew.plan_eq]
    refine List.nodup_append.mpr ⟨h.nodup, hnew.nodup, ?_⟩
    rintro p hp q hq rfl
    exact hfresh p hq hp
  · intro p
    rw [hnew.mem_planned_iff, h.mem_planned_iff, hnew.plan_eq]
    simp only [List.mem_append, List.mem_singleton, reduceCtorEq, or_false]
    tauto
  · intro p hp
    have hm := (hmark p p).mp hp
    have hplanned : p ∈ s.planned := (h.mem_planned_iff p).mpr (.inr hm.mem)
    rw [hnew.plan_eq, List.mem_append, not_or]
    exact ⟨h.marked_out p hm, fun hmem => hnew.fresh p hmem hplanned⟩
  · rw [hnew.plan_eq]
    refine forall_split_append (fun before p after hp q hq => ?_) fun before p after hp q hq => ?_
    · exact (h.ordered before p after hp q hq).imp_right (hmark q p).mpr
    · rcases hnew.ordered before p after hp q hq with hplanned | hbefore
      · rcases (h.mem_planned_iff q).mp hplanned with hplan | hmarked
        · exact .inl (List.mem_append_left before hplan)
        · have hmem : p ∈ new := by simp [hp]
          exact .inr ((hmark q p).mpr (markedBefore_of_mem hs hmarked (hfresh p hmem)))
      · exact .inl (List.mem_append_right _ hbefore)

theorem Acyclic.exists_take_eq_ok (h : d.Acyclic) (s : Planning) (step : PlanningStep) :
    ∃ s', step.take d s = .ok s' := by
  cases step with
  | plan name => exact h.exists_planInto_eq_ok s name
  | mark name => exact ⟨s.mark name, rfl⟩

theorem Follows.take (h : d.Follows steps s) (hs : d.follow steps = .ok s)
    (ht : step.take d s = .ok s') : d.Follows (steps ++ [step]) s' := by
  cases step with
  | plan name =>
    obtain ⟨new, hnew⟩ := exists_appends_of_planInto_eq_ok ht
    exact h.plan hs hnew name
  | mark name =>
    obtain rfl := Except.ok.inj ht
    exact h.mark hs name

theorem Acyclic.exists_follow_eq_ok (h : d.Acyclic) (steps : List PlanningStep) :
    ∃ s, d.follow steps = .ok s ∧ d.Follows steps s := by
  induction steps using List.reverseRecOn with
  | nil => exact ⟨.empty, rfl, follows_nil⟩
  | append_singleton steps step ih =>
    obtain ⟨s, hs, hf⟩ := ih
    obtain ⟨s', ht⟩ := h.exists_take_eq_ok s step
    exact ⟨s', follow_concat_eq_ok_iff.mpr ⟨s, hs, ht⟩, hf.take hs ht⟩

/-- No step ever fails, whatever came before, and each keeps the plan and appends to it. -/
theorem follow_keeps_plan_and_marks {t : DependencyTable} (h : t.Accepted)
    (steps : List PlanningStep) :
    ∃ s, t.depends.follow steps = .ok s ∧ t.depends.Follows steps s ∧
      ∀ step, ∃ s', t.depends.follow (steps ++ [step]) = .ok s' ∧ s.plan <+: s'.plan := by
  obtain ⟨s, hs, hf⟩ := h.sound.acyclic.exists_follow_eq_ok steps
  refine ⟨s, hs, hf, fun step => ?_⟩
  obtain ⟨s', ht⟩ := h.sound.acyclic.exists_take_eq_ok s step
  exact ⟨s', follow_concat_eq_ok_iff.mpr ⟨s, hs, ht⟩, plan_prefix_of_take_eq_ok ht⟩

theorem follow_casacore_leaves_out_marked :
    DependencyTable.casacore.Accepted ∧
    ∃ s, DependencyTable.casacore.depends.follow [.mark "scimath", .plan "measures"] = .ok s ∧
      s.plan = ["casa", "tables", "measures"] ∧
      DependencyTable.casacore.depends.Follows [.mark "scimath", .plan "measures"] s := by
  obtain ⟨s, hs, hf, -⟩ :=
    follow_keeps_plan_and_marks .casacore [.mark "scimath", .plan "measures"]
  have hplan : (DependencyTable.casacore.depends.follow
      [.mark "scimath", .plan "measures"]).map Planning.plan =
        .ok ["casa", "tables", "measures"] := by decide +kernel
  rw [hs] at hplan
  exact ⟨.casacore, s, hs, Except.ok.inj hplan, hf⟩

end Depends

end OrderedBuild
