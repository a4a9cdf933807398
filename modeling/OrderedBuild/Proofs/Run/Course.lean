import OrderedBuild.Proofs.Run.Rounds

namespace OrderedBuild

/-- The rounds of the packages still to be built, in a run that is cancelled or not, and the error
that ends the run. -/
inductive Course (tested : Bool) : Bool → List String → List Round → Option BuildError → Prop
  | finished (cancelled : Bool) : Course tested cancelled [] [] none
  | cancelled (package : String) (rest : List String) :
    Course tested true (package :: rest) [] (some (.interrupted package))
  | stopped {r : Round} {e : BuildError} (rest : List String) (h : r.outcome tested = .error e) :
    Course tested false (r.package :: rest) [r] (some e)
  | next {r : Round} {rest : List String} {rounds : List Round} {stop : Option BuildError}
    (h : r.outcome tested = .ok r.report) (more : Course tested r.cancels rest rounds stop) :
    Course tested false (r.package :: rest) (r :: rounds) stop

variable {tested cancelled : Bool} {packages rest : List String} {rounds : List Round} {r : Round}
  {stop : Option BuildError} {e : BuildError}

namespace Course

theorem packages_prefix (h : Course tested cancelled packages rounds stop) :
    rounds.map Round.package <+: packages := by
  induction h with
  | finished cancelled => exact List.nil_prefix
  | cancelled package rest => exact List.nil_prefix
  | stopped rest h => exact List.cons_prefix_cons.mpr ⟨rfl, List.nil_prefix⟩
  | next h more ih => exact List.cons_prefix_cons.mpr ⟨rfl, ih⟩

theorem succeeded_of_mem_dropLast (h : Course tested cancelled packages rounds stop)
    (hr : r ∈ rounds.dropLast) : r.Succeeded := by
  induction h with
  | finished cancelled => simp at hr
  | cancelled package rest => simp at hr
  | stopped rest h => simp at hr
  | @next r' rest rounds stop h more ih =>
    cases rounds with
    | nil => simp at hr
    | cons r'' rounds =>
      rw [List.dropLast_cons_of_ne_nil (List.cons_ne_nil r'' rounds)] at hr
      rcases List.mem_cons.mp hr with rfl | hr
      · exact (Round.outcome_eq_ok_iff.mp h).1
      · exact ih hr

theorem eq_packages_of_none (h : Course tested cancelled packages rounds none) :
    rounds.map Round.package = packages ∧ ∀ r ∈ rounds, r.Succeeded := by
  generalize hstop : (none : Option BuildError) = stop at h
  induction h with
  | finished cancelled => simp
  | cancelled package rest => cases hstop
  | stopped rest h => cases hstop
  | next h more ih =>
    obtain ⟨hpackages, hsucceeded⟩ := ih hstop
    refine ⟨by rw [List.map_cons, hpackages], List.forall_mem_cons.mpr ⟨?_, hsucceeded⟩⟩
    exact (Round.outcome_eq_ok_iff.mp h).1

theorem stop_of_outcome (h : Course tested cancelled packages rounds stop) (hr : r ∈ rounds)
    (he : r.outcome tested = .error e) : stop = some e := by
  induction h with
  | finished cancelled => simp at hr
  | cancelled package rest => simp at hr
  | stopped rest h =>
    obtain rfl := List.mem_singleton.mp hr
    exact congrArg some (Except.error.inj (h.symm.trans he))
  | next h more ih =>
    rcases List.mem_cons.mp hr with rfl | hr
    · exact absurd (h.symm.trans he) (by simp)
    · exact ih hr

theorem stop_eq_none (h : Course tested cancelled packages rounds stop) (hc : cancelled = false)
    (hall : ∀ r ∈ rounds, r.Succeeded ∧ r.cancels = false) : stop = none := by
  induction h with
  | finished cancelled => rfl
  | cancelled package rest => cases hc
  | stopped rest h =>
    obtain ⟨hs, hr⟩ := List.forall_mem_singleton.mp hall
    rw [Round.outcome_of_succeeded hs, hr, Bool.and_false] at h
    cases h
  | next h more ih =>
    obtain ⟨⟨-, hr⟩, hrest⟩ := List.forall_mem_cons.mp hall
    exact ih hr hrest

theorem eq_of_cancelled (h : Course tested true packages rounds stop) :
    rounds = [] ∧ stop = packages.head?.map .interrupted := by
  cases h with
  | finished => exact ⟨rfl, rfl⟩
  | cancelled package rest => exact ⟨rfl, rfl⟩

/-- After a last round that cancels a run without ending it, the run stops at the next package. -/
theorem stop_of_cancels (h : Course tested cancelled (rounds.map Round.package ++ rest) rounds stop)
    (hr : rounds.getLast? = some r) (hok : r.outcome tested = .ok r.report) (hc : r.cancels) :
    stop = rest.head?.map .interrupted := by
  generalize hp : rounds.map Round.package ++ rest = packages at h
  induction h with
  | finished cancelled => simp at hr
  | cancelled package rest => simp at hr
  | stopped rest h =>
    obtain rfl : _ = r := by simpa using hr
    exact absurd (h.symm.trans hok) (by simp)
  | @next r' rest' rounds stop h more ih =>
    obtain rfl : rounds.map Round.package ++ rest = rest' := by simpa using hp
    cases rounds with
    | nil =>
      -- What follows the last round begins with the run cancelled.
      obtain rfl : r' = r := by simpa using hr
      rw [hc] at more
      exact more.eq_of_cancelled.2
    | cons r'' rounds => exact ih (by simpa using hr) rfl

end Course

end OrderedBuild
