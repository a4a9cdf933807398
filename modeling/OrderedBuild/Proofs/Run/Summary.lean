import Mathlib.Algebra.BigOperators.Group.List.Basic
import Mathlib.Algebra.GroupWithZero.Nat
import OrderedBuild.Proofs.Run.Reporting
import OrderedBuild.Run.Summary

namespace OrderedBuild

variable {r : TestReport} {s : BuildSummary}

namespace BuildSummary

/-- The failed tests of all reports, each with its package, in the order they ran. -/
def failures (s : BuildSummary) : List (String × TestResult) :=
  (s.tests.flatMap fun r => r.results.map (r.package, ·)).filter (·.2.status = .failed)

def failureLine (f : String × TestResult) : String :=
  "  " ++ errorMark ++ " " ++ f.1 ++ "/" ++ f.2.name

theorem count_eq_sum (s : BuildSummary) (status : TestStatus) :
    s.count status = (s.tests.map (·.count status)).sum :=
  rfl

theorem passed_add_failed (s : BuildSummary) :
    s.passed + s.failed = (s.tests.map (·.results.length)).sum := by
  unfold passed failed
  rw [count_eq_sum, count_eq_sum, ← List.sum_map_add]
  exact congrArg List.sum (List.map_congr_left fun r _ => r.passed_add_failed)

theorem length_failures (s : BuildSummary) : s.failures.length = s.failed := by
  unfold failures failed
  rw [count_eq_sum, ← List.countP_eq_length_filter, List.countP_flatMap]
  refine congrArg List.sum (List.map_congr_left fun r _ => ?_)
  simp [List.countP_map, Function.comp_def, TestReport.count]

theorem failureLines_eq (r : TestReport) :
    failureLines r =
      ((r.results.map (r.package, ·)).filter (·.2.status = .failed)).map failureLine := by
  simp [failureLines, failureLine, List.filter_map, Function.comp_def]

theorem failureLines_of_isSuccess (h : r.isSuccess) : failureLines r = [] := by
  have hfailed : r.results.countP (·.status = .failed) = 0 := of_decide_eq_true h
  have hnone : r.results.filter (·.status = .failed) = [] := by
    rwa [← List.length_eq_zero_iff, ← List.countP_eq_length_filter]
  rw [failureLines, hnone, List.map_nil]

/-- A report that is passed over for its success has no failed test. -/
theorem flatMap_failureLines (s : BuildSummary) :
    (s.tests.filter (!·.isSuccess)).flatMap failureLines = s.failures.map failureLine := by
  unfold failures
  rw [List.filter_flatMap, List.map_flatMap]
  induction s.tests with
  | nil => rfl
  | cons r reports ih =>
    rw [List.flatMap_cons, ← failureLines_eq]
    by_cases h : r.isSuccess
    · rw [List.filter_cons_of_neg (by simp [h]), failureLines_of_isSuccess h, ih, List.nil_append]
    · rw [List.filter_cons_of_pos (by simp [h]), List.flatMap_cons, ih]

theorem exists_lines_eq (h : s.tests ≠ []) :
    ∃ built counts, s.lines = built ::
      ((if s.failed = 0 then successMark else warningMark) ++ counts) ::
        s.failures.map failureLine := by
  unfold lines
  rw [if_neg (by simpa using h), flatMap_failureLines]
  simp only [String.append_assoc]
  exact ⟨_, _, rfl⟩

theorem beginsWith_successMark_iff (n : Nat) (counts : String) :
    Text.beginsWith successMark ((if n = 0 then successMark else warningMark) ++ counts) ↔
      n = 0 := by
  by_cases h : n = 0
  · rw [if_pos h]
    exact iff_of_true (Text.beginsWith_append successMark counts) h
  · have hmarks : Text.Apart successMark warningMark := by decide
    rw [if_neg h, hmarks.beginsWith_append]
    exact iff_of_false Bool.false_ne_true h

/-- Every result is counted once, and the lines after the second are those of the failed tests, one
for each; the second line has the mark of success exactly if there is none. -/
theorem lines_list_failed_tests (s : BuildSummary) :
    s.passed + s.failed = (s.tests.map (·.results.length)).sum ∧
    s.lines.length = (if s.tests = [] then 1 else 2 + s.failed) ∧
    s.lines.drop 2 = s.failures.map failureLine ∧
    ∀ second ∈ s.lines[1]?,
      (Text.beginsWith successMark second ↔ s.lines.drop 2 = []) := by
  refine ⟨s.passed_add_failed, ?_⟩
  by_cases h : s.tests = []
  · obtain ⟨built, hlines⟩ := List.length_eq_one_iff.mp (show s.lines.length = 1 by simp [lines, h])
    have hfailures : s.failures = [] := by simp [failures, h]
    simp [hlines, hfailures, h]
  · obtain ⟨built, counts, hlines⟩ := exists_lines_eq h
    have hmark := beginsWith_successMark_iff s.failed counts
    rw [hlines, if_neg h]
    refine ⟨?_, rfl, ?_⟩
    · rw [List.length_cons, List.length_cons, List.length_map, length_failures]
      omega
    · rintro second hsecond
      obtain rfl := Option.some.inj hsecond
      rw [hmark, ← length_failures]
      simp

/-- Two reports of one package, in each of them a failed test of one name. -/
example :
    lines ⟨["casa", "tables"], [⟨"tables", [⟨"tA", .failed, ""⟩, ⟨"tB", .passed, "OK"⟩]⟩,
      ⟨"casa", []⟩, ⟨"tables", [⟨"tA", .failed, ""⟩]⟩]⟩ =
      ["✓ Build complete: 2 package(s)", "⚠ Tests: 1 passed, 2 failed", "  ✗ tables/tA",
        "  ✗ tables/tA"] := by
  decide +kernel

end BuildSummary

end OrderedBuild
