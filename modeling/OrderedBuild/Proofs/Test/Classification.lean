import OrderedBuild.Proofs.Text.Trimming
import OrderedBuild.Test.Output

namespace OrderedBuild

variable {o : TestOutput} {m : List Char} {markers : List String} {output : String}

theorem classify_eq_passed_iff :
    classify output markers = .passed ↔ ∃ m ∈ markers, m ≠ "" ∧ m.toList <:+: output.toList := by
  have hany : (markers.any fun m => m ≠ "" && Text.contains output m) ↔
      ∃ m ∈ markers, m ≠ "" ∧ m.toList <:+: output.toList := by
    simp only [List.any_eq_true, Bool.and_eq_true, decide_eq_true_eq, Text.contains_iff]
  unfold classify
  by_cases h : markers.any fun m => m ≠ "" && Text.contains output m
  · rw [if_pos h]
    exact iff_of_true rfl (hany.mp h)
  · rw [if_neg h]
    exact iff_of_false (by decide) fun hm => h (hany.mpr hm)

namespace TestOutput

theorem combined_cases (o : TestOutput) :
    (Text.trim o.stdout = "" ∧ o.combined = Text.trim o.stderr) ∨
    (Text.trim o.stderr = "" ∧ o.combined = Text.trim o.stdout) ∨
    (Text.trim o.stdout ≠ "" ∧ Text.trim o.stderr ≠ "" ∧ o.combined.toList =
      (Text.trim o.stdout).toList ++ '\n' :: (Text.trim o.stderr).toList) := by
  unfold combined
  by_cases hout : Text.trim o.stdout = ""
  · exact .inl ⟨hout, if_pos hout⟩
  · by_cases herr : Text.trim o.stderr = ""
    · refine .inr (.inl ⟨herr, ?_⟩)
      simp only [if_neg hout, if_pos herr]
    · refine .inr (.inr ⟨hout, herr, ?_⟩)
      simp only [if_neg hout, if_neg herr, String.toList_append, List.append_assoc]
      rfl

theorem infix_combined_iff (hline : '\n' ∉ m) (hm : Text.Trimmed m) :
    m <:+: o.combined.toList ↔ m <:+: o.stdout.toList ∨ m <:+: o.stderr.toList := by
  have hnil : ∀ cs, m <:+: "".toList → m <:+: cs := by
    intro cs h
    rw [List.infix_nil.mp h]
    exact List.nil_infix
  rw [← Text.infix_trim_iff o.stdout hm, ← Text.infix_trim_iff o.stderr hm]
  rcases o.combined_cases with ⟨hout, hc⟩ | ⟨herr, hc⟩ | ⟨-, -, hc⟩
  · rw [hc, hout]
    exact (or_iff_right_of_imp (hnil _)).symm
  · rw [hc, herr]
    exact (or_iff_left_of_imp (hnil _)).symm
  · rw [hc]
    exact Text.infix_append_cons_iff hline

theorem trimmed_combined (o : TestOutput) : Text.Trimmed o.combined.toList := by
  rcases o.combined_cases with ⟨-, hc⟩ | ⟨-, hc⟩ | ⟨hout, herr, hc⟩
  · rw [hc]
    exact Text.trimmed_trim _
  · rw [hc]
    exact Text.trimmed_trim _
  · rw [hc]
    exact (Text.trimmed_trim _).append_cons (Text.trimmed_trim _)
      (fun h => hout (String.toList_eq_nil_iff.mp h)) fun h => herr (String.toList_eq_nil_iff.mp h)

theorem combined_eq_empty_iff :
    o.combined = "" ↔ Text.trim o.stdout = "" ∧ Text.trim o.stderr = "" := by
  rcases o.combined_cases with ⟨hout, hc⟩ | ⟨herr, hc⟩ | ⟨hout, -, hc⟩
  · rw [hc, and_iff_right hout]
  · rw [hc, and_iff_left herr]
  · rw [← String.toList_eq_nil_iff, hc]
    exact iff_of_false (by simp) fun h => hout h.1

end TestOutput

/-- A test passes exactly if it wrote a marker to one of its streams. What is kept of its output has
no blank at either end, and nothing is kept exactly if nothing but blanks was written. -/
theorem classify_combined_finds_markers (o : TestOutput) (markers : List String) :
    ((∀ m ∈ markers, '\n' ∉ m.toList ∧ Text.Trimmed m.toList) →
      (classify o.combined markers = .passed ↔ ∃ m ∈ markers, m ≠ "" ∧
        (m.toList <:+: o.stdout.toList ∨ m.toList <:+: o.stderr.toList))) ∧
    Text.Trimmed o.combined.toList ∧
    (o.combined = "" ↔
      (∀ c ∈ o.stdout.toList, Text.isBlank c) ∧ ∀ c ∈ o.stderr.toList, Text.isBlank c) := by
  refine ⟨fun h => ?_, o.trimmed_combined, ?_⟩
  · rw [classify_eq_passed_iff]
    refine exists_congr fun m => and_congr_right fun hm => and_congr_right fun _ => ?_
    exact TestOutput.infix_combined_iff (h m hm).1 (h m hm).2
  · rw [TestOutput.combined_eq_empty_iff, Text.trim_eq_empty_iff, Text.trim_eq_empty_iff]

theorem classify_combined_finds_marker_in_stderr :
    (∀ m ∈ ["PASS", "", "all done"], '\n' ∉ m.toList ∧ Text.Trimmed m.toList) ∧
    classify (TestOutput.combined ⟨"\u3000PA\n", "SS: all done \t"⟩) ["PASS", "", "all done"] =
      .passed ∧
    (∀ m ∈ ["PASS", ""], '\n' ∉ m.toList ∧ Text.Trimmed m.toList) ∧
    classify (TestOutput.combined ⟨"\u3000PA\n", "SS: all done \t"⟩) ["PASS", ""] ≠ .passed := by
  have hmarkers : ∀ m ∈ ["PASS", "", "all done"], '\n' ∉ m.toList ∧ Text.Trimmed m.toList := by
    decide +kernel
  have hmarkers' : ∀ m ∈ ["PASS", ""], '\n' ∉ m.toList ∧ Text.Trimmed m.toList := by
    decide +kernel
  have hfound := (classify_combined_finds_markers ⟨"\u3000PA\n", "SS: all done \t"⟩ _).1 hmarkers
  have hfound' := (classify_combined_finds_markers ⟨"\u3000PA\n", "SS: all done \t"⟩ _).1 hmarkers'
  refine ⟨hmarkers, hfound.mpr ?_, hmarkers', fun h => ?_⟩
  · exact ⟨"all done", by decide, by decide, .inr ⟨"SS: ".toList, " \t".toList, by decide⟩⟩
  · exact absurd (hfound'.mp h) (by decide +kernel)

end OrderedBuild
