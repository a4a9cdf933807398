import OrderedBuild.Text.Affix

namespace OrderedBuild.Text

variable {sep : Char} {s : String} {parts : List String}

theorem splitChars_eq_splitOn (sep : Char) (cs : List Char) :
    splitChars sep cs = cs.splitOn sep := by
  induction cs with
  | nil => rfl
  | cons c cs ih =>
    rw [splitChars, List.splitOn_cons_eq_if_modifyHead, ih]
    by_cases hc : c = sep
    · simp [hc]
    · obtain ⟨p, ps, hp⟩ := List.exists_cons_of_ne_nil (List.splitOn_ne_nil sep cs)
      simp [hc, hp]

theorem notMem_of_mem_splitChars {cs p : List Char} (h : p ∈ splitChars sep cs) : sep ∉ p := by
  induction cs generalizing p with
  | nil =>
    obtain rfl := List.mem_singleton.mp h
    exact List.not_mem_nil
  | cons c cs ih =>
    rw [splitChars] at h
    by_cases hc : c = sep
    · rw [if_pos hc] at h
      rcases List.mem_cons.mp h with rfl | h
      · exact List.not_mem_nil
      · exact ih h
    · rw [if_neg hc] at h
      cases hs : splitChars sep cs with
      | nil =>
        rw [hs] at h
        obtain rfl := List.mem_singleton.mp h
        simpa using Ne.symm hc
      | cons q qs =>
        rw [hs] at h ih
        rcases List.mem_cons.mp h with rfl | h
        · exact List.not_mem_cons_of_ne_of_not_mem (Ne.symm hc) (ih List.mem_cons_self)
        · exact ih (List.mem_cons_of_mem q h)

theorem notMem_of_mem_splitOn {p : String} (h : p ∈ splitOn sep s) : sep ∉ p.toList := by
  obtain ⟨cs, hcs, rfl⟩ := List.mem_map.mp h
  rw [String.toList_ofList]
  exact notMem_of_mem_splitChars hcs

theorem map_toList_splitOn (sep : Char) (s : String) :
    (splitOn sep s).map String.toList = s.toList.splitOn sep := by
  simp [splitOn, splitChars_eq_splitOn, Function.comp_def]

theorem intercalate_splitOn (sep : Char) (s : String) :
    (String.singleton sep).intercalate (splitOn sep s) = s := by
  rw [← String.toList_inj, String.toList_intercalate, map_toList_splitOn, String.toList_singleton]
  exact List.intercalate_splitOn sep

theorem splitOn_intercalate (hne : parts ≠ []) (h : ∀ p ∈ parts, sep ∉ p.toList) :
    splitOn sep ((String.singleton sep).intercalate parts) = parts := by
  rw [← List.map_inj_right fun _ _ => String.toList_inj.mp, map_toList_splitOn,
    String.toList_intercalate, String.toList_singleton]
  apply List.splitOn_intercalate sep
  · intro cs hcs
    obtain ⟨p, hp, rfl⟩ := List.mem_map.mp hcs
    exact h p hp
  · simpa using hne

end OrderedBuild.Text
