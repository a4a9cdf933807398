import OrderedBuild.Proofs.Text.ByteOrder
import OrderedBuild.Test.Discovery

namespace OrderedBuild

variable {isWord : Char → Bool} {start : String} {entries entries' : List DirEntry}

theorem testNames_perm (isWord : Char → Bool) (start : String) (entries : List DirEntry) :
    (testNames start entries isWord).Perm
      ((entries.filter (isTestEntry isWord start)).map DirEntry.name) :=
  List.mergeSort_perm _ _

theorem pairwise_le_testNames (isWord : Char → Bool) (start : String) (entries : List DirEntry) :
    (testNames start entries isWord).Pairwise (· ≤ ·) := by
  unfold testNames
  refine (List.pairwise_mergeSort (fun a b c hab hbc => ?_) (fun a b => ?_) _).imp of_decide_eq_true
  · simp only [decide_eq_true_eq] at hab hbc ⊢
    exact String.le_trans hab hbc
  · simp only [Bool.or_eq_true, decide_eq_true_eq]
    exact String.le_total a b

theorem pairwise_bytes_testNames (isWord : Char → Bool) (start : String)
    (entries : List DirEntry) :
    (testNames start entries isWord).Pairwise fun a b => Text.bytes a ≤ Text.bytes b :=
  (pairwise_le_testNames isWord start entries).imp fun hab =>
    List.not_lt.mp fun hba => String.not_lt.mpr hab (Text.bytes_lt_bytes_iff.mp hba)

theorem nodup_testNames (h : (entries.map DirEntry.name).Nodup) :
    (testNames start entries isWord).Nodup := by
  rw [(testNames_perm isWord start entries).nodup_iff]
  exact (List.filter_sublist.map DirEntry.name).nodup h

theorem testNames_eq_of_perm {names : List String}
    (h : names.Perm ((entries.filter (isTestEntry isWord start)).map DirEntry.name))
    (hsorted : names.Pairwise (· ≤ ·)) : testNames start entries isWord = names :=
  ((testNames_perm isWord start entries).trans h.symm).eq_of_pairwise
    (fun _ _ _ _ => String.le_antisymm) (pairwise_le_testNames isWord start entries) hsorted

/-- The order in which a directory lists its entries makes no difference. -/
theorem testNames_congr (h : entries'.Perm entries) :
    testNames start entries' isWord = testNames start entries isWord :=
  testNames_eq_of_perm
    ((testNames_perm isWord start entries).trans ((h.symm.filter _).map _))
    (pairwise_le_testNames isWord start entries)

theorem hasExtension_iff (hdot : isWord '.' = false) {name : String} :
    hasExtension isWord name ↔
      ∃ stem ext, name = stem ++ "." ++ ext ∧ ext ≠ "" ∧ ∀ c ∈ ext.toList, isWord c := by
  have hends : hasExtension isWord name ↔ name.toList.reverse.takeWhile isWord ≠ [] ∧
      (name.toList.reverse.dropWhile isWord).head? = some '.' := by
    simp [hasExtension]
  rw [hends]
  constructor
  · -- Before the word characters that end the name stands a dot, so the name is taken apart there.
    rintro ⟨hne, hdot⟩
    obtain ⟨rest, hrest⟩ := List.head?_eq_some_iff.mp hdot
    have hsplit : name.toList.reverse =
        name.toList.reverse.takeWhile isWord ++ '.' :: rest := by
      rw [← hrest, List.takeWhile_append_dropWhile]
    have hword : ∀ c ∈ name.toList.reverse.takeWhile isWord, isWord c :=
      List.all_eq_true.mp List.all_takeWhile
    generalize name.toList.reverse.takeWhile isWord = word at hne hsplit hword
    refine ⟨.ofList rest.reverse, .ofList word.reverse, ?_, by simpa using hne,
      by simpa using hword⟩
    rw [← String.toList_inj, ← List.reverse_inj, hsplit]
    simp
  · rintro ⟨stem, ext, rfl, hne, hext⟩
    have hsplit : (stem ++ "." ++ ext).toList.reverse =
        ext.toList.reverse ++ '.' :: stem.toList.reverse := by simp
    have hword : ∀ c ∈ ext.toList.reverse, isWord c := by simpa using hext
    rw [hsplit, List.takeWhile_append_of_pos hword, List.dropWhile_append_of_pos hword,
      List.dropWhile_cons_of_neg (by simp [hdot])]
    exact ⟨by simp [hne], rfl⟩

theorem mem_testNames_iff {name : String} :
    name ∈ testNames start entries isWord ↔
      ⟨name, .file⟩ ∈ entries ∧ Text.beginsWith start name ∧ ¬ hasExtension isWord name := by
  have htest : ∀ e : DirEntry, isTestEntry isWord start e ↔
      e.kind = .file ∧ Text.beginsWith start e.name ∧ ¬ hasExtension isWord e.name := by
    simp [isTestEntry, and_assoc]
  rw [(testNames_perm isWord start entries).mem_iff, List.mem_map]
  constructor
  · rintro ⟨⟨name, kind⟩, he, rfl⟩
    obtain ⟨hmem, hkind, hname⟩ := (List.mem_filter.trans (and_congr_right fun _ => htest _)).mp he
    obtain rfl : kind = .file := hkind
    exact ⟨hmem, hname⟩
  · rintro ⟨hmem, hname⟩
    exact ⟨⟨name, .file⟩, List.mem_filter.mpr ⟨hmem, (htest _).mpr ⟨rfl, hname⟩⟩, rfl⟩

theorem pairwise_bytes_lt_testNames (h : (entries.map DirEntry.name).Nodup) :
    (testNames start entries isWord).Pairwise fun a b => Text.bytes a < Text.bytes b :=
  (pairwise_le_testNames isWord start entries).imp₂
    (fun _ _ hle hne => Text.bytes_lt_bytes_iff.mpr (Std.lt_of_le_of_ne hle hne))
    (nodup_testNames h)

/-- The tests of a directory are its own regular files whose names begin as they should and have no
extension, each once and in the order of their names, in whatever order the directory lists them. -/
theorem testPaths_list_tests_by_name (hdot : isWord '.' = false)
    (h : (entries.map DirEntry.name).Nodup) (dir start : String) :
    ∃ names : List String, testPaths dir start entries isWord = names.map (Path.join dir) ∧
      (names.Pairwise fun a b => Text.bytes a < Text.bytes b) ∧
      (∀ name, name ∈ names ↔ ⟨name, .file⟩ ∈ entries ∧ (∃ rest, name = start ++ rest) ∧
        ¬ ∃ stem ext, name = stem ++ "." ++ ext ∧ ext ≠ "" ∧ ∀ c ∈ ext.toList, isWord c) ∧
      ∀ entries', entries'.Perm entries →
        testPaths dir start entries' isWord = testPaths dir start entries isWord := by
  refine ⟨testNames start entries isWord, rfl, pairwise_bytes_lt_testNames h, fun name => ?_,
    fun entries' hperm => congrArg (List.map (Path.join dir)) (testNames_congr hperm)⟩
  rw [mem_testNames_iff, Text.beginsWith_iff, hasExtension_iff hdot]

def mixedDirectory : List DirEntry :=
  [⟨"tTable.", .file⟩, ⟨"tÄ", .file⟩, ⟨"tTable.cc", .file⟩, ⟨"tLatest", .link⟩, ⟨"t", .directory⟩,
    ⟨"t.v1-2", .file⟩, ⟨"tColumn", .file⟩, ⟨"assay", .file⟩, ⟨"t.a.é", .file⟩]

theorem testPaths_mixedDirectory_reverse :
    (mixedDirectory.map DirEntry.name).Nodup ∧
    testPaths "/src/tests" "t" mixedDirectory.reverse =
      ["/src/tests/t.v1-2", "/src/tests/tColumn", "/src/tests/tTable.", "/src/tests/tÄ"] := by
  have hnodup : (mixedDirectory.map DirEntry.name).Nodup := by decide
  have htests : (mixedDirectory.filter (isTestEntry Text.isWord "t")).map DirEntry.name =
      ["tTable.", "tÄ", "t.v1-2", "tColumn"] := by
    unfold isTestEntry hasExtension
    rw [funext Text.isWord_eq_any]
    decide +kernel
  have hnames : testNames "t" mixedDirectory = ["t.v1-2", "tColumn", "tTable.", "tÄ"] := by
    refine testNames_eq_of_perm ?_ (by decide)
    rw [htests]
    decide
  obtain ⟨_, -, -, -, hperm⟩ := testPaths_list_tests_by_name Text.isWord_dot hnodup "/src/tests" "t"
  refine ⟨hnodup, (hperm _ (List.reverse_perm _)).trans ?_⟩
  rw [testPaths, hnames]
  decide

end OrderedBuild
