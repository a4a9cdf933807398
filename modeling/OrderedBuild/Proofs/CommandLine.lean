import OrderedBuild.CommandLine
import OrderedBuild.Proofs.Traversal

namespace OrderedBuild

open Traversal

namespace OptionReader

variable {r : OptionReader} {s s' : r.State} {words free : List String}

theorem suffix_of_collect_eq_ok (h : r.collect s words = .ok (s', free)) : free <:+ words := by
  induction words generalizing s with
  | nil =>
    cases h
    exact List.suffix_rfl
  | cons w ws ih =>
    cases hw : r.role s w with
    | option next =>
      rw [collect, hw] at h
      obtain ⟨s₁, -, hrest⟩ := bind_eq_ok_iff.mp h
      exact (ih hrest).trans (List.suffix_cons w ws)
    | separator =>
      rw [collect, hw] at h
      cases h
      exact List.suffix_cons w _
    | free =>
      rw [collect, hw] at h
      cases h
      exact List.suffix_rfl

/-- Without a free word the words read so far may all be options, and what is added is read. -/
theorem collect_append (h : r.collect s words = .ok (s', free)) (hne : free ≠ [])
    (more : List String) : r.collect s (words ++ more) = .ok (s', free ++ more) := by
  induction words generalizing s with
  | nil =>
    cases h
    exact absurd rfl hne
  | cons w ws ih =>
    rw [List.cons_append]
    cases hw : r.role s w with
    | option next =>
      rw [collect, hw] at h ⊢
      obtain ⟨s₁, hnext, hrest⟩ := bind_eq_ok_iff.mp h
      exact bind_eq_ok_iff.mpr ⟨s₁, hnext, ih hrest⟩
    | separator =>
      rw [collect, hw] at h ⊢
      cases h
      rfl
    | free =>
      rw [collect, hw] at h ⊢
      cases h
      rfl

theorem free_of_parse_eq_ok {env : Env} {m : Matches} (h : r.parse env words = .ok m) :
    m.free <:+ words ∧ (m.free ≠ [] → ∀ more,
      r.parse env (words ++ more) = .ok { m with free := m.free ++ more }) := by
  obtain ⟨⟨s, free⟩, hcollect, hrest⟩ := bind_eq_ok_iff.mp h
  obtain ⟨given, hfinish, hm⟩ := bind_eq_ok_iff.mp hrest
  obtain rfl := Except.ok.inj hm
  refine ⟨suffix_of_collect_eq_ok hcollect, fun hne more => ?_⟩
  exact bind_eq_ok_iff.mpr ⟨(s, free ++ more), collect_append hcollect hne more,
    bind_eq_ok_iff.mpr ⟨given, hfinish, rfl⟩⟩

end OptionReader

/-- What is relied on in a parser: if the free argument of a command is trailing and may begin
with a dash, the options are read word by word, up to the first word that is no option of the
command or follows two dashes, and the argument takes that word and everything after it. -/
def CommandParser.TakesTrailing (parser : CommandParser) : Prop :=
  ∀ c : Command, c.free.trailing → c.free.allowsDashes →
    ∃ r : OptionReader, ∀ env words, parser c env words = r.parse env words

theorem Command.takesTrailing_parse : CommandParser.TakesTrailing Command.parse :=
  fun c _ _ => ⟨c.reader, fun _ _ => rfl⟩

namespace Options

variable {parser : CommandParser} {env : Env} {words : List String} {o : Options}

/-- Free words are the last words of the command line as they were written. After the first of
them no word is anything else, whatever it looks like. -/
theorem parse_keeps_free_words (hparser : parser.TakesTrailing)
    (h : parse env words parser = .ok o) :
    o.args <:+ words ∧ (o.args ≠ [] → ∀ more,
      parse env (words ++ more) parser = .ok { o with args := o.args ++ more }) := by
  -- What the program declares about its free argument is all that is used of its options.
  obtain ⟨r, hr⟩ := hparser command rfl rfl
  obtain ⟨m, hm, rfl⟩ := map_eq_ok_iff.mp h
  rw [hr] at hm
  obtain ⟨hsuffix, hmore⟩ := OptionReader.free_of_parse_eq_ok hm
  refine ⟨hsuffix, fun hne more => ?_⟩
  have hread : parser command env (words ++ more) = .ok { m with free := m.free ++ more } :=
    (hr env _).trans (hmore hne more)
  exact map_eq_ok_iff.mpr ⟨_, hread, rfl⟩

theorem parse_debug_word_keeps_free_words :
    parse [("CASABUILD_HARNESS", "assay")] ["-vj", "4", "--dry-run", "--debug=x", "-q"] =
      .ok { verbose := 1, jobs := some 4, dryRun := true, harness := some "assay",
            args := ["--debug=x", "-q"] } ∧
    parse [("CASABUILD_HARNESS", "assay")]
        (["-vj", "4", "--dry-run", "--debug=x", "-q"] ++ ["--help", "--", "--jobs"]) =
      .ok { verbose := 1, jobs := some 4, dryRun := true, harness := some "assay",
            args := ["--debug=x", "-q", "--help", "--", "--jobs"] } :=
  have h : parse [("CASABUILD_HARNESS", "assay")] ["-vj", "4", "--dry-run", "--debug=x", "-q"] =
      .ok { verbose := 1, jobs := some 4, dryRun := true, harness := some "assay",
            args := ["--debug=x", "-q"] } := rfl
  ⟨h, (parse_keeps_free_words Command.takesTrailing_parse h).2 (List.cons_ne_nil _ _)
    ["--help", "--", "--jobs"]⟩

end Options

end OrderedBuild
