import OrderedBuild.Proofs.Package.Table

namespace OrderedBuild.Depends

variable {d : Depends} {c xs : List String} {p q : String}

/-- Right up to every entry the list holds the closure of the entry. -/
def ListsClosures (d : Depends) (xs : List String) : Prop :=
  ∀ before p after, xs = before ++ p :: after →
    ∃ c, d.closure p = .ok c ∧ c <:+ before ++ [p]

theorem listsClosures_flatMap {part : String → List String}
    (h : ∀ x ∈ xs, d.ListsClosures (part x)) : d.ListsClosures (xs.flatMap part) := by
  refine forall_split_flatMap (fun front before p hp => ?_) h
  obtain ⟨c, hc, hsuffix⟩ := hp
  rw [List.append_assoc]
  exact ⟨c, hc, hsuffix.trans (List.suffix_append front _)⟩

theorem listsClosures_of_closure (h : d.closure p = .ok c) : d.ListsClosures c := by
  refine closure_induction (motive := fun _ c => d.ListsClosures c)
    (fun name part hname hparts => ?_) h
  exact forall_split_concat_iff.mpr
    ⟨listsClosures_flatMap hparts, _, hname, List.suffix_rfl⟩

theorem ListsClosures.exists_extract_eq (h : d.ListsClosures xs) {i : Nat} (hi : xs[i]? = some q) :
    ∃ c, d.closure q = .ok c ∧ c.length ≤ i + 1 ∧ xs.extract (i + 1 - c.length) (i + 1) = c := by
  obtain ⟨hlt, hq⟩ := List.getElem?_eq_some_iff.mp hi
  obtain ⟨c, hc, hsuffix⟩ := h _ q _ (eq_take_append_cons_drop hi)
  have htake : xs.take i ++ [q] = xs.take (i + 1) := by
    rw [← hq, List.take_append_getElem hlt]
  rw [htake] at hsuffix
  exact ⟨c, hc, extract_eq_of_suffix_take hlt hsuffix⟩

theorem count_closure_self (h : d.closure p = .ok c) : c.count p = 1 := by
  obtain ⟨below, rfl, hbelow⟩ := exists_eq_concat_of_closure h
  have hp : p ∉ below := fun hmem =>
    not_needs_self_of_expand h (by simp) ((hbelow p).mp hmem)
  rw [List.count_append, List.count_eq_zero_of_not_mem hp, List.count_singleton_self]

/-- Each entry of a closure comes right after the rest of its own closure, and the package itself
stands at the end only. -/
theorem closure_ends_closures_at_entries {t : DependencyTable} (h : t.Accepted) (p : String) :
    ∃ xs, t.depends.closure p = .ok xs ∧
      (∀ i q, xs[i]? = some q → ∃ part, t.depends.closure q = .ok part ∧ part.length ≤ i + 1 ∧
        xs.extract (i + 1 - part.length) (i + 1) = part) ∧
      xs.count p = 1 ∧ xs.getLast? = some p := by
  obtain ⟨xs, hxs⟩ := h.sound.acyclic.exists_closure_eq_ok p
  obtain ⟨below, rfl, -⟩ := exists_eq_concat_of_closure hxs
  exact ⟨_, hxs, fun i q hi => (listsClosures_of_closure hxs).exists_extract_eq hi,
    count_closure_self hxs, List.getLast?_concat⟩

theorem closure_casacore_ends_closures_at_entries :
    DependencyTable.casacore.Accepted ∧
    ∃ xs part, DependencyTable.casacore.depends.closure "msvis" = .ok xs ∧
      DependencyTable.casacore.depends.closure "scimath" = .ok part ∧
      xs[3]? = some "scimath" ∧ part = ["casa", "scimath"] ∧ xs.extract 2 4 = part ∧
      xs.count "msvis" = 1 := by
  have hclosure : DependencyTable.casacore.depends.closure "msvis" =
      .ok ["casa", "tables", "casa", "scimath", "measures", "ms", "msvis"] := by decide +kernel
  have hpart : DependencyTable.casacore.depends.closure "scimath" =
      .ok ["casa", "scimath"] := by decide +kernel
  obtain ⟨xs, hxs, hentries, hcount, -⟩ := closure_ends_closures_at_entries .casacore "msvis"
  obtain rfl := Except.ok.inj (hclosure.symm.trans hxs)
  obtain ⟨part, hpart', -, hextract⟩ := hentries 3 "scimath" rfl
  obtain rfl := Except.ok.inj (hpart.symm.trans hpart')
  exact ⟨.casacore, _, _, hxs, hpart, rfl, rfl, hextract, hcount⟩

end OrderedBuild.Depends
