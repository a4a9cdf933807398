import OrderedBuild.Package.Depends

namespace OrderedBuild.Depends

def prerequisites (d : Depends) (name : String) : List String :=
  (d.find? name).getD []

/-- There is a chain of one or more steps from a package to a prerequisite. -/
inductive Needs (d : Depends) : String → String → Prop
  | direct {p q : String} (h : q ∈ d.prerequisites p) : Needs d p q
  | step {p q r : String} (h : q ∈ d.prerequisites p) (t : Needs d q r) : Needs d p r

def declared (d : Depends) : List String :=
  d.entries.flatMap (·.2)

def unseen (d : Depends) (seen : List String) : Nat :=
  (d.declared.eraseDups.filter (· ∉ seen)).length

/-- The prerequisites of a package that have not been seen, each once. -/
def fresh (d : Depends) (seen : List String) (name : String) : List String :=
  ((d.prerequisites name).filter (· ∉ seen)).eraseDups

theorem mem_declared_of_mem_prerequisites {d : Depends} {p q : String}
    (h : q ∈ d.prerequisites p) : q ∈ d.declared := by
  unfold prerequisites at h
  cases hf : d.find? p with
  | none => simp [hf] at h
  | some deps =>
    rw [hf, Option.getD_some] at h
    unfold find? at hf
    unfold declared
    generalize d.entries = es at hf
    induction es with
    | nil => simp at hf
    | cons e es ih =>
      rw [List.lookup_cons] at hf
      rw [List.flatMap_cons, List.mem_append]
      split at hf
      · exact .inl (by simpa [Option.some.inj hf] using h)
      · exact .inr (ih hf)

theorem length_filter_notMem {xs seen new : List String} (hx : xs.Nodup)
    (hn : new.Nodup) (hs : ∀ a ∈ new, a ∈ xs ∧ a ∉ seen) :
    (xs.filter (· ∉ new ++ seen)).length + new.length = (xs.filter (· ∉ seen)).length := by
  induction new with
  | nil => simp
  | cons b new ih =>
    obtain ⟨hb, hn⟩ := List.nodup_cons.mp hn
    have ih := ih hn fun a ha => hs a (List.mem_cons_of_mem _ ha)
    obtain ⟨hbx, hbs⟩ := hs b List.mem_cons_self
    have hmem : b ∈ xs.filter (· ∉ new ++ seen) := by simp [hbx, hb, hbs]
    have hsplit : xs.filter (· ∉ b :: new ++ seen) =
        (xs.filter (· ∉ new ++ seen)).erase b := by
      rw [List.Nodup.erase_eq_filter (hx.filter _), List.filter_filter]
      apply List.filter_congr
      intro a _
      by_cases h : a = b <;> simp [h]
    rw [hsplit, List.length_erase_of_mem hmem]
    have := List.length_pos_of_mem hmem
    simp only [List.length_cons]
    omega

theorem nodup_eraseDups (xs : List String) : xs.eraseDups.Nodup := by
  generalize hn : xs.length = n
  induction n using Nat.strongRecOn generalizing xs with
  | _ n ih =>
    cases xs with
    | nil => simp
    | cons a xs =>
      rw [List.eraseDups_cons]
      refine List.nodup_cons.mpr ⟨fun h => ?_, ih _ ?_ _ rfl⟩
      · simp [List.mem_eraseDups] at h
      · have := List.length_filter_le (fun b => !b == a) xs
        simp only [List.length_cons] at hn
        omega

theorem unseen_append_fresh (d : Depends) (seen : List String) (name : String) :
    d.unseen (d.fresh seen name ++ seen) + (d.fresh seen name).length = d.unseen seen := by
  refine length_filter_notMem (nodup_eraseDups _) (nodup_eraseDups _) fun a ha => ?_
  have ha := List.mem_eraseDups.mp ha
  simp only [List.mem_filter, decide_eq_true_eq] at ha
  exact ⟨List.mem_eraseDups.mpr (mem_declared_of_mem_prerequisites ha.1), ha.2⟩

def search (d : Depends) (target : String) (seen : List String) : List String → Bool
  | [] => false
  | name :: rest =>
    if target ∈ d.prerequisites name then true
    else search d target (d.fresh seen name ++ seen) ((d.fresh seen name).reverse ++ rest)
termination_by todo => d.unseen seen + todo.length
decreasing_by
  have := unseen_append_fresh d seen name
  simp only [List.length_append, List.length_reverse, List.length_cons]
  omega

/-- Whether `dependency` is a transitive prerequisite of `package`. -/
def requires (d : Depends) (package dependency : String) : Bool :=
  d.search dependency [] [package]

end OrderedBuild.Depends
