import Mathlib.Data.List.Nodup
import Mathlib.Data.Set.Card
import OrderedBuild.Proofs.Package.Table

namespace OrderedBuild.Depends

variable {d : Depends} {c deps : List String} {p q : String} {route : List Nat}
  {below : String → List (List Nat)} {i : Nat}

/-- The package to which a route leads. At each package on its way it takes one of the places in
the list of prerequisites, so a prerequisite declared twice lies on two routes. -/
def routeEnd? (d : Depends) (p : String) : List Nat → Option String
  | [] => some p
  | i :: route => (d.prerequisites p)[i]?.bind fun q => d.routeEnd? q route

@[simp] theorem routeEnd?_nil (d : Depends) (p : String) : d.routeEnd? p [] = some p := rfl

theorem routeEnd?_cons (h : (d.prerequisites p)[i]? = some q) :
    d.routeEnd? p (i :: route) = d.routeEnd? q route := by
  rw [routeEnd?, h, Option.bind_some]

theorem isSome_routeEnd?_cons_iff : (d.routeEnd? p (i :: route)).isSome ↔
    ∃ q, (d.prerequisites p)[i]? = some q ∧ (d.routeEnd? q route).isSome := by
  rw [routeEnd?]
  cases (d.prerequisites p)[i]? with
  | none => simp
  | some q => simp

def branches (below : String → List (List Nat)) (deps : List String) : List (List Nat) :=
  deps.zipIdx.flatMap fun e => (below e.1).map (e.2 :: ·)

theorem mem_branches_iff : route ∈ branches below deps ↔
    ∃ i rest q, route = i :: rest ∧ deps[i]? = some q ∧ rest ∈ below q := by
  rw [branches, List.mem_flatMap]
  constructor
  · rintro ⟨⟨q, i⟩, he, hroute⟩
    obtain ⟨rest, hrest, rfl⟩ := List.mem_map.mp hroute
    exact ⟨i, rest, q, rfl, List.mk_mem_zipIdx_iff_getElem?.mp he, hrest⟩
  · rintro ⟨i, rest, q, rfl, hq, hrest⟩
    exact ⟨(q, i), List.mk_mem_zipIdx_iff_getElem?.mpr hq, List.mem_map_of_mem hrest⟩

theorem nil_notMem_branches : [] ∉ branches below deps := by
  intro h
  obtain ⟨i, rest, q, hroute, -⟩ := mem_branches_iff.mp h
  exact List.cons_ne_nil i rest hroute.symm

theorem nodup_branches (h : ∀ q ∈ deps, (below q).Nodup) : (branches below deps).Nodup := by
  rw [branches, List.nodup_flatMap]
  constructor
  · rintro ⟨q, i⟩ he
    have hq : q ∈ deps := List.mem_of_getElem? (List.mk_mem_zipIdx_iff_getElem?.mp he)
    exact (h q hq).map List.cons_injective
  · -- Routes that take different places in the list differ in their first step.
    have hplaces : (deps.zipIdx.map Prod.snd).Nodup := by
      rw [List.zipIdx_map_snd]
      exact List.nodup_range'
    refine (List.pairwise_map.mp hplaces).imp fun hne route hroute hroute' => ?_
    obtain ⟨rest, -, rfl⟩ := List.mem_map.mp hroute
    obtain ⟨rest', -, heq⟩ := List.mem_map.mp hroute'
    exact hne (List.cons.inj heq).1.symm

theorem map_routeEnd?_branches :
    (branches below (d.prerequisites p)).map (d.routeEnd? p) =
      (d.prerequisites p).flatMap fun q => (below q).map (d.routeEnd? q) := by
  have hstep : ∀ e ∈ (d.prerequisites p).zipIdx,
      ((below e.1).map (e.2 :: ·)).map (d.routeEnd? p) = (below e.1).map (d.routeEnd? e.1) := by
    rintro ⟨q, i⟩ he
    rw [List.map_map]
    refine List.map_congr_left fun route _ => ?_
    exact routeEnd?_cons (List.mk_mem_zipIdx_iff_getElem?.mp he)
  have hfst : (d.prerequisites p).zipIdx.map Prod.fst = d.prerequisites p :=
    List.zipIdx_map_fst 0 _
  rw [branches, List.map_flatMap, List.flatMap_congr hstep]
  conv => rhs; rw [← hfst]
  rw [List.flatMap_map]

/-- All routes from a package, each once, and in the order of a list the packages to which they
lead. -/
structure Enumerates (d : Depends) (p : String) (routes : List (List Nat)) (c : List String) :
    Prop where
  nodup : routes.Nodup
  mem_iff : ∀ route, route ∈ routes ↔ (d.routeEnd? p route).isSome
  map_routeEnd? : routes.map (d.routeEnd? p) = c.map some

theorem enumerates_branches {part : String → List String}
    (h : ∀ q ∈ d.prerequisites p, d.Enumerates q (below q) (part q)) :
    d.Enumerates p (branches below (d.prerequisites p) ++ [[]])
      ((d.prerequisites p).flatMap part ++ [p]) := by
  constructor
  · rw [← List.concat_eq_append]
    exact (nodup_branches fun q hq => (h q hq).nodup).concat nil_notMem_branches
  · intro route
    rw [List.mem_append, List.mem_singleton]
    cases route with
    | nil => simp
    | cons i rest =>
      rw [mem_branches_iff, isSome_routeEnd?_cons_iff]
      constructor
      · rintro (⟨i', rest', q, hroute, hq, hrest⟩ | hroute)
        · obtain ⟨rfl, rfl⟩ := List.cons.inj hroute
          exact ⟨q, hq, ((h q (List.mem_of_getElem? hq)).mem_iff _).mp hrest⟩
        · exact absurd hroute (List.cons_ne_nil i rest)
      · rintro ⟨q, hq, hrest⟩
        have hrest := ((h q (List.mem_of_getElem? hq)).mem_iff rest).mpr hrest
        exact .inl ⟨i, rest, q, rfl, hq, hrest⟩
  · have hparts : (d.prerequisites p).flatMap (fun q => (below q).map (d.routeEnd? q)) =
        (d.prerequisites p).flatMap fun q => (part q).map some :=
      List.flatMap_congr fun q hq => (h q hq).map_routeEnd?
    rw [List.map_append, List.map_append, map_routeEnd?_branches, hparts, List.map_flatMap]
    rfl

theorem exists_enumerates_of_closure (h : d.closure p = .ok c) :
    ∃ routes, d.Enumerates p routes c := by
  refine closure_induction (motive := fun p c => ∃ routes, d.Enumerates p routes c)
    (fun name part _ hparts => ?_) h
  choose! below hbelow using hparts
  exact ⟨_, enumerates_branches hbelow⟩

theorem Enumerates.encard_eq {routes : List (List Nat)} (h : d.Enumerates p routes c)
    (q : String) : {route | d.routeEnd? p route = some q}.encard = c.count q := by
  have hset : {route | d.routeEnd? p route = some q} =
      ((routes.filter fun route => d.routeEnd? p route = some q).toFinset : Set (List Nat)) := by
    ext route
    have hroute : d.routeEnd? p route = some q → route ∈ routes := fun he =>
      (h.mem_iff route).mpr (by rw [he]; rfl)
    simpa using hroute
  have hcount : (routes.filter fun route => d.routeEnd? p route = some q).length = c.count q := by
    rw [← List.countP_eq_length_filter, ← List.count_map_of_injective c some (Option.some_injective _),
      ← h.map_routeEnd?, List.count, List.countP_map]
    refine List.countP_congr fun route _ => by simp
  rw [hset, Set.encard_coe_eq_coe_finsetCard, List.toFinset_card_of_nodup (h.nodup.filter _), hcount]

/-- A package stands in the closure of another as often as there are routes to it. -/
theorem count_closure_eq_encard_routes {t : DependencyTable} (h : t.Accepted) (p q : String) :
    ∃ c, t.depends.closure p = .ok c ∧
      {route | t.depends.routeEnd? p route = some q}.encard = c.count q := by
  obtain ⟨c, hc⟩ := h.sound.acyclic.exists_closure_eq_ok p
  obtain ⟨routes, hroutes⟩ := exists_enumerates_of_closure hc
  exact ⟨c, hc, hroutes.encard_eq q⟩

def layers : Depends :=
  .ofList [("base", []), ("middle", ["base", "base"]), ("top", ["base", "middle"])]

theorem count_closure_layers_eq_encard_routes :
    DependencyTable.Accepted ⟨layers, ["base", "middle", "top"]⟩ ∧
    layers.closure "top" = .ok ["base", "base", "base", "middle", "top"] ∧
    {route | layers.routeEnd? "top" route = some "base"}.encard = 3 := by
  have htopological : layers.topologicalOrder = .ok ["base", "middle", "top"] := by decide +kernel
  have haccepted : DependencyTable.Accepted ⟨layers, ["base", "middle", "top"]⟩ :=
    .of_checkOrder (by decide) htopological (by decide)
  have hclosure : layers.closure "top" = .ok ["base", "base", "base", "middle", "top"] := by
    decide +kernel
  obtain ⟨c, hc, hcount⟩ := count_closure_eq_encard_routes haccepted "top" "base"
  obtain rfl := Except.ok.inj (hclosure.symm.trans hc)
  exact ⟨haccepted, hclosure, hcount⟩

example : layers.routeEnd? "top" [1, 0] = some "base" ∧ layers.routeEnd? "top" [1, 1] = some "base" ∧
    layers.routeEnd? "top" [1, 2] = none := by decide

end OrderedBuild.Depends
