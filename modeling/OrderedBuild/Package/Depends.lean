namespace OrderedBuild

structure Depends where
  entries : List (String × List String)
  increasing : entries.Pairwise fun a b => a.1 < b.1

namespace Depends

def empty : Depends :=
  ⟨[], .nil⟩

def insertEntry (name : String) (deps : List String) :
    List (String × List String) → List (String × List String)
  | [] => [(name, deps)]
  | e :: es =>
    if name < e.1 then (name, deps) :: e :: es
    else if name = e.1 then (name, deps) :: es
    else e :: insertEntry name deps es

theorem mem_insertEntry {name : String} {deps : List String} {e : String × List String}
    {es : List (String × List String)} (h : e ∈ insertEntry name deps es) :
    e = (name, deps) ∨ e ∈ es := by
  induction es with
  | nil => simpa [insertEntry] using h
  | cons a es ih => grind [insertEntry]

theorem insertEntry_increasing (name : String) (deps : List String)
    {es : List (String × List String)} (h : es.Pairwise fun a b => a.1 < b.1) :
    (insertEntry name deps es).Pairwise fun a b => a.1 < b.1 := by
  induction es with
  | nil => simp [insertEntry]
  | cons a es ih =>
    obtain ⟨ha, hes⟩ := List.pairwise_cons.mp h
    unfold insertEntry
    split
    · next hlt =>
      refine List.pairwise_cons.mpr ⟨fun b hb => ?_, h⟩
      rcases List.mem_cons.mp hb with rfl | hb
      · exact hlt
      · exact String.lt_trans hlt (ha b hb)
    · split
      · next heq =>
        refine List.pairwise_cons.mpr ⟨fun b hb => ?_, hes⟩
        simpa [heq] using ha b hb
      · next hlt hne =>
        refine List.pairwise_cons.mpr ⟨fun b hb => ?_, ih hes⟩
        rcases mem_insertEntry hb with rfl | hb
        · exact Std.lt_of_le_of_ne (String.not_lt.mp hlt) (Ne.symm hne)
        · exact ha b hb

/-- Declares the prerequisites of a package, in place of earlier ones. -/
def insert (d : Depends) (name : String) (deps : List String) : Depends :=
  ⟨insertEntry name deps d.entries, insertEntry_increasing name deps d.increasing⟩

def ofList (es : List (String × List String)) : Depends :=
  es.foldl (fun d e => d.insert e.1 e.2) empty

def names (d : Depends) : List String :=
  d.entries.map (·.1)

def find? (d : Depends) (name : String) : Option (List String) :=
  d.entries.lookup name

def contains (d : Depends) (name : String) : Bool :=
  (d.find? name).isSome

def size (d : Depends) : Nat :=
  d.entries.length

theorem mem_names_of_find? {d : Depends} {name : String} {deps : List String}
    (h : d.find? name = some deps) : name ∈ d.names := by
  unfold find? at h
  unfold names
  generalize d.entries = es at h
  induction es with
  | nil => simp at h
  | cons e es ih =>
    rw [List.lookup_cons] at h
    split at h
    · next he => simp [beq_iff_eq.mp he]
    · exact List.mem_cons_of_mem _ (ih h)

/-- How many packages of the map are not on the path. -/
def offPath (d : Depends) (path : List String) : Nat :=
  (d.names.filter (· ∉ path)).length

theorem offPath_lt {d : Depends} {path below : List String} {name : String} {deps : List String}
    (h : d.find? name = some deps) (hn : name ∉ path) (hb : ∀ p, p ∈ below ↔ p = name ∨ p ∈ path) :
    d.offPath below < d.offPath path := by
  have hm : name ∈ d.names.filter (· ∉ path) := by
    simpa [hn] using mem_names_of_find? h
  have hsplit : d.names.filter (· ∉ below) = (d.names.filter (· ∉ path)).filter (· ≠ name) := by
    rw [List.filter_filter]
    exact List.filter_congr fun p _ => by simp [hb p, not_or]
  unfold offPath
  rw [hsplit]
  exact List.length_filter_lt_length_iff_exists.mpr ⟨name, hm, by simp⟩

theorem offPath_concat_lt {d : Depends} {path : List String} {name : String}
    {deps : List String} (h : d.find? name = some deps) (hn : name ∉ path) :
    d.offPath (path ++ [name]) < d.offPath path :=
  offPath_lt h hn fun p => by simp [or_comm]

end Depends

end OrderedBuild
