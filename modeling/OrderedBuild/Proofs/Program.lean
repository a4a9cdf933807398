import OrderedBuild.Program

namespace OrderedBuild.Program

variable {α β : Type} {x : Work α} {f : α → Work β} {s : Surroundings} {o : Options}
  {programs programs' : Programs} {m : Machine} {accountHome : String} {processors : Nat}
  {words : List String}

/-- However the work ends, the machine is as it was before. -/
def Keeps (x : Work α) : Prop :=
  ∀ p, (x.run.run p).2.machine = p.machine

theorem keeps_say (messages : List Message) : Keeps (say messages) :=
  fun _ => rfl

theorem keeps_liftM (r : Except Trouble α) : Keeps (liftM r) := by
  intro p
  cases r with
  | error e => rfl
  | ok a => rfl

theorem Keeps.bind (hx : Keeps x) (hf : ∀ a, Keeps (f a)) : Keeps (x >>= f) := by
  intro p
  rw [ExceptT.run_bind, StateT.run_bind]
  have hkept := hx p
  rcases hr : x.run.run p with ⟨e | a, p'⟩
  · rw [hr] at hkept
    exact hkept
  · rw [hr] at hkept
    exact (hf a p').trans hkept

theorem keeps_prepare (s : Surroundings) (o : Options) : Keeps (prepare s o) :=
  (keeps_say _).bind fun _ => keeps_liftM _

theorem keeps_work (h : o.list ∨ o.dryRun) : Keeps (work s o programs) := by
  refine (keeps_prepare s o).bind fun session => ?_
  split
  · exact keeps_say _
  next hlist =>
    rw [if_pos (h.resolve_left hlist)]
    split
    · exact keeps_say _
    · exact keeps_say _

theorem work_congr (h : o.list ∨ o.dryRun) : work s o programs = work s o programs' := by
  unfold work
  congr 1
  funext session
  split
  · rfl
  next hlist => rw [if_pos (h.resolve_left hlist), if_pos (h.resolve_left hlist)]

/-- Listing the packages and telling what would be done change no file and start no program,
whether they succeed or fail. -/
theorem run_of_dry (hparse : Options.parse m.env words = .ok o) (h : o.list ∨ o.dryRun) :
    (run m accountHome processors words programs).tree = m.tree ∧
      run m accountHome processors words programs =
        run m accountHome processors words programs' := by
  constructor
  · have hwork : Keeps (work (surroundings m accountHome processors) o programs) := keeps_work h
    have hkept := hwork ⟨[], m⟩
    unfold run
    rw [hparse]
    rcases hr : (work (surroundings m accountHome processors) o programs).run.run ⟨[], m⟩ with
      ⟨e | a, p⟩
    · rw [hr] at hkept
      simpa only [hr] using congrArg Machine.tree hkept
    · rw [hr] at hkept
      simpa only [hr] using congrArg Machine.tree hkept
  · have hwork : work (surroundings m accountHome processors) o programs =
        work (surroundings m accountHome processors) o programs' := work_congr h
    unfold run
    simp only [hparse, hwork]

end OrderedBuild.Program
