import LineMachine.Cli.Commands
import LineMachine.Cli.Memory
import LineMachine.Proofs.Except

/-!
# Files of a host in memory

What was written to a file is what is read from it (`FileTree.Writable.exists_write`), by the path
that it was written to. A path is followed from directory to directory, and writing changes neither
which of them are on the way nor where they lead: the one location that is written is no directory,
and a location that was a directory still is one.

`Memory.perform` runs a command on such a host. A command that reads leaves the host as it was, and
one that writes to a file changes that file only.
-/

namespace LineMachine.Cli

namespace FileTree

variable {t : FileTree} {l : Location}

/-! ## Putting a file -/

/-- Another location than the one that was put holds what it held. -/
theorem hasFile_put_of_ne {k : Location} (h : k ≠ l) (text : String) :
    (t.put l text).hasFile k = t.hasFile k := by
  rw [Bool.eq_iff_iff, hasFile, hasFile, put, List.any_append, List.any_filter, Bool.or_eq_true,
    List.any_eq_true, List.any_eq_true, List.any_eq_true]
  simp only [Bool.and_eq_true, bne_iff_ne, beq_iff_eq, List.mem_singleton]
  constructor
  · rintro (⟨f, hf, -, hk⟩ | ⟨f, rfl, hk⟩)
    · exact ⟨f, hf, hk⟩
    · exact absurd hk.symm h
  · rintro ⟨f, hf, hk⟩
    exact .inl ⟨f, hf, hk ▸ h, hk⟩

/-- What was a directory still is one. -/
theorem hasDirectory_put (text : String) {k : Location} (h : t.hasDirectory k = true) :
    (t.put l text).hasDirectory k = true := by
  rw [hasDirectory, Bool.or_eq_true] at h ⊢
  refine h.imp_right ?_
  intro hbelow
  obtain ⟨f, hf, hk⟩ := List.any_eq_true.mp hbelow
  rw [put, List.any_append, Bool.or_eq_true]
  by_cases hl : f.1 = l
  · -- The file that makes it a directory was replaced by the one that was put.
    rw [hl] at hk
    exact .inr (List.any_eq_true.mpr ⟨(l, text), List.mem_singleton_self _, hk⟩)
  · exact .inl (List.any_eq_true.mpr ⟨f, List.mem_filter.mpr ⟨hf, bne_iff_ne.mpr hl⟩, hk⟩)

theorem lookup_put (t : FileTree) (l : Location) (text : String) :
    (t.put l text).lookup l = some text := by
  have hnone : (t.filter (·.1 != l)).lookup l = none := by
    rw [List.lookup_eq_none_iff]
    intro f hf
    have hne := (List.mem_filter.mp hf).2
    rw [bne_comm] at hne
    simpa using hne
  rw [put, List.lookup_append, hnone, List.lookup_cons, beq_self_eq_true]
  rfl

theorem hasFile_put_self (t : FileTree) (l : Location) (text : String) :
    (t.put l text).hasFile l = true := by
  rw [hasFile, put, List.any_append, List.any_cons, beq_self_eq_true, Bool.true_or, Bool.or_true]

/-! ## Following a path -/

/-- A step that could be taken leads to the same location after a file was put where no directory
is. -/
theorem step_put (hl : t.hasDirectory l = false) (text : String) {k k' : Location} {part : String}
    (h : t.step k part = .ok k') : (t.put l text).step k part = .ok k' := by
  unfold step at h ⊢
  by_cases hfile : t.hasFile k = true
  · rw [if_pos hfile] at h
    cases h
  · rw [if_neg hfile] at h
    by_cases hdirectory : t.hasDirectory k = true
    · have hne : k ≠ l := by
        rintro rfl
        rw [hl] at hdirectory
        cases hdirectory
      rw [hdirectory] at h
      rw [hasFile_put_of_ne hne, if_neg hfile, hasDirectory_put text hdirectory]
      exact h
    · rw [eq_false_of_ne_true hdirectory] at h
      cases h

theorem foldlM_step_put (hl : t.hasDirectory l = false) (text : String) {parts : List String}
    {k k' : Location} (h : parts.foldlM t.step k = .ok k') :
    parts.foldlM (t.put l text).step k = .ok k' := by
  induction parts generalizing k with
  | nil => exact h
  | cons part parts ih =>
    rw [List.foldlM_cons] at h ⊢
    obtain ⟨next, hnext, hrest⟩ := bind_eq_ok.mp h
    rw [step_put hl text hnext]
    exact ih hrest

/-- A path that leads somewhere is followed from its first part on. -/
theorem locate_eq_ok {path : String} {k : Location} :
    t.locate path = .ok k ↔ path.toList ≠ [] ∧ path.toList.head? ≠ some '/' ∧
      ((Text.splitAtChar '/' path.toList).map String.ofList).foldlM t.step [] = .ok k := by
  rw [locate]
  split
  · next hnil => simp [hnil]
  · next hslash => simp [hslash]
  · next hne hslash =>
    have hhead : path.toList.head? ≠ some '/' := by
      intro hhead
      obtain ⟨rest, hrest⟩ := List.head?_eq_some_iff.mp hhead
      exact hslash rest hrest
    exact ⟨fun h ↦ ⟨hne, hhead, h⟩, fun h ↦ h.2.2⟩

theorem locate_put (hl : t.hasDirectory l = false) (text : String) {path : String} {k : Location}
    (h : t.locate path = .ok k) : (t.put l text).locate path = .ok k := by
  rw [locate_eq_ok] at h ⊢
  exact ⟨h.1, h.2.1, foldlM_step_put hl text h.2.2⟩

/-! ## Writing and reading -/

/-- Holds of a path that a file can be written to. -/
def Writable (t : FileTree) (path : String) : Prop :=
  ∃ l, t.locate path = .ok l ∧ t.hasDirectory l = false

/-- **What was written to a path is read from it.** -/
theorem Writable.exists_write {path : String} (h : t.Writable path) (text : String) :
    ∃ u, t.write path text = .ok u ∧ u.kindOf path = some .file ∧ u.read? path = some text := by
  obtain ⟨l, hl, hdirectory⟩ := h
  have hlocate := locate_put hdirectory text hl
  refine ⟨t.put l text, ?_, ?_, ?_⟩
  · rw [write, hl, ok_bind, hdirectory]
    rfl
  · simp only [kindOf, hlocate, hasFile_put_self, if_true]
  · simp only [read?, hlocate, lookup_put]

end FileTree

/-! ## Running commands -/

namespace Memory

variable {α β : Type}

/-- Runs a command on a host in memory. -/
def perform (m : Memory) (c : Command (StateM Memory) α) : Except Stop α × Memory :=
  c.run.run m

theorem perform_bind {m m' : Memory} {c : Command (StateM Memory) α} {a : α}
    (h : m.perform c = (.ok a, m')) (f : α → Command (StateM Memory) β) :
    m.perform (c >>= f) = m'.perform (f a) := by
  rw [perform, StateT.run] at h
  rw [perform, ExceptT.run_bind, StateT.run_bind, StateT.run, h]
  rfl

/-- A command that stops leaves nothing of what follows. -/
theorem perform_bind_error {m m' : Memory} {c : Command (StateM Memory) α} {stop : Stop}
    (h : m.perform c = (.error stop, m')) (f : α → Command (StateM Memory) β) :
    m.perform (c >>= f) = (.error stop, m') := by
  rw [perform, StateT.run] at h
  rw [perform, ExceptT.run_bind, StateT.run_bind, StateT.run, h]
  rfl

theorem perform_lift {m m' : Memory} {x : StateM Memory α} {a : α} (h : x.run m = (a, m')) :
    m.perform (liftM x) = (.ok a, m') := by
  have hlift : m.perform (liftM x) = (.ok (x.run m).1, (x.run m).2) := rfl
  rw [hlift, h]

/-- Writing to the log touches no file. -/
theorem perform_log (m : Memory) (settings : Log.Settings) (events : List Event) :
    ∃ m', m.perform (Command.log settings events) = (.ok (), m') ∧ m'.files = m.files :=
  ⟨_, rfl, rfl⟩

theorem perform_write {m : Memory} {path text : String} {files : FileTree}
    (h : m.files.write path text = .ok files) :
    m.perform ((Target.file path).write text) = (.ok (), { m with files := files }) := by
  have hwrite : (Host.writeFile (m := StateM Memory) path text).run m =
      (none, { m with files := files }) := by
    have hfile : (Host.writeFile (m := StateM Memory) path text).run m = writeFile path text m :=
      rfl
    rw [hfile, writeFile, h]
  exact (perform_bind (perform_lift hwrite) _).trans rfl

theorem perform_read {m : Memory} {path text : String} (h : m.files.read? path = some text) :
    m.perform (Source.file path).read = (.ok (Text.universalNewlines text), m) := by
  have hread : (m.files.read? path).getD "" = text := by
    rw [h, Option.getD_some]
  rw [← hread]
  rfl

/-- What is read of a file is what its text is read as. -/
theorem perform_readDocument {m : Memory} {path text : String}
    (hkind : m.files.kindOf path = some .file) (htext : m.files.read? path = some text) :
    m.perform (Command.readDocument path) =
      (.ok (Json.read? (Text.universalNewlines text)), m) := by
  have hkindOf : m.perform (liftM (Host.kindOf (m := StateM Memory) path)) =
      (.ok (some .file), m) := by
    rw [← hkind]
    rfl
  refine (perform_bind hkindOf _).trans ?_
  rw [if_neg (by decide), perform_bind (perform_read htext)]
  rfl

end Memory

end LineMachine.Cli
