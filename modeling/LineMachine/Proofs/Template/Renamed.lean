import Mathlib.Data.List.Forall2
import LineMachine.Machine.Run
import LineMachine.Proofs.Table

/-!
# Renaming variables

A *renaming* takes every variable to another one, different variables to different ones. It is
carried through a template wherever variables are named: in the declarations, in the actions that
give, remove or extend a variable, and in the variables that named groups are stored in. The last
of these is not a matter of the map of a rule alone, since a group that the map leaves out is stored
in the variable of its own name: what counts is where each named group of the pattern ends up
(`Rule.Renames`). The groups themselves keep their names, and so do the operands that speak of them.

`Template.renamed` carries a renaming through, by giving every rule a map with an entry for each
named group of its pattern (`renames_renamed`).
-/

namespace LineMachine

/-! ## Renamings -/

/-- A way to give variables other names. Different variables keep being different, and no name that
a group could be stored under becomes one that is passed over. -/
structure Renaming where
  toFun : Key → Key
  same_iff (j k : Key) : (toFun j).same (toFun k) = j.same k
  truthy {k : Key} : (∃ s, k = .str s) ∨ (Value.ofKey k).truthy = true →
    (Value.ofKey (toFun k)).truthy = true

namespace Renaming

instance : CoeFun Renaming fun _ ↦ Key → Key := ⟨toFun⟩

attribute [simp] same_iff

/-- A text in place of another one; keys of other kinds are left alone. -/
def textKey (f : String → String) : Key → Key
  | .str s => .str (f s)
  | k => k

theorem normal_textKey (f : String → String) (k : Key) :
    (textKey f k).normal = textKey f k.normal := by
  cases k with
  | null | bool | int | str => rfl
  | float d =>
    change Key.normal (.float d) = textKey f (Key.normal (.float d))
    rw [Key.normal]
    split <;> rfl

theorem textKey_injective {f : String → String} (hf : Function.Injective f) :
    Function.Injective (textKey f) := by
  intro j k h
  cases j with
  | str s =>
    cases k with
    | str t => exact congrArg Key.str (hf (Key.str.inj h))
    | null | bool | int | float => cases h
  | null | bool | int | float =>
    cases k with
    | str t => cases h
    | null | bool | int | float => exact h

/-- Whether keys are the same is decided by their normal forms, and these are changed alike. -/
theorem same_textKey {f : String → String} (hf : Function.Injective f) (j k : Key) :
    (textKey f j).same (textKey f k) = j.same k := by
  rw [Key.same, Key.same, normal_textKey, normal_textKey]
  exact (textKey_injective hf).beq_eq

/-- Texts in place of texts. -/
def ofTexts (f : String → String) (hf : Function.Injective f) (hne : ∀ s, f s ≠ "") : Renaming where
  toFun := textKey f
  same_iff := same_textKey hf
  truthy {k} hk := by
    cases k with
    | str s => exact bne_iff_ne.mpr (hne s)
    | null | bool | int | float =>
      rcases hk with ⟨s, hs⟩ | hk
      · cases hs
      · exact hk

end Renaming

/-! ## Values and tables -/

/-- What a name becomes. A list or an object names nothing and is left alone. -/
def Value.renamed (f : Renaming) (v : Value) : Value :=
  match v.key? with
  | some k => ofKey (f k)
  | none => v

theorem Value.ofKey_of_key? {v : Value} {k : Key} (h : v.key? = some k) : ofKey k = v := by
  cases v with
  | list | object => cases h
  | null | bool | int | float | str =>
    cases h
    rfl

@[simp] theorem Value.key?_renamed (f : Renaming) (v : Value) :
    (v.renamed f).key? = v.key?.map f := by
  rw [renamed]
  cases hk : v.key? with
  | some k => exact key?_ofKey (f k)
  | none => exact hk

theorem Value.key_renamed (f : Renaming) (v : Value) : (v.renamed f).key = v.key.map f := by
  rw [key, key, key?_renamed]
  cases hk : v.key? with
  | some k => rfl
  | none => rw [renamed, hk]; rfl

namespace Table

variable {α : Type}

/-- A table whose entries stand under other names. -/
def renamed (f : Renaming) (t : Table α) : Table α :=
  t.map fun e ↦ (f e.1, e.2)

theorem renamed_cons (f : Renaming) (e : Key × α) (t : Table α) :
    renamed f (e :: t) = (f e.1, e.2) :: renamed f t := rfl

theorem find?_renamed (f : Renaming) (t : Table α) (k : Key) :
    find? (renamed f t) (f k) = find? t k := by
  induction t with
  | nil => rfl
  | cons e t ih => rw [renamed_cons, find?_cons, find?_cons, f.same_iff, ih]

theorem put_renamed (f : Renaming) (t : Table α) (k : Key) (v : α) :
    put (renamed f t) (f k) v = renamed f (put t k v) := by
  induction t with
  | nil => rfl
  | cons e t ih =>
    rw [renamed_cons, put_cons, put_cons, f.same_iff, ih]
    split <;> rfl

theorem remove_renamed (f : Renaming) (t : Table α) (k : Key) :
    remove (renamed f t) (f k) = renamed f (remove t k) := by
  simp only [remove, renamed, List.filter_map, Function.comp_def, f.same_iff]

theorem isEmpty_renamed (f : Renaming) (t : Table α) : (renamed f t).isEmpty = t.isEmpty :=
  List.isEmpty_map

end Table

/-! ## Templates -/

/-- An action on the renamed variable. Where its value comes from stays as it is. -/
def Action.renamed (f : Renaming) : Action → Action
  | .emit => .emit
  | .set name operand => .set (name.renamed f) operand
  | .clear name => .clear (name.renamed f)
  | .append name operand => .append (name.renamed f) operand

/-- Holds of two maps of a rule when, for each of some groups, the second one leads to the renamed
variable. -/
def RenamesGroups (f : Renaming) (groups : List String) (rename rename' : Option (Table Value)) :
    Prop :=
  ∀ g ∈ groups, Machine.targetName rename' g = (Machine.targetName rename g).renamed f

/-- Holds of rules of which the second one does with renamed variables what the first one does. -/
structure Rule.Renames (f : Renaming) (r r' : Rule) : Prop where
  pattern : r'.pattern = r.pattern
  flags : r'.flags = r.flags
  actions : r'.actions = r.actions.map (·.renamed f)
  transition : r'.transition = r.transition
  groups {p : Regex.Pattern} : Regex.Pattern.ofValues r.pattern (r.flags.getD .null) = .ok p →
    RenamesGroups f (p.names.map (·.1)) r.rename r'.rename

structure State.Renames (f : Renaming) (s s' : State) : Prop where
  name : s'.name = s.name
  rules : List.Forall₂ (Rule.Renames f) s.rules s'.rules

structure Variable.Renames (f : Renaming) (v v' : Variable) : Prop where
  name : v'.name = v.name.renamed f
  type : v'.type = v.type

/-- Holds of templates of which the second one is the first one with its variables renamed. -/
structure Template.Renames (f : Renaming) (t u : Template) : Prop where
  id : u.id = t.id
  name : u.name = t.name
  states : List.Forall₂ (State.Renames f) t.states u.states
  declared : List.Forall₂ (Variable.Renames f) t.declared u.declared

/-! ## Carrying a renaming through -/

/-- The named groups of the pattern of a rule; none if the pattern cannot be read. -/
def Rule.groupNames (r : Rule) : List String :=
  match Regex.Pattern.ofValues r.pattern (r.flags.getD .null) with
  | .ok p => p.names.map (·.1)
  | .error _ => []

/-- A map with an entry for each of some groups, which leads to the renamed variable. -/
def renamedMap (f : Renaming) (groups : List String) (rename : Option (Table Value)) :
    Table Value :=
  groups.map fun g ↦ (.str g, (Machine.targetName rename g).renamed f)

def Rule.renamed (f : Renaming) (r : Rule) : Rule :=
  { r with
    rename := some (renamedMap f r.groupNames r.rename)
    actions := r.actions.map (·.renamed f) }

def State.renamed (f : Renaming) (s : State) : State :=
  { s with rules := s.rules.map (·.renamed f) }

def Variable.renamed (f : Renaming) (v : Variable) : Variable :=
  { v with name := v.name.renamed f }

/-- A template with its variables renamed. -/
def Template.renamed (f : Renaming) (t : Template) : Template :=
  { t with
    states := t.states.map (·.renamed f)
    declared := t.declared.map (·.renamed f) }

/-- A group is stored under a name that is not passed over, or under its own. -/
theorem targetName_truthy (rename : Option (Table Value)) (group : String) :
    Machine.targetName rename group = .str group ∨
      (Machine.targetName rename group).truthy = true := by
  rw [Machine.targetName]
  cases rename.bind fun names ↦ Table.find? names (.str group) with
  | none => exact .inl rfl
  | some v =>
    simp only [Value.orElse]
    by_cases hv : v.truthy = true
    · rw [if_pos hv]
      exact .inr hv
    · rw [if_neg hv]
      exact .inl rfl

theorem truthy_renamed_targetName (f : Renaming) (rename : Option (Table Value)) (group : String) :
    ((Machine.targetName rename group).renamed f).truthy = true := by
  have htarget := targetName_truthy rename group
  generalize Machine.targetName rename group = v at htarget
  rw [Value.renamed]
  cases hk : v.key? with
  | none =>
    rcases htarget with rfl | hv
    · cases hk
    · exact hv
  | some k =>
    refine f.truthy (htarget.imp (fun h ↦ ⟨group, ?_⟩) fun hv ↦ ?_)
    · rw [h] at hk
      exact (Option.some.inj hk).symm
    · rwa [Value.ofKey_of_key? hk]

theorem find?_renamedMap (f : Renaming) (rename : Option (Table Value)) {groups : List String}
    {g : String} (hg : g ∈ groups) :
    Table.find? (renamedMap f groups rename) (.str g) =
      some ((Machine.targetName rename g).renamed f) := by
  induction groups with
  | nil => cases hg
  | cons h groups ih =>
    rw [renamedMap, List.map_cons, Table.find?_cons, Key.same_str]
    by_cases heq : g = h
    · subst heq
      rw [if_pos (beq_self_eq_true g)]
    · rw [if_neg (by rwa [beq_iff_eq])]
      exact ih ((List.mem_cons.mp hg).resolve_left heq)

theorem renamesGroups_renamedMap (f : Renaming) (groups : List String)
    (rename : Option (Table Value)) :
    RenamesGroups f groups rename (some (renamedMap f groups rename)) := by
  intro g hg
  rw [Machine.targetName, Option.bind_some, find?_renamedMap f rename hg]
  exact if_pos (truthy_renamed_targetName f rename g)

/-! Carried through, a renaming renames. -/

theorem Rule.renames_renamed (f : Renaming) (r : Rule) : r.Renames f (r.renamed f) where
  pattern := rfl
  flags := rfl
  actions := rfl
  transition := rfl
  groups {p} hp := by
    have hnames : r.groupNames = p.names.map (·.1) := by rw [groupNames, hp]
    rw [renamed, hnames]
    exact renamesGroups_renamedMap f _ r.rename

theorem State.renames_renamed (f : Renaming) (s : State) : s.Renames f (s.renamed f) where
  name := rfl
  rules := List.forall₂_map_right_iff.mpr
    (List.forall₂_same.mpr fun r _ ↦ r.renames_renamed f)

/-- A template with its variables renamed is one. -/
theorem Template.renames_renamed (f : Renaming) (t : Template) : t.Renames f (t.renamed f) where
  id := rfl
  name := rfl
  states := List.forall₂_map_right_iff.mpr
    (List.forall₂_same.mpr fun s _ ↦ s.renames_renamed f)
  declared := List.forall₂_map_right_iff.mpr
    (List.forall₂_same.mpr fun _ _ ↦ ⟨rfl, rfl⟩)

end LineMachine
