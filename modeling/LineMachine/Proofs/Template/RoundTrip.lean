import LineMachine.Proofs.Cache.Past
import LineMachine.Proofs.Template.Written

/-!
# Writing templates and reading them again

What is written of a template that was read is read again as the settled template
(`Engine.read_write`). That one is written the same, so nothing changes from there on; and it is
the template itself if there is nothing to settle (`Template.settled_eq_self_iff`). Settling
changes fields that are not looked at when a machine is made (`Machine.ofTemplate_settled`) or
when it runs, so no run tells the two templates apart.
-/

namespace LineMachine

/-! ## Settled templates -/

theorem Variable.write_settled (v : Variable) : v.settled.write = v.write := by
  rw [write, write, settled, optionalField_orNull]

namespace Template

theorem write_settled (t : Template) : t.settled.write = t.write := by
  have hdeclared : (t.declared.map Variable.settled).map Variable.write =
      t.declared.map Variable.write := by
    rw [List.map_map]
    exact List.map_congr_left fun v _ ↦ v.write_settled
  rw [write, write, settled]
  simp only [optionalField_orNull, hdeclared, List.isEmpty_map]

/-- Nothing is lost exactly if no field that can be lost is without content. -/
theorem settled_eq_self_iff {t : Template} :
    t.settled = t ↔ ∀ v ∈ t.deviceOs :: t.command :: t.declared.map Variable.validation,
      v.truthy = true ∨ v = .null := by
  have hvariable (v : Variable) : v.settled = v ↔ v.validation.truthy = true ∨
      v.validation = .null := by
    rw [← Value.orNull_eq_self, Variable.settled]
    exact ⟨fun h ↦ congrArg Variable.validation h, fun h ↦ by rw [h]⟩
  have hdeclared : t.declared.map Variable.settled = t.declared ↔
      ∀ v ∈ t.declared, v.settled = v := by
    have hsame : t.declared.map Variable.settled = t.declared.map (fun v ↦ v) ↔
        ∀ v ∈ t.declared, v.settled = v := List.map_inj_left
    rwa [List.map_id'] at hsame
  have hfields : t.settled = t ↔ t.deviceOs.orNull = t.deviceOs ∧ t.command.orNull = t.command ∧
      t.declared.map Variable.settled = t.declared := by
    rcases t with ⟨id, name, states, vendor, deviceOs, command, description, declared, metadata⟩
    simp [settled]
  rw [hfields, hdeclared, Value.orNull_eq_self, Value.orNull_eq_self, List.forall_mem_cons,
    List.forall_mem_cons, List.forall_mem_map]
  simp only [hvariable]

end Template

/-! ## Runs -/

namespace Machine

/-- The machine of a settled template is that of the template, under another one. -/
theorem ofTemplate_settled (t : Template) :
    ofTemplate t.settled = (ofTemplate t).map fun m ↦ { m with template := t.settled } := by
  have htypes : (t.declared.map Variable.settled).mapM typeEntry = t.declared.mapM typeEntry :=
    mapM_congr (List.forall₂_map_left_iff.mpr (List.forall₂_same.mpr fun _ _ ↦ rfl))
  rw [ofTemplate, ofTemplate, Template.settled, htypes]
  cases t.states.mapM stateEntry with
  | error fault => rfl
  | ok states =>
    cases t.declared.mapM typeEntry with
    | error fault => rfl
    | ok types => cases t.states <;> rfl

end Machine

namespace Engine

/-- A run does not tell a settled template from the template. -/
theorem parse_settled (cache : Cache) (text : Value) (t : Template) (o : Options) :
    (parse cache text t.settled o).result = (parse cache text t o).result := by
  rw [result_parse, result_parse]
  rcases hk : t.id.key? with - | k
  · have hsettled := compile_of_no_key (c := cache) (t := t.settled) hk
    rw [hsettled, compile_of_no_key hk]
    rfl
  · rw [map_machine_compile (t := t.settled) hk, map_machine_compile hk]
    rcases Table.find? cache.entries k with - | stored
    · -- A run does not look at the template that its machine was made of.
      simp only [Option.map_none, Option.getD_none, Machine.ofTemplate_settled]
      rcases Machine.ofTemplate t with fault | m <;> rfl
    · rfl

/-- **Writing and reading again.** Let a template have been read. What is written of it is read as a
template that is written the same, and that is the template itself but for the operating system,
the command and the validations of variables: where they have no content they are null. So nothing
is lost exactly if each of these has content or is null; what is written of a document that was
read does not change any more; and no run tells the two templates apart. -/
theorem read_write {doc : Value} {t : Template} (h : Template.read doc = .ok t) :
    ∃ u, Template.read t.write = .ok u ∧ u.write = t.write ∧
      u = { t with
        deviceOs := t.deviceOs.orNull
        command := t.command.orNull
        declared := t.declared.map fun v ↦ { v with validation := v.validation.orNull } } ∧
      (u = t ↔ ∀ v ∈ t.deviceOs :: t.command :: t.declared.map Variable.validation,
        v.truthy = true ∨ v = .null) ∧
      (Template.read t.write).map Template.write = .ok t.write ∧
      ∀ (cache : Cache) (text : Value) (o : Options),
        (parse cache text u o).result = (parse cache text t o).result := by
  have hcanonical := (Template.read_eq_ok.mp h).canonical
  have hread := Template.read_eq_ok.mpr (Template.describes_write hcanonical)
  refine ⟨t.settled, hread, t.write_settled, rfl, Template.settled_eq_self_iff, ?_, ?_⟩
  · rw [hread]
    exact congrArg Except.ok t.write_settled
  · intro cache text o
    exact parse_settled cache text t o

/-- A document in which three fields are there and have no content. -/
def hollow : Value :=
  Value.ofFields [
    ("id", .str "hollow"),
    ("deviceOs", .str ""),
    ("command", .int 0),
    ("variables", .list [Value.ofFields [("name", .str "port"), ("validation", .object [])]])]

/-- The three fields are null after writing and reading, and what is written stays the same. -/
theorem read_write_hollow :
    ∃ t u, Template.read hollow = .ok t ∧ Template.read t.write = .ok u ∧ u.write = t.write ∧
      u ≠ t ∧ u.deviceOs = .null ∧ u.command = .null ∧
      u.declared.map Variable.validation = [.null] := by
  obtain ⟨t, ht⟩ : ∃ t, Template.read hollow = .ok t := ⟨_, rfl⟩
  obtain ⟨u, hread, hwrite, hu, hsame, -⟩ := read_write ht
  cases ht
  refine ⟨_, u, rfl, hread, hwrite, ?_, ?_, ?_, ?_⟩
  · intro hut
    have hcontent := hsame.mp hut (.str "") List.mem_cons_self
    revert hcontent
    decide
  all_goals
    rw [hu]
    rfl

end Engine

end LineMachine
