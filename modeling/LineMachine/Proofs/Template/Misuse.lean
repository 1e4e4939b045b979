import LineMachine.Proofs.Template.WellFormed

/-!
# Where validation stops

Validation goes on behind a problem, but not behind a part of a kind that cannot be used the way it
is used there: a number that is gone through, a list that is looked up. `misuses` lists those parts
in the order in which validation comes to them. It stops with the first of them, and returns if
there is none (`stopsAtFirst_validate`).

What is misused can be a field that is gone through, the name of a state, a target of a transition,
or the flags of a pattern. The first thing that is wrong with flags is reported if it is a letter,
and otherwise it is a misuse.
-/

namespace LineMachine

/-! ## Flags -/

namespace Regex.Flags

/-- The letters that stand for flags. -/
def letters : List Value :=
  ["i", "m", "s", "x", "u", "g", "y"].map .str

/-- What is wrong with one flag. -/
def flagFaults (flag : Value) : List PatternFault :=
  if flag ∈ letters then []
  else if flag.key?.isNone then [.flagNotScalar flag.kindName]
  else [.unknownFlag flag]

/-- What is wrong with a field of flags. -/
def faults (flags : Value) : List PatternFault :=
  if flags.truthy then
    match flags.elements? with
    | some parts => parts.flatMap flagFaults
    | none => [.flagsNotIterable flags.kindName]
  else []

theorem ofLetter?_isSome_iff {letter : String} :
    (ofLetter? letter).isSome = true ↔ .str letter ∈ letters := by
  simp only [letters, List.map_cons, List.map_nil, List.mem_cons, List.not_mem_nil, or_false,
    Value.str.injEq]
  unfold ofLetter?
  split <;> simp_all

theorem stopsAtFirst_ofFlag (flag : Value) : StopsAtFirst (ofFlag flag) (flagFaults flag) := by
  cases flag with
  | str letter =>
    simp only [ofFlag, flagFaults, ← ofLetter?_isSome_iff]
    cases ofLetter? letter with
    | some options => exact .ok
    | none => exact .error
  | null | bool | int | float | list | object =>
    rw [flagFaults, if_neg (by simp [letters])]
    exact .error

theorem stopsAtFirst_ofValue (flags : Value) : StopsAtFirst (ofValue flags) (faults flags) := by
  rw [ofValue, faults]
  by_cases htruthy : flags.truthy = true
  · rw [if_pos htruthy, if_pos htruthy]
    cases flags.elements? with
    | some parts =>
      exact .foldlM (fun (options : Flags) flag _ ↦
        (stopsAtFirst_ofFlag flag).bind_ok fun found _ ↦ ⟨options.or found, rfl⟩) {}
    | none => exact .error
  · rw [if_neg htruthy, if_neg htruthy]
    exact .ok

end Regex.Flags

namespace Validation

/-! ## Misused parts -/

/-- What is wrong with a field that is gone through if it has content. -/
def misusedField (v : Value) : List Fault :=
  if v.truthy && v.elements?.isNone then [.notIterable v.kindName] else []

/-- What is wrong with a value that is looked up. -/
def misusedKey (v : Value) : List Fault :=
  if v.key?.isNone then [.notScalar v.kindName] else []

/-- What is wrong with flags, if the first thing is not reported. -/
def misusedFlags (flags : Value) : List Fault :=
  (((Regex.Flags.faults flags).take 1).filter (!·.isReported)).map .pattern

/-- The misuses in a pattern: its flags, if it has a text, its actions, and its target. -/
def misusesOfPattern (doc : Value) : List Fault :=
  let target := fieldOrNull (fieldOrNull doc "transition") "to"
  (match fieldOrNull doc "regex" with
    | .str text => if text.isEmpty then [] else misusedFlags (fieldOrNull doc "flags")
    | _ => []) ++
    (misusedField (fieldOrNull doc "actions") ++ if target.truthy then misusedKey target else [])

/-- The misuses in a state: its patterns, and those in each of them. -/
def misusesOfState (doc : Value) : List Fault :=
  misusedField (fieldOrNull doc "patterns") ++
    (partsOf (fieldOrNull doc "patterns")).flatMap misusesOfPattern

/-- The misuses in a template document: its variables and its states, the names of the states, and
those in each of the states. -/
def misuses (doc : Value) : List Fault :=
  misusedField (fieldOrNull doc "variables") ++
    (misusedField (fieldOrNull doc "states") ++
      ((stateNames doc).flatMap misusedKey ++
        (partsOf (fieldOrNull doc "states")).flatMap misusesOfState))

/-! ## The first misuse -/

theorem stopsAtFirst_elements {v : Value} (htruthy : v.truthy = true) :
    StopsAtFirst v.elements (misusedField v) := by
  rw [Value.elements, misusedField, htruthy]
  cases v.elements? with
  | some parts => exact .ok
  | none => exact .error

theorem stopsAtFirst_elementsOrNone (v : Value) :
    StopsAtFirst v.elementsOrNone (misusedField v) := by
  by_cases htruthy : v.truthy = true
  · rw [elementsOrNone_of_truthy htruthy]
    exact stopsAtFirst_elements htruthy
  · rw [Value.elementsOrNone, misusedField, if_neg htruthy, eq_false_of_ne_true htruthy]
    exact .ok

theorem stopsAtFirst_key (v : Value) : StopsAtFirst v.key (misusedKey v) := by
  rw [Value.key, misusedKey]
  cases v.key? with
  | some k => exact .ok
  | none => exact .error

theorem stopsAtFirst_collect {α : Type} {check : α → Except Fault (List Problem)}
    {faults : α → List Fault} {parts : List α}
    (h : ∀ p ∈ parts, StopsAtFirst (check p) (faults p)) :
    StopsAtFirst (collect check parts) (parts.flatMap faults) :=
  (StopsAtFirst.mapM h).bind_ok fun lists _ ↦ ⟨lists.flatten, rfl⟩

theorem stopsAtFirst_checkRegex (state source flags : Value) (index : Nat) :
    StopsAtFirst (checkRegex state index source flags)
      (match source with
        | .str text => if text.isEmpty then [] else misusedFlags flags
        | _ => []) := by
  cases source with
  | null | bool | int | float | list | object => exact .ok
  | str text =>
    rw [checkRegex]
    by_cases hempty : text.isEmpty = true
    · rw [if_pos hempty]
      simp only [hempty]
      exact .ok
    · rw [if_neg hempty]
      simp only [hempty]
      -- A fault of the flags is the fault of the pattern, and one of the text is reported.
      have hflags := Regex.Flags.stopsAtFirst_ofValue flags
      rw [Regex.Pattern.ofValues, misusedFlags]
      cases hoptions : Regex.Flags.ofValue flags with
      | error fault =>
        rw [hoptions] at hflags
        obtain ⟨others, hothers⟩ := List.head?_eq_some_iff.mp hflags
        rw [hothers, error_bind]
        cases hreported : fault.isReported with
        | true => simpa [hreported] using StopsAtFirst.ok
        | false => simpa [hreported] using StopsAtFirst.error
      | ok options =>
        rw [hoptions] at hflags
        rw [show Regex.Flags.faults flags = [] from hflags, ok_bind, Regex.Pattern.ofValue]
        cases Regex.Pattern.read? text options with
        | ok pattern => exact .ok
        | error fault => exact .ok

theorem stopsAtFirst_checkTransition (names : List Key) (state doc : Value) :
    StopsAtFirst (checkTransition names state doc)
      (if (fieldOrNull doc "to").truthy then misusedKey (fieldOrNull doc "to") else []) := by
  simp only [checkTransition]
  by_cases htarget : (fieldOrNull doc "to").truthy = true
  · simp only [truthy_of_field htarget, htarget, Bool.not_true, Bool.false_eq_true, if_false,
      if_true]
    split
    · next hreserved =>
      have hkey : misusedKey (fieldOrNull doc "to") = [] := by
        rcases hreserved with hreserved | hreserved <;> rw [hreserved] <;> rfl
      rw [hkey]
      exact .ok
    · exact (stopsAtFirst_key _).bind_ok fun k _ ↦ ⟨_, rfl⟩
  · simp only [htarget, Bool.not_false, if_true, Bool.false_eq_true, if_false]
    split <;> exact .ok

/-! What is no object has no fields that could be misused. -/

theorem misusesOfPattern_of_not_object {doc : Value} (h : ¬ isObject doc = true) :
    misusesOfPattern doc = [] := by
  simp only [misusesOfPattern, fieldOrNull_of_not_object h]
  rfl

theorem misusesOfState_of_not_object {doc : Value} (h : ¬ isObject doc = true) :
    misusesOfState doc = [] := by
  simp only [misusesOfState, fieldOrNull_of_not_object h]
  rfl

theorem misuses_of_not_object {doc : Value} (h : ¬ isObject doc = true) : misuses doc = [] := by
  simp only [misuses, stateNames, fieldOrNull_of_not_object h]
  rfl

theorem stopsAtFirst_checkPattern (names : List Key) (state doc : Value) (index : Nat) :
    StopsAtFirst (checkPattern names state index doc) (misusesOfPattern doc) := by
  rw [checkPattern]
  by_cases hobject : isObject doc = true
  · simp only [hobject, Bool.not_true, Bool.false_eq_true, if_false]
    exact (stopsAtFirst_checkRegex _ _ _ _).bind fun ofRegex _ ↦
      (stopsAtFirst_elementsOrNone _).bind fun actions _ ↦
      (stopsAtFirst_checkTransition _ _ _).bind_ok fun ofTransition _ ↦ ⟨_, rfl⟩
  · simp only [hobject, Bool.not_false, if_true]
    rw [misusesOfPattern_of_not_object hobject]
    exact .ok

theorem stopsAtFirst_checkState (names : List Key) (doc : Value) :
    StopsAtFirst (checkState names doc) (misusesOfState doc) := by
  simp only [checkState]
  by_cases hobject : isObject doc = true
  · simp only [hobject, Bool.not_true, Bool.false_eq_true, if_false]
    by_cases hpatterns : (fieldOrNull doc "patterns").truthy = true
    · simp only [hpatterns, Bool.not_true, Bool.false_eq_true, if_false]
      refine (stopsAtFirst_elements hpatterns).bind fun patterns hfound ↦ ?_
      obtain ⟨-, rfl⟩ := (elements_eq_ok_iff hpatterns).mp hfound
      have hplaced : (partsOf (fieldOrNull doc "patterns")).flatMap misusesOfPattern =
          (partsOf (fieldOrNull doc "patterns")).zipIdx.flatMap fun e ↦ misusesOfPattern e.1 := by
        rw [← List.flatMap_map Prod.fst, List.zipIdx_map_fst]
      rw [hplaced]
      exact (stopsAtFirst_collect fun e _ ↦ stopsAtFirst_checkPattern _ _ _ _).bind_ok
        fun problems _ ↦ ⟨_, rfl⟩
    · simp only [hpatterns, Bool.not_false, if_true]
      rw [misusesOfState, partsOf_of_falsy hpatterns, misusedField, eq_false_of_ne_true hpatterns]
      exact .ok
  · simp only [hobject, Bool.not_false, if_true]
    rw [misusesOfState_of_not_object hobject]
    exact .ok

theorem stopsAtFirst_nameState (found : List Key × List Problem) (state : Value) :
    StopsAtFirst (nameState found state) (misusedKey (fieldOrNull state "name")) :=
  (stopsAtFirst_key _).bind_ok fun _ _ ↦ ⟨_, rfl⟩

/-- **Where validation stops.** It stops with the first misuse in a document, if there is one. -/
theorem stopsAtFirst_validate (doc : Value) : StopsAtFirst (validate doc) (misuses doc) := by
  rw [validate]
  by_cases hobject : isObject doc = true
  · simp only [hobject, Bool.not_true, Bool.false_eq_true, if_false]
    refine (stopsAtFirst_elementsOrNone _).bind fun declared _ ↦
      (stopsAtFirst_elementsOrNone _).bind fun states hstates ↦ ?_
    obtain ⟨-, rfl⟩ := elementsOrNone_eq_ok.mp hstates
    rw [stateNames, List.flatMap_map]
    exact (StopsAtFirst.foldlM (fun found s _ ↦ stopsAtFirst_nameState found s) _).bind
      fun names _ ↦ (stopsAtFirst_collect fun s _ ↦ stopsAtFirst_checkState _ s).bind_ok
      fun problems _ ↦ ⟨_, rfl⟩
  · simp only [hobject, Bool.not_false, if_true]
    rw [misuses_of_not_object hobject]
    exact .ok

/-! ## Misuses are no defects of a template -/

theorem isTemplateFault_of_misusedField (v : Value) :
    ∀ fault ∈ misusedField v, fault.isTemplateFault = false := by
  rw [misusedField]
  split
  · exact List.forall_mem_singleton.mpr rfl
  · exact List.forall_mem_nil _

theorem isTemplateFault_of_misusedKey (v : Value) :
    ∀ fault ∈ misusedKey v, fault.isTemplateFault = false := by
  rw [misusedKey]
  split
  · exact List.forall_mem_singleton.mpr rfl
  · exact List.forall_mem_nil _

theorem isTemplateFault_of_misusesOfPattern (doc : Value) :
    ∀ fault ∈ misusesOfPattern doc, fault.isTemplateFault = false := by
  simp only [misusesOfPattern, List.forall_mem_append]
  refine ⟨?_, isTemplateFault_of_misusedField _, ?_⟩
  · split
    · split
      · exact List.forall_mem_nil _
      · exact List.forall_mem_map.mpr fun _ _ ↦ rfl
    · exact List.forall_mem_nil _
  · split
    · exact isTemplateFault_of_misusedKey _
    · exact List.forall_mem_nil _

/-- What stops validation is never a defect that a template could be refused for. -/
theorem isTemplateFault_of_misuses (doc : Value) :
    ∀ fault ∈ misuses doc, fault.isTemplateFault = false := by
  simp only [misuses, misusesOfState, List.forall_mem_append, List.forall_mem_flatMap]
  exact ⟨isTemplateFault_of_misusedField _, isTemplateFault_of_misusedField _,
    fun _ _ ↦ isTemplateFault_of_misusedKey _,
    fun _ _ ↦ ⟨isTemplateFault_of_misusedField _, fun _ _ ↦ isTemplateFault_of_misusesOfPattern _⟩⟩

end Validation

end LineMachine
