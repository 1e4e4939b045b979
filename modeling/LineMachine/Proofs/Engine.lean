import LineMachine.Engine
import LineMachine.Proofs.Except

/-!
# What a run through a cache comes to

Running a template over a text takes a machine from the cache and runs it over the lines of the
text; the result is where that run came to, reported under the template's name (`parse_result`).

A cache is asked for an id only, so it may answer with the machine of another template. It *suits*
a template when what it gives for it is that template's own machine. A new cache suits every
template (`suits_empty`), whether or not the template has a machine.
-/

namespace LineMachine

/-! ## Answers -/

namespace Answer

variable {α β : Type}

theorem result_andThen (a : Answer α) (next : Cache → α → Answer β) :
    (a.andThen next).result = a.result >>= fun v ↦ (next a.cache v).result := by
  rw [andThen]
  cases a.result <;> rfl

theorem cache_andThen_of_ok {a : Answer α} {v : α} (h : a.result = .ok v)
    (next : Cache → α → Answer β) : (a.andThen next).cache = (next a.cache v).cache := by
  rw [andThen, h]

theorem cache_andThen_of_error {a : Answer α} {fault : Fault} (h : a.result = .error fault)
    (next : Cache → α → Answer β) : (a.andThen next).cache = a.cache := by
  rw [andThen, h]

theorem result_ofExcept_andThen (cache : Cache) (x : Except Fault α)
    (next : Cache → α → Answer β) :
    ((ofExcept cache x).andThen next).result = x >>= fun v ↦ (next cache v).result :=
  result_andThen _ _

theorem cache_ofExcept_andThen_ok (cache : Cache) (v : α) (next : Cache → α → Answer β) :
    ((ofExcept cache (.ok v)).andThen next).cache = (next cache v).cache := rfl

theorem cache_ofExcept_andThen_error (cache : Cache) (fault : Fault)
    (next : Cache → α → Answer β) :
    ((ofExcept cache (.error fault)).andThen next).cache = cache := rfl

end Answer

namespace Engine

/-! ## The machine of a template -/

/-- The machine for a template was in the cache under the template's id, or it was built. -/
theorem compile_eq_ok {cache : Cache} {t : Template} {stored : Stored}
    (h : (compile cache t).result = .ok stored) :
    cache.get? t.id = .ok (some stored) ∨
      cache.get? t.id = .ok none ∧ Machine.ofTemplate t = .ok stored.machine := by
  rw [compile, getOr] at h
  cases hget : cache.get? t.id with
  | error fault =>
    rw [hget] at h
    cases h
  | ok found =>
    rw [hget] at h
    cases found with
    | some held =>
      cases h
      exact Or.inl rfl
    | none =>
      refine Or.inr ⟨rfl, ?_⟩
      -- What was built is also put in, under an id that may be no key.
      cases hbuilt : Machine.ofTemplate t with
      | error fault =>
        simp only [Answer.after, put, build, hbuilt, Answer.andThen, Answer.fail] at h
        cases h
      | ok m =>
        simp only [Answer.after, put, build, hbuilt, Answer.andThen, Answer.ofUpdate,
          Cache.put] at h
        cases hkey : m.template.id.key with
        | error fault =>
          rw [hkey] at h
          cases h
        | ok k =>
          rw [hkey] at h
          cases h
          rfl

/-- Holds when what a cache gives for a template is the machine that is built from it. -/
def Suits (cache : Cache) (t : Template) : Prop :=
  ∀ stored, (compile cache t).result = .ok stored → Machine.ofTemplate t = .ok stored.machine

/-- A new cache suits every template. -/
theorem suits_empty (t : Template) : Suits Cache.empty t := by
  intro stored h
  rcases compile_eq_ok h with hget | ⟨-, hbuilt⟩
  · obtain ⟨k, -, hk⟩ := bind_eq_ok.mp hget
    cases hk
  · exact hbuilt

/-! ## The result of a run -/

theorem result_runMachine (cache : Cache) (m : Machine) (t : Template) (text : Value)
    (o : Options) :
    (runMachine cache m t text o).result =
      (textOf text >>= fun s ↦ m.run o (Text.splitLines s)).map (ParseResult.ofConfig t o) := by
  rw [runMachine]
  cases textOf text >>= fun s ↦ m.run o (Text.splitLines s) <;> rfl

/-- A run depends on the cache in nothing but the machine that it gives. -/
theorem result_parse (cache : Cache) (text : Value) (t : Template) (o : Options) :
    (parse cache text t o).result =
      (compile cache t).result.map Stored.machine >>= fun m ↦
        (textOf text >>= fun s ↦ m.run o (Text.splitLines s)).map (ParseResult.ofConfig t o) := by
  rw [parse, Answer.result_andThen]
  cases (compile cache t).result with
  | error fault => rfl
  | ok stored => exact result_runMachine _ _ _ _ _

/-- Running a template over a text is running the machine that the cache gives for it over the
lines of the text. -/
theorem parse_result {cache : Cache} {t : Template} {stored : Stored}
    (h : (compile cache t).result = .ok stored) (text : String) (o : Options) :
    (parse cache (.str text) t o).result =
      (stored.machine.run o (Text.splitLines text)).map (ParseResult.ofConfig t o) := by
  rw [result_parse, h]
  rfl

/-- A run that comes to an end was one of the machine that the cache gave. -/
theorem parse_eq_ok {cache : Cache} {t : Template} {text : String} {o : Options} {r : ParseResult}
    (h : (parse cache (.str text) t o).result = .ok r) :
    ∃ stored c, (compile cache t).result = .ok stored ∧
      stored.machine.run o (Text.splitLines text) = .ok c ∧ r = ParseResult.ofConfig t o c := by
  cases hcompile : (compile cache t).result with
  | error fault =>
    rw [parse, Answer.andThen, hcompile] at h
    cases h
  | ok stored =>
    rw [parse_result hcompile] at h
    cases hrun : stored.machine.run o (Text.splitLines text) with
    | error fault =>
      rw [hrun] at h
      cases h
    | ok c =>
      rw [hrun] at h
      exact ⟨stored, c, rfl, hrun, (Except.ok.inj h).symm⟩

/-! ## Messages -/

theorem errors_of_lost {t : Template} {o : Options} {c : Machine.Config} (h : c.status = .lost) :
    (ParseResult.ofConfig t o c).errors =
      ["UnknownStateError: Unknown state: " ++ c.state.text] := by
  rw [ParseResult.errors, ParseResult.ofConfig, if_pos h]

theorem errors_of_not_lost {t : Template} {o : Options} {c : Machine.Config}
    (h : c.status ≠ .lost) : (ParseResult.ofConfig t o c).errors = [] := by
  rw [ParseResult.errors, ParseResult.ofConfig, if_neg h]

/-! ## A small template -/

/-- A list of ports: a heading, a line for every port, and a line that ends the list. -/
def ports : Template where
  id := .str "ports"
  name := .str "Ports"
  states := [
    ⟨.str "heading", [⟨.str "ports", none, none, [], some ⟨.str "list", .str "match"⟩⟩]⟩,
    ⟨.str "list", [
      ⟨.str "p(?<port>.)", none, none,
        [.append (.str "seen") ⟨some (.str "port"), .null⟩, .emit], none⟩,
      ⟨.str "end", none, none, [], some ⟨.str endTarget, .str "match"⟩⟩]⟩]
  vendor := .str "generic"
  deviceOs := .null
  command := .null
  description := .str ""
  declared := [⟨.str "port", .str "number", .null, .str ""⟩]
  metadata := []

end Engine

end LineMachine
