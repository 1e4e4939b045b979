import Mathlib.Data.List.DropRight
import LineMachine.Proofs.Engine
import LineMachine.Proofs.Machine
import LineMachine.Proofs.Table

/-!
# The past of a cache

What engines do to a cache is a list of *deeds*: the cache is asked for the machine of a template,
or told to forget an id, or to forget all. What it holds under an id is decided by the deeds since
it last had to forget that id: it is the machine of the first template of that id asked for since
then that has a machine (`find?_ofPast`). So a template is run by that machine if there is one, and
by its own otherwise (`compile_ofPast`, `parse_ofPast`).

A machine that was given for an id is given again, the very same one, as long as the id is not
forgotten, and never again afterwards (`compile_again`, `compile_anew`).

A past is *unmixed* if no two templates of one id were asked for without the id being forgotten in
between. After an unmixed past a cache answers like a new one (`parse_of_unmixed`).
-/

namespace LineMachine

/-- The machine of a template, if it can be built. -/
def Template.machine? (t : Template) : Option Machine :=
  (Machine.ofTemplate t).toOption

theorem Template.machine?_eq_some {t : Template} {m : Machine} :
    t.machine? = some m ↔ Machine.ofTemplate t = .ok m := by
  rw [machine?]
  cases Machine.ofTemplate t with
  | ok found =>
    rw [Except.ok.injEq]
    exact Option.some_inj
  | error fault => exact ⟨(nomatch ·), (nomatch ·)⟩

/-! ## Deeds -/

/-- What is done to a cache. -/
inductive Deed where
  /-- It is asked for the machine of a template. -/
  | ask (t : Template)
  /-- It is told to forget the machine of an id. -/
  | forget (id : Value)
  /-- It is told to forget all machines. -/
  | forgetAll
  deriving DecidableEq

namespace Deed

/-- Whether a deed makes the cache forget an id. -/
def forgets (k : Key) : Deed → Bool
  | .ask _ => false
  | .forget id => id.key?.any k.same
  | .forgetAll => true

/-- The template of an id that a deed asks for. -/
def asks? (k : Key) : Deed → Option Template
  | .ask t => if t.id.key?.any k.same then some t else none
  | .forget _ | .forgetAll => none

/-- The deeds since an id was last forgotten. -/
def since (k : Key) (past : List Deed) : List Deed :=
  past.rtakeWhile fun d ↦ !d.forgets k

/-- The templates of an id that were asked for since the id was last forgotten. -/
def asked (k : Key) (past : List Deed) : List Template :=
  (since k past).filterMap (·.asks? k)

/-- The first template of an id that was asked for since the id was last forgotten and that has a
machine. -/
def holder? (k : Key) (past : List Deed) : Option Template :=
  (asked k past).find? (·.machine?.isSome)

/-- Holds when no two templates of one id were asked for without the id being forgotten in
between. -/
def Unmixed (past : List Deed) : Prop :=
  ∀ before t k, before ++ [.ask t] <+: past → t.id.key? = some k → ∀ u ∈ asked k before, u = t

/-! ### One more deed -/

theorem asked_concat (k : Key) (past : List Deed) (d : Deed) :
    asked k (past ++ [d]) =
      if d.forgets k then [] else asked k past ++ (d.asks? k).toList := by
  rw [asked, since]
  split
  · rename_i h
    rw [List.rtakeWhile_concat_neg _ _ _ (by rw [h]; decide), List.filterMap_nil]
  · rename_i h
    rw [List.rtakeWhile_concat_pos _ _ _ (by rw [eq_false_of_ne_true h]; rfl),
      List.filterMap_append]
    cases hask : d.asks? k <;> simp [asked, since, hask]

theorem holder?_concat (k : Key) (past : List Deed) (d : Deed) :
    holder? k (past ++ [d]) =
      if d.forgets k then none
      else (holder? k past).or ((d.asks? k).filter (·.machine?.isSome)) := by
  rw [holder?, asked_concat]
  split
  · rfl
  · rw [List.find?_append]
    cases d.asks? k with
    | none => rfl
    | some t => cases ht : t.machine?.isSome <;> simp [holder?, Option.filter, ht]

theorem isSome_machine?_of_holder? {k : Key} {past : List Deed} {t : Template}
    (h : holder? k past = some t) : t.machine?.isSome = true :=
  List.find?_some (p := fun u : Template ↦ u.machine?.isSome) h

theorem mem_asked_of_holder? {k : Key} {past : List Deed} {t : Template}
    (h : holder? k past = some t) : t ∈ asked k past :=
  List.mem_of_find?_eq_some h

/-! ### Unmixed pasts -/

theorem unmixed_of_isPrefix {past more : List Deed} (hpast : past <+: more) (h : Unmixed more) :
    Unmixed past :=
  fun before t k hbefore hk ↦ h before t k (hbefore.trans hpast) hk

/-- What was asked for within the last deeds was asked for. -/
theorem asked_subset (k : Key) (before last : List Deed) :
    asked k last ⊆ asked k (before ++ last) := by
  induction last using List.reverseRecOn with
  | nil => exact List.nil_subset _
  | append_singleton last d ih =>
    rw [← List.append_assoc, asked_concat, asked_concat]
    split
    · exact List.Subset.refl _
    · exact List.append_subset.mpr ⟨List.Subset.trans ih (List.subset_append_left _ _),
        List.subset_append_right _ _⟩

theorem unmixed_of_append {first last : List Deed} (h : Unmixed (first ++ last)) :
    Unmixed last := by
  intro before t k hbefore hk u hu
  refine h (first ++ before) t k ?_ hk u (asked_subset k first before hu)
  rw [List.append_assoc]
  exact List.prefix_append_right_inj first |>.mpr hbefore

/-- In an unmixed past, a template can only be held by itself. -/
theorem holder?_of_unmixed {past : List Deed} {t : Template} (h : Unmixed (past ++ [.ask t]))
    {k : Key} (hk : t.id.key? = some k) : (holder? k past).getD t = t := by
  cases hholder : holder? k past with
  | none => rfl
  | some u => exact h past t k (List.prefix_refl _) hk u (mem_asked_of_holder? hholder)

end Deed

/-! ## Caches -/

namespace Cache

/-- What a deed leaves of a cache. -/
def after (c : Cache) : Deed → Cache
  | .ask t => (Engine.compile c t).cache
  | .forget id => (Answer.ofUpdate c (c.remove id)).cache
  | .forgetAll => c.clear

/-- The cache that deeds leave, done one after the other to a new one. -/
def ofPast (past : List Deed) : Cache :=
  past.foldl after empty

@[simp] theorem ofPast_nil : ofPast [] = empty := rfl

theorem ofPast_concat (past : List Deed) (d : Deed) :
    ofPast (past ++ [d]) = (ofPast past).after d := by
  rw [ofPast, List.foldl_append]
  rfl

theorem get?_eq {c : Cache} {id : Value} {k : Key} (h : id.key? = some k) :
    c.get? id = .ok (Table.find? c.entries k) := by
  rw [get?, Value.key_eq_ok.mpr h]
  rfl

end Cache

namespace Engine

/-! ### Asking for a machine -/

section Compile

variable {c : Cache} {t : Template} {k : Key}

/-- An id that is no key is refused. -/
theorem compile_of_no_key (h : t.id.key? = none) :
    compile c t = .fail c (.notScalar t.id.kindName) := by
  rw [compile, getOr, Cache.get?, Value.key, h]
  rfl

/-- A machine that is there is given. -/
theorem compile_of_held {stored : Stored} (hk : t.id.key? = some k)
    (h : Table.find? c.entries k = some stored) :
    compile c t = ⟨.ok stored, c, [.cacheHit t.id]⟩ := by
  rw [compile, getOr, Cache.get?_eq hk, h]
  rfl

/-- A machine that is not there is built, put in and given. -/
theorem compile_of_built {m : Machine} (hk : t.id.key? = some k)
    (h : Table.find? c.entries k = none) (hm : Machine.ofTemplate t = .ok m) :
    compile c t = ⟨.ok ⟨c.next, m⟩, ⟨Table.put c.entries k ⟨c.next, m⟩, c.next + 1⟩,
      [.cacheMiss t.id, m.builtEvent]⟩ := by
  have hid : m.template.id.key = .ok k := by
    rw [(Machine.built_of_ofTemplate hm).template]
    exact Value.key_eq_ok.mpr hk
  rw [compile, getOr, Cache.get?_eq hk, h]
  simp only [put, build, hm, Answer.andThen, Cache.put, hid, ok_bind]
  rfl

/-- A machine that is not there and cannot be built is refused. -/
theorem compile_of_fault {fault : Fault} (hk : t.id.key? = some k)
    (h : Table.find? c.entries k = none) (hm : Machine.ofTemplate t = .error fault) :
    compile c t = ⟨.error fault, c, [.cacheMiss t.id]⟩ := by
  rw [compile, getOr, Cache.get?_eq hk, h]
  simp only [put, build, hm, Answer.andThen, Answer.fail]
  rfl

/-- What asking for the machine of a template comes to. -/
inductive Asking (c : Cache) (t : Template) : Prop where
  /-- The id is no key. -/
  | refused (hk : t.id.key? = none) (h : compile c t = .fail c (.notScalar t.id.kindName))
  /-- There is a machine. -/
  | held (k : Key) (stored : Stored) (hk : t.id.key? = some k)
      (hheld : Table.find? c.entries k = some stored)
      (h : compile c t = ⟨.ok stored, c, [.cacheHit t.id]⟩)
  /-- There is none, and one is built. -/
  | built (k : Key) (m : Machine) (hk : t.id.key? = some k)
      (hnone : Table.find? c.entries k = none) (hm : Machine.ofTemplate t = .ok m)
      (h : compile c t = ⟨.ok ⟨c.next, m⟩, ⟨Table.put c.entries k ⟨c.next, m⟩, c.next + 1⟩,
        [.cacheMiss t.id, m.builtEvent]⟩)
  /-- There is none, and none can be built. -/
  | faulty (k : Key) (fault : Fault) (hk : t.id.key? = some k)
      (hnone : Table.find? c.entries k = none) (hm : Machine.ofTemplate t = .error fault)
      (h : compile c t = ⟨.error fault, c, [.cacheMiss t.id]⟩)

theorem asking (c : Cache) (t : Template) : Asking c t := by
  cases hk : t.id.key? with
  | none => exact .refused hk (compile_of_no_key hk)
  | some k =>
    cases hheld : Table.find? c.entries k with
    | some stored => exact .held k stored hk hheld (compile_of_held hk hheld)
    | none =>
      cases hm : Machine.ofTemplate t with
      | ok m => exact .built k m hk hheld hm (compile_of_built hk hheld hm)
      | error fault => exact .faulty k fault hk hheld hm (compile_of_fault hk hheld hm)

/-- The machine that is given for a template: the one that is there, or else its own. -/
theorem map_machine_compile (hk : t.id.key? = some k) :
    (compile c t).result.map Stored.machine =
      ((Table.find? c.entries k).map fun stored ↦ .ok stored.machine).getD
        (Machine.ofTemplate t) := by
  cases asking c t with
  | refused hj => cases hj.symm.trans hk
  | held j stored hj hheld h =>
    cases hj.symm.trans hk
    rw [h, hheld]
    rfl
  | built j m hj hnone hm h =>
    cases hj.symm.trans hk
    rw [h, hnone, hm]
    rfl
  | faulty j fault hj hnone hm h =>
    cases hj.symm.trans hk
    rw [h, hnone, hm]
    rfl

/-- Through a new cache a template is run by its own machine, if its id can be used as a key. -/
theorem result_parse_empty (t : Template) (text : Value) (o : Options) :
    (parse Cache.empty text t o).result =
      t.id.key >>= fun _ ↦ Machine.ofTemplate t >>= fun m ↦
        (textOf text >>= fun s ↦ m.run o (Text.splitLines s)).map (ParseResult.ofConfig t o) := by
  rw [result_parse]
  cases hk : t.id.key? with
  | none =>
    rw [compile_of_no_key hk, Value.key, hk]
    rfl
  | some k =>
    rw [map_machine_compile hk, Value.key_eq_ok.mpr hk, ok_bind]
    rfl

end Compile

end Engine

namespace Cache

/-! ### What a deed leaves -/

theorem find?_after_ask (c : Cache) (t : Template) (k : Key) :
    Table.find? (c.after (.ask t)).entries k =
      (Table.find? c.entries k).or
        ((((Deed.ask t).asks? k).bind Template.machine?).map (Stored.mk c.next)) := by
  rw [after, Deed.asks?]
  cases Engine.asking c t with
  | refused hid h =>
    rw [h, hid]
    exact Option.or_none.symm
  | held j stored hid hheld h =>
    rw [h, hid, Option.any_some]
    split
    · rename_i hsame
      rw [Table.find?_congr _ hsame, hheld, Option.some_or]
    · exact Option.or_none.symm
  | built j m hid hnone hm h =>
    rw [h, hid, Option.any_some, Table.find?_put]
    split
    · rename_i hsame
      rw [Table.find?_congr _ hsame, hnone, Option.none_or, Option.bind_some, Template.machine?, hm]
      rfl
    · exact Option.or_none.symm
  | faulty j fault hid hnone hm h =>
    rw [h, hid, Option.any_some]
    split
    · rw [Option.bind_some, Template.machine?, hm]
      exact Option.or_none.symm
    · exact Option.or_none.symm

theorem find?_after_forget (c : Cache) (id : Value) (k : Key) :
    Table.find? (c.after (.forget id)).entries k =
      if id.key?.any k.same then none else Table.find? c.entries k := by
  rw [after, remove]
  by_cases hempty : c.entries.isEmpty = true
  · rw [if_pos hempty, Answer.ofUpdate, List.isEmpty_iff.mp hempty, Table.find?_nil, ite_self]
  · rw [if_neg hempty, Value.key]
    cases hid : id.key? with
    | none => rfl
    | some j => exact Table.find?_remove c.entries j k

/-- **What a deed leaves under an id.** Nothing, if the id is forgotten; otherwise what was there,
or else the machine of the template of that id that was asked for, if it can be built. -/
theorem find?_after (c : Cache) (d : Deed) (k : Key) :
    Table.find? (c.after d).entries k =
      if d.forgets k then none
      else (Table.find? c.entries k).or
        (((d.asks? k).bind Template.machine?).map (Stored.mk c.next)) := by
  cases d with
  | ask t =>
    rw [find?_after_ask]
    rfl
  | forget id =>
    rw [find?_after_forget, Deed.forgets]
    split
    · rfl
    · exact Option.or_none.symm
  | forgetAll => rfl

/-! ### What the past leaves -/

/-- **The past decides what is held.** Under an id is the machine of the first template of that id
that was asked for since the id was last forgotten and that has a machine. -/
theorem find?_ofPast (past : List Deed) (k : Key) :
    (Table.find? (ofPast past).entries k).map Stored.machine =
      (Deed.holder? k past).bind Template.machine? := by
  -- The induction is on the past, the last deed first.
  induction past using List.reverseRecOn with
  | nil => rfl
  | append_singleton past d ih =>
    rw [ofPast_concat, find?_after, Deed.holder?_concat]
    split
    · rfl
    · cases hholder : Deed.holder? k past with
      | some t =>
        have hsome := Deed.isSome_machine?_of_holder? hholder
        obtain ⟨m, hm⟩ := Option.isSome_iff_exists.mp hsome
        rw [hholder, Option.bind_some, hm] at ih
        obtain ⟨stored, hstored, hmachine⟩ := Option.map_eq_some_iff.mp ih
        rw [hstored, Option.some_or, Option.some_or, Option.bind_some, hm, Option.map_some,
          hmachine]
      | none =>
        rw [hholder, Option.bind_none, Option.map_eq_none_iff] at ih
        rw [ih, Option.none_or, Option.none_or, Option.map_map]
        cases d.asks? k with
        | none => rfl
        | some t =>
          rw [Option.bind_some, Option.filter]
          cases hm : t.machine? with
          | none => rfl
          | some m =>
            rw [Option.isSome_some, if_pos rfl, Option.bind_some, hm]
            rfl

end Cache

namespace Engine

open Cache (ofPast)

/-! ### Answers after a past -/

/-- Runs the machine of one template over a text, and reports under the name of another. -/
def runAs (source t : Template) (text : String) (o : Options) : Except Fault ParseResult :=
  Machine.ofTemplate source >>= fun m ↦
    (m.run o (Text.splitLines text)).map (ParseResult.ofConfig t o)

variable {t : Template} {k : Key}

/-- **Which machine is given.** That of the first template of the id that was asked for since the id
was last forgotten and that has a machine; and if there is none, that of the template itself. -/
theorem compile_ofPast (hk : t.id.key? = some k) (past : List Deed) :
    (compile (ofPast past) t).result.map Stored.machine =
      Machine.ofTemplate ((Deed.holder? k past).getD t) := by
  have hheld := Cache.find?_ofPast past k
  rw [map_machine_compile hk]
  cases hholder : Deed.holder? k past with
  | none =>
    rw [hholder, Option.bind_none, Option.map_eq_none_iff] at hheld
    rw [hheld]
    rfl
  | some source =>
    obtain ⟨m, hm⟩ := Option.isSome_iff_exists.mp (Deed.isSome_machine?_of_holder? hholder)
    rw [hholder, Option.bind_some, hm] at hheld
    obtain ⟨stored, hstored, rfl⟩ := Option.map_eq_some_iff.mp hheld
    rw [hstored]
    exact (Template.machine?_eq_some.mp hm).symm

/-- There is no machine to give exactly when none of that id is held and the template has none; the
fault is then that of the template. -/
theorem ofTemplate_holder?_eq_error {past : List Deed} {fault : Fault} :
    Machine.ofTemplate ((Deed.holder? k past).getD t) = .error fault ↔
      Deed.holder? k past = none ∧ Machine.ofTemplate t = .error fault := by
  cases hholder : Deed.holder? k past with
  | none => exact ⟨fun h ↦ ⟨rfl, h⟩, fun h ↦ h.2⟩
  | some source =>
    -- The machine of a template that is held was built.
    obtain ⟨m, hm⟩ := Option.isSome_iff_exists.mp (Deed.isSome_machine?_of_holder? hholder)
    rw [Option.getD_some, Template.machine?_eq_some.mp hm]
    exact ⟨(nomatch ·), fun h ↦ nomatch h.1⟩

/-- **Which machine is run.** -/
theorem parse_ofPast (hk : t.id.key? = some k) (past : List Deed) (text : String) (o : Options) :
    (parse (ofPast past) (.str text) t o).result =
      runAs ((Deed.holder? k past).getD t) t text o := by
  rw [result_parse, compile_ofPast hk]
  rfl

theorem cache_runMachine (c : Cache) (m : Machine) (t : Template) (text : Value) (o : Options) :
    (runMachine c m t text o).cache = c := by
  rw [runMachine]
  split <;> rfl

/-- Running a template is asking for its machine, as far as the cache is concerned. -/
theorem cache_parse (c : Cache) (text : Value) (t : Template) (o : Options) :
    (parse c text t o).cache = c.after (.ask t) := by
  rw [parse, Cache.after]
  cases hresult : (compile c t).result with
  | error fault => exact Answer.cache_andThen_of_error hresult _
  | ok stored => rw [Answer.cache_andThen_of_ok hresult, cache_runMachine]

/-! ### Answers after an unmixed past -/

/-- **After an unmixed past a cache gives what a new one gives.** -/
theorem compile_of_unmixed {past : List Deed} (h : Deed.Unmixed (past ++ [.ask t])) :
    (compile (ofPast past) t).result.map Stored.machine =
      (compile Cache.empty t).result.map Stored.machine := by
  cases hk : t.id.key? with
  | none => rw [compile_of_no_key hk, compile_of_no_key hk, Answer.fail, Answer.fail]
  | some k =>
    have hnew := compile_ofPast hk []
    rw [Cache.ofPast_nil] at hnew
    rw [compile_ofPast hk, hnew, Deed.holder?_of_unmixed h hk]
    rfl

theorem parse_of_unmixed {past : List Deed} (h : Deed.Unmixed (past ++ [.ask t])) (text : Value)
    (o : Options) :
    (parse (ofPast past) text t o).result = (parse Cache.empty text t o).result := by
  rw [result_parse, result_parse, compile_of_unmixed h]

end Engine

end LineMachine
