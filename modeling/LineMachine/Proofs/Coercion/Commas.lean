import LineMachine.Proofs.Lines
import LineMachine.Proofs.Run.Coerced

/-!
# Lists between commas

A comma between two texts separates the list of the first from the list of the second, whatever
stands next to it (`toList_append_comma`). A tidy piece with blanks around it is a list of one, so
the pieces of a text, joined by commas and with any blanks put around them, are the same list again
(`toList_joinWith`).

A variable that is declared a list takes the items of what is appended to it. Appending two texts in
turn is therefore appending both at once with a comma between them, whatever the variable held
(`toList_comma`).
-/

namespace LineMachine

namespace Coercion

/-! ## A comma between texts -/

theorem listItems_append_comma (s t : List Char) :
    listItems (s ++ ',' :: t) = listItems s ++ listItems t := by
  rw [listItems, Text.splitAtChar, Text.splitWhere_append_cons (by rfl), List.map_append,
    List.filter_append]
  rfl

theorem toList_append_comma (a b : String) : toList (a ++ "," ++ b) = toList a ++ toList b := by
  have htext : (a ++ "," ++ b).toList = a.toList ++ ',' :: b.toList := by
    rw [String.toList_append, String.toList_append, List.append_assoc]
    rfl
  rw [toList, htext, listItems_append_comma, List.map_append]
  rfl

/-! ## Blanks around pieces -/

theorem comma_not_mem_of_blank {s : List Char} (h : ∀ c ∈ s, Text.isBlank c = true) : ',' ∉ s := by
  intro hcomma
  have hblank := h ',' hcomma
  revert hblank
  decide

/-- A tidy piece with blanks around it is a list of one. -/
theorem Tidy.listItems_around {piece : List Char} (h : Tidy piece) {before after : List Char}
    (hbefore : ∀ c ∈ before, Text.isBlank c = true) (hafter : ∀ c ∈ after, Text.isBlank c = true) :
    listItems (before ++ piece ++ after) = [piece] := by
  have hcomma : ',' ∉ before ++ piece ++ after := by
    rw [List.mem_append, List.mem_append, not_or, not_or]
    exact ⟨⟨comma_not_mem_of_blank hbefore, h.comma⟩, comma_not_mem_of_blank hafter⟩
  have hkept : (!piece.isEmpty) = true := by
    simpa using h.nonempty
  rw [listItems, Text.splitAtChar_of_not_mem hcomma, List.map_singleton,
    Text.trim_around hbefore hafter h.nonempty h.head h.last, List.filter_cons, if_pos hkept,
    List.filter_nil]

/-- Holds of an item of a list that is a tidy text. -/
def TidyItem (item : Value) : Prop :=
  ∃ piece, item = .str piece ∧ Tidy piece.toList

/-- Holds of an item of a list and a text that is this item with blanks around it. -/
def Around (item : Value) (text : String) : Prop :=
  ∃ before piece after, item = .str piece ∧ text = before ++ piece ++ after ∧
    Text.allBlank before = true ∧ Text.allBlank after = true

theorem tidyItem_of_mem_toList {s : String} {item : Value} (h : item ∈ toList s) :
    TidyItem item := by
  obtain ⟨piece, hpiece, rfl⟩ := List.mem_map.mp h
  refine ⟨String.ofList piece, rfl, ?_⟩
  rw [String.toList_ofList]
  exact tidy_of_mem_listItems hpiece

theorem toList_of_around {item : Value} {text : String} (hitem : TidyItem item)
    (h : Around item text) : toList text = [item] := by
  obtain ⟨before, piece, after, rfl, rfl, hbefore, hafter⟩ := h
  obtain ⟨_, ⟨⟩, htidy⟩ := hitem
  rw [toList, String.toList_append, String.toList_append,
    htidy.listItems_around (List.all_eq_true.mp hbefore) (List.all_eq_true.mp hafter),
    List.map_singleton, String.ofList_toList]

/-- **Tidy items that are joined by commas** are the list that is read from that, whatever blanks
stand around them. -/
theorem toList_joinWith {items : List Value} {texts : List String}
    (h : List.Forall₂ Around items texts) (hitems : ∀ item ∈ items, TidyItem item) :
    toList (Text.joinWith "," texts) = items := by
  induction h with
  | nil => rfl
  | cons hfirst hrest ih =>
    obtain ⟨hitem, hitems⟩ := List.forall_mem_cons.mp hitems
    have hsingle := toList_of_around hitem hfirst
    cases hrest with
    | nil => rw [Text.joinWith, String.intercalate_singleton, hsingle]
    | cons hnext hothers =>
      rw [Text.joinWith, String.intercalate_cons_cons, toList_append_comma, hsingle,
        ← Text.joinWith, ih hitems]
      rfl

end Coercion

namespace Machine

/-! ## Appending texts to a list -/

/-- Items that are appended in turn are appended together. -/
theorem extended_extended (held : Option Value) (items more : List Value) :
    extended (some (extended held items)) more = extended held (items ++ more) := by
  rcases held with - | v
  · rfl
  · cases v with
    | list old => rw [extended, extended, extended, List.append_assoc]
    | null | bool | int | float | str | object => rfl

/-- A text that is appended to a list variable adds its pieces. -/
theorem append_of_list {m : Machine} {o : Options} (hcoerce : o.coerceTypes = true) {name : Value}
    {k : Key} (hk : name.key? = some k) (htype : m.type? k = some (.str "list")) (s : String)
    (bindings : Table Value) :
    m.append o name (.str s) bindings =
      .ok (Table.put bindings k (extended (Table.find? bindings k) (Coercion.toList s))) := by
  have hlist : m.coerce o k (.str s) = .ok (.list (Coercion.toList s)) := by
    rw [coerce_of_coerceTypes hcoerce, htype]
    rfl
  have hitems : m.newItems o k (.list (Coercion.toList s)) = Coercion.toList s := by
    rw [newItems, hcoerce, htype]
    rfl
  rw [append, Value.key_eq_ok.mpr hk, ok_bind, hlist, ok_bind, hitems]
  rfl

end Machine

namespace Coercion

/-- **A comma separates lists.** The list of two texts with a comma between them is the list of the
first and then that of the second. Items of a list are tidy, and joined by commas they make the same
list again, whatever blanks stand around them. And where texts are turned into the declared types of
their variables, appending two texts with a comma between them to a variable that is declared a list
leaves the variables as appending the first and then the second does. -/
theorem toList_comma (a b : String) :
    toList (a ++ "," ++ b) = toList a ++ toList b ∧
      (∀ item ∈ toList a, TidyItem item) ∧
      (∀ texts, List.Forall₂ Around (toList a) texts →
        toList (Text.joinWith "," texts) = toList a) ∧
      ∀ (m : Machine) (o : Options) (name : Value) (k : Key), o.coerceTypes = true →
        name.key? = some k → m.type? k = some (.str "list") → ∀ bindings,
          ∃ first both, m.append o name (.str a) bindings = .ok first ∧
            m.append o name (.str b) first = .ok both ∧
            m.append o name (.str (a ++ "," ++ b)) bindings = .ok both ∧
            Table.find? both k =
              some (Machine.extended (Table.find? bindings k) (toList a ++ toList b)) := by
  refine ⟨toList_append_comma a b, fun _ ↦ tidyItem_of_mem_toList,
    fun texts htexts ↦ toList_joinWith htexts fun _ ↦ tidyItem_of_mem_toList, ?_⟩
  intro m o name k hcoerce hk htype bindings
  have happend (s : String) (held : Table Value) :=
    Machine.append_of_list hcoerce hk htype s held
  refine ⟨_, _, happend a bindings, happend b _, ?_, ?_⟩
  · rw [happend, toList_append_comma, Table.put_put, Table.find?_put, if_pos (Key.same_self k),
      Machine.extended_extended]
  · rw [Table.find?_put, if_pos (Key.same_self k), Table.find?_put, if_pos (Key.same_self k),
      Machine.extended_extended]

/-- What was seen so far, a number, becomes the first item, and the blank piece adds none. -/
theorem toList_comma_seen :
    toList (Text.joinWith "," [" 1", "2\n"]) = [.str "1", .str "2"] ∧
      ∃ m first both, Machine.ofTemplate Engine.portsSeen = .ok m ∧
        m.append { coerceTypes := true } (.str "seen") (.str "1\u2003,\t,2")
          [(.str "seen", .int 0)] = .ok first ∧
        m.append { coerceTypes := true } (.str "seen") (.str "3") first = .ok both ∧
        m.append { coerceTypes := true } (.str "seen") (.str ("1\u2003,\t,2" ++ "," ++ "3"))
          [(.str "seen", .int 0)] = .ok both ∧
        Table.find? both (.str "seen") =
          some (.list [.int 0, .str "1", .str "2", .str "3"]) := by
  have hlist : toList "1\u2003,\t,2" = [.str "1", .str "2"] := by decide +kernel
  obtain ⟨m, hm⟩ : ∃ m, Machine.ofTemplate Engine.portsSeen = .ok m := ⟨_, rfl⟩
  have htype : m.type? (.str "seen") = some (.str "list") := by
    rw [Machine.type?_of_ofTemplate hm]
    decide
  have haround : List.Forall₂ Around [.str "1", .str "2"] [" 1", "2\n"] :=
    .cons ⟨" ", "1", "", rfl, rfl, rfl, rfl⟩ (.cons ⟨"", "2", "\n", rfl, rfl, rfl, rfl⟩ .nil)
  obtain ⟨-, -, hjoined, happended⟩ := toList_comma "1\u2003,\t,2" "3"
  obtain ⟨first, both, hfirst, hboth, htogether, hfound⟩ :=
    happended m { coerceTypes := true } (.str "seen") _ rfl rfl htype [(.str "seen", .int 0)]
  refine ⟨?_, m, first, both, hm, hfirst, hboth, htogether, ?_⟩
  · rw [hjoined _ (hlist.symm ▸ haround), hlist]
  · rw [hfound, hlist]
    decide +kernel

end Coercion

end LineMachine
