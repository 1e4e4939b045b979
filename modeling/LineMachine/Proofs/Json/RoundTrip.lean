import Mathlib.Data.List.Forall2
import LineMachine.Proofs.Json.Strings
import LineMachine.Proofs.Lines
import LineMachine.Proofs.Table
import LineMachine.Template.Document

/-!
# Written JSON is read as it was

A value without numbers is what reading makes of its text (`Json.read?_write`), in whatever layout
it was written, as long as the layout sets parts apart by nothing but commas, blanks and line
feeds. The text has no line ends but line feeds, so a file keeps it as it is
(`Json.universalNewlines_write`).

`Json.Spells text v` says what carries the induction: `text` does not start with white space, and
in front of any other characters it is read as `v`. Items and fields are taken in the same way, one
part after the other (`Json.TakesParts`), so the induction over the parts is made once. The reader
is given its turns in advance. Twice as many as there are characters suffice, because every value
but the last of a list or an object is followed by a comma, which takes no turn.
-/

namespace LineMachine

open Text

/-- Holds of a value without numbers whose objects have different names for their fields. -/
inductive Value.NumberFree : Value → Prop
  | null : NumberFree .null
  | bool (b : Bool) : NumberFree (.bool b)
  | str (s : String) : NumberFree (.str s)
  | list {vs : List Value} (hitems : ∀ v ∈ vs, NumberFree v) : NumberFree (.list vs)
  | ofFields {fields : List (String × Value)} (hnames : (fields.map (·.1)).Nodup)
    (hvalues : ∀ e ∈ fields, NumberFree e.2) : NumberFree (Value.ofFields fields)

namespace Json

/-! ## White space -/

/-- Holds of characters that may stand between parts: blanks and line feeds. -/
def Blanks (s : List Char) : Prop :=
  ∀ c ∈ s, c = ' ' ∨ c = '\n'

instance (s : List Char) : Decidable (Blanks s) :=
  List.decidableBAll _ s

theorem skip_append {blanks : List Char} (h : Blanks blanks) (s : List Char) :
    skip (blanks ++ s) = skip s := by
  refine List.dropWhile_append_of_pos ?_
  intro c hc
  rcases h c hc with rfl | rfl <;> rfl

theorem skip_cons {c : Char} (h : isSpace c = false) (s : List Char) : skip (c :: s) = c :: s := by
  rw [skip, List.dropWhile_cons_of_neg (by simp [h])]

/-- Holds of a layout that sets parts apart by commas, blanks and line feeds. -/
structure Layout.Loose (layout : Layout) : Prop where
  lead : ∀ depth, Blanks (layout.lead depth).toList
  between : ∀ depth, ∃ blanks, (layout.between depth).toList = ',' :: blanks ∧ Blanks blanks
  trail : ∀ depth, Blanks (layout.trail depth).toList

theorem blanks_newLine (depth : Nat) : Blanks (newLine depth).toList := by
  have hindent : (repeated ' ' (2 * depth)).toList = List.replicate (2 * depth) ' ' :=
    String.toList_ofList
  have hfeed : Blanks "\n".toList := by decide
  rw [newLine, String.toList_append, hindent]
  exact List.forall_mem_append.mpr ⟨hfeed, fun c hc ↦ .inl (List.eq_of_mem_replicate hc)⟩

theorem Layout.loose_lines : Layout.lines.Loose where
  lead depth := blanks_newLine (depth + 1)
  between depth := ⟨(newLine (depth + 1)).toList, String.toList_append, blanks_newLine (depth + 1)⟩
  trail := blanks_newLine

/-! ## Texts of values -/

/-- Holds of a text that is read as a value, whatever follows it. -/
structure Spells (text : List Char) (v : Value) : Prop where
  /-- It does not start with white space. -/
  head : ∃ c rest, text = c :: rest ∧ isSpace c = false
  value : ∀ {fuel : Nat}, 2 * text.length ≤ fuel →
    ∀ rest, value fuel (text ++ rest) = .ok (v, rest)

namespace Spells

variable {text : List Char} {v : Value}

theorem length_pos (h : Spells text v) : 0 < text.length := by
  obtain ⟨c, text, rfl, -⟩ := h.head
  exact Nat.succ_pos text.length

theorem skip (h : Spells text v) (rest : List Char) : skip (text ++ rest) = text ++ rest := by
  obtain ⟨c, text, rfl, hspace⟩ := h.head
  exact skip_cons hspace (text ++ rest)

/-- A text spells what one turn reads, with the turns that are left after it. -/
theorem of_turn {c : Char} (hspace : isSpace c = false)
    (h : ∀ {fuel : Nat}, 2 * text.length + 1 ≤ fuel →
      ∀ rest, Json.value (fuel + 1) (c :: (text ++ rest)) = .ok (v, rest)) :
    Spells (c :: text) v where
  head := ⟨c, text, rfl, hspace⟩
  value := by
    intro fuel hfuel rest
    rw [List.length_cons] at hfuel
    obtain ⟨fuel, rfl⟩ := Nat.exists_eq_add_one_of_ne_zero (n := fuel) (by omega)
    exact h (by omega) rest

end Spells

theorem spells_null : Spells "null".toList .null :=
  .of_turn (c := 'n') rfl fun _ _ ↦ rfl

theorem spells_bool (b : Bool) : Spells (if b then "true" else "false").toList (.bool b) := by
  cases b with
  | false => exact .of_turn (c := 'f') rfl fun _ _ ↦ rfl
  | true => exact .of_turn (c := 't') rfl fun _ _ ↦ rfl

theorem toList_quotedString (s : String) :
    (quotedString s).toList = doubleQuote :: (s.toList.flatMap escapedChar ++ [doubleQuote]) := by
  rw [quotedString, String.toList_ofList]
  rfl

theorem value_doubleQuote (fuel : Nat) (s : List Char) :
    value (fuel + 1) (doubleQuote :: s) = (do
      let (found, rest) ← string s
      pure (.str found, rest)) := rfl

/-- A string between quotes is read in one turn. -/
theorem spells_str (s : String) : Spells (quotedString s).toList (.str s) := by
  rw [toList_quotedString]
  refine .of_turn rfl ?_
  intro fuel hfuel rest
  rw [List.append_assoc, List.singleton_append, value_doubleQuote, string_written]
  rfl

/-! ## Parts between brackets -/

theorem toList_joinWith_cons (between text next : String) (texts : List String) :
    (joinWith between (text :: next :: texts)).toList =
      text.toList ++ (between.toList ++ (joinWith between (next :: texts)).toList) := by
  rw [joinWith, String.intercalate_cons_cons, String.toList_append, String.toList_append,
    List.append_assoc]
  rfl

theorem joinWith_singleton (between text : String) : joinWith between [text] = text :=
  String.intercalate_singleton

theorem toList_enclosed_nil (layout : Layout) (depth : Nat) (opening closing : String) :
    (enclosed layout depth opening closing []).toList = opening.toList ++ closing.toList :=
  String.toList_append

/-- The text of an enclosed list of parts, of which there is at least one. -/
theorem toList_enclosed (layout : Layout) (depth : Nat) (opening closing : String)
    {parts : List String} (h : parts ≠ []) :
    (enclosed layout depth opening closing parts).toList =
      opening.toList ++ ((layout.lead depth).toList ++
        ((joinWith (layout.between depth) parts).toList ++
          ((layout.trail depth).toList ++ closing.toList))) := by
  rw [enclosed, if_neg (by simpa using h)]
  simp only [String.toList_append, List.append_assoc]

/-- Holds of a reader that takes the texts of parts one after the other: a comma leads from a part
to the next one, and the closing bracket ends them. -/
structure TakesParts {α : Type} (read : Nat → List Char → Except Stop (List α × List Char))
    (closing : Char) (part : List Char → α → Prop) : Prop where
  tight : isSpace closing = false
  /-- A part has at least one character. -/
  nonempty : ∀ {text : List Char} {a : α}, part text a → 0 < text.length
  /-- A part does not start with white space. -/
  skip : ∀ {text : List Char} {a : α}, part text a → ∀ s, skip (text ++ s) = text ++ s
  /-- A part in front of the closing bracket is the last one. -/
  last : ∀ {text : List Char} {a : α}, part text a → ∀ {fuel : Nat}, 2 * text.length ≤ fuel →
    ∀ {s rest : List Char}, Json.skip s = closing :: rest →
      read (fuel + 1) (text ++ s) = .ok ([a], rest)
  /-- A part in front of a comma is followed by others. -/
  cons : ∀ {text : List Char} {a : α}, part text a → ∀ {fuel : Nat}, 2 * text.length ≤ fuel →
    ∀ {s next rest : List Char} {as : List α}, Json.skip s = ',' :: next →
      read fuel (Json.skip next) = .ok (as, rest) →
        read (fuel + 1) (text ++ s) = .ok (a :: as, rest)

namespace TakesParts

variable {α : Type} {read : Nat → List Char → Except Stop (List α × List Char)} {closing : Char}
  {part : List Char → α → Prop} {texts : List String} {as : List α}

/-- Parts that are set apart by commas are read up to the closing bracket. -/
theorem joined (h : TakesParts read closing part) {between : String} {blanks trail : List Char}
    (hbetween : between.toList = ',' :: blanks) (hblanks : Blanks blanks) (htrail : Blanks trail)
    (hparts : List.Forall₂ (fun text a ↦ part text.toList a) texts as) (hne : texts ≠ [])
    {fuel : Nat} (hfuel : 2 * (joinWith between texts).toList.length < fuel) (rest : List Char) :
    read fuel (Json.skip ((joinWith between texts).toList ++ (trail ++ closing :: rest))) =
      .ok (as, rest) := by
  induction hparts generalizing fuel with
  | nil => exact absurd rfl hne
  | @cons text a texts as hfirst htexts ih =>
    obtain ⟨fuel, rfl⟩ := Nat.exists_eq_add_one_of_ne_zero (n := fuel) (by omega)
    cases htexts with
    | nil =>
      have hclosing : Json.skip (trail ++ closing :: rest) = closing :: rest := by
        rw [skip_append htrail, skip_cons h.tight]
      rw [joinWith_singleton] at hfuel ⊢
      rw [h.skip hfirst]
      exact h.last hfirst (by omega) hclosing
    | @cons next b texts as hnext htexts =>
      rw [toList_joinWith_cons, hbetween, List.length_append, List.length_append,
        List.length_cons] at hfuel
      have hpositive := h.nonempty hfirst
      have hturns : 2 * (joinWith between (next :: texts)).toList.length < fuel := by omega
      have hrest := ih (List.cons_ne_nil next texts) hturns
      rw [← skip_append hblanks] at hrest
      rw [toList_joinWith_cons, hbetween, List.append_assoc, h.skip hfirst]
      refine h.cons hfirst (by omega) ?_ hrest
      rw [List.append_assoc, List.cons_append, skip_cons rfl]

/-- What stands behind an opening bracket is read as the parts, of which there is at least one. -/
theorem enclosed (h : TakesParts read closing part) {layout : Layout} (hlayout : layout.Loose)
    (depth : Nat) (opening ending : String) (hending : ending.toList = [closing])
    (hparts : List.Forall₂ (fun text a ↦ part text.toList a) texts as) (hne : texts ≠ []) :
    ∃ inner, (Json.enclosed layout depth opening ending texts).toList = opening.toList ++ inner ∧
      ∀ {fuel : Nat}, 2 * inner.length ≤ fuel →
        ∀ rest, read fuel (Json.skip (inner ++ rest)) = .ok (as, rest) := by
  obtain ⟨blanks, hbetween, hblanks⟩ := hlayout.between depth
  refine ⟨_, toList_enclosed layout depth opening ending hne, ?_⟩
  intro fuel hfuel rest
  rw [hending, List.length_append, List.length_append, List.length_append,
    List.length_singleton] at hfuel
  rw [hending, List.append_assoc, skip_append (hlayout.lead depth), List.append_assoc,
    List.append_assoc, List.singleton_append]
  exact h.joined hbetween hblanks (hlayout.trail depth) hparts hne (by omega) rest

end TakesParts

/-! ### Lists -/

theorem takesParts_items : TakesParts items ']' Spells where
  tight := rfl
  nonempty h := h.length_pos
  skip h := h.skip
  last := by
    intro text v h fuel hfuel s rest hskip
    simp only [items, h.value hfuel, hskip, bind, Except.bind, pure, Except.pure]
  cons := by
    intro text v h fuel hfuel s next rest vs hskip hitems
    simp only [items, h.value hfuel, hskip, hitems, bind, Except.bind, pure, Except.pure]

/-- No item starts with the bracket that closes a list. -/
theorem items_closing (fuel : Nat) (rest : List Char) (r : List Value × List Char) :
    items fuel (']' :: rest) ≠ .ok r := by
  rcases fuel with - | - | fuel <;> exact fun h ↦ nomatch h

theorem value_list {fuel : Nat} {s rest : List Char} {vs : List Value}
    (h : items fuel (skip s) = .ok (vs, rest)) :
    value (fuel + 1) ('[' :: s) = .ok (.list vs, rest) := by
  rw [value]
  split
  · next hclosing =>
    rw [hclosing] at h
    exact absurd h (items_closing fuel _ _)
  · rw [h]
    rfl

/-- A list is spelled by the texts of its items. -/
theorem spells_list {layout : Layout} (hlayout : layout.Loose) (depth : Nat) {texts : List String}
    {vs : List Value} (h : List.Forall₂ (fun text v ↦ Spells text.toList v) texts vs) :
    Spells (enclosed layout depth "[" "]" texts).toList (.list vs) := by
  rcases eq_or_ne texts [] with rfl | hne
  · cases h
    have hempty : Spells ['[', ']'] (.list []) := .of_turn rfl fun _ _ ↦ rfl
    rw [toList_enclosed_nil]
    exact hempty
  · obtain ⟨inner, htext, hread⟩ := takesParts_items.enclosed hlayout depth "[" "]" rfl h hne
    have hspells : Spells ('[' :: inner) (.list vs) :=
      .of_turn rfl fun hfuel rest ↦ value_list (hread (by omega) rest)
    rw [htext]
    exact hspells

/-! ### Objects -/

/-- The text of a field. -/
def fieldText (name text : String) : String :=
  quotedString name ++ ": " ++ text

/-- Holds of the text of a field. -/
inductive SpellsField : List Char → Key × Value → Prop
  | mk (name text : String) {v : Value} (h : Spells text.toList v) :
    SpellsField (fieldText name text).toList (.str name, v)

theorem toList_fieldText (name text : String) :
    (fieldText name text).toList =
      doubleQuote :: (name.toList.flatMap escapedChar ++
        doubleQuote :: ':' :: ' ' :: text.toList) := by
  rw [fieldText, String.toList_append, String.toList_append, toList_quotedString]
  simp

theorem length_fieldText (name text : String) :
    text.toList.length < (fieldText name text).toList.length := by
  simp only [toList_fieldText, List.length_cons, List.length_append]
  omega

theorem string_fieldText (name text : String) (s : List Char) :
    ∃ front, (fieldText name text).toList ++ s = doubleQuote :: front ∧
      string front = .ok (name, ':' :: ' ' :: (text.toList ++ s)) := by
  refine ⟨_, ?_, string_written name _⟩
  rw [toList_fieldText, List.cons_append, List.append_assoc]
  rfl

/-- What is behind the colon of a field is read as its value. -/
theorem value_fieldText {text : String} {v : Value} (h : Spells text.toList v) {fuel : Nat}
    (hfuel : 2 * text.toList.length ≤ fuel) (s : List Char) :
    value fuel (skip (' ' :: (text.toList ++ s))) = .ok (v, s) := by
  have hblank : skip (' ' :: (text.toList ++ s)) = skip (text.toList ++ s) := rfl
  rw [hblank, h.skip, h.value hfuel]

theorem takesParts_fields : TakesParts fields '\x7d' SpellsField where
  tight := rfl
  nonempty := by
    rintro _ _ ⟨name, text, -⟩
    exact Nat.zero_lt_of_lt (length_fieldText name text)
  skip := by
    rintro _ _ ⟨name, text, -⟩ s
    rw [toList_fieldText, List.cons_append, skip_cons rfl]
  last := by
    rintro _ _ ⟨name, text, h⟩ fuel hfuel s rest hskip
    have hlength := length_fieldText name text
    obtain ⟨front, hfront, hstring⟩ := string_fieldText name text s
    have hcolon := skip_cons (c := ':') rfl (' ' :: (text.toList ++ s))
    have hvalue := value_fieldText h (show 2 * text.toList.length ≤ fuel by omega) s
    rw [hfront]
    simp only [fields, bne_self_eq_false, Bool.false_eq_true, if_false, hstring, hcolon, hvalue,
      hskip, bind, Except.bind, pure, Except.pure]
  cons := by
    rintro _ _ ⟨name, text, h⟩ fuel hfuel s next rest fs hskip hfields
    have hlength := length_fieldText name text
    obtain ⟨front, hfront, hstring⟩ := string_fieldText name text s
    have hcolon := skip_cons (c := ':') rfl (' ' :: (text.toList ++ s))
    have hvalue := value_fieldText h (show 2 * text.toList.length ≤ fuel by omega) s
    rw [hfront]
    simp only [fields, bne_self_eq_false, Bool.false_eq_true, if_false, hstring, hcolon, hvalue,
      hskip, hfields, bind, Except.bind, pure, Except.pure]

/-- No field starts with the brace that closes an object. -/
theorem fields_closing (fuel : Nat) (rest : List Char) (r : List (Key × Value) × List Char) :
    fields fuel ('\x7d' :: rest) ≠ .ok r := by
  rcases fuel with - | fuel <;> exact fun h ↦ nomatch h

theorem value_object {fuel : Nat} {s rest : List Char} {fs : List (Key × Value)}
    (h : fields fuel (skip s) = .ok (fs, rest)) :
    value (fuel + 1) ('\x7b' :: s) = .ok (.object (Table.ofList fs), rest) := by
  rw [value]
  split
  · next hclosing =>
    rw [hclosing] at h
    exact absurd h (fields_closing fuel _ _)
  · rw [h]
    rfl

/-- Fields of different names are a table as they stand. -/
theorem ofList_of_nodup {named : List (String × Value)} (h : (named.map (·.1)).Nodup) :
    Table.ofList (named.map fun e ↦ (Key.str e.1, e.2)) =
      named.map fun e ↦ (Key.str e.1, e.2) := by
  refine Table.ofList_of_pairwise ?_
  rw [List.pairwise_map]
  refine (List.pairwise_map.mp h).imp ?_
  intro d e hne
  rw [Key.same_str]
  exact beq_eq_false_iff_ne.mpr hne.symm

/-- An object is spelled by the texts of its fields. -/
theorem spells_object {layout : Layout} (hlayout : layout.Loose) (depth : Nat)
    {texts : List String} {fs : List (Key × Value)} (hfs : Table.ofList fs = fs)
    (h : List.Forall₂ (fun text e ↦ SpellsField text.toList e) texts fs) :
    Spells (enclosed layout depth "\x7b" "\x7d" texts).toList (.object fs) := by
  rcases eq_or_ne texts [] with rfl | hne
  · cases h
    have hempty : Spells ['\x7b', '\x7d'] (.object []) := .of_turn rfl fun _ _ ↦ rfl
    rw [toList_enclosed_nil]
    exact hempty
  · obtain ⟨inner, htext, hread⟩ := takesParts_fields.enclosed hlayout depth "\x7b" "\x7d" rfl h hne
    have hspells : Spells ('\x7b' :: inner) (.object (Table.ofList fs)) :=
      .of_turn rfl fun hfuel rest ↦ value_object (hread (by omega) rest)
    rw [hfs] at hspells
    rw [htext]
    exact hspells

/-! ## Whole values -/

theorem writeItems_eq_map (layout : Layout) (depth : Nat) (vs : List Value) :
    writeItems layout depth vs = vs.map (write layout depth) := by
  induction vs with
  | nil => rfl
  | cons v vs ih => rw [writeItems, ih, List.map_cons]

theorem writeFields_eq_map (layout : Layout) (depth : Nat) (named : List (String × Value)) :
    writeFields layout depth (named.map fun e ↦ (Key.str e.1, e.2)) =
      named.map fun e ↦ fieldText e.1 (write layout depth e.2) := by
  induction named with
  | nil => rfl
  | cons e named ih =>
    rw [List.map_cons, writeFields, ih, List.map_cons]
    rfl

/-- **What is written of a value spells it.** -/
theorem spells_write {layout : Layout} (hlayout : layout.Loose) {v : Value} (h : v.NumberFree)
    (depth : Nat) : Spells (write layout depth v).toList v := by
  induction h generalizing depth with
  | null => exact spells_null
  | bool b => exact spells_bool b
  | str s => exact spells_str s
  | @list vs _ ih =>
    rw [write, writeItems_eq_map]
    refine spells_list hlayout depth ?_
    rw [List.forall₂_map_left_iff, List.forall₂_same]
    exact fun v hv ↦ ih v hv (depth + 1)
  | @ofFields named hnames _ ih =>
    rw [Value.ofFields, write, writeFields_eq_map]
    refine spells_object hlayout depth (ofList_of_nodup hnames) ?_
    rw [List.forall₂_map_left_iff, List.forall₂_map_right_iff, List.forall₂_same]
    exact fun e he ↦ ⟨e.1, _, ih e he (depth + 1)⟩

/-- Holds of the characters that written values consist of. -/
def Shown (s : List Char) : Prop :=
  ∀ c ∈ s, IsPlain c ∨ c = '\n'

instance (s : List Char) : Decidable (Shown s) :=
  List.decidableBAll _ s

theorem shown_append {s t : List Char} : Shown (s ++ t) ↔ Shown s ∧ Shown t :=
  List.forall_mem_append

theorem Blanks.shown {s : List Char} (h : Blanks s) : Shown s := by
  intro c hc
  rcases h c hc with rfl | rfl
  · exact .inl (by decide)
  · exact .inr rfl

theorem shown_quotedString (s : String) : Shown (quotedString s).toList := by
  have hescapes : Shown (s.toList.flatMap escapedChar) := by
    intro c hc
    obtain ⟨d, -, hd⟩ := List.mem_flatMap.mp hc
    exact .inl ((escape_escapedChar d).isPlain c hd)
  rw [toList_quotedString, ← List.singleton_append, shown_append, shown_append]
  exact ⟨by decide, hescapes, by decide⟩

theorem shown_joinWith {between : String} (hbetween : Shown between.toList) {texts : List String}
    (h : ∀ text ∈ texts, Shown text.toList) : Shown (joinWith between texts).toList := by
  induction texts with
  | nil => exact List.forall_mem_nil _
  | cons text texts ih =>
    obtain ⟨hfirst, hrest⟩ := List.forall_mem_cons.mp h
    rcases texts with - | ⟨next, texts⟩
    · rw [joinWith_singleton]
      exact hfirst
    · rw [toList_joinWith_cons, shown_append, shown_append]
      exact ⟨hfirst, hbetween, ih hrest⟩

theorem shown_enclosed {layout : Layout} (hlayout : layout.Loose) (depth : Nat)
    {opening closing : String} (hopening : Shown opening.toList) (hclosing : Shown closing.toList)
    {texts : List String} (h : ∀ text ∈ texts, Shown text.toList) :
    Shown (enclosed layout depth opening closing texts).toList := by
  rcases eq_or_ne texts [] with rfl | hne
  · rw [toList_enclosed_nil, shown_append]
    exact ⟨hopening, hclosing⟩
  · obtain ⟨blanks, hbetween, hblanks⟩ := hlayout.between depth
    have hshown : Shown (layout.between depth).toList := by
      rw [hbetween, ← List.singleton_append, shown_append]
      exact ⟨by decide, hblanks.shown⟩
    rw [toList_enclosed layout depth opening closing hne]
    simp only [shown_append]
    exact ⟨hopening, (hlayout.lead depth).shown, shown_joinWith hshown h,
      (hlayout.trail depth).shown, hclosing⟩

/-- Values are written in printable ASCII and line feeds. -/
theorem shown_write {layout : Layout} (hlayout : layout.Loose) {v : Value} (h : v.NumberFree)
    (depth : Nat) : Shown (write layout depth v).toList := by
  induction h generalizing depth with
  | null =>
    rw [write]
    decide
  | bool b =>
    rw [write]
    cases b <;> decide
  | str s => exact shown_quotedString s
  | @list vs _ ih =>
    rw [write, writeItems_eq_map]
    refine shown_enclosed hlayout depth (by decide) (by decide) ?_
    rw [List.forall_mem_map]
    exact fun v hv ↦ ih v hv (depth + 1)
  | @ofFields named _ _ ih =>
    rw [Value.ofFields, write, writeFields_eq_map]
    refine shown_enclosed hlayout depth (by decide) (by decide) ?_
    rw [List.forall_mem_map]
    intro e he
    rw [fieldText, String.toList_append, String.toList_append, shown_append, shown_append]
    exact ⟨⟨shown_quotedString e.1, by decide⟩, ih e he (depth + 1)⟩

/-! ## Documents -/

section Document

variable {layout : Layout} {v : Value} {blanks : String}

/-- **A written value is read as it was**, with blanks and line feeds behind it. -/
theorem read?_write (hlayout : layout.Loose) (h : v.NumberFree) (depth : Nat)
    (hblanks : Blanks blanks.toList) : read? (write layout depth v ++ blanks) = .ok v := by
  have hspells := spells_write hlayout h depth
  have hmark : ((write layout depth v).toList ++ blanks.toList).head? ≠
      some (Char.ofNat 0xFEFF) := by
    intro hhead
    have hmem : Char.ofNat 0xFEFF ∈ (write layout depth v).toList ++ blanks.toList :=
      List.mem_of_head? hhead
    have hshown := shown_append.mpr ⟨shown_write hlayout h depth, hblanks.shown⟩
    exact absurd (hshown _ hmem) (by decide)
  have hturns : 2 * (write layout depth v).toList.length ≤
      2 * (((write layout depth v).toList ++ blanks.toList).length + 1) := by
    rw [List.length_append]
    omega
  have hend : skip blanks.toList = [] := by
    rw [← List.append_nil blanks.toList, skip_append hblanks]
    rfl
  rw [read?, String.toList_append, document, if_neg hmark, hspells.skip,
    hspells.value hturns]
  simp only [bind, Except.bind, hend]
  rfl

/-- A written value has no line ends but line feeds. -/
theorem universalNewlines_write (hlayout : layout.Loose) (h : v.NumberFree) (depth : Nat)
    (hblanks : Blanks blanks.toList) :
    universalNewlines (write layout depth v ++ blanks) = write layout depth v ++ blanks := by
  refine universalNewlines_eq_self ?_
  intro hmem
  rw [String.toList_append] at hmem
  have hshown := shown_append.mpr ⟨shown_write hlayout h depth, hblanks.shown⟩
  exact absurd (hshown _ hmem) (by decide)

end Document

end Json

end LineMachine
