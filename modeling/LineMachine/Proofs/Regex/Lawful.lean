import LineMachine.Proofs.Regex.Names
import LineMachine.Proofs.Regex.WholeLine

/-!
# What is relied on in line patterns

Templates and runs only ask of line patterns that the same text is read in the same way, and that
the same line is searched with the same outcome. Where more is needed it is one of four facts, which
any engine for regular expressions has to provide: named groups come in the order of their numbers
and under different names, a match tells of each of them, and any characters between the two ends
of a line are the whole line. They make a reader and a search `Lawful`, and the theorems about
templates rest on them alone. The reader and the search at hand are (`lawful`).
-/

namespace LineMachine.Regex

/-- What is relied on of a reader of patterns, of the named groups of a pattern with their numbers,
and of the search in a line. -/
structure Lawful {α : Type} (read : String → Flags → Except Fault α)
    (names : α → List (String × Nat))
    (captures : α → String → Option (List (String × Option String))) : Prop where
  /-- Named groups stand in the order of their numbers. -/
  increasing : ∀ {s flags p}, read s flags = .ok p → ((names p).map (·.2)).Pairwise (· < ·)
  /-- No two named groups have the same name. -/
  distinct : ∀ {s flags p}, read s flags = .ok p → ((names p).map (·.1)).Nodup
  /-- A match has one capture for every named group. -/
  named : ∀ {p line groups}, captures p line = some groups →
    groups.map (·.1) = (names p).map (·.1)
  /-- A group over any characters but line feeds, between the two ends, captures every line. -/
  wholeLine : ∃ p, read "^(?<line>.*)$" {} = .ok p ∧
    ∀ line : String, '\n' ∉ line.toList → captures p line = some [("line", some line)]

namespace Pattern

theorem names_of_captures? {pattern : Pattern} {line : String}
    {groups : List (String × Option String)} (h : pattern.captures? line = some groups) :
    groups.map (·.1) = pattern.names.map (·.1) := by
  obtain ⟨spot, -, rfl⟩ := Option.map_eq_some_iff.mp h
  rw [namedCaptures, List.map_map]
  rfl

end Pattern

/-- **The reader and the search are lawful.** -/
theorem lawful : Lawful Pattern.read? Pattern.names Pattern.captures? where
  increasing := Pattern.names_of_read?
  distinct := Pattern.nodup_names_of_read?
  named := Pattern.names_of_captures?
  wholeLine := ⟨wholeLine, read?_wholeLine, fun _ ↦ captures?_wholeLine⟩

end LineMachine.Regex
