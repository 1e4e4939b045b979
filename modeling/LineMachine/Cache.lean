import LineMachine.Machine

/-!
# Caches of machines

A cache keeps built machines under the ids of their templates. Nothing is dropped from it but by
`remove` and `clear`. Every machine that is put in gets a stamp of its own, so that the same
machine can be told from one that was built again.

The table of a cache is changed only through the operations here, which put each machine under
its own template's id.
-/

namespace LineMachine

/-- A machine in a cache. -/
structure Stored where
  /-- Tells one putting-in from another. -/
  stamp : Nat
  machine : Machine
  deriving DecidableEq

/-- Machines under the ids of their templates. -/
structure Cache where
  entries : Table Stored := []
  /-- The stamp of the next machine. -/
  next : Nat := 0
  deriving DecidableEq

namespace Cache

/-- The cache that holds nothing. -/
def empty : Cache := {}

/-- The machine under an id. -/
def get? (c : Cache) (id : Value) : Except Fault (Option Stored) := do
  pure (Table.find? c.entries (← id.key))

/-- Whether there is a machine under an id. -/
def contains (c : Cache) (id : Value) : Except Fault Bool := do
  pure (c.entries.has (← id.key))

/-- The ids, in the order in which they were first put in. -/
def ids (c : Cache) : List Key :=
  Table.keys c.entries

/-- How many machines there are. -/
def size (c : Cache) : Nat :=
  c.entries.length

/-- Puts a machine in under the id of its template, and gives it back with its stamp. -/
def put (c : Cache) (m : Machine) : Except Fault (Stored × Cache) := do
  let k ← m.template.id.key
  let stored : Stored := ⟨c.next, m⟩
  pure (stored, { entries := Table.put c.entries k stored, next := c.next + 1 })

/-- Removes the machine under an id, and tells whether there was one. In an empty cache any id
will do. -/
def remove (c : Cache) (id : Value) : Except Fault (Bool × Cache) :=
  if c.entries.isEmpty then .ok (false, c)
  else do
    let k ← id.key
    pure (c.entries.has k, { c with entries := Table.remove c.entries k })

/-- Removes every machine. -/
def clear (c : Cache) : Cache :=
  { c with entries := [] }

end Cache

end LineMachine
