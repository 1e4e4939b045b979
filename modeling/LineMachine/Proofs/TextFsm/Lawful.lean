import LineMachine.Proofs.TextFsm.Worded
import LineMachine.TextFsm.Import

/-!
# What is relied on in a reader of TextFSM templates

A reader says which texts are TextFSM templates; what becomes of a document that was read is the
work of importing it. Of the reader two facts are relied on: the Values and states of what was read
go together (`Document.Coherent`), and nothing but a Value is without a text (`StateDecl.Worded`).
They make a reader `Lawful`, and the theorems about imported templates hold for every reader that
is. The reader at hand is (`lawful_readDocument`).
-/

namespace LineMachine.TextFsm

variable {ε ε' : Type}

/-- What is relied on of a reader of TextFSM templates. -/
structure Lawful (read : String → Except ε Document) : Prop where
  /-- The Values and states of what was read go together. -/
  coherent : ∀ {content d}, read content = .ok d → d.Coherent
  /-- The states of what was read, and their rules, have texts. -/
  worded : ∀ {content d}, read content = .ok d → ∀ s ∈ d.states, s.Worded

/-- How faults are told makes no difference. -/
theorem Lawful.mapError {read : String → Except ε Document} (h : Lawful read) (f : ε → ε') :
    Lawful fun content ↦ (read content).mapError f where
  coherent hread := h.coherent (mapError_eq_ok.mp hread)
  worded hread := h.worded (mapError_eq_ok.mp hread)

theorem lawful_read : Lawful Document.read where
  coherent := Document.coherent_of_read
  worded := Document.worded_of_read

/-- **The reader is lawful.** -/
theorem lawful_readDocument : Lawful readDocument :=
  lawful_read.mapError LineMachine.Fault.textFsm

end LineMachine.TextFsm
