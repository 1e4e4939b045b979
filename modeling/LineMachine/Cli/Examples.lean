import LineMachine.Cli.Commands
import LineMachine.Cli.Samples

/-!
# Built-in examples

Three examples of what templates do, each with a heading of its own. They share one cache.
-/

namespace LineMachine.Cli

variable {m : Type → Type} [Monad m] [Host m]

/-- Which of the examples are asked for. -/
structure ExampleChoice where
  table : Bool
  paragraph : Bool
  multisection : Bool
  deriving DecidableEq, Repr

/-- Asking for none of the examples asks for all of them. -/
def ExampleChoice.orAll (c : ExampleChoice) : ExampleChoice :=
  if c.table || c.paragraph || c.multisection then c else ⟨true, true, true⟩

namespace Command

/-- Shows the heading of an example. -/
def sayHeading (title : String) : Command m Unit := do
  say rule
  say title
  say rule

/-- Names in brackets. -/
def namesText (names : List Value) : String := (Value.list names).display

/-- Runs a template over a sample text; gives the result and the cache as it is afterwards. -/
def runSample (settings : Log.Settings) (cache : Cache) (text : String) (t : Template)
    (o : Options) : Command m (ParseResult × Cache) := do
  let a := Engine.parse cache (.str text) t o
  let r ← orFail (← logged settings a)
  pure (r, a.cache)

/-- Reads a TextFSM template and labels it. -/
def importSample (settings : Log.Settings) (text : String) (h : TextFsm.Heading) :
    Command m (TextFsm.Document × Template) := do
  let d ← orFail (TextFsm.readDocument text)
  log settings (d.importEvents h.id)
  pure (d, d.toTemplate h)

/-- The example of a list of hardware. -/
def tableExample (settings : Log.Settings) (cache : Cache) : Command m Cache := do
  sayHeading "TABLE EXAMPLE: Arista show inventory (TextFSM import)"
  let (_, t) ← importSample settings Samples.inventoryTemplate
    { id := .str "arista_eos_show_inventory", vendor := .str "arista"
      command := .str "show inventory" }
  say ("States: " ++ namesText (t.states.map (·.name)))
  let (r, cache) ← runSample settings cache Samples.inventoryText t {}
  sayRecords r.records
  pure cache

/-- The example of one device. -/
def paragraphExample (settings : Log.Settings) (cache : Cache) : Command m Cache := do
  say ""
  sayHeading "PARAGRAPH EXAMPLE: Cisco show version"
  let (r, cache) ← runSample settings cache Samples.versionText Samples.versionTemplate
    { coerceTypes := true }
  r.records.forM fun fields ↦
    fields.forM fun (k, v) ↦ say ("  " ++ k.text ++ ": " ++ v.text)
  say ("Lines processed: " ++ toString r.linesProcessed ++
    " (ended early on 'end' transition)")
  pure cache

/-- The example of a summary with headings. -/
def multisectionExample (settings : Log.Settings) (cache : Cache) : Command m Cache := do
  say ""
  sayHeading "MULTI-SECTION EXAMPLE: OSPF Summary (Filldown)"
  let (d, t) ← importSample settings Samples.ospfTemplate
    { id := .str "arista_eos_show_ip_ospf", vendor := .str "arista" }
  say ("Filldown vars: " ++ namesText (d.filldown.1.map .str))
  say ("Regular vars: " ++ namesText (d.filldown.2.map .str))
  let (r, cache) ← runSample settings cache Samples.ospfText t {}
  sayRecords r.records
  pure cache

/-- Runs an example if it is asked for. -/
def runIf (asked : Bool) (run : Cache → Command m Cache) (cache : Cache) : Command m Cache :=
  if asked then run cache else pure cache

/-- Runs examples. -/
def examples (settings : Log.Settings) (choice : ExampleChoice) : Command m Unit := do
  let c := choice.orAll
  let cache ← runIf c.table (tableExample settings) Cache.empty
  let cache ← runIf c.paragraph (paragraphExample settings) cache
  discard (runIf c.multisection (multisectionExample settings) cache)

end Command

end LineMachine.Cli
