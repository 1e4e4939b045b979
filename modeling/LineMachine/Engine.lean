import LineMachine.Cache
import LineMachine.Machine.Result
import LineMachine.Text.Lines

/-!
# Running templates through a cache

Running a template over a text takes the machine from a cache, or builds it and puts it there.
Every operation answers with its result or the fault that stopped it, with the cache as it is
afterwards, and with the events it made.

A cache is asked for a template's id only, so a template of the same id that came first decides
what is run; the result still carries the name of the template that was asked for.
-/

namespace LineMachine

/-- What an operation on a cache answers with. -/
structure Answer (α : Type) where
  result : Except Fault α
  cache : Cache
  events : List Event

namespace Answer

variable {α β : Type}

/-- Nothing was done. -/
def pure (cache : Cache) (a : α) : Answer α := ⟨.ok a, cache, []⟩

/-- Nothing was done but finding a fault. -/
def fail (cache : Cache) (fault : Fault) : Answer α := ⟨.error fault, cache, []⟩

/-- Goes on with the result and the cache of an operation; a fault stops it there. -/
def andThen (a : Answer α) (next : Cache → α → Answer β) : Answer β :=
  match a.result with
  | .ok v =>
    let b := next a.cache v
    { b with events := a.events ++ b.events }
  | .error fault => ⟨.error fault, a.cache, a.events⟩

/-- Has an event in front of the others. -/
def after (event : Event) (a : Answer α) : Answer α :=
  { a with events := event :: a.events }

/-- An operation that leaves the cache alone. -/
def ofExcept (cache : Cache) (x : Except Fault α) : Answer α := ⟨x, cache, []⟩

/-- An operation on the cache that makes no event. -/
def ofUpdate (cache : Cache) (x : Except Fault (α × Cache)) : Answer α :=
  match x with
  | .ok (a, cache) => ⟨.ok a, cache, []⟩
  | .error fault => ⟨.error fault, cache, []⟩

end Answer

namespace Engine

/-! ## Machines -/

/-- Builds the machine of a template. -/
def build (cache : Cache) (t : Template) : Answer Machine :=
  match Machine.ofTemplate t with
  | .ok m => ⟨.ok m, cache, [m.builtEvent]⟩
  | .error fault => .fail cache fault

/-- Builds the machine of a template and puts it in the cache, under the template's own id. -/
def put (cache : Cache) (t : Template) : Answer Stored :=
  (build cache t).andThen fun cache m ↦ .ofUpdate cache (cache.put m)

/-- The machine under an id, or else what `make` puts in the cache. -/
def getOr (cache : Cache) (id : Value) (make : Cache → Answer Stored) : Answer Stored :=
  match cache.get? id with
  | .ok (some stored) => (Answer.pure cache stored).after (.cacheHit id)
  | .ok none => (make cache).after (.cacheMiss id)
  | .error fault => .fail cache fault

/-- The machine of a template, built unless there is one under its id. -/
def compile (cache : Cache) (t : Template) : Answer Stored :=
  getOr cache t.id fun cache ↦ put cache t

/-! ## Running -/

/-- The text to run over; anything else is refused. -/
def textOf (v : Value) : Except Fault String :=
  match v with
  | .str s => .ok s
  | v => .error (.notText v.kindName)

/-- The events of a finished run. -/
def runEvents (t : Template) (c : Machine.Config) : List Event :=
  (if c.status = .lost then [.unknownState t.id c.state c.lines] else []) ++
    [.parseCompleted t.id c.records.length c.lines c.matched c.state]

/-- Runs a machine over a text, reporting under a template's name. -/
def runMachine (cache : Cache) (m : Machine) (t : Template) (text : Value) (o : Options) :
    Answer ParseResult :=
  match textOf text >>= fun s ↦ m.run o (Text.splitLines s) with
  | .ok c => ⟨.ok (.ofConfig t o c), cache, runEvents t c⟩
  | .error fault => .fail cache fault

/-- Runs a template over a text. -/
def parse (cache : Cache) (text : Value) (t : Template) (o : Options) : Answer ParseResult :=
  (compile cache t).andThen fun cache stored ↦ runMachine cache stored.machine t text o

/-! ## Documents -/

/-- The machine of a template document. -/
def compileDocument (cache : Cache) (doc : Value) : Answer Stored :=
  (Answer.ofExcept cache (Template.read doc)).andThen compile

/-- Runs a template document over a text, with a document of options. -/
def parseDocument (cache : Cache) (text doc options : Value) : Answer ParseResult :=
  (Answer.ofExcept cache (Template.read doc)).andThen fun cache t ↦
    (Answer.ofExcept cache (Options.read options)).andThen fun cache o ↦ parse cache text t o

/-- Builds the machine of a template document and puts it in the cache. -/
def putDocument (cache : Cache) (doc : Value) : Answer Stored :=
  (Answer.ofExcept cache (Template.read doc)).andThen put

/-- The machine under an id, or else the one of a document, which is put under its own id. -/
def getOrCompileDocument (cache : Cache) (id doc : Value) : Answer Stored :=
  getOr cache id fun cache ↦ putDocument cache doc

end Engine

end LineMachine
