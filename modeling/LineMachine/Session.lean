import LineMachine.Match.Best

/-!
# Sessions

A session holds caches and engines by name. An engine is a handle on a cache: several engines may
share one, and an engine keeps its cache when the name of the cache is given to a new one. The
engine called `default` is always there.

`Session.perform` carries out one request. Machines are numbered in the order in which a session
first reports them, so that a reader can tell whether two replies are about the same machine.
-/

namespace LineMachine

/-- Where a request goes: to a cache itself, or to an engine and so to its cache. -/
inductive Place where
  | cache (name : String)
  | engine (name : String)
  deriving DecidableEq, Repr

/-- What a session is asked to do. -/
inductive Request where
  /-- Give a name to a new cache. -/
  | newCache (name : String)
  /-- Give a name to a new engine, on a named cache or on one of its own. -/
  | newEngine (name : String) (cache : Option String)
  /-- Run a template over a text. -/
  | parse (engine : String) (text template options : Value)
  /-- Ask for the machine of a template. -/
  | compile (engine : String) (template : Value)
  /-- Remove the machine of an id. -/
  | invalidate (engine : String) (id : Value)
  /-- Remove all machines. -/
  | clear (engine : String)
  /-- Compare templates. -/
  | findBest (engine : String) (text templates filter : Value) (top : Option Int)
  /-- Build a machine and put it in. -/
  | put (place : Place) (template : Value)
  /-- Ask for the machine of an id. -/
  | get (place : Place) (id : Value)
  /-- Ask for the machine of an id, or build one. -/
  | getOrCompile (place : Place) (id template : Value)
  /-- Ask whether an id has a machine. -/
  | contains (place : Place) (id : Value)
  /-- Ask for the number of machines. -/
  | size (place : Place)
  deriving DecidableEq

/-- What a session answers a request with. -/
inductive Reply where
  | nothing
  | flag (b : Bool)
  | number (n : Nat)
  /-- The number of a machine, if there is one. -/
  | serial (n : Option Nat)
  /-- A machine: its number, the name of its template, and its first state. -/
  | machine (serial : Nat) (name start : Value)
  | parsed (result : ParseResult)
  | compared (result : MatchResult Float) (top : Option Int)

/-- Caches and engines by name. -/
structure Session where
  /-- All caches; a handle is a place in this list. -/
  caches : List Cache
  cacheNames : List (String × Nat)
  engineNames : List (String × Nat)
  /-- The machines reported so far, each by its cache and its stamp. -/
  reported : List (Nat × Nat)

/-- What a session gives back for one request. -/
structure Outcome where
  session : Session
  result : Except Fault Reply
  /-- The ids in the cache that the request went to. -/
  ids : List Key
  events : List Event

namespace Session

/-- A session with nothing but the default engine. -/
def start : Session where
  caches := [Cache.empty]
  cacheNames := []
  engineNames := [("default", 0)]
  reported := []

/-- Gives a name to a handle, in place of any handle that had it. -/
def rename (names : List (String × Nat)) (name : String) (handle : Nat) :
    List (String × Nat) :=
  (name, handle) :: names

/-- The cache of a handle. -/
def cacheAt (s : Session) (handle : Nat) : Cache :=
  s.caches[handle]?.getD Cache.empty

/-- The handle that a request goes to. -/
def handle? (s : Session) : Place → Option Nat
  | .cache name => s.cacheNames.lookup name
  | .engine name => s.engineNames.lookup name

/-- Adds a new cache and gives its handle. -/
def addCache (s : Session) : Nat × Session :=
  (s.caches.length, { s with caches := s.caches ++ [Cache.empty] })

/-- The number of a machine, given to it now unless it has one. -/
def report (s : Session) (handle : Nat) (stored : Stored) : Nat × Session :=
  let machine := (handle, stored.stamp)
  match s.reported.idxOf? machine with
  | some n => (n, s)
  | none => (s.reported.length, { s with reported := s.reported ++ [machine] })

/-! ## Requests -/

/-- What is left to do with the result of an operation: turn it into a reply. -/
def conclude {α : Type} (s : Session) (handle : Nat) (a : Answer α)
    (reply : Session → α → Session × Reply) : Outcome :=
  let s := { s with caches := s.caches.set handle a.cache }
  match a.result with
  | .ok v =>
    let (s, r) := reply s v
    ⟨s, .ok r, a.cache.ids, a.events⟩
  | .error fault => ⟨s, .error fault, a.cache.ids, a.events⟩

/-- A reply that needs no number. -/
def plain {α : Type} (reply : α → Reply) (s : Session) (v : α) : Session × Reply :=
  (s, reply v)

/-- The number of a machine as a reply. -/
def numbered (handle : Nat) (s : Session) (stored : Stored) : Session × Reply :=
  let (n, s) := s.report handle stored
  (s, .serial (some n))

/-- The number of a machine as a reply, if there is a machine. -/
def numberedIfAny (handle : Nat) (s : Session) : Option Stored → Session × Reply
  | some stored => numbered handle s stored
  | none => (s, .serial none)

/-- A machine as a reply. -/
def described (handle : Nat) (s : Session) (stored : Stored) : Session × Reply :=
  let (n, s) := s.report handle stored
  (s, .machine n stored.machine.template.name stored.machine.start)

/-- An outcome about a new handle. -/
def opened (s : Session) (handle : Nat) : Outcome :=
  ⟨s, .ok .nothing, (s.cacheAt handle).ids, []⟩

/-- Carries out an operation on the cache that a request goes to. -/
def at? (s : Session) (place : Place) (go : Nat → Cache → Outcome) : Option Outcome :=
  (s.handle? place).map fun handle ↦ go handle (s.cacheAt handle)

/-- Carries out a request, if the names in it are known. -/
def perform (s : Session) : Request → Option Outcome
  | .newCache name =>
    let (handle, s) := s.addCache
    some (opened { s with cacheNames := rename s.cacheNames name handle } handle)
  | .newEngine name (some cache) =>
    s.at? (.cache cache) fun handle _ ↦
      opened { s with engineNames := rename s.engineNames name handle } handle
  | .newEngine name none =>
    let (handle, s) := s.addCache
    some (opened { s with engineNames := rename s.engineNames name handle } handle)
  | .parse engine text template options =>
    s.at? (.engine engine) fun handle cache ↦
      s.conclude handle (Engine.parseDocument cache text template options) (plain .parsed)
  | .compile engine template =>
    s.at? (.engine engine) fun handle cache ↦
      s.conclude handle (Engine.compileDocument cache template) (described handle)
  | .invalidate engine id =>
    s.at? (.engine engine) fun handle cache ↦
      s.conclude handle (Answer.ofUpdate cache (cache.remove id)) (plain .flag)
  | .clear engine =>
    s.at? (.engine engine) fun handle cache ↦
      s.conclude handle (Answer.pure cache.clear ()) (plain fun _ ↦ .nothing)
  | .findBest engine text templates filter top =>
    s.at? (.engine engine) fun handle cache ↦
      s.conclude handle (Match.findBestDocument cache text templates filter)
        (plain fun r ↦ .compared r top)
  | .put place template =>
    s.at? place fun handle cache ↦
      s.conclude handle (Engine.putDocument cache template) (numbered handle)
  | .get place id =>
    s.at? place fun handle cache ↦
      s.conclude handle (Answer.ofExcept cache (cache.get? id)) (numberedIfAny handle)
  | .getOrCompile place id template =>
    s.at? place fun handle cache ↦
      s.conclude handle (Engine.getOrCompileDocument cache id template) (numbered handle)
  | .contains place id =>
    s.at? place fun handle cache ↦
      s.conclude handle (Answer.ofExcept cache (cache.contains id)) (plain .flag)
  | .size place =>
    s.at? place fun handle cache ↦
      s.conclude handle (Answer.pure cache cache.size) (plain .number)

end Session

end LineMachine
