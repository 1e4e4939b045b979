import LineMachine.Proofs.Cli.Files
import LineMachine.Proofs.Json.RoundTrip
import LineMachine.Proofs.Template.RoundTrip
import LineMachine.Proofs.TextFsm.States

/-!
# Converted templates are loaded as they were imported

The document that is made from a TextFSM template is written as JSON, read again, and read as a
template; that is the imported template itself (`TextFsm.reload_converted`). Three things come
together. The document holds no numbers, so its text is read as it was written. The template is
canonical, so its document describes it. And no field of it is lost by being without content: the
vendor and the command were given, and everything else is fixed by the import.
-/

namespace LineMachine

/-! ## Documents without numbers -/

/-- A list of written parts is without numbers if the parts are. -/
theorem numberFree_parts {α : Type} {write : α → Value} {parts : List α}
    (h : ∀ a ∈ parts, (write a).NumberFree) : (Value.list (parts.map write)).NumberFree :=
  .list (List.forall_mem_map.mpr h)

/-- Fields without numbers, whose names are some of a list of different names. -/
structure NumberFreeFields (names : List String) (fields : List (String × Value)) : Prop where
  names : (fields.map (·.1)).Sublist names
  values : ∀ e ∈ fields, e.2.NumberFree

namespace NumberFreeFields

theorem nil (names : List String) : NumberFreeFields names [] :=
  ⟨List.nil_sublist names, List.forall_mem_nil _⟩

theorem single (name : String) {v : Value} (h : v.NumberFree) :
    NumberFreeFields [name] [(name, v)] :=
  ⟨.refl _, List.forall_mem_singleton.mpr h⟩

theorem optional (name : String) {v : Value} (h : v.NumberFree) :
    NumberFreeFields [name] (optionalField name v) := by
  rw [optionalField]
  split
  · exact single name h
  · exact nil [name]

theorem append {names names' : List String} {fields fields' : List (String × Value)}
    (h : NumberFreeFields names fields) (h' : NumberFreeFields names' fields') :
    NumberFreeFields (names ++ names') (fields ++ fields') where
  names := by
    rw [List.map_append]
    exact h.names.append h'.names
  values := List.forall_mem_append.mpr ⟨h.values, h'.values⟩

/-- An object with such fields is without numbers. -/
theorem ofFields {names : List String} {fields : List (String × Value)}
    (h : NumberFreeFields names fields) (hnames : names.Nodup) :
    (Value.ofFields fields).NumberFree :=
  .ofFields (hnames.sublist h.names) h.values

end NumberFreeFields

open NumberFreeFields (nil single optional append)

theorem Transition.numberFree_write {t : Transition} (htarget : t.target.NumberFree)
    (hcondition : t.condition.NumberFree) : t.write.NumberFree :=
  ((single "to" htarget).append (single "when" hcondition)).ofFields (by decide)

theorem State.numberFree_write {s : State} (hname : s.name.NumberFree)
    (hrules : ∀ r ∈ s.rules, r.write.NumberFree) : s.write.NumberFree :=
  ((single "name" hname).append (single "patterns" (numberFree_parts hrules))).ofFields (by decide)

theorem Variable.numberFree_write {v : Variable} (hname : v.name.NumberFree)
    (htype : v.type.NumberFree) (hvalidation : v.validation.NumberFree)
    (hdescription : v.description.NumberFree) : v.write.NumberFree := by
  have hkept := (single "name" hname).append (single "type" htype)
  have hfields := (hkept.append (optional "validation" hvalidation)).append
    (optional "description" hdescription)
  exact hfields.ofFields (by decide)

/-- A written template is without numbers if its fields and its written parts are. -/
theorem Template.numberFree_write {t : Template} (hid : t.id.NumberFree) (hname : t.name.NumberFree)
    (hvendor : t.vendor.NumberFree) (hdeviceOs : t.deviceOs.NumberFree)
    (hcommand : t.command.NumberFree) (hdescription : t.description.NumberFree)
    (hdeclared : ∀ v ∈ t.declared, v.write.NumberFree)
    (hstates : ∀ s ∈ t.states, s.write.NumberFree)
    (hmetadata : (Value.object t.metadata).NumberFree) : t.write.NumberFree := by
  have hkept := ((single "id" hid).append (single "name" hname)).append (single "vendor" hvendor)
  have hlabelled := ((hkept.append (optional "deviceOs" hdeviceOs)).append
    (optional "command" hcommand)).append (optional "description" hdescription)
  have hvariables : NumberFreeFields ["variables"]
      (if t.declared.isEmpty then []
        else [("variables", .list (t.declared.map Variable.write))]) := by
    split
    · exact nil _
    · exact single _ (numberFree_parts hdeclared)
  exact (((hlabelled.append hvariables).append (single "states" (numberFree_parts hstates))).append
    (optional "metadata" hmetadata)).ofFields (by decide)

namespace TextFsm.Document

variable (d : Document)

/-! ## Imported parts -/

/-- A record operation makes a record or clears variables. -/
theorem action_of_mem {operation : Option RecordOperation} {a : Action}
    (h : a ∈ d.recordActions operation) : a = .emit ∨ ∃ name : String, a = .clear (.str name) := by
  have hclear : ∀ {names : List String}, a ∈ clearAll names →
      ∃ name : String, a = .clear (.str name) := by
    intro names hmem
    obtain ⟨name, -, rfl⟩ := List.mem_map.mp hmem
    exact ⟨name, rfl⟩
  rcases operation with - | - | - | - | -
  · cases h
  · exact .inr (hclear h)
  · exact .inr (hclear h)
  · exact (List.mem_cons.mp h).imp id hclear
  · cases h

theorem numberFree_action {operation : Option RecordOperation} {a : Action}
    (h : a ∈ d.recordActions operation) : a.write.NumberFree := by
  rcases d.action_of_mem h with rfl | ⟨name, rfl⟩
  · exact (single "type" (.str "emit")).ofFields (by decide)
  · have hfields := (single "type" (.str "clear")).append (single "variable" (.str name))
    exact hfields.ofFields (by decide)

theorem numberFree_rule (r : RuleDecl) : (d.importRule r).write.NumberFree := by
  have hactions : (Value.list ((d.recordActions r.action.record).map Action.write)).NumberFree :=
    numberFree_parts fun a ha ↦ d.numberFree_action ha
  have hkept := (single "regex" (.str r.expression)).append (single "actions" hactions)
  rw [importRule, Rule.write]
  rcases r.action.target with - | target
  · exact (hkept.append (nil [])).ofFields (by decide)
  · have htransition : (transitionTo target).write.NumberFree :=
      Transition.numberFree_write (.str _) (.str "match")
    exact (hkept.append (single "transition" htransition)).ofFields (by decide)

/-- The document of an imported template is without numbers if its heading is. -/
theorem numberFree_write {h : Heading} (hid : h.id.NumberFree) (hname : h.name.NumberFree)
    (hvendor : h.vendor.NumberFree) (hcommand : h.command.NumberFree) :
    (d.toTemplate h).write.NumberFree := by
  have htitle : (h.name.orElse h.id).NumberFree := by
    rw [Value.orElse]
    split
    · exact hname
    · exact hid
  have hdeclared : ∀ v ∈ (d.toTemplate h).declared, v.write.NumberFree :=
    List.forall_mem_map.mpr fun name _ ↦
      Variable.numberFree_write (.str name) (.str _) .null (.str _)
  have hstates : ∀ s ∈ (d.toTemplate h).states, s.write.NumberFree := by
    refine List.forall_mem_map.mpr fun s _ ↦ ?_
    exact State.numberFree_write (.str s.name)
      (List.forall_mem_map.mpr fun r _ ↦ d.numberFree_rule r)
  have hfilldown : (Value.list (d.filldown.1.map .str)).NumberFree :=
    numberFree_parts fun name _ ↦ .str name
  have hmetadata : (Value.object (d.toTemplate h).metadata).NumberFree :=
    ((single "source" (.str "textfsm")).append (single "filldown" hfilldown)).ofFields (by decide)
  exact Template.numberFree_write hid htitle hvendor .null hcommand (.str "") hdeclared hstates
    hmetadata

theorem canonical_rule (r : RuleDecl) : (d.importRule r).Canonical where
  flags _ h := nomatch h
  rename := nofun
  action := by
    intro a ha
    rcases d.action_of_mem ha with rfl | ⟨name, rfl⟩ <;> trivial
  transition t h := by
    obtain ⟨target, -, rfl⟩ := Option.map_eq_some_iff.mp h
    rfl

/-- An imported template is one that documents describe, if its id and its vendor were given. -/
theorem canonical_toTemplate {h : Heading} (hid : h.id.truthy = true)
    (hvendor : h.vendor.truthy = true) : (d.toTemplate h).Canonical where
  name := Value.orElse_of_truthy (Value.truthy_orElse hid)
  states := by
    refine List.forall_mem_map.mpr fun s _ ↦ ?_
    exact List.forall_mem_map.mpr fun r _ ↦ d.canonical_rule r
  vendor := hvendor
  description := rfl
  declared := List.forall_mem_map.mpr fun _ _ ↦ ⟨rfl, rfl⟩

theorem settled_toTemplate {h : Heading} (hcommand : h.command.truthy = true ∨ h.command = .null) :
    (d.toTemplate h).settled = d.toTemplate h := by
  rw [Template.settled_eq_self_iff, List.forall_mem_cons, List.forall_mem_cons, List.forall_mem_map]
  exact ⟨.inr rfl, hcommand, List.forall_mem_map.mpr fun _ _ ↦ .inr rfl⟩

/-- The document of an imported template is read as that template. -/
theorem read_write_toTemplate {h : Heading} (hid : h.id.truthy = true)
    (hvendor : h.vendor.truthy = true) (hcommand : h.command.truthy = true ∨ h.command = .null) :
    Template.read (d.toTemplate h).write = .ok (d.toTemplate h) := by
  have hdescribes := Template.describes_write (d.canonical_toTemplate hid hvendor)
  rw [d.settled_toTemplate hcommand] at hdescribes
  exact Template.read_eq_ok.mpr hdescribes

end TextFsm.Document

/-! ## The commands -/

namespace Cli

open TextFsm

theorem Memory.perform_requireDocument {m : Memory} {path text : String} {doc : Value}
    (hkind : m.files.kindOf path = some .file) (htext : m.files.read? path = some text)
    (hread : Json.read? (Text.universalNewlines text) = .ok doc) :
    m.perform (Command.requireDocument path) = (.ok doc, m) := by
  rw [Command.requireDocument, perform_bind (perform_readDocument hkind htext), hread]
  rfl

/-- The document of an imported template is written to the file that was named. -/
theorem Memory.perform_convert {m : Memory} {s : Command.ConvertSettings} {content path : String}
    {d : Document} (hsource : m.perform s.source.read = (.ok content, m))
    (hread : readDocument content = .ok d) (htarget : s.target = .file path)
    (hwritable : m.files.Writable path) (settings : Log.Settings) :
    ∃ m', m.perform (Command.convert settings s) = (.ok (), m') ∧
      m'.files.kindOf path = some .file ∧ m'.files.read? path =
        some (Json.indented (d.toTemplate (Command.heading s)).write ++ "\n") := by
  obtain ⟨logged, hlog, hfiles⟩ := m.perform_log settings (d.importEvents (Command.heading s).id)
  have hlogged : logged.files.Writable path := hfiles ▸ hwritable
  obtain ⟨files, hwrite, hkind, htext⟩ := hlogged.exists_write
    (Json.indented (d.toTemplate (Command.heading s)).write ++ "\n")
  have haccepted : m.perform (Command.orFail (readDocument content)) = (.ok d, m) := by
    rw [hread]
    rfl
  refine ⟨{ logged with files := files }, ?_, hkind, htext⟩
  rw [Command.convert, perform_bind hsource, perform_bind haccepted, perform_bind hlog, htarget]
  exact perform_write hwrite

end Cli

namespace TextFsm

open Cli (Memory Source)
open Cli.Command (textOrNull)
open Engine (hosts hostsText readDocument_hosts)

/-- The imported template that is labelled by texts, of which the name and the command may be
left out. -/
def Document.labelled (d : Document) (id : String) (name : Option String) (vendor : String)
    (command : Option String) : Template :=
  d.toTemplate ⟨.str id, textOrNull name, .str vendor, textOrNull command⟩

theorem numberFree_textOrNull (s : Option String) : (textOrNull s).NumberFree := by
  rcases s with - | text
  · exact .null
  · exact .str text

theorem truthy_textOrNull {s : Option String} (h : s ≠ some "") :
    (textOrNull s).truthy = true ∨ textOrNull s = .null := by
  rcases s with - | text
  · exact .inr rfl
  · refine .inl (bne_iff_ne.mpr ?_)
    rintro rfl
    exact h rfl

/-- **Converting and reloading loses nothing.** Let a TextFSM template be one that the reader
accepts, and let its id, its vendor and its command be texts with content, or the command be left
out. The text that is made of its document is loaded as that document, and the document is read as
the imported template, so running the document is running that template. Converting it on a host
comes to its end and leaves a file that is loaded as the document. -/
theorem reload_converted {content : String} {d : Document} (hread : readDocument content = .ok d)
    {id vendor : String} {command : Option String} (hid : id ≠ "") (hvendor : vendor ≠ "")
    (hcommand : command ≠ some "") (name : Option String) :
    ∃ t, t = d.labelled id name vendor command ∧
      Json.read? (Text.universalNewlines (Json.indented t.write ++ "\n")) = .ok t.write ∧
      Template.read t.write = .ok t ∧
      (∀ (cache : Cache) (text options : Value), Engine.parseDocument cache text t.write options =
        (Answer.ofExcept cache (Options.read options)).andThen fun cache o ↦
          Engine.parse cache text t o) ∧
      ∀ (m : Memory) (source : Source) (path : String) (settings : Log.Settings),
        m.perform source.read = (.ok content, m) → m.files.Writable path →
          ∃ m', m.perform (Cli.Command.convert settings
              ⟨source, some id, name, vendor, command, .file path⟩) = (.ok (), m') ∧
            m'.files.read? path = some (Json.indented t.write ++ "\n") ∧
            m'.perform (Cli.Command.requireDocument path) = (.ok t.write, m') := by
  have hfree : (d.labelled id name vendor command).write.NumberFree :=
    d.numberFree_write (.str id) (numberFree_textOrNull name) (.str vendor)
      (numberFree_textOrNull command)
  have hblanks : Json.Blanks "\n".toList := by decide
  have hload : Json.read? (Text.universalNewlines
      (Json.indented (d.labelled id name vendor command).write ++ "\n")) =
      .ok (d.labelled id name vendor command).write := by
    rw [Json.indented, Json.universalNewlines_write Json.Layout.loose_lines hfree 0 hblanks]
    exact Json.read?_write Json.Layout.loose_lines hfree 0 hblanks
  have htemplate : Template.read (d.labelled id name vendor command).write =
      .ok (d.labelled id name vendor command) :=
    d.read_write_toTemplate (bne_iff_ne.mpr hid) (bne_iff_ne.mpr hvendor)
      (truthy_textOrNull hcommand)
  refine ⟨_, rfl, hload, htemplate, ?_, ?_⟩
  · intro cache text options
    rw [Engine.parseDocument, htemplate]
    rfl
  · intro m source path settings hsource hwritable
    obtain ⟨m', hconvert, hkind, htext⟩ := Memory.perform_convert
      (s := ⟨source, some id, name, vendor, command, .file path⟩) hsource hread rfl hwritable
      settings
    have hheading : Cli.Command.heading ⟨source, some id, name, vendor, command, .file path⟩ =
        ⟨.str id, textOrNull name, .str vendor, textOrNull command⟩ := by
      simp [Cli.Command.heading, Option.filter, hid]
    rw [hheading] at htext
    exact ⟨m', hconvert, htext, Memory.perform_requireDocument hkind htext hload⟩

/-- A host with a file that lists hosts. -/
def shelf : Memory where
  files := [(["hosts.textfsm"], hostsText)]

/-- Quotes, a backslash, controls and a character outside of the basic plane come back. -/
theorem reload_converted_hosts :
    ∃ t m', t = hosts.labelled "hosts" (some "\"hosts\" \\ 𝄞") "générique"
        (some "show\thosts\x07") ∧
      Template.read t.write = .ok t ∧
      shelf.perform (Source.file "hosts.textfsm").read = (.ok hostsText, shelf) ∧
      shelf.files.Writable "hosts.json" ∧
      shelf.perform (Cli.Command.convert ⟨.warning, .json⟩
        ⟨.file "hosts.textfsm", some "hosts", some "\"hosts\" \\ 𝄞", "générique",
          some "show\thosts\x07", .file "hosts.json"⟩) = (.ok (), m') ∧
      m'.perform (Cli.Command.requireDocument "hosts.json") = (.ok t.write, m') := by
  have hsource : shelf.perform (Source.file "hosts.textfsm").read = (.ok hostsText, shelf) := by
    have hfile : shelf.files.read? "hosts.textfsm" = some hostsText := rfl
    have hlines : Text.universalNewlines hostsText = hostsText :=
      Text.universalNewlines_eq_self (by decide +kernel)
    rw [Memory.perform_read hfile, hlines]
  have hwritable : shelf.files.Writable "hosts.json" := ⟨["hosts.json"], rfl, rfl⟩
  have hcommand : some "show\thosts\x07" ≠ some "" := by decide
  obtain ⟨t, ht, -, htemplate, -, hrun⟩ := reload_converted readDocument_hosts
    (show "hosts" ≠ "" by decide) (show "générique" ≠ "" by decide) hcommand
    (some "\"hosts\" \\ 𝄞")
  obtain ⟨m', hconvert, -, hload⟩ := hrun shelf (.file "hosts.textfsm") "hosts.json"
    ⟨.warning, .json⟩ hsource hwritable
  exact ⟨t, m', ht, htemplate, hsource, hwritable, hconvert, hload⟩

end TextFsm

end LineMachine
