import LineMachine.Template
import LineMachine.Text.Lines

/-!
# Sample templates and texts

What the built-in examples run on: a list of hardware in sections, the description of one device,
and a summary whose headings hold for the lines below them.
-/

namespace LineMachine.Cli.Samples

/-! ## A list of hardware -/

/-- A TextFSM template for a list of hardware: a state for each section of it. -/
def inventoryTemplate : String := Text.terminated [
  "Value PORT ([0-9/]+)",
  "Value NAME (\\S+)",
  "Value SN (\\S+)",
  "Value DESCR (.+)",
  "Value VID (\\d+\\.\\d+|\\d+)",
  "",
  "Start",
  "  ^\\s*System\\s+\\S+?$$ -> Chassis",
  "",
  "Chassis",
  "  ^\\s+$\x7bVID\x7d\\s+$\x7bSN\x7d\\s+\\d+-\\d+-\\d+ -> Record",
  "  ^\\s*System.+(power supply|power-supply) -> Power_Supply",
  "",
  "Power_Supply",
  "  ^\\s+Slot",
  "  ^\\s+-",
  "  ^\\s+$\x7bPORT\x7d\\s+$\x7bNAME\x7d\\s+$\x7bSN\x7d -> Record",
  "  ^\\s*System.+(fan) -> Fan",
  "",
  "Fan",
  "  ^\\s+Module",
  "  ^\\s+-",
  "  ^\\s+$\x7bPORT\x7d?\\s+\\d+?\\s+$\x7bNAME\x7d?\\s+$\x7bSN\x7d -> Record"]

/-- A list of hardware. -/
def inventoryText : String := Text.terminated [
  "System information",
  "  DCS-7150S-52-CL 52-port SFP+ 10GigE 1RU + Clock",
  "  02.00 JPE13120702 2013-03-27",
  "",
  "System has 2 power supply slots",
  "  Slot Model            Serial Number",
  "  ---- ---------------- ----------------",
  "  1    PWR-460AC-F      K192KU00241CZ",
  "  2    PWR-460AC-F      K192L200751CZ",
  "",
  "System has 2 fan modules",
  "  Module Number of Fans Model            Serial Number",
  "  ------- --------------- ---------------- ----------------",
  "  1       1               FAN-7000-F       N/A",
  "  2       1               FAN-7000-F       N/A"]

/-! ## One device -/

/-- A rule that searches for a pattern. -/
def ruleOf (pattern : String) (actions : List Action) (transition : Option Transition) : Rule where
  pattern := .str pattern
  flags := none
  rename := none
  actions := actions
  transition := transition

/-- The rules for the description of a device. The last of them ends the run. -/
def versionRules : List Rule := [
  ruleOf "Software.*Version (?<version>[^,\\s]+)" [] none,
  ruleOf "^(?<hostname>\\S+) uptime is (?<uptime>.+)$"
    [.set (.str "uptime_parts") ⟨some (.str "uptime"), .null⟩] none,
  ruleOf "^System image file is \"(?<image>[^\"]+)\"" [] none,
  ruleOf "^[Pp]rocessor board ID (?<serial>\\S+)" [.emit]
    (some ⟨.str endTarget, .str "match"⟩)]

/-- A template for the description of a device. -/
def versionTemplate : Template where
  id := .str "cisco_ios_show_version"
  name := .str "Cisco IOS show version"
  states := [⟨.str "start", versionRules⟩]
  vendor := .str "cisco"
  deviceOs := .str "ios"
  command := .str "show version"
  description := .str ""
  declared := [⟨.str "uptime_parts", .str "list", .null, .str ""⟩]
  metadata := []

/-- A description of one device, spread over many lines. -/
def versionText : String := Text.terminated [
  "Cisco IOS Software, C2900 Software (C2900-UNIVERSALK9-M), Version 15.1(4)M4",
  "Technical Support is available on request",
  "Compiled Thu 28-Jun-12 by prod_rel_team",
  "",
  "router01 uptime is 2 weeks, 3 days, 14 hours, 22 minutes",
  "System returned to ROM by power-on",
  "System image file is \"flash:c2900-universalk9-mz.SPA.151-4.M4.bin\"",
  "",
  "Cisco CISCO2911/K9 (revision 1.0) with 483328K/40960K bytes of memory.",
  "Processor board ID FTX1234A5BC",
  "3 Gigabit Ethernet interfaces"]

/-! ## A summary with headings -/

/-- A TextFSM template whose first Values are filled down. -/
def ospfTemplate : String := Text.terminated [
  "Value Filldown INSTANCE (\\d+)",
  "Value Filldown ROUTER_ID (\\d+\\.\\d+\\.\\d+\\.\\d+)",
  "Value Filldown VRF (\\S+)",
  "Value AREA (\\d+\\.\\d+\\.\\d+\\.\\d+)",
  "Value TYPE (\\S+)",
  "Value INTERFACES (\\d+)",
  "Value NEIGHBORS (\\d+)",
  "",
  "Start",
  "  ^OSPF instance $\x7bINSTANCE\x7d with ID $\x7bROUTER_ID\x7d, VRF $\x7bVRF\x7d,.*$$",
  "  ^$\x7bAREA\x7d\\s+$\x7bTYPE\x7d\\s+$\x7bINTERFACES\x7d\\s+$\x7bNEIGHBORS\x7d\\s+ -> Record"]

/-- A summary with a heading for each of its two sections. -/
def ospfText : String := Text.joinWith "\n" [
  "OSPF instance 1 with ID 65.87.229.70, VRF default, ASBR",
  "Time since last SPF: 14 s",
  "ID               Type   Intf   Nbrs (full) RTR LSA NW LSA  SUM LSA ASBR LSA TYPE-7 LSA",
  "0.0.0.10         normal 6      2    (2   ) 3       0       0       0       0",
  "",
  "OSPF instance 2 with ID 192.168.28.193, VRF mgmtVrf, ASBR",
  "Time since last SPF: 1673 s",
  "ID               Type   Intf   Nbrs (full) RTR LSA NW LSA  SUM LSA ASBR LSA TYPE-7 LSA",
  "0.0.0.0          normal 2      2    (2   ) 113     92      0       0       0"]

end LineMachine.Cli.Samples
