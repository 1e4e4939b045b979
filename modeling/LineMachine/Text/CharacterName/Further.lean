import LineMachine.Text.CharacterName.Row

/-!
# Further names

Names besides the first one: what control characters are called, which have no other name,
abbreviations, and corrected names.
-/

namespace LineMachine.Text

/-- Further names by code point. -/
def furtherNames : List (Nat × String) := [
  (0x0, "NULL, NUL"), (0x1, "START OF HEADING, SOH"), (0x2, "START OF TEXT, STX"),
  (0x3, "END OF TEXT, ETX"), (0x4, "END OF TRANSMISSION, EOT"), (0x5, "ENQUIRY, ENQ"),
  (0x6, "ACKNOWLEDGE, ACK"), (0x7, "ALERT, BEL"), (0x8, "BACKSPACE, BS"),
  (0x9, "CHARACTER TABULATION, HORIZONTAL TABULATION, HT, TAB"),
  (0xA, "LINE FEED, NEW LINE, END OF LINE, LF, NL, EOL"),
  (0xB, "LINE TABULATION, VERTICAL TABULATION, VT"), (0xC, "FORM FEED, FF"),
  (0xD, "CARRIAGE RETURN, CR"), (0xE, "SHIFT OUT, LOCKING-SHIFT ONE, SO"),
  (0xF, "SHIFT IN, LOCKING-SHIFT ZERO, SI"), (0x10, "DATA LINK ESCAPE, DLE"),
  (0x11, "DEVICE CONTROL ONE, DC1"), (0x12, "DEVICE CONTROL TWO, DC2"),
  (0x13, "DEVICE CONTROL THREE, DC3"), (0x14, "DEVICE CONTROL FOUR, DC4"),
  (0x15, "NEGATIVE ACKNOWLEDGE, NAK"), (0x16, "SYNCHRONOUS IDLE, SYN"),
  (0x17, "END OF TRANSMISSION BLOCK, ETB"), (0x18, "CANCEL, CAN"), (0x19, "END OF MEDIUM, EOM"),
  (0x1A, "SUBSTITUTE, SUB"), (0x1B, "ESCAPE, ESC"),
  (0x1C, "INFORMATION SEPARATOR FOUR, FILE SEPARATOR, FS"),
  (0x1D, "INFORMATION SEPARATOR THREE, GROUP SEPARATOR, GS"),
  (0x1E, "INFORMATION SEPARATOR TWO, RECORD SEPARATOR, RS"),
  (0x1F, "INFORMATION SEPARATOR ONE, UNIT SEPARATOR, US"), (0x20, "SP"), (0x7F, "DELETE, DEL"),
  (0x80, "PADDING CHARACTER, PAD"), (0x81, "HIGH OCTET PRESET, HOP"),
  (0x82, "BREAK PERMITTED HERE, BPH"), (0x83, "NO BREAK HERE, NBH"), (0x84, "INDEX, IND"),
  (0x85, "NEXT LINE, NEL"), (0x86, "START OF SELECTED AREA, SSA"),
  (0x87, "END OF SELECTED AREA, ESA"),
  (0x88, "CHARACTER TABULATION SET, HORIZONTAL TABULATION SET, HTS"),
  (0x89, "CHARACTER TABULATION WITH JUSTIFICATION, HORIZONTAL TABULATION WITH JUSTIFICATION, HTJ"),
  (0x8A, "LINE TABULATION SET, VERTICAL TABULATION SET, VTS"),
  (0x8B, "PARTIAL LINE FORWARD, PARTIAL LINE DOWN, PLD"),
  (0x8C, "PARTIAL LINE BACKWARD, PARTIAL LINE UP, PLU"),
  (0x8D, "REVERSE LINE FEED, REVERSE INDEX, RI"), (0x8E, "SINGLE SHIFT TWO, SINGLE-SHIFT-2, SS2"),
  (0x8F, "SINGLE SHIFT THREE, SINGLE-SHIFT-3, SS3"), (0x90, "DEVICE CONTROL STRING, DCS"),
  (0x91, "PRIVATE USE ONE, PRIVATE USE-1, PU1"), (0x92, "PRIVATE USE TWO, PRIVATE USE-2, PU2"),
  (0x93, "SET TRANSMIT STATE, STS"), (0x94, "CANCEL CHARACTER, CCH"),
  (0x95, "MESSAGE WAITING, MW"), (0x96, "START OF GUARDED AREA, START OF PROTECTED AREA, SPA"),
  (0x97, "END OF GUARDED AREA, END OF PROTECTED AREA, EPA"), (0x98, "START OF STRING, SOS"),
  (0x99, "SINGLE GRAPHIC CHARACTER INTRODUCER, SGC"), (0x9A, "SINGLE CHARACTER INTRODUCER, SCI"),
  (0x9B, "CONTROL SEQUENCE INTRODUCER, CSI"), (0x9C, "STRING TERMINATOR, ST"),
  (0x9D, "OPERATING SYSTEM COMMAND, OSC"), (0x9E, "PRIVACY MESSAGE, PM"),
  (0x9F, "APPLICATION PROGRAM COMMAND, APC"), (0xA0, "NBSP"), (0xAD, "SHY"),
  (0x1A2, "LATIN CAPITAL LETTER GHA"), (0x1A3, "LATIN SMALL LETTER GHA"), (0x34F, "CGJ"),
  (0x61C, "ALM"), (0x180B, "FVS1"), (0x200B, "ZWSP"), (0x200C, "ZWNJ"), (0x200D, "ZWJ"),
  (0x200E, "LRM"), (0x200F, "RLM"), (0x202A, "LRE"), (0x202B, "RLE"), (0x202C, "PDF"),
  (0x202D, "LRO"), (0x202E, "RLO"), (0x202F, "NNBSP"), (0x205F, "MMSP"), (0x2060, "WJ"),
  (0x2066, "LRI"), (0x2067, "RLI"), (0x2068, "FSI"), (0x2069, "PDI"),
  (0x2118, "WEIERSTRASS ELLIPTIC FUNCTION"), (0x2448, "MICR ON US SYMBOL"),
  (0x2449, "MICR DASH SYMBOL"), (0xFE00, "VS1"), (0xFE0F, "VS16"),
  (0xFEFF, "BYTE ORDER MARK, BOM, ZWNBSP")]

end LineMachine.Text
