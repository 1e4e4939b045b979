import LineMachine.Text.Category

/-!
# Characters added later

The tables of the general categories hold the characters of one version of the standard, by which
names, numerals and quoted text go. Line patterns know the characters of later versions too, which
are listed here. No character is in both.
-/

namespace LineMachine.Text

/-- Runs of the later characters of a category, as text. -/
def Category.laterText : Category → String
  | .upperLetter => "1C89 A7CB-A7CC A7CE A7D2 A7D4 A7DA A7DC 10D50-10D65 16EA0-16EB8"
  | .lowerLetter => "1C8A A7CD A7CF A7DB 10D70-10D85 16EBB-16ED3 1DF25-1DF2A"
  | .modifierLetter =>
    "A7F1 10D4E 10D6F 10EC5 11DD9 16D40-16D42 16D6B-16D6C 16FF2-16FF3 1E030-1E06D 1E4EB 1E6FF"
  | .otherLetter =>
    "88F C5C CDC 105C0-105F3 10940-10959 10D4A-10D4D 10D4F 10EC2-10EC4 10EC6-10EC7 1123F-11240
      11380-11389 1138B 1138E 11390-113B5 113B7 113D1 113D3 11BC0-11BE0 11DB0-11DD8 11DDA-11DDB
      11F02 11F04-11F10 11F12-11F33 13441-13446 13460-143FA 16100-1611D 16D43-16D6A 187F8-187FF
      18CFF 18D09-18D1E 18D80-18DF2 1B132 1B155 1E4D0-1E4EA 1E5D0-1E5ED 1E5F0 1E6C0-1E6DE
      1E6E0-1E6E2 1E6E4-1E6E5 1E6E7-1E6ED 1E6F0-1E6F4 1E6FE 2B739-2B73F 2CEA2-2CEAD 2EBF0-2EE5D
      31350-33479"
  | .nonspacingMark =>
    "897 ECE 1ACF-1ADD 1AE0-1AEB 10D69-10D6D 10EFA-10EFF 11241 113BB-113C0 113CE 113D0 113D2
      113E1-113E2 11B60 11B62-11B64 11B66 11F00-11F01 11F36-11F3A 11F40 11F42 11F5A 13440
      13447-13455 1611E-16129 1612D-1612F 1E08F 1E4EC-1E4EF 1E5EE-1E5EF 1E6E3 1E6E6 1E6EE-1E6EF
      1E6F5"
  | .spacingMark =>
    "CF3 113B8-113BA 113C2 113C5 113C7-113CA 113CC-113CD 113CF 11B61 11B65 11B67 11F03 11F34-11F35
      11F3E-11F3F 11F41 1612A-1612C"
  | .decimalDigit =>
    "10D40-10D49 116D0-116E3 11BF0-11BF9 11DE0-11DE9 11F50-11F59 16130-16139 16D70-16D79
      1CCF0-1CCF9 1E4F0-1E4F9 1E5F1-1E5FA"
  | .letterNumber => "16FF4-16FF6"
  | .otherNumber => "1D2C0-1D2D3"
  | .dash => "10D6E"
  | .otherPunctuation =>
    "1B4E-1B4F 1B7F 10ED0 113D4-113D5 113D7-113D8 11B00-11B09 11BE1 11F43-11F4F 16D6D-16D6F 1E5FF"
  | .mathSymbol => "10D8E-10D8F"
  | .currencySymbol => "20C1"
  | .otherSymbol =>
    "2427-2429 2FFC-2FFF 31E4-31E5 31EF 10ED1-10ED8 1CC00-1CCEF 1CCFA-1CCFC 1CD00-1CEB3 1F6D8 1F6DC
      1F774-1F77F 1F7D9 1F8B2-1F8BB 1F8C0-1F8C1 1FA54-1FA57 1FA75-1FA77 1FA87-1FA8A 1FA8E-1FA8F
      1FAAD-1FAAF 1FABB-1FABF 1FAC6 1FAC8 1FACD-1FACF 1FADA-1FADC 1FADF 1FAE8-1FAEA 1FAEF
      1FAF7-1FAF8 1FBCB-1FBEF 1FBFA"
  | .format => "13439-1343F"
  | _ => ""

/-- The later characters by category. -/
def laterTable : List (Category × List Run) :=
  Category.all.map fun cat ↦ (cat, Run.readAll cat.laterText)

/-- The least of the later characters. -/
def firstLater : Nat := 0x88F

/-- The category of a later character. -/
def laterCategory? (n : Nat) : Option Category :=
  if n < firstLater then none
  else (laterTable.find? fun e ↦ inRuns e.2 n).map Prod.fst

/-- Whether a later character is in one of several categories. -/
def isLaterOf (cats : List Category) (n : Nat) : Bool :=
  (laterCategory? n).any cats.contains

/-- Membership in one of several categories, later characters included. -/
def inCategoriesNow (cats : List Category) (n : Nat) : Bool :=
  inCategories cats n || isLaterOf cats n

end LineMachine.Text
