import SheetFormula.Text.Blank
import SheetFormula.Text.Integer

/-!
# Settings

Two settings steer the formatting of formulas: the width of an indentation,
from 1 to 16 columns, and whether formulas have to be well formed.  Settings
come from outside as loosely typed values; validation reads both values and
reports every fault.
-/

namespace SheetFormula

/-- A setting as it comes from outside. -/
inductive RawSetting where
  | text (value : List Char)
  | integer (value : Int)
  | fractional
  | truth (value : Bool)
  | other
deriving DecidableEq, Repr

/-- Why a value is not accepted. -/
inductive SettingFault where
  | integerText
  | integerFraction
  | integerShape
  | tooSmall
  | tooLarge
  | truthText
  | truthShape
deriving DecidableEq, Repr

/-- The settings there are, in the order in which faults are reported. -/
inductive SettingName where
  | indentWidth
  | strict
deriving DecidableEq, Repr

/-- How formulas are formatted. -/
structure Settings where
  indentWidth : Nat := 4
  strict : Bool := false
  one_le_indentWidth : 1 ≤ indentWidth := by decide
  indentWidth_le : indentWidth ≤ 16 := by decide
deriving DecidableEq, Repr

namespace Settings

/-- One unit of indentation. -/
def indent (settings : Settings) : List Char :=
  List.replicate settings.indentWidth ' '

/-- A point followed by zeros only, or nothing, behind the digits of an integer. -/
def dropZeroFraction (text : List Char) : List Char :=
  let zeros := Text.dropEndWhile (· == '0') text
  if zeros.length < text.length ∧ zeros.getLast? = some '.' then zeros.dropLast else text

/-- An integer in a text: white space around it and a fraction of zeros are allowed. -/
def integerText? (text : List Char) : Option Int :=
  let trimmed :=
    Text.dropEndWhile Text.isWhiteSpace (text.dropWhile Text.isWhiteSpace)
  Text.readInteger? Text.asciiDigitValue? (dropZeroFraction trimmed)

/-- An integer in a loosely typed value. -/
def readInteger : RawSetting → Except SettingFault Int
  | .text value =>
      match integerText? value with
      | some number => .ok number
      | none => .error .integerText
  | .integer value => .ok value
  | .fractional => .error .integerFraction
  | .truth value => .ok (if value then 1 else 0)
  | .other => .error .integerShape

/-- A width of indentation within its bounds. -/
abbrev IndentWidth := { width : Nat // 1 ≤ width ∧ width ≤ 16 }

/-- An integer as a width of indentation. -/
def boundedWidth (number : Int) : Except SettingFault IndentWidth :=
  if small : number < 1 then .error .tooSmall
  else if large : 16 < number then .error .tooLarge
  else .ok ⟨number.toNat, by omega, by omega⟩

/-- A width of indentation in a loosely typed value. -/
def readIndentWidth (raw : RawSetting) : Except SettingFault IndentWidth :=
  match readInteger raw with
  | .ok number => boundedWidth number
  | .error fault => .error fault

/-- The lower-case form of an ASCII text. -/
def lowerAscii (text : List Char) : List Char :=
  text.map Char.toLower

/-- Words that mean true. -/
def truthWords : List (List Char) :=
  ["true", "t", "yes", "y", "on", "1"].map String.toList

/-- Words that mean false. -/
def falsityWords : List (List Char) :=
  ["false", "f", "no", "n", "off", "0"].map String.toList

/-- A truth value in a loosely typed value. -/
def readTruth : RawSetting → Except SettingFault Bool
  | .text value =>
      if truthWords.contains (lowerAscii value) then .ok true
      else if falsityWords.contains (lowerAscii value) then .ok false
      else .error .truthText
  | .integer value =>
      if value = 1 then .ok true
      else if value = 0 then .ok false
      else .error .truthText
  | .truth value => .ok value
  | .fractional | .other => .error .truthShape

/-- Settings with a given width. -/
def ofWidth (width : IndentWidth) (isStrict : Bool) : Settings where
  indentWidth := width.val
  strict := isStrict
  one_le_indentWidth := width.property.1
  indentWidth_le := width.property.2

/-- Read both settings; a value that is not given has its default. -/
def validate (indentWidth strict : Option RawSetting) :
    Except (List (SettingName × SettingFault)) Settings :=
  let width : Except SettingFault IndentWidth :=
    match indentWidth with
    | some raw => readIndentWidth raw
    | none => .ok ⟨4, by decide⟩
  let truth : Except SettingFault Bool :=
    match strict with
    | some raw => readTruth raw
    | none => .ok false
  match width, truth with
  | .ok width, .ok truth => .ok (ofWidth width truth)
  | .ok _, .error fault => .error [(.strict, fault)]
  | .error fault, .ok _ => .error [(.indentWidth, fault)]
  | .error first, .error second =>
      .error [(.indentWidth, first), (.strict, second)]

end Settings

end SheetFormula
