import SheetFormula.Proofs.Config.Updates

/-!
# Loading a changed setting

A new value is validated as it was given, but only its first line comes back
from the file (`firstLine`).  A width may have white space around its number.
Behind the number that is trimmed with the line, whatever line breaks it holds.
Before the number a line break separates the number from its key.

Main statement: after a change the file gives the new value for its setting and
the old value for the other one, unless the white space at the beginning of the
value holds a line break.  In that case the file is refused from then on.
-/

namespace SheetFormula

/-! ## Settings one by one -/

namespace Settings

/-- The value of a setting, in a form in which it can be given. -/
def field (settings : Settings) : SettingName → RawSetting
  | .indentWidth => .integer settings.indentWidth
  | .strict => .truth settings.strict

/-- Read one setting from what is given for it; without that it has its default. -/
def readField : SettingName → Option RawSetting → Except SettingFault RawSetting
  | .indentWidth, some raw => (readIndentWidth raw).map fun width => .integer width.val
  | .indentWidth, none => .ok (.integer 4)
  | .strict, some raw => (readTruth raw).map .truth
  | .strict, none => .ok (.truth false)

/-- Settings with one of them taken from others. -/
def replace (settings : Settings) (name : SettingName) (given : Settings) : Settings :=
  match name with
  | .indentWidth => { given with strict := settings.strict }
  | .strict => { settings with strict := given.strict }

theorem field_replace (settings given : Settings) (name other : SettingName) :
    (settings.replace name given).field other =
      if other = name then given.field other else settings.field other := by
  cases name <;> cases other <;> rfl

theorem ofWidth_eq_iff {width : IndentWidth} {truth : Bool} {settings : Settings} :
    ofWidth width truth = settings ↔
      (width.val : Int) = settings.indentWidth ∧ truth = settings.strict := by
  rw [Int.natCast_inj]
  cases settings
  simp [ofWidth]

/-- Two settings given together are valid when each of them can be read. -/
theorem validate_eq_ok_iff
    {given : SettingName → Option RawSetting} {settings : Settings} :
    validate (given .indentWidth) (given .strict) = .ok settings ↔
      ∀ name, readField name (given name) = .ok (settings.field name) := by
  have each : (∀ name, readField name (given name) = .ok (settings.field name)) ↔
      readField .indentWidth (given .indentWidth) = .ok (.integer settings.indentWidth) ∧
        readField .strict (given .strict) = .ok (.truth settings.strict) := by
    constructor
    · intro reads
      exact ⟨reads .indentWidth, reads .strict⟩
    · rintro ⟨width, truth⟩ name
      cases name with
      | indentWidth => exact width
      | strict => exact truth
  rw [each]
  -- a setting that is not given has its default, and one that is given may have a fault
  cases given .indentWidth with
  | none =>
      cases given .strict with
      | none => simp [validate, readField, ofWidth_eq_iff]
      | some word =>
          cases truth : readTruth word <;>
            simp [validate, readField, Except.map, truth, ofWidth_eq_iff]
  | some raw =>
      cases given .strict with
      | none =>
          cases width : readIndentWidth raw <;>
            simp [validate, readField, Except.map, width, ofWidth_eq_iff]
      | some word =>
          cases width : readIndentWidth raw <;> cases truth : readTruth word <;>
            simp [validate, readField, Except.map, width, truth, ofWidth_eq_iff]

/-- A fault in the width alone is reported alone. -/
theorem validate_of_width_fault
    {raw : RawSetting} {truth : Option RawSetting} {fault : SettingFault} {value : RawSetting}
    (fails : readIndentWidth raw = .error fault)
    (reads : readField .strict truth = .ok value) :
    validate (some raw) truth = .error [(.indentWidth, fault)] := by
  cases truth with
  | none => simp [validate, fails]
  | some word =>
      cases truth : readTruth word with
      | ok truth => simp [validate, fails, truth]
      | error other =>
          rw [readField, truth] at reads
          cases reads

end Settings

namespace Config

/-- One value for a setting and nothing for the other. -/
def only (name : SettingName) (value : List Char) (other : SettingName) : Option RawSetting :=
  if other = name then some (.text value) else none

/-- The settings that a single value gives; the other setting has its default. -/
def settingsWith (name : SettingName) (value : List Char) :
    Except (List (SettingName × SettingFault)) Settings :=
  Settings.validate (only name value .indentWidth) (only name value .strict)

theorem accepts_eq (name : SettingName) (value : List Char) :
    accepts name value = (settingsWith name value).toOption.isSome := by
  cases name <;> rfl

theorem exists_of_accepts
    {name : SettingName} {value : List Char} (accepted : accepts name value) :
    ∃ given, settingsWith name value = .ok given := by
  rw [accepts_eq] at accepted
  cases valid : settingsWith name value with
  | ok given => exact ⟨given, rfl⟩
  | error faults =>
      rw [valid] at accepted
      cases accepted

theorem readField_of_settingsWith
    {name : SettingName} {value : List Char} {given : Settings}
    (valid : settingsWith name value = .ok given) :
    Settings.readField name (some (.text value)) = .ok (given.field name) := by
  have reads := (@Settings.validate_eq_ok_iff (only name value) given).mp valid name
  rwa [only, if_pos rfl] at reads

/-! ## What comes back of an accepted value -/

/-- Whether a line break stands in the white space that a value begins with. -/
def leadsWithBreak (value : List Char) : Bool :=
  (value.takeWhile Text.isWhiteSpace).any fun char => char == '\n' || char == '\r'

theorem isBlank_of_isIntegerChar {char : Char} (isInteger : isIntegerChar char) :
    Text.isBlank char = false := by
  simp only [isIntegerChar, Text.isAsciiDigit, Bool.or_eq_true, Bool.and_eq_true,
    decide_eq_true_eq] at isInteger
  rcases isInteger with mark | ⟨above, below⟩
  · have marks : ("+-_.".toList.all fun mark => !Text.isBlank mark) = true := by decide
    simpa using List.all_eq_true.mp marks char (List.contains_iff_mem.mp mark)
  · have lower : 0x30 ≤ char.toNat := above
    have upper : char.toNat ≤ 0x39 := below
    simp only [Text.isBlank, Text.isWhiteSpace, Bool.or_eq_false_iff, Bool.and_eq_false_iff,
      decide_eq_false_iff_not, beq_eq_false_iff_ne, ne_eq]
    omega

theorem toLower_of_isBlank {char : Char} (blank : Text.isBlank char) : char.toLower = char := by
  unfold Char.toLower
  split
  · next letter =>
      have lower : 0x41 ≤ char.toNat := letter.1
      have upper : char.toNat ≤ 0x5A := letter.2
      simp only [Text.isBlank, Text.isWhiteSpace, Bool.or_eq_true, Bool.and_eq_true,
        decide_eq_true_eq, beq_iff_eq] at blank
      omega
  · rfl

/-- A word for a truth value has no blanks. -/
theorem visible_of_accepts
    {value : List Char} (accepted : accepts .strict value) :
    ∀ char ∈ value, Text.isBlank char = false := by
  have plain : ((Settings.truthWords ++ Settings.falsityWords).all fun word =>
      word.all fun char => !Text.isBlank char) = true := by decide
  intro char member
  have inWord : char.toLower ∈ Settings.lowerAscii value := List.mem_map.mpr ⟨char, member, rfl⟩
  have visible := List.all_eq_true.mp plain _ (word_of_accepts accepted)
  have noBlank := List.all_eq_true.mp visible _ inWord
  cases blank : Text.isBlank char with
  | false => rfl
  | true =>
      rw [toLower_of_isBlank blank, blank] at noBlank
      cases noBlank

/-- Visible characters with no line break before them come back, and blanks behind them do not. -/
theorem firstLine_of_visible
    {lead core behind : List Char}
    (unbroken : ∀ char ∈ lead, char ≠ '\n' ∧ char ≠ '\r')
    (nonempty : core ≠ [])
    (visible : ∀ char ∈ core, Text.isBlank char = false)
    (blank : ∀ char ∈ behind, Text.isBlank char) :
    firstLine (lead ++ core ++ behind) = lead ++ core := by
  have noBreak : ∀ char ∈ lead ++ core, char ≠ '\n' ∧ char ≠ '\r' := by
    intro char member
    rcases List.mem_append.mp member with before | inside
    · exact unbroken char before
    · have noBlank := visible char inside
      constructor
      · rintro rfl
        cases noBlank
      · rintro rfl
        cases noBlank
  have noFeed : '\n' ∉ lead ++ core := fun member => (noBreak _ member).1 rfl
  have noReturn : '\r' ∉ lead ++ core := fun member => (noBreak _ member).2 rfl
  have apart : (lead ++ core).getLast? = some '\r' → behind.head? ≠ some '\n' :=
    fun ends => absurd (List.mem_of_getLast? ends) noReturn
  have blankLine : ∀ char ∈ Text.upTo '\n' (lineFeeds behind), Text.isBlank char := by
    intro char member
    rcases mem_lineFeeds ((List.takeWhile_prefix _).subset member) with rfl | ⟨later, -⟩
    · decide
    · exact blank char later
  have ends : (lead ++ core).getLast?.any Text.isBlank = false := by
    rw [List.getLast?_append, List.getLast?_eq_some_getLast nonempty]
    exact visible _ (List.getLast_mem nonempty)
  rw [firstLine, lineFeeds_append apart, lineFeeds_of_notMem noReturn,
    Text.upTo_append_of_notMem noFeed, Text.trimEnd_append_of_blank blankLine,
    Text.trimEnd_eq_self ends]

/-- Before the first line break there are only blanks, if the first white space holds one. -/
theorem blank_of_leadsWithBreak {value : List Char} (breaks : leadsWithBreak value) :
    ∀ char ∈ Text.upTo '\n' (lineFeeds value), Text.isBlank char := by
  fun_induction lineFeeds value with
  | case1 => cases breaks
  | case2 | case3 => simp [Text.upTo]
  | case4 first rest _ noReturn ih =>
      have different : first ≠ '\r' := noReturn
      by_cases isFeed : first = '\n'
      · simp [Text.upTo, isFeed]
      · cases space : Text.isWhiteSpace first with
        | false => simp [leadsWithBreak, space] at breaks
        | true =>
            have later : leadsWithBreak rest := by
              simpa [leadsWithBreak, space, isFeed, different] using breaks
            intro char member
            simp only [Text.upTo, List.takeWhile_cons, ne_eq, isFeed, not_false_eq_true,
              decide_true, if_true, List.mem_cons] at member
            rcases member with rfl | member
            · simp [Text.isBlank, space]
            · exact ih later char member

/-- Of a value with a line break in its first white space nothing comes back. -/
theorem firstLine_of_break {value : List Char} (breaks : leadsWithBreak value) :
    firstLine value = [] :=
  Text.trimEnd_append_of_blank (blank_of_leadsWithBreak breaks) []

theorem stripped_of_visible
    {lead core : List Char}
    (space : ∀ char ∈ lead, Text.isWhiteSpace char)
    (visible : ∀ char ∈ core, Text.isWhiteSpace char = false) :
    stripped (lead ++ core) = core := by
  have kept : ∀ {text : List Char}, (∀ char ∈ text, Text.isWhiteSpace char = false) →
      text.dropWhile Text.isWhiteSpace = text := by
    intro text visible
    cases text with
    | nil => rfl
    | cons char rest => simp [visible char]
  have reversed : ∀ char ∈ core.reverse, Text.isWhiteSpace char = false := by simpa using visible
  rw [stripped, List.dropWhile_append_of_pos space, kept visible, Text.dropEndWhile, kept reversed,
    List.reverse_reverse]

/-- What comes back of an accepted value reads like the value. -/
theorem readField_firstLine
    {name : SettingName} {value : List Char}
    (accepted : accepts name value)
    (unbroken : leadsWithBreak value = false) :
    Settings.readField name (some (.text (firstLine value))) =
      Settings.readField name (some (.text value)) := by
  cases name with
  | strict =>
      cases value with
      | nil => rfl
      | cons char rest =>
          have same := @firstLine_of_visible [] (char :: rest) [] (by simp) (by simp)
            (visible_of_accepts accepted) (by simp)
          simp only [List.nil_append, List.append_nil] at same
          rw [same]
  | indentWidth =>
      rcases integerText_of_accepts accepted with ⟨number, reads⟩
      rcases eq_append_stripped value with ⟨behind, space, split⟩
      have spaceBefore : ∀ char ∈ value.takeWhile Text.isWhiteSpace, Text.isWhiteSpace char :=
        fun char member => List.all_eq_true.mp List.all_takeWhile char member
      have noBreak : ∀ char ∈ value.takeWhile Text.isWhiteSpace, char ≠ '\n' ∧ char ≠ '\r' := by
        intro char member
        simpa using List.any_eq_false.mp unbroken char member
      have visible : ∀ char ∈ stripped value, Text.isBlank char = false := fun char member =>
        isBlank_of_isIntegerChar (isIntegerChar_of_integerText reads char member)
      have nonempty : stripped value ≠ [] := by
        intro empty
        rw [integerText?_eq, empty] at reads
        cases reads
      have same : firstLine value = value.takeWhile Text.isWhiteSpace ++ stripped value := by
        have line := @firstLine_of_visible _ _ behind noBreak nonempty visible
          (fun char member => by simp [Text.isBlank, space char member])
        rwa [← split] at line
      have sameCore : stripped (firstLine value) = stripped value := by
        rw [same]
        apply stripped_of_visible spaceBefore
        intro char member
        have noBlank := visible char member
        rw [Text.isBlank, Bool.or_eq_false_iff] at noBlank
        exact noBlank.1
      have sameNumber : Settings.integerText? (firstLine value) = Settings.integerText? value := by
        rw [integerText?_eq, sameCore, integerText?_eq]
      simp only [Settings.readField, Settings.readIndentWidth, Settings.readInteger, sameNumber]

/-- Only the text of a width can begin with white space. -/
theorem eq_indentWidth_of_break
    {name : SettingName} {value : List Char}
    (accepted : accepts name value)
    (breaks : leadsWithBreak value) :
    name = .indentWidth := by
  cases name with
  | indentWidth => rfl
  | strict =>
      rcases List.any_eq_true.mp breaks with ⟨char, member, -⟩
      have space : Text.isWhiteSpace char := List.all_eq_true.mp List.all_takeWhile char member
      have visible := visible_of_accepts accepted char ((List.takeWhile_prefix _).subset member)
      rw [Text.isBlank, space] at visible
      cases visible

/-! ## Changing and loading -/

/-- The text that the file gives for a setting. -/
def found (pairs : Pairs) (name : SettingName) : Option RawSetting :=
  (pairs.lookup name.key).map .text

theorem settingsOf_eq (pairs : Pairs) :
    settingsOf pairs = Settings.validate (found pairs .indentWidth) (found pairs .strict) := rfl

theorem settingsOf_eq_ok_iff {pairs : Pairs} {settings : Settings} :
    settingsOf pairs = .ok settings ↔
      ∀ name, Settings.readField name (found pairs name) = .ok (settings.field name) :=
  @Settings.validate_eq_ok_iff (found pairs) settings

theorem load_eq_ok_iff
    {store : Store} {pairs : Pairs} {settings : Settings} (held : read store = .ok pairs) :
    load store = .ok settings ↔ settingsOf pairs = .ok settings := by
  simp only [load, held]
  cases settingsOf pairs <;> simp

theorem load_of_faults
    {store : Store} {pairs : Pairs} {faults : List (SettingName × SettingFault)}
    (held : read store = .ok pairs)
    (invalid : settingsOf pairs = .error faults) :
    load store = .error (.invalidFile faults) := by
  simp only [load, held, invalid]

theorem key_injective {first second : SettingName} (same : first.key = second.key) :
    first = second := by
  cases first with
  | indentWidth =>
      cases second with
      | indentWidth => rfl
      | strict => exact absurd same (by decide)
  | strict =>
      cases second with
      | indentWidth => exact absurd same (by decide)
      | strict => rfl

theorem lookup_put_self (key value : List Char) (pairs : Pairs) :
    (put key value pairs).lookup key = some value := by
  induction pairs with
  | nil => simp [put]
  | cons pair rest ih =>
      rcases pair with ⟨first, second⟩
      by_cases same : first = key
      · simp [put, same]
      · have different : (key == first) = false := by simpa using Ne.symm same
        simp [put, same, List.lookup_cons, different, ih]

theorem found_put (pairs : Pairs) (name other : SettingName) (value : List Char) :
    found (put name.key value pairs) other =
      if other = name then some (.text value) else found pairs other := by
  by_cases same : other = name
  · rw [if_pos same, same, found, lookup_put_self]
    rfl
  · have different : other.key ≠ name.key := fun equal => same (key_injective equal)
    rw [if_neg same, found, lookup_put_of_ne different]
    rfl

/-- What the file holds after a change that succeeds. -/
theorem read_of_change
    {store after : Store} {key value : List Char}
    (changed : change key value store = .ok after) :
    ∃ name pairs,
      Text.upper key = SettingName.key name ∧ accepts name value ∧ read store = .ok pairs ∧
        read after = .ok (put name.key (firstLine value) pairs) := by
  unfold change at changed
  have updated := updated_perform key value store
  generalize (update key value).perform store = outcome at updated changed
  cases updated with
  | fails error => cases changed
  | @succeeds name pairs named accepted held =>
      cases changed
      exact ⟨name, pairs, named, accepted, held,
        read_render_put held name (noEquals_of_accepts accepted)⟩

/--
After a change that succeeds on a file that could be loaded, the key names a
setting for which the value is valid.  If no line break stands in the white space
at the beginning of the value, the file can be loaded again: the setting is the
one that the value gives, and the other is unchanged.  Otherwise the setting is
the width, and loading fails because there is no number for it any more.
-/
theorem load_after_change
    {store after : Store} {key value : List Char} {before : Settings}
    (loads : load store = .ok before)
    (changed : change key value store = .ok after) :
    ∃ name given,
      Text.upper key = SettingName.key name ∧ settingsWith name value = .ok given ∧
        (leadsWithBreak value = false →
          ∃ loaded, load after = .ok loaded ∧
            ∀ other, loaded.field other =
              if other = name then given.field other else before.field other) ∧
        (leadsWithBreak value = true →
          name = .indentWidth ∧
            load after = .error (.invalidFile [(.indentWidth, .integerText)])) := by
  rcases read_of_change changed with ⟨name, pairs, named, accepted, held, heldAfter⟩
  rcases exists_of_accepts accepted with ⟨given, valid⟩
  have reads := settingsOf_eq_ok_iff.mp ((load_eq_ok_iff held).mp loads)
  refine ⟨name, given, named, valid, ?_, ?_⟩
  · intro unbroken
    refine ⟨before.replace name given, ?_, before.field_replace given name⟩
    rw [load_eq_ok_iff heldAfter, settingsOf_eq_ok_iff]
    intro other
    rw [found_put, Settings.field_replace]
    by_cases same : other = name
    · subst same
      rw [if_pos rfl, if_pos rfl, readField_firstLine accepted unbroken]
      exact readField_of_settingsWith valid
    · rw [if_neg same, if_neg same]
      exact reads other
  · intro breaks
    obtain rfl : name = .indentWidth := eq_indentWidth_of_break accepted breaks
    refine ⟨rfl, load_of_faults heldAfter ?_⟩
    rw [settingsOf_eq, found_put, found_put, firstLine_of_break breaks]
    exact Settings.validate_of_width_fault rfl (reads .strict)

/-- A file with an unknown key and a truth value. -/
def sampleFile : Store :=
  .file ⟨"OTHER=1\r\nSHEETFMT_STRICT=Yes".toList, none⟩

/-- A width with a sign, zeros, an underscore and white space that ends in line breaks. -/
def sampleWidth : List Char := "\t +0_8.0 \n\n".toList

theorem load_after_change_sampleFile :
    ∃ before after,
      load sampleFile = .ok before ∧
        change "Sheetfmt_Indent_Width".toList sampleWidth sampleFile = .ok after ∧
        leadsWithBreak sampleWidth = false ∧
        ∃ name given,
          Text.upper "Sheetfmt_Indent_Width".toList = SettingName.key name ∧
            settingsWith name sampleWidth = .ok given ∧
            (leadsWithBreak sampleWidth = false →
              ∃ loaded, load after = .ok loaded ∧
                ∀ other, loaded.field other =
                  if other = name then given.field other else before.field other) ∧
            (leadsWithBreak sampleWidth = true →
              name = .indentWidth ∧
                load after = .error (.invalidFile [(.indentWidth, .integerText)])) := by
  have checked : (load sampleFile).toOption.isSome ∧
      (change "Sheetfmt_Indent_Width".toList sampleWidth sampleFile).toOption.isSome := by
    decide +kernel
  cases loads : load sampleFile with
  | error error =>
      rw [loads] at checked
      cases checked.1
  | ok before =>
      cases changed : change "Sheetfmt_Indent_Width".toList sampleWidth sampleFile with
      | error error =>
          rw [changed] at checked
          cases checked.2
      | ok after =>
          exact ⟨before, after, rfl, rfl, by decide, load_after_change loads changed⟩

/-- A number behind a line break is accepted and written, but it is not found in the file. -/
theorem not_load_after_change :
    ¬ ∀ (text key value : List Char) (before : Settings) (after : Store),
      load (.file ⟨text, none⟩) = .ok before →
        change key value (.file ⟨text, none⟩) = .ok after →
          ∃ loaded, load after = .ok loaded := by
  intro loads
  have checked :
      (change "SHEETFMT_INDENT_WIDTH".toList "\n4".toList (.file ⟨[], none⟩)).toOption.any
        (fun after => (load after).toOption.isNone) := by
    decide +kernel
  cases changed : change "SHEETFMT_INDENT_WIDTH".toList "\n4".toList (.file ⟨[], none⟩) with
  | error error =>
      rw [changed] at checked
      cases checked
  | ok after =>
      rcases loads [] _ _ {} after rfl changed with ⟨loaded, again⟩
      rw [changed, Except.toOption, Option.any_some, again] at checked
      cases checked

end Config

end SheetFormula
