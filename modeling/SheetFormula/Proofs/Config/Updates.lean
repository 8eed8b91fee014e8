import SheetFormula.Proofs.Config.Lines

/-!
# Updates of the configuration

An update checks its key and its value and reads the file before it writes
anything, so that an update that fails leaves the store as it was, although its
writing is done line by line in an emptied file (`updated_perform`).  An accepted
value holds no equals sign.  So the pairs in the file are known after any calls.

Main statement: every call that fails leaves the store as it was, and after any
calls on a file of text the keys that no successful call named have their values
and their order, with only new settings behind them.
-/

namespace SheetFormula.Config

/-! ## Accepted values -/

/-- A text without the white space at its ends. -/
def stripped (text : List Char) : List Char :=
  Text.dropEndWhile Text.isWhiteSpace (text.dropWhile Text.isWhiteSpace)

theorem integerText?_eq (text : List Char) :
    Settings.integerText? text =
      Text.readInteger? Text.asciiDigitValue? (Settings.dropZeroFraction (stripped text)) := rfl

/-- A text is its stripped form with white space on both sides. -/
theorem eq_append_stripped (text : List Char) :
    ∃ behind, (∀ char ∈ behind, Text.isWhiteSpace char) ∧
      text = text.takeWhile Text.isWhiteSpace ++ stripped text ++ behind := by
  rcases Text.eq_append_dropEndWhile Text.isWhiteSpace (text.dropWhile Text.isWhiteSpace) with
    ⟨behind, blank, split⟩
  refine ⟨behind, blank, ?_⟩
  rw [List.append_assoc, stripped, ← split, List.takeWhile_append_dropWhile]

/-- Stripping keeps every character that is no white space. -/
theorem mem_stripped
    {char : Char} {text : List Char}
    (visible : Text.isWhiteSpace char = false) (member : char ∈ text) :
    char ∈ stripped text := by
  rcases eq_append_stripped text with ⟨behind, blank, split⟩
  rw [split, List.mem_append, List.mem_append] at member
  rcases member with (before | inside) | later
  · have isBlank := List.all_eq_true.mp List.all_takeWhile char before
    rw [visible] at isBlank
    cases isBlank
  · exact inside
  · have isBlank := blank char later
    rw [visible] at isBlank
    cases isBlank

/-- Numbers are made of digits and underscores behind their signs. -/
theorem mem_of_readDigits
    {value? : Char → Option Nat} {afterDigit : Bool} {sum number : Nat} {text : List Char}
    (reads : Text.readDigits value? afterDigit sum text = some number) :
    ∀ char ∈ text, char = '_' ∨ (value? char).isSome := by
  fun_induction Text.readDigits value? afterDigit sum text with
  | case1 | case2 =>
      intro char member
      cases member
  | case3 sum next tail _ ih =>
      intro char member
      rcases List.mem_cons.mp member with underscore | later
      · exact .inl underscore
      · exact ih reads char later
  | case7 afterDigit sum first rest _ digit found ih =>
      intro char member
      rcases List.mem_cons.mp member with rfl | later
      · exact .inr (by simp [found])
      · exact ih reads char later
  | _ => cases reads

/-- Characters that an integer can be written with. -/
def isIntegerChar (char : Char) : Bool :=
  "+-_.".toList.contains char || Text.isAsciiDigit char

theorem isIntegerChar_of_readInteger
    {text : List Char} {number : Int}
    (reads : Text.readInteger? Text.asciiDigitValue? text = some number) :
    ∀ char ∈ text, isIntegerChar char := by
  intro char member
  have signed : isIntegerChar char ∨ char ∈ (Text.readSign text).2 := by
    unfold Text.readSign
    split
    · exact (List.mem_cons.mp member).imp_left (by rintro rfl; decide)
    · exact (List.mem_cons.mp member).imp_left (by rintro rfl; decide)
    · exact .inr member
  rcases signed with isSign | behindSign
  · exact isSign
  · cases digits : Text.readDigits Text.asciiDigitValue? false 0 (Text.readSign text).2 with
    | none => simp [Text.readInteger?, digits] at reads
    | some magnitude =>
        rcases mem_of_readDigits digits char behindSign with rfl | isDigit
        · decide
        · have ascii : Text.isAsciiDigit char := by
            simpa [Text.asciiDigitValue?] using isDigit
          simp [isIntegerChar, ascii]

/-- A fraction of zeros adds a point and zeros to the characters of an integer. -/
theorem isIntegerChar_of_dropZeroFraction
    {text : List Char}
    (written : ∀ char ∈ Settings.dropZeroFraction text, isIntegerChar char) :
    ∀ char ∈ text, isIntegerChar char := by
  simp only [Settings.dropZeroFraction] at written
  split at written
  · next ends =>
      rcases Text.eq_append_dropEndWhile (· == '0') text with ⟨zeros, areZeros, split⟩
      rcases List.getLast?_eq_some_iff.mp ends.2 with ⟨front, upToPoint⟩
      intro char member
      rw [upToPoint, List.dropLast_concat] at written
      rw [split, upToPoint] at member
      simp only [List.mem_append, List.mem_singleton] at member
      rcases member with (inFront | rfl) | isZero
      · exact written char inFront
      · decide
      · rw [beq_iff_eq.mp (areZeros char isZero)]
        decide
  · exact written

/-- Between its white space, the text of an integer has only characters of integers. -/
theorem isIntegerChar_of_integerText
    {text : List Char} {number : Int}
    (reads : Settings.integerText? text = some number) :
    ∀ char ∈ stripped text, isIntegerChar char :=
  isIntegerChar_of_dropZeroFraction (isIntegerChar_of_readInteger reads)

/-- An accepted width is the text of an integer. -/
theorem integerText_of_accepts
    {value : List Char} (accepted : accepts .indentWidth value) :
    ∃ number, Settings.integerText? value = some number := by
  simp only [accepts, Settings.validate, Settings.readIndentWidth,
    Settings.readInteger] at accepted
  cases read : Settings.integerText? value with
  | none => simp [read, Except.toOption] at accepted
  | some number => exact ⟨number, rfl⟩

/-- An accepted truth value is a known word in letters of any case. -/
theorem word_of_accepts
    {value : List Char} (accepted : accepts .strict value) :
    Settings.lowerAscii value ∈ Settings.truthWords ++ Settings.falsityWords := by
  by_cases isTrue : Settings.truthWords.contains (Settings.lowerAscii value)
  · exact List.mem_append_left _ (List.contains_iff_mem.mp isTrue)
  · by_cases isFalse : Settings.falsityWords.contains (Settings.lowerAscii value)
    · exact List.mem_append_right _ (List.contains_iff_mem.mp isFalse)
    · simp only [accepts, Settings.validate, Settings.readTruth, isTrue, isFalse] at accepted
      cases accepted

/-- An accepted value holds no equals sign. -/
theorem noEquals_of_accepts
    {name : SettingName} {value : List Char} (accepted : accepts name value) :
    '=' ∉ value := by
  intro member
  cases name with
  | indentWidth =>
      rcases integerText_of_accepts accepted with ⟨number, reads⟩
      have inside : '=' ∈ stripped value := mem_stripped (by decide) member
      exact absurd (isIntegerChar_of_integerText reads '=' inside) (by decide)
  | strict =>
      have inWord : '=' ∈ Settings.lowerAscii value :=
        List.mem_map.mpr ⟨'=', member, by decide⟩
      have plain : ∀ word ∈ Settings.truthWords ++ Settings.falsityWords, '=' ∉ word := by
        decide
      exact plain _ (word_of_accepts accepted) inWord

/-! ## One update -/

section Perform

variable {α β : Type}

@[simp]
theorem perform_pure (value : α) (store : Store) :
    Action.perform (pure value) store = (.ok value, store) := rfl

@[simp]
theorem perform_get (store : Store) :
    Action.perform (get : Action Store) store = (.ok store, store) := rfl

@[simp]
theorem perform_throw (error : Error) (store : Store) :
    Action.perform (throw error : Action α) store = (.error error, store) := rfl

theorem perform_bind (action : Action α) (next : α → Action β) (store : Store) :
    Action.perform (action >>= next) store =
      match action.perform store with
      | (.ok value, left) => (next value).perform left
      | (.error error, left) => (.error error, left) := by
  rcases outcome : action.perform store with ⟨result, left⟩
  have ran : action.run.run store = (result, left) := outcome
  simp only [Action.perform, ExceptT.run_bind, StateT.run_bind, ran]
  cases result <;> rfl

end Perform

theorem perform_writeLines (pairs : Pairs) (text : List Char) :
    Action.perform (pairs.forM fun pair => writeLine (pairText pair)) (.file ⟨text, none⟩) =
      (.ok (), .file ⟨text ++ render pairs, none⟩) := by
  induction pairs generalizing text with
  | nil => simp [render]
  | cons pair rest ih =>
      have written : Action.perform (writeLine (pairText pair)) (.file ⟨text, none⟩) =
          (.ok (), .file ⟨text ++ pairText pair ++ ['\n'], none⟩) := rfl
      have first : Action.perform ((pair :: rest).forM fun pair => writeLine (pairText pair))
            (.file ⟨text, none⟩) =
          Action.perform (do
            writeLine (pairText pair)
            rest.forM fun pair => writeLine (pairText pair)) (.file ⟨text, none⟩) := rfl
      have later := ih (text ++ pairText pair ++ ['\n'])
      have together : text ++ pairText pair ++ ['\n'] ++ render rest =
          text ++ render (pair :: rest) := by
        simp [render]
      rw [together] at later
      rw [first, perform_bind, written]
      exact later

theorem perform_writePairs (pairs : Pairs) (store : Store) :
    (∃ error, Action.perform (writePairs pairs) store = (.error error, store)) ∨
      Action.perform (writePairs pairs) store = (.ok (), .file ⟨render pairs, none⟩) := by
  cases store with
  | absent => exact .inr (perform_writeLines pairs [])
  | file content => exact .inr (perform_writeLines pairs [])
  | directory => exact .inl ⟨.isDirectory, rfl⟩
  | blocked => exact .inl ⟨.isBlocked, rfl⟩

theorem perform_readPairs (store : Store) :
    Action.perform readPairs store = (read store, store) := by
  cases found : read store with
  | ok pairs => simp [readPairs, perform_bind, found]
  | error error => simp [readPairs, perform_bind, found]

/-- What an update can do: fail before it writes anything, or set its pair. -/
inductive Updated (key value : List Char) (store : Store) : Except Error Unit × Store → Prop where
  | fails (error : Error) :
      Updated key value store (.error error, store)
  | succeeds {name : SettingName} {pairs : Pairs}
      (named : Text.upper key = name.key)
      (accepted : accepts name value)
      (found : read store = .ok pairs) :
      Updated key value store (.ok (), .file ⟨render (put name.key value pairs), none⟩)

theorem ofKey?_eq_some {key : List Char} {name : SettingName}
    (found : SettingName.ofKey? key = some name) :
    key = name.key := by
  unfold SettingName.ofKey? at found
  have same := List.find?_some found
  exact (beq_iff_eq.mp same).symm

theorem updated_perform (key value : List Char) (store : Store) :
    Updated key value store ((update key value).perform store) := by
  unfold update
  split
  · exact .fails _
  · next name found =>
      split
      · next accepted =>
          rw [perform_bind, perform_readPairs]
          cases held : read store with
          | error error => exact .fails error
          | ok pairs =>
              rcases perform_writePairs (put name.key value pairs) store with
                ⟨error, failed⟩ | written
              · simp only [failed]
                exact .fails error
              · simp only [written]
                exact .succeeds (ofKey?_eq_some found) accepted held
      · exact .fails _

/-! ## Calls one after the other -/

/-- A call that is to set a value. -/
structure Call where
  key : List Char
  value : List Char

/-- Whether a call on a store succeeds. -/
def Call.succeeds (call : Call) (store : Store) : Bool :=
  match ((update call.key call.value).perform store).1 with
  | .ok _ => true
  | .error _ => false

/-- The store that a call leaves, whether it succeeds or fails. -/
def Call.after (call : Call) (store : Store) : Store :=
  ((update call.key call.value).perform store).2

/-- The store that some calls leave. -/
def storeAfter (store : Store) : List Call → Store
  | [] => store
  | call :: rest => storeAfter (call.after store) rest

/-- The keys that successful calls name, in the order of the calls. -/
def namedKeys (store : Store) : List Call → List (List Char)
  | [] => []
  | call :: rest =>
      if call.succeeds store then Text.upper call.key :: namedKeys (call.after store) rest
      else namedKeys (call.after store) rest

/-- Nothing, or a file that is text. -/
def Store.IsText : Store → Prop
  | .absent => True
  | .file content => content.fault = none
  | .directory | .blocked => False

theorem storeAfter_append (store : Store) (first second : List Call) :
    storeAfter store (first ++ second) = storeAfter (storeAfter store first) second := by
  induction first generalizing store with
  | nil => rfl
  | cons call rest ih => exact ih (call.after store)

/-- A call that fails leaves the store as it was. -/
theorem Call.after_of_fails
    {call : Call} {store : Store} (fails : call.succeeds store = false) :
    call.after store = store := by
  unfold Call.succeeds at fails
  unfold Call.after
  have updated := updated_perform call.key call.value store
  generalize (update call.key call.value).perform store = outcome at updated fails ⊢
  cases updated with
  | fails error => rfl
  | succeeds => cases fails

/-- A call that succeeds sets the pair of its key. -/
theorem Call.read_after
    {call : Call} {store : Store} {pairs : Pairs}
    (succeeds : call.succeeds store)
    (found : read store = .ok pairs) :
    ∃ value, read (call.after store) = .ok (put (Text.upper call.key) value pairs) := by
  unfold Call.succeeds at succeeds
  unfold Call.after
  have updated := updated_perform call.key call.value store
  generalize (update call.key call.value).perform store = outcome at updated succeeds ⊢
  cases updated with
  | fails error => cases succeeds
  | @succeeds name held named accepted isHeld =>
      rw [found] at isHeld
      cases isHeld
      rw [named]
      exact ⟨firstLine call.value, read_render_put found name (noEquals_of_accepts accepted)⟩

theorem Store.IsText.read_eq {store : Store} (isText : store.IsText) :
    ∃ pairs, read store = .ok pairs := by
  cases store with
  | absent => exact ⟨[], rfl⟩
  | file content =>
      rcases content with ⟨text, fault⟩
      cases isText
      exact ⟨_, read_file text⟩
  | directory | blocked => cases isText

/-- What the pairs in the file have become, given the keys that were named. -/
structure Extended (before : Pairs) (named : List (List Char)) (after : Pairs) : Prop where
  lookup_eq : ∀ key, key ∉ named → after.lookup key = before.lookup key
  keys_eq : keys after = keys before ++ (named.filter fun key => key ∉ keys before).eraseDups

theorem Extended.put
    {before after : Pairs} {named : List (List Char)} {key value : List Char}
    (later : Extended (put key value before) named after) :
    Extended before (key :: named) after where
  lookup_eq := by
    intro other absent
    simp only [List.mem_cons, not_or] at absent
    rw [later.lookup_eq other absent.2, lookup_put_of_ne absent.1]
  keys_eq := by
    rw [later.keys_eq, keys_put]
    by_cases present : key ∈ keys before
    · simp [present]
    · have split : (named.filter fun other => other ∉ keys before ++ [key]) =
          (named.filter fun other => other ∉ keys before).filter fun other => !other == key := by
        rw [List.filter_filter]
        apply List.filter_congr
        intro other _
        by_cases same : other = key <;> simp [same]
      rw [if_neg present, split, List.filter_cons_of_pos (by simpa using present),
        List.eraseDups_cons, List.append_assoc]
      rfl

/-- What some calls make of the pairs in the file. -/
theorem extended_storeAfter
    {store : Store} {before : Pairs} (found : read store = .ok before) (calls : List Call) :
    ∃ after, read (storeAfter store calls) = .ok after ∧
      Extended before (namedKeys store calls) after := by
  induction calls generalizing store before with
  | nil => exact ⟨before, found, by simp [namedKeys], by simp [namedKeys]⟩
  | cons call rest ih =>
      simp only [storeAfter, namedKeys]
      cases succeeds : call.succeeds store with
      | true =>
          rcases Call.read_after succeeds found with ⟨value, changed⟩
          rcases ih changed with ⟨after, foundAfter, extended⟩
          exact ⟨after, foundAfter, extended.put⟩
      | false =>
          rw [Call.after_of_fails succeeds]
          exact ih found

/--
Updates preserve everything else.  Of calls made one after the other on any
store, each one that fails leaves the store as it was.  If nothing or a file of
text was there at first, the pairs can be read in the end: every key that no
successful call named has its value, the keys that were there have their order,
and behind them stand the keys of successful calls that were not there, in the
order of their first success.
-/
theorem updates_preserve_others (store : Store) (calls : List Call) :
    (∀ earlier call later, calls = earlier ++ call :: later →
      call.succeeds (storeAfter store earlier) = false →
        storeAfter store (earlier ++ [call]) = storeAfter store earlier) ∧
      (store.IsText →
        ∃ before after,
          read store = .ok before ∧ read (storeAfter store calls) = .ok after ∧
            (∀ key, key ∉ namedKeys store calls → after.lookup key = before.lookup key) ∧
            keys after =
              keys before ++
                ((namedKeys store calls).filter fun key => key ∉ keys before).eraseDups) := by
  constructor
  · intro earlier call later _ fails
    rw [storeAfter_append]
    exact Call.after_of_fails fails
  · intro isText
    rcases isText.read_eq with ⟨before, found⟩
    rcases extended_storeAfter found calls with ⟨after, foundAfter, extended⟩
    exact ⟨before, after, found, foundAfter, extended.lookup_eq, extended.keys_eq⟩

end SheetFormula.Config
