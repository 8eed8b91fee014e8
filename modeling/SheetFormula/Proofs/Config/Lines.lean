import SheetFormula.Config

/-!
# Reading back what was written

The pairs that a file holds are clean: they have no line breaks, no equals sign
in their keys and no blanks at the ends of their lines, and no key occurs twice.
Clean pairs come back when they are written and read.  A new value may hold line
breaks and blanks, but no equals sign; what comes back of it is its first line.

Main statement: writing pairs with one of them set, and reading them again, sets
that pair and leaves all others as they were (`read_render_put`).
-/

namespace SheetFormula.Config

/-! ## Keys -/

/-- The keys of some pairs, in order. -/
def keys (pairs : Pairs) : List (List Char) :=
  pairs.map Prod.fst

theorem keys_put (key value : List Char) (pairs : Pairs) :
    keys (put key value pairs) =
      if key ∈ keys pairs then keys pairs else keys pairs ++ [key] := by
  induction pairs with
  | nil => simp [put, keys]
  | cons pair rest ih =>
      unfold keys at ih ⊢
      by_cases same : pair.1 = key
      · simp [put, same]
      · have other : ¬ key = pair.1 := fun equal => same equal.symm
        simp only [put, if_neg same, List.map_cons, ih, List.mem_cons, other, false_or]
        split <;> rfl

theorem put_of_notMem
    {key : List Char} {pairs : Pairs} (absent : key ∉ keys pairs) (value : List Char) :
    put key value pairs = pairs ++ [(key, value)] := by
  induction pairs with
  | nil => rfl
  | cons pair rest ih =>
      simp only [keys, List.map_cons, List.mem_cons, not_or] at absent
      have different : ¬ pair.1 = key := fun equal => absent.1 equal.symm
      simp [put, different, ih absent.2]

theorem lookup_put_of_ne
    {key other : List Char} (different : other ≠ key) (value : List Char) (pairs : Pairs) :
    (put key value pairs).lookup other = pairs.lookup other := by
  have unequal : (other == key) = false := by simpa using different
  induction pairs with
  | nil => simp [put, List.lookup_cons, unequal]
  | cons pair rest ih =>
      rcases pair with ⟨first, second⟩
      by_cases same : first = key
      · subst same
        simp [put, List.lookup_cons, unequal]
      · simp [put, same, List.lookup_cons, ih]

theorem nodup_keys_put
    {pairs : Pairs} (distinct : (keys pairs).Nodup) (key value : List Char) :
    (keys (put key value pairs)).Nodup := by
  rw [keys_put]
  split
  · exact distinct
  · next absent =>
      rw [List.nodup_append]
      refine ⟨distinct, by simp, ?_⟩
      intro first member second isKey
      rw [List.mem_singleton] at isKey
      subst isKey
      rintro rfl
      exact absent member

theorem mem_put
    {key value : List Char} {pairs : Pairs} {pair : List Char × List Char}
    (member : pair ∈ put key value pairs) :
    pair = (key, value) ∨ pair ∈ pairs := by
  induction pairs with
  | nil => exact .inl (List.mem_singleton.mp member)
  | cons first rest ih =>
      rw [put] at member
      split at member
      · rcases List.mem_cons.mp member with same | later
        · exact .inl same
        · exact .inr (List.mem_cons_of_mem first later)
      · rcases List.mem_cons.mp member with rfl | later
        · exact .inr List.mem_cons_self
        · rcases ih later with same | later
          · exact .inl same
          · exact .inr (List.mem_cons_of_mem first later)

/-- Pairs put together one after the other. -/
def gather (pairs : Pairs) : Pairs :=
  pairs.foldl (fun gathered pair => put pair.1 pair.2 gathered) []

/-- Pairs with different keys stay as they are. -/
theorem gather_of_nodup {pairs : Pairs} (distinct : (keys pairs).Nodup) :
    gather pairs = pairs := by
  have appended : ∀ (before : Pairs), (keys (before ++ pairs)).Nodup →
      pairs.foldl (fun gathered pair => put pair.1 pair.2 gathered) before = before ++ pairs := by
    clear distinct
    induction pairs with
    | nil => simp
    | cons pair rest ih =>
        intro before distinct
        have absent : pair.1 ∉ keys before := by
          simp only [keys, List.map_append, List.map_cons, List.nodup_append] at distinct
          intro member
          exact distinct.2.2 pair.1 member pair.1 (by simp) rfl
        rw [List.foldl_cons, put_of_notMem absent, ih, List.append_assoc]
        · rfl
        · simpa using distinct
  exact appended [] distinct

theorem nodup_keys_gather (pairs : Pairs) : (keys (gather pairs)).Nodup := by
  have kept : ∀ (before : Pairs), (keys before).Nodup →
      (keys (pairs.foldl (fun gathered pair => put pair.1 pair.2 gathered) before)).Nodup := by
    induction pairs with
    | nil =>
        intro before distinct
        exact distinct
    | cons pair rest ih =>
        intro before distinct
        exact ih _ (nodup_keys_put distinct pair.1 pair.2)
  exact kept [] List.nodup_nil

theorem mem_gather {pairs : Pairs} {pair : List Char × List Char} (member : pair ∈ gather pairs) :
    pair ∈ pairs := by
  have kept : ∀ (before : Pairs),
      pair ∈ pairs.foldl (fun gathered pair => put pair.1 pair.2 gathered) before →
        pair ∈ before ∨ pair ∈ pairs := by
    clear member
    induction pairs with
    | nil =>
        intro before member
        exact .inl member
    | cons first rest ih =>
        intro before member
        rcases ih _ member with placed | later
        · rcases mem_put placed with rfl | earlier
          · exact .inr List.mem_cons_self
          · exact .inl earlier
        · exact .inr (List.mem_cons_of_mem first later)
  rcases kept [] member with none | found
  · cases none
  · exact found

/-! ## Lines -/

/-- The pairs on the lines of a text that may have any line breaks. -/
def linePairs (text : List Char) : Pairs :=
  ((lineFeeds text).splitOn '\n').filterMap linePair?

theorem read_file (text : List Char) :
    read (.file ⟨text, none⟩) = .ok (gather (linePairs text)) := rfl

theorem linePair?_eq_some_iff {line : List Char} {pair : List Char × List Char} :
    linePair? line = some pair ↔ Text.trim line = pairText pair ∧ '=' ∉ pair.1 :=
  Text.cutFirst?_eq_some_iff

/-- A line without an equals sign holds no pair. -/
theorem linePair?_of_notMem {line : List Char} (absent : '=' ∉ line) : linePair? line = none := by
  rw [linePair?, Text.cutFirst?_eq_none_iff]
  intro member
  exact absent (Text.mem_of_mem_trim member)

theorem filterMap_splitOn_of_notMem {text : List Char} (absent : '=' ∉ text) :
    (text.splitOn '\n').filterMap linePair? = [] := by
  rw [List.filterMap_eq_nil_iff]
  intro line isLine
  apply linePair?_of_notMem
  intro member
  exact absent (Text.mem_of_mem_splitOn isLine member).1

/-- A line feed divides the pairs before it from those behind it. -/
theorem linePairs_append (first second : List Char) :
    linePairs (first ++ '\n' :: second) = linePairs first ++ linePairs second := by
  have plain : lineFeeds ('\n' :: second) = '\n' :: lineFeeds second := by
    simp [lineFeeds]
  by_cases ends : first.getLast? = some '\r'
  · -- the line feed belongs to the line break that the first text ends with
    rcases List.getLast?_eq_some_iff.mp ends with ⟨earlier, rfl⟩
    have whole : lineFeeds (earlier ++ ['\r'] ++ '\n' :: second) =
        lineFeeds earlier ++ '\n' :: lineFeeds second := by
      rw [List.append_assoc, lineFeeds_append (by simp)]
      simp [lineFeeds]
    have part : lineFeeds (earlier ++ ['\r']) = lineFeeds earlier ++ '\n' :: [] := by
      rw [lineFeeds_append (by simp)]
      simp [lineFeeds]
    have nothing : [[]].filterMap linePair? = [] := rfl
    simp only [linePairs, whole, part, List.splitOn_append_cons_self, List.splitOn_nil,
      List.filterMap_append, nothing, List.append_nil]
  · rw [linePairs, lineFeeds_append (fun same => absurd same ends), plain,
      List.splitOn_append_cons_self, List.filterMap_append]
    rfl

theorem linePairs_render (pairs : Pairs) :
    linePairs (render pairs) = pairs.flatMap fun pair => linePairs (pairText pair) := by
  induction pairs with
  | nil => rfl
  | cons pair rest ih =>
      rw [List.flatMap_cons, ← ih, ← linePairs_append]
      simp [render]

/-! ## Clean pairs -/

/-- Pairs as they are found on a line. -/
structure Clean (pair : List Char × List Char) : Prop where
  key : '=' ∉ pair.1
  unbroken : ∀ char ∈ pairText pair, char ≠ '\n' ∧ char ≠ '\r'
  trimmed : Text.trim (pairText pair) = pairText pair

theorem clean_of_mem_linePairs
    {text : List Char} {pair : List Char × List Char} (member : pair ∈ linePairs text) :
    Clean pair := by
  rcases List.mem_filterMap.mp member with ⟨line, isLine, found⟩
  rcases linePair?_eq_some_iff.mp found with ⟨trimmed, key⟩
  constructor
  · exact key
  · intro char member
    rw [← trimmed] at member
    rcases Text.mem_of_mem_splitOn isLine (Text.mem_of_mem_trim member) with ⟨inText, noFeed⟩
    rcases mem_lineFeeds inText with feed | ⟨-, noReturn⟩
    · exact absurd feed noFeed
    · exact ⟨noFeed, noReturn⟩
  · rw [← trimmed, Text.trim_trim]

/-- A clean pair comes back from its line. -/
theorem Clean.linePairs_eq {pair : List Char × List Char} (clean : Clean pair) :
    linePairs (pairText pair) = [pair] := by
  have noReturn : '\r' ∉ pairText pair := fun member => (clean.unbroken _ member).2 rfl
  have noFeed : '\n' ∉ pairText pair := fun member => (clean.unbroken _ member).1 rfl
  have found : linePair? (pairText pair) = some pair :=
    linePair?_eq_some_iff.mpr ⟨clean.trimmed, clean.key⟩
  rw [linePairs, lineFeeds_of_notMem noReturn, List.splitOn_eq_singleton noFeed]
  simp [found]

/-- What a file holds is clean and has no key twice. -/
theorem clean_of_read {store : Store} {pairs : Pairs} (found : read store = .ok pairs) :
    (∀ pair ∈ pairs, Clean pair) ∧ (keys pairs).Nodup := by
  cases store with
  | file content =>
      rcases content with ⟨text, fault⟩
      cases fault with
      | none =>
          cases found
          constructor
          · intro pair member
            exact clean_of_mem_linePairs (mem_gather member)
          · exact nodup_keys_gather (linePairs text)
      | some fault => cases found
  | absent | directory | blocked =>
      cases found
      simp [keys]

/-! ## New values -/

/-- What is read back of a new value: its first line without blanks at the end. -/
def firstLine (value : List Char) : List Char :=
  Text.trimEnd (Text.upTo '\n' (lineFeeds value))

theorem key_plain (name : SettingName) :
    '=' ∉ name.key ∧ '\n' ∉ name.key ∧ '\r' ∉ name.key := by
  cases name <;> decide

theorem linePair?_setting (name : SettingName) (value : List Char) :
    linePair? (name.key ++ '=' :: value) = some (name.key, Text.trimEnd value) := by
  rw [linePair?_eq_some_iff]
  refine ⟨?_, (key_plain name).1⟩
  have trimmed : ∀ (char : Char) (rest : List Char), Text.isBlank char = false →
      Text.trim (char :: rest ++ '=' :: value) = char :: rest ++ '=' :: Text.trimEnd value := by
    intro char rest visible
    rw [List.cons_append, Text.trim_cons_of_visible visible,
      Text.trimEnd_append_of_visible (by decide)]
    rfl
  cases name with
  | indentWidth => exact trimmed 'S' _ (by decide)
  | strict => exact trimmed 'S' _ (by decide)

/-- Of a setting with a new value, one pair comes back from its lines. -/
theorem linePairs_setting
    (name : SettingName) {value : List Char} (noEquals : '=' ∉ value) :
    linePairs (pairText (name.key, value)) = [(name.key, firstLine value)] := by
  rcases key_plain name with ⟨-, noFeed, noReturn⟩
  have feeds : lineFeeds (pairText (name.key, value)) = name.key ++ '=' :: lineFeeds value := by
    rw [pairText, lineFeeds_append (by simp), lineFeeds_of_notMem noReturn]
    simp [lineFeeds]
  have firstUnbroken : '\n' ∉ name.key ++ '=' :: Text.upTo '\n' (lineFeeds value) := by
    simp [noFeed, Text.notMem_upTo]
  have firstPairs :
      ((name.key ++ '=' :: Text.upTo '\n' (lineFeeds value)).splitOn '\n').filterMap
        linePair? = [(name.key, firstLine value)] := by
    rw [List.splitOn_eq_singleton firstUnbroken]
    simp [linePair?_setting, firstLine]
  rw [linePairs, feeds]
  rcases Text.upTo_cases '\n' (lineFeeds value) with whole | ⟨rest, cut⟩
  · rw [← whole] at firstPairs
    exact firstPairs
  · have noEqualsBehind : '=' ∉ rest := by
      intro member
      have inFeeds : '=' ∈ lineFeeds value := by
        rw [cut]
        simp [member]
      rcases mem_lineFeeds inFeeds with feed | ⟨inValue, -⟩
      · cases feed
      · exact noEquals inValue
    rw [cut, ← List.cons_append, ← List.append_assoc,
      List.splitOn_append_cons_self, List.filterMap_append,
      filterMap_splitOn_of_notMem noEqualsBehind, List.append_nil]
    exact firstPairs

/-- Writing pairs with a setting changed and reading them again changes that setting only. -/
theorem read_render_put
    {store : Store} {pairs : Pairs}
    (found : read store = .ok pairs)
    (name : SettingName) {value : List Char}
    (noEquals : '=' ∉ value) :
    read (.file ⟨render (put name.key value pairs), none⟩) =
      .ok (put name.key (firstLine value) pairs) := by
  rcases clean_of_read found with ⟨clean, distinct⟩
  have others : ∀ {pairs : Pairs}, (∀ pair ∈ pairs, Clean pair) →
      (pairs.flatMap fun pair => linePairs (pairText pair)) = pairs := by
    intro pairs clean
    induction pairs with
    | nil => rfl
    | cons pair rest ih =>
        rcases List.forall_mem_cons.mp clean with ⟨here, later⟩
        rw [List.flatMap_cons, here.linePairs_eq, ih later]
        rfl
  have lines : linePairs (render (put name.key value pairs)) =
      put name.key (firstLine value) pairs := by
    rw [linePairs_render]
    clear found distinct
    induction pairs with
    | nil => simp [put, linePairs_setting name noEquals]
    | cons pair rest ih =>
        rcases List.forall_mem_cons.mp clean with ⟨here, later⟩
        simp only [put]
        split
        · rw [List.flatMap_cons, linePairs_setting name noEquals, others later]
          rfl
        · rw [List.flatMap_cons, here.linePairs_eq, ih later]
          rfl
  rw [read_file, lines, gather_of_nodup (nodup_keys_put distinct _ _)]

end SheetFormula.Config
