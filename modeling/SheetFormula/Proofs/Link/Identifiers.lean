import SheetFormula.Link
import SheetFormula.Proofs.Reference.Toggle

/-!
# Links and their identifiers

A text without quotes, without a query and without blanks around it is bare.
What a link is made from is bare, and so is the link, which is why the link of a
link is the link itself.

Both searches for an identifier find the first place that fits.  A link has no
quote, so no import call is found in it, and `/d/` does not occur in it before
the identifier.  In an import call the first quotes enclose the link, whatever
follows it.  An identifier that looks like a link stays as it is; there is no
slash in it, so it is taken whole.

Main statement: links stay as they are, and identifiers are read back from
their links, from import calls of these, and from lists of them.
-/

namespace SheetFormula.Link

open Layout

/-! ## Bare texts -/

/-- What a link is made from: a text without quotes, query and surrounding blanks. -/
def bare (text : List Char) : List Char :=
  Text.trim (Text.upTo '?' (Text.without '"' text))

theorem ofText_eq (text : List Char) :
    ofText text =
      if Text.occursIn scheme (bare text) then bare text else front ++ bare text ++ back := rfl

/-- Texts that have nothing to remove. -/
structure IsBare (text : List Char) : Prop where
  noQuote : '"' ∉ text
  noQuery : '?' ∉ text
  trimmed : Text.trim text = text

theorem isBare_bare (text : List Char) : IsBare (bare text) where
  noQuote := by
    intro member
    exact Text.notMem_without _ _ (Text.mem_of_mem_upTo (Text.mem_of_mem_trim member))
  noQuery := by
    intro member
    exact Text.notMem_upTo _ _ (Text.mem_of_mem_trim member)
  trimmed := Text.trim_trim _

theorem IsBare.bare_eq {text : List Char} (isBare : IsBare text) : bare text = text := by
  rw [bare, Text.without_of_notMem isBare.noQuote, Text.upTo_of_notMem isBare.noQuery,
    isBare.trimmed]

theorem IsBare.link {text : List Char} (isBare : IsBare text) :
    IsBare (front ++ text ++ back) where
  noQuote := by
    have absent : '"' ∉ front ∧ '"' ∉ back := by decide
    simp [absent, isBare.noQuote]
  noQuery := by
    have absent : '?' ∉ front ∧ '?' ∉ back := by decide
    simp [absent, isBare.noQuery]
  trimmed := by
    have starts : front.head? = some 'h' := by decide
    have ends : back.getLast? = some '0' := by decide
    apply Text.trim_eq_self
    · rw [List.append_assoc, List.head?_append, starts]
      rfl
    · rw [List.getLast?_append, ends]
      rfl

/-! ## Links of links -/

theorem isBare_ofText (text : List Char) : IsBare (ofText text) := by
  rw [ofText_eq]
  split
  · exact isBare_bare text
  · exact (isBare_bare text).link

/-- The link of any text is a link. -/
theorem occursIn_ofText (text : List Char) : Text.occursIn scheme (ofText text) := by
  rw [ofText_eq]
  split
  · assumption
  · rw [Text.occursIn_iff]
    exact ⟨[], front.drop scheme.length ++ bare text ++ back, rfl⟩

theorem ofText_ofText (text : List Char) : ofText (ofText text) = ofText text := by
  rw [ofText_eq (ofText text), (isBare_ofText text).bare_eq, if_pos (occursIn_ofText text)]

/-! ## Searching -/

/-- Without quotes there is no import call. -/
theorem importAt?_eq_none {text : List Char} (noQuote : '"' ∉ text) : importAt? text = none := by
  fun_cases importAt? text with
  | case1 => rfl
  | case2 rest called content opened =>
      exfalso
      rcases Reference.afterWord?_eq_some_iff.mp called with ⟨word, -, rfl⟩
      rcases Text.eq_append_trimStart rest with ⟨blanks, -, split⟩
      rw [opened] at split
      exact noQuote (by simp [split])
  | case3 => rfl

theorem importText?_eq_none {text : List Char} (noQuote : '"' ∉ text) :
    importText? text = none := by
  fun_induction importText? text with
  | case1 => rfl
  | case2 char rest content found =>
      rw [importAt?_eq_none noQuote] at found
      cases found
  | case3 char rest _ ih => exact ih fun member => noQuote (List.mem_cons_of_mem char member)

theorem importText?_of_importAt?
    {text content : List Char} (found : importAt? text = some content) :
    importText? text = some content := by
  cases text with
  | nil =>
      rw [importAt?_eq_none List.not_mem_nil] at found
      cases found
  | cons char rest => simp only [importText?, found]

theorem idText?_cons_of_absent
    {char : Char} {rest : List Char} (absent : ¬ mark <+: char :: rest) :
    idText? (char :: rest) = idText? rest := by
  have unfound : Text.after? mark (char :: rest) = none := by
    rw [Option.eq_none_iff_forall_ne_some]
    intro behind found
    exact absent ⟨behind, (Text.after?_eq_some_iff.mp found).symm⟩
  simp only [idText?, unfound]

theorem idText?_mark
    {behind : List Char} (starts : behind.head?.any isIdChar) :
    idText? (mark ++ behind) = some (behind.takeWhile isIdChar) := by
  have found : Text.after? mark (mark ++ behind) = some behind :=
    Text.after?_eq_some_iff.mpr rfl
  have split : mark ++ behind = '/' :: (mark.tail ++ behind) := rfl
  rw [split] at found ⊢
  simp only [idText?, found, starts, if_true]

theorem idText?_eq_none {text : List Char} (noSlash : '/' ∉ text) : idText? text = none := by
  induction text with
  | nil => rfl
  | cons char rest ih =>
      have absent : ¬ mark <+: char :: rest := by
        rintro ⟨behind, split⟩
        apply noSlash
        rw [← split]
        simp [mark]
      rw [idText?_cons_of_absent absent]
      exact ih fun member => noSlash (List.mem_cons_of_mem char member)

/-- The first mark in a text is the one that counts, also where it overlaps what is before it. -/
theorem idText?_of_first
    {before behind : List Char}
    (first : ¬ mark <:+: before ++ mark.dropLast)
    (starts : behind.head?.any isIdChar) :
    idText? (before ++ mark ++ behind) = some (behind.takeWhile isIdChar) := by
  induction before with
  | nil => exact idText?_mark starts
  | cons char rest ih =>
      have later : ¬ mark <:+: rest ++ mark.dropLast :=
        fun inRest => first (List.infix_cons inRest)
      have absent : ¬ mark <+: char :: (rest ++ mark ++ behind) := by
        intro begins
        have short : char :: rest ++ mark.dropLast <+: char :: (rest ++ mark ++ behind) :=
          ⟨'/' :: behind, by simp [mark]⟩
        have fits : mark.length ≤ (char :: rest ++ mark.dropLast).length := by
          simp [mark]
        exact first (List.prefix_of_prefix_length_le begins short fits).isInfix
      rw [List.cons_append, List.cons_append, idText?_cons_of_absent absent]
      exact ih later

/-! ## Identifiers -/

/-- The characters of identifiers. -/
def alphabet : List Char :=
  "ABCDEFGHIJKLMNOPQRSTUVWXYZabcdefghijklmnopqrstuvwxyz0123456789_-".toList

/-- Identifiers of spreadsheets. -/
structure IsIdentifier (text : List Char) : Prop where
  nonempty : text ≠ []
  spelled : ∀ char ∈ text, char ∈ alphabet

theorem isIdentifier_iff {text : List Char} :
    IsIdentifier text ↔ text ≠ [] ∧ text.all alphabet.contains = true := by
  constructor
  · rintro ⟨nonempty, spelled⟩
    exact ⟨nonempty, List.all_eq_true.mpr fun char member => by simpa using spelled char member⟩
  · rintro ⟨nonempty, checked⟩
    exact ⟨nonempty, fun char member => by simpa using List.all_eq_true.mp checked char member⟩

instance (text : List Char) : Decidable (IsIdentifier text) :=
  decidable_of_iff _ isIdentifier_iff.symm

section IsIdentifier

variable {identifier : List Char}

/-- The characters of an identifier are visible, and none of them has a meaning of its own. -/
theorem IsIdentifier.plain
    (isIdentifier : IsIdentifier identifier) {char : Char} (member : char ∈ identifier) :
    isIdChar char ∧ Text.isBlank char = false ∧ char ∉ ['"', '?', '/'] := by
  have checked : alphabet.all (fun char =>
      isIdChar char && !Text.isBlank char && !(['"', '?', '/'].contains char)) = true := by
    decide
  simpa [and_assoc] using List.all_eq_true.mp checked char (isIdentifier.spelled char member)

theorem IsIdentifier.isBare (isIdentifier : IsIdentifier identifier) : IsBare identifier where
  noQuote := fun member => (isIdentifier.plain member).2.2 (by simp)
  noQuery := fun member => (isIdentifier.plain member).2.2 (by simp)
  trimmed := by
    have visible : identifier.any Text.isBlank = false := by
      rw [List.any_eq_false]
      intro char member
      simp [(isIdentifier.plain member).2.1]
    have trimmed := isTrimmed_of_visible visible
    exact Text.trim_eq_self trimmed.1 trimmed.2

/-- An identifier is its own link or gets one. -/
theorem IsIdentifier.ofText_cases (isIdentifier : IsIdentifier identifier) :
    ofText identifier = identifier ∨ ofText identifier = front ++ identifier ++ back := by
  rw [ofText_eq, isIdentifier.isBare.bare_eq]
  split
  · exact .inl rfl
  · exact .inr rfl

/-- The identifier in a link ends before the slash behind it. -/
theorem IsIdentifier.idText?_link (isIdentifier : IsIdentifier identifier) :
    idText? (front ++ identifier ++ back) = some identifier := by
  have idChars : ∀ char ∈ identifier, isIdChar char :=
    fun char member => (isIdentifier.plain member).1
  have starts : (identifier ++ back).head?.any isIdChar := by
    obtain ⟨char, rest, rfl⟩ := List.exists_cons_of_ne_nil isIdentifier.nonempty
    exact idChars char List.mem_cons_self
  have split : front = "https://docs.google.com/spreadsheets".toList ++ mark := by decide
  have first : ¬ mark <:+: "https://docs.google.com/spreadsheets".toList ++ mark.dropLast := by
    rw [← Text.occursIn_iff]
    decide
  have ends : back.takeWhile isIdChar = [] := by decide
  rw [split, List.append_assoc, idText?_of_first first starts,
    List.takeWhile_append_of_pos idChars, ends, List.append_nil]

/-- An identifier is read back from its link. -/
theorem IsIdentifier.extractId_ofText (isIdentifier : IsIdentifier identifier) :
    extractId (ofText identifier) = identifier := by
  have noImport := importText?_eq_none (isBare_ofText identifier).noQuote
  have isBare := isIdentifier.isBare
  rw [extractId, noImport]
  rcases isIdentifier.ofText_cases with same | link
  · have noSlash : '/' ∉ identifier := fun member => (isIdentifier.plain member).2.2 (by simp)
    simp only [same, Option.getD_none, idText?_eq_none noSlash,
      Text.without_of_notMem isBare.noQuote, isBare.trimmed]
  · simp only [link, Option.getD_none, isIdentifier.idText?_link]

end IsIdentifier

/-! ## Import calls -/

/-- A formula that imports a range of the spreadsheet with a given link. -/
def importCall (link range : List Char) : List Char :=
  '=' :: "IMPORTRANGE(".toList ++ '"' :: link ++ ['"', ',', '"'] ++ range ++ ['"', ')']

/-- No import call begins with an equals sign. -/
theorem importAt?_equals (rest : List Char) : importAt? ('=' :: rest) = none := by
  have uncalled : Reference.afterWord? importWord ('=' :: rest) = none := by
    rw [Option.eq_none_iff_forall_ne_some]
    intro behind called
    rcases Reference.afterWord?_eq_some_iff.mp called with ⟨word, named, split⟩
    have initial : importWord = 'I' :: importWord.tail := by decide
    rw [initial] at named
    cases named with
    | cons same _ =>
        cases split
        exact (Reference.initial_of_sameLetter same).2 rfl
  simp only [importAt?, uncalled]

theorem importAt?_importWord
    {link : List Char} (noQuote : '"' ∉ link) (behind : List Char) :
    importAt? (importWord ++ '"' :: (link ++ '"' :: behind)) = some link := by
  have named : List.Forall₂ (fun expected char => Text.sameLetter expected char)
      importWord importWord := by
    rw [List.forall₂_same]
    exact fun char _ => Reference.sameLetter_self char
  have called : Reference.afterWord? importWord
      (importWord ++ '"' :: (link ++ '"' :: behind)) = some ('"' :: (link ++ '"' :: behind)) :=
    Reference.afterWord?_eq_some_iff.mpr ⟨importWord, named, rfl⟩
  have opened : Text.trimStart ('"' :: (link ++ '"' :: behind)) = '"' :: (link ++ '"' :: behind) :=
    Text.trimStart_append_of_visible (by simp : ∀ char ∈ [], Text.isBlank char) rfl _
  have closed : Text.cutFirst? '"' (link ++ '"' :: behind) = some (link, behind) :=
    Text.cutFirst?_eq_some_iff.mpr ⟨rfl, noQuote⟩
  simp only [importAt?, called, opened, closed, Option.map_some]

/-- The first string of an import call is its link. -/
theorem importText?_importCall
    {link : List Char} (noQuote : '"' ∉ link) (range : List Char) :
    importText? (importCall link range) = some link := by
  have split : importCall link range =
      '=' :: (importWord ++ '"' :: (link ++ '"' :: (',' :: '"' :: range ++ ['"', ')']))) := by
    have word : "IMPORTRANGE(".toList = importWord := rfl
    simp only [importCall, word, List.cons_append, List.append_assoc, List.nil_append]
  have found := importAt?_importWord noQuote (',' :: '"' :: range ++ ['"', ')'])
  rw [split]
  simp only [importText?, importAt?_equals, importText?_of_importAt? found]

theorem extractId_importCall
    {link : List Char} (noQuote : '"' ∉ link) (range : List Char) :
    extractId (importCall link range) = extractId link := by
  simp only [extractId, importText?_importCall noQuote, importText?_eq_none noQuote,
    Option.getD_some, Option.getD_none]

/-! ## Lists of links -/

/-- No line breaks off inside a link. -/
theorem IsIdentifier.noBreak
    {identifier : List Char} (isIdentifier : IsIdentifier identifier) :
    '\n' ∉ ofText identifier := by
  have absent : '\n' ∉ identifier := by
    intro member
    cases (isIdentifier.plain member).2.1
  have outside : '\n' ∉ front ∧ '\n' ∉ back := by decide
  rcases isIdentifier.ofText_cases with same | link
  · rwa [same]
  · simp [link, outside, absent]

theorem extractIds_links
    {identifiers : List (List Char)}
    (all : ∀ identifier ∈ identifiers, IsIdentifier identifier) :
    extractIds (Text.join '\n' (identifiers.map ofText)) = Text.join '\n' identifiers := by
  by_cases nothing : identifiers = []
  · subst nothing
    rfl
  · have unbroken : ∀ link ∈ identifiers.map ofText, '\n' ∉ link := by
      intro link member
      rcases List.mem_map.mp member with ⟨identifier, listed, rfl⟩
      exact (all identifier listed).noBreak
    have links : (Text.join '\n' (identifiers.map ofText)).splitOn '\n' =
        identifiers.map ofText :=
      List.splitOn_intercalate '\n' unbroken (by simpa using nothing)
    have readBack : identifiers.map (extractId ∘ ofText) = identifiers.map id :=
      List.map_congr_left fun identifier listed => (all identifier listed).extractId_ofText
    rw [extractIds, links, List.map_map, readBack, List.map_id]

/--
The link of a link is the link itself.  An identifier, also one that looks like
a link, is read back from its link and from an import call of any range with
this link, and a list of identifiers is read back from the lines of their links.
-/
theorem identifiers_read_back :
    (∀ text, Text.occursIn scheme (ofText text) ∧ ofText (ofText text) = ofText text) ∧
      (∀ identifier, IsIdentifier identifier →
        extractId (ofText identifier) = identifier ∧
          ∀ range, extractId (importCall (ofText identifier) range) = identifier) ∧
      ∀ identifiers, (∀ identifier ∈ identifiers, IsIdentifier identifier) →
        extractIds (Text.join '\n' (identifiers.map ofText)) = Text.join '\n' identifiers := by
  refine ⟨?_, ?_, ?_⟩
  · intro text
    exact ⟨occursIn_ofText text, ofText_ofText text⟩
  · intro identifier isIdentifier
    refine ⟨isIdentifier.extractId_ofText, ?_⟩
    intro range
    rw [extractId_importCall (isBare_ofText identifier).noQuote, isIdentifier.extractId_ofText]
  · intro identifiers all
    exact extractIds_links all

/-- An identifier that looks like a link, and one that gets one. -/
def sampleIdentifiers : List (List Char) := ["d-https_".toList, "1Ab-_9".toList]

theorem identifiers_read_back_samples :
    IsIdentifier "d-https_".toList ∧ ofText "d-https_".toList = "d-https_".toList ∧
      extractId (importCall (ofText "d-https_".toList) "'S'!A1".toList) = "d-https_".toList ∧
      extractIds (Text.join '\n' (sampleIdentifiers.map ofText)) =
        Text.join '\n' sampleIdentifiers := by
  have isIdentifier : IsIdentifier "d-https_".toList := by decide
  have isIdentifierToo : IsIdentifier "1Ab-_9".toList := by decide
  rcases identifiers_read_back with ⟨-, single, listed⟩
  refine ⟨isIdentifier, by decide, (single _ isIdentifier).2 _, listed sampleIdentifiers ?_⟩
  simpa [sampleIdentifiers] using And.intro isIdentifier isIdentifierToo

end SheetFormula.Link
