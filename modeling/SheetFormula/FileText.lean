import SheetFormula.Utf8

/-!
# Text in files

A file holds bytes that are read as UTF-8.  Where they are no text, the text
has replacement characters and the first fault is kept.  When text is read,
every kind of line break becomes a line feed.
-/

namespace SheetFormula

/-- The text of a file, and the first fault in its bytes if there is one. -/
structure FileText where
  text : List Char
  fault : Option Utf8.Fault := none
deriving DecidableEq, Repr

/-- The text of some bytes. -/
def FileText.ofBytes (bytes : List UInt8) : FileText :=
  match Utf8.decode bytes with
  | .ok text => ⟨text, none⟩
  | .error fault => ⟨Utf8.decodeLossy bytes, some fault⟩

/-- A text with line feeds for all its line breaks. -/
def lineFeeds : List Char → List Char
  | [] => []
  | '\r' :: '\n' :: rest => '\n' :: lineFeeds rest
  | '\r' :: rest => '\n' :: lineFeeds rest
  | char :: rest => char :: lineFeeds rest

theorem lineFeeds_of_notMem
    {text : List Char} (absent : '\r' ∉ text) : lineFeeds text = text := by
  fun_induction lineFeeds text with
  | case1 => rfl
  | case2 => simp at absent
  | case3 => simp at absent
  | case4 char rest _ _ ih =>
      simp only [List.mem_cons, not_or] at absent
      rw [ih absent.2]

/-- What line breaks become is a line feed, and everything else stays. -/
theorem mem_lineFeeds
    {text : List Char} {char : Char} (member : char ∈ lineFeeds text) :
    char = '\n' ∨ (char ∈ text ∧ char ≠ '\r') := by
  fun_induction lineFeeds text with
  | case1 => cases member
  | case2 rest ih =>
      rcases List.mem_cons.mp member with rfl | member
      · exact .inl rfl
      · rcases ih member with feed | ⟨later, kept⟩
        · exact .inl feed
        · exact .inr ⟨by simp [later], kept⟩
  | case3 rest _ ih =>
      rcases List.mem_cons.mp member with rfl | member
      · exact .inl rfl
      · rcases ih member with feed | ⟨later, kept⟩
        · exact .inl feed
        · exact .inr ⟨by simp [later], kept⟩
  | case4 first rest _ noReturn ih =>
      rcases List.mem_cons.mp member with rfl | member
      · exact .inr ⟨List.mem_cons_self, noReturn⟩
      · rcases ih member with feed | ⟨later, kept⟩
        · exact .inl feed
        · exact .inr ⟨List.mem_cons_of_mem first later, kept⟩

/-- Texts can be read one after the other unless a line break lies across their border. -/
theorem lineFeeds_append
    {first second : List Char}
    (apart : first.getLast? = some '\r' → second.head? ≠ some '\n') :
    lineFeeds (first ++ second) = lineFeeds first ++ lineFeeds second := by
  have shorter : ∀ {char : Char} {rest : List Char},
      ((char :: rest).getLast? = some '\r' → second.head? ≠ some '\n') →
        rest.getLast? = some '\r' → second.head? ≠ some '\n' := by
    intro char rest apart ends
    apply apart
    simp [List.getLast?_cons, ends]
  fun_induction lineFeeds first with
  | case1 => rfl
  | case2 rest ih =>
      have later := ih (shorter (shorter apart))
      simp [lineFeeds, later]
  | case3 rest noFeed ih =>
      have later := ih (shorter apart)
      cases rest with
      | nil =>
          have noBreak : second.head? ≠ some '\n' := apart rfl
          cases second with
          | nil => rfl
          | cons char others => simp_all [lineFeeds]
      | cons char others => simp_all [lineFeeds]
  | case4 char rest _ noReturn ih =>
      have later := ih (shorter apart)
      simp_all [lineFeeds]

/-- Read the text of a file. -/
def FileText.read (file : FileText) : Except Utf8.Fault (List Char) :=
  match file.fault with
  | none => .ok (lineFeeds file.text)
  | some fault => .error fault

end SheetFormula
