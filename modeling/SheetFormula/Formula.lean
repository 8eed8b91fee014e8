import SheetFormula.Classification
import SheetFormula.Intersection
import SheetFormula.Layout
import SheetFormula.Scan.Run
import SheetFormula.Settings

/-!
# Formatting formulas

A formula is normalised, scanned, freed of blanks that mean nothing,
classified and laid out.  Formatting fails at a departure when the settings
ask for well-formed formulas, and at a vacant entry in any case.
-/

namespace SheetFormula

/-- Why a formula cannot be formatted. -/
inductive FormulaError where
  | malformed (departure : Scan.Departure)
  | vacantEntry
deriving DecidableEq, Repr

/-- A result is known from the value that it shows. -/
theorem eq_ok_of_toOption
    {ε α : Type} {result : Except ε α} {value : α}
    (shown : result.toOption = some value) :
    result = .ok value := by
  cases result with
  | ok other => rw [Option.some.inj shown]
  | error error => cases shown

/-- What is remarked on while a formula is formatted. -/
inductive Remark where
  | departed (departure : Scan.Departure)
  | layingOut (tokenCount : Nat)
deriving DecidableEq, Repr

/-- The wording of a remark. -/
def Remark.message : Remark → String
  | .departed departure => departure.note
  | .layingOut tokenCount => s!"formatting {tokenCount} tokens"

namespace Formula

/-- A formula without line breaks, surrounding blanks and the leading equals sign. -/
def normalize (formula : List Char) : List Char :=
  let text := Text.trim (formula.filter fun char => char ≠ '\r' ∧ char ≠ '\n')
  match text with
  | '=' :: rest => Text.trim rest
  | _ => text

/-- The tokens of a list without vacant entries. -/
def present : List Scan.Entry → Except FormulaError (List Token)
  | [] => .ok []
  | none :: _ => .error .vacantEntry
  | some token :: rest =>
      match present rest with
      | .ok tokens => .ok (token :: tokens)
      | .error error => .error error

/-- Nothing is vacant exactly when all entries are tokens. -/
theorem present_eq_ok_iff {entries : List Scan.Entry} {tokens : List Token} :
    present entries = .ok tokens ↔ entries = tokens.map some := by
  constructor
  · intro shown
    induction entries generalizing tokens with
    | nil =>
        cases shown
        rfl
    | cons entry rest ih =>
        cases entry with
        | none => cases shown
        | some token =>
            unfold present at shown
            split at shown
            · next others found =>
                cases shown
                rw [List.map_cons, ih found]
            · cases shown
  · rintro rfl
    induction tokens with
    | nil => rfl
    | cons token rest ih => simp [present, ih]

/-- A vacant entry is what keeps entries from being tokens. -/
theorem present_eq_error_iff {entries : List Scan.Entry} {error : FormulaError} :
    present entries = .error error ↔ error = .vacantEntry ∧ none ∈ entries := by
  induction entries with
  | nil => simp [present]
  | cons entry rest ih =>
      cases entry with
      | none => simp [present, eq_comm]
      | some token =>
          unfold present
          cases shown : present rest with
          | ok others => simpa [shown] using ih
          | error fault => simpa [shown] using ih

/-- The entries of a normalised formula. -/
def scan (isStrict : Bool) (text : List Char) :
    Except FormulaError (List Scan.Entry) :=
  match Scan.scan isStrict text with
  | .ok entries => .ok entries
  | .error departure => .error (.malformed departure)

/-- Scanned entries without the blanks that mean nothing. -/
def resolve (entries : List Scan.Entry) : Except FormulaError (List Token) :=
  match present entries with
  | .ok tokens => .ok (Intersection.resolve tokens)
  | .error error => .error error

/-- Entries in their final form. -/
def classify (entries : List Scan.Entry) : Except FormulaError (List Token) :=
  match present entries with
  | .ok tokens => .ok (Classification.classify tokens)
  | .error error => .error error

/-- The classified tokens of a formula; an empty formula has none. -/
def tokens (isStrict : Bool) (formula : List Char) :
    Except FormulaError (List Token) :=
  if formula.isEmpty then .ok []
  else
    match scan isStrict (normalize formula) with
    | .error error => .error error
    | .ok entries =>
        match resolve entries with
        | .error error => .error error
        | .ok resolved => .ok (Classification.classify resolved)

/-- The tokens of a formula come from a scan without vacant entries. -/
theorem tokens_eq_ok_iff {isStrict : Bool} {formula : List Char} {final : List Token} :
    tokens isStrict formula = .ok final ↔
      ∃ scanned : List Token,
        Scan.scan isStrict (normalize formula) = .ok (scanned.map some) ∧
          Classification.classify (Intersection.resolve scanned) = final := by
  cases formula with
  | nil =>
      have nothing : Scan.scan isStrict (normalize []) = .ok [] := by
        cases isStrict <;>
          simp [normalize, Scan.scan, Scan.strict, Scan.lenient, Scan.moves, Scan.reading,
            Scan.finishing, Scan.lastState, Scan.closeLiteral, Scan.closeGroups, Scan.departures,
            Scan.entries, Scan.Move.entries, Scan.Move.stops, Scan.State.initial, Scan.State.flush]
      simp [tokens, nothing]
  | cons char rest =>
      simp only [tokens, scan, resolve, List.isEmpty_cons, Bool.false_eq_true, if_false]
      cases Scan.scan isStrict (normalize (char :: rest)) with
      | error departure => simp
      | ok entries =>
          simp only [Except.ok.injEq]
          cases shown : present entries with
          | ok found =>
              simp only [Except.ok.injEq]
              constructor
              · intro classified
                exact ⟨found, present_eq_ok_iff.mp shown, classified⟩
              · rintro ⟨others, same, classified⟩
                rw [present_eq_ok_iff.mpr same] at shown
                cases shown
                exact classified
          | error error =>
              simp only [reduceCtorEq, false_iff]
              rintro ⟨others, same, -⟩
              rw [present_eq_ok_iff.mpr same] at shown
              cases shown

/-- A formula as indented lines; an empty formula stays empty. -/
def format (settings : Settings) (formula : List Char) :
    Except FormulaError (List Char) :=
  if formula.isEmpty then .ok []
  else
    match tokens settings.strict formula with
    | .ok tokens => .ok (Layout.render settings.indent tokens)
    | .error error => .error error

/-- The remarks made while a formula is formatted. -/
def remarks (settings : Settings) (formula : List Char) : List Remark :=
  if formula.isEmpty then []
  else
    (Scan.remarks settings.strict (normalize formula)).map Remark.departed ++
      match tokens settings.strict formula with
      | .ok tokens => [.layingOut tokens.length]
      | .error _ => []

end Formula

end SheetFormula
