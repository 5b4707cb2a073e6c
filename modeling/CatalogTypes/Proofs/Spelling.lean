import CatalogTypes.Json.Parser
import CatalogTypes.Json.Quote
import Mathlib.Tactic.Common

/-!
# Spellings that are read back

A character of a string literal is spelled as it is, by a short escape, or by its code, in two
halves if it lies beyond the first plane.  Each of these *spells* the character: a scan yields
pieces for it that are joined to the character, whatever stands behind it (`Spells`).

So a literal is read back as its text in any spelling of its characters
(`scanString_of_spells`), and both spellings in use are such (`spells_plainChar`,
`spells_asciiChar`).
-/

namespace CatalogTypes.Json

/-! ## Reading back -/

/-- A spelling that is read as a character. -/
def Spells (spelled : List Char) (c : Char) : Prop :=
  ∃ pieces : List Piece,
    (∀ start rest, rest ≠ [] →
      scanPieces start (spelled ++ rest) = pieces.foldr Scan.push (scanPieces start rest)) ∧
    ∀ more, joinPieces none (pieces ++ more) = c :: joinPieces none more

theorem foldr_push (pieces others : List Piece) (rest : List Char) :
    pieces.foldr Scan.push (.ok (others, rest)) = .ok (pieces ++ others, rest) := by
  induction pieces with
  | nil => rfl
  | cons piece pieces ih =>
    rw [List.foldr_cons, ih]
    rfl

/-- **A literal is read back as the text that it spells.** -/
theorem scanString_of_spells {spell : Char → List Char} {cs : List Char}
    (h : ∀ c ∈ cs, Spells (spell c) c) (start rest : List Char) :
    scanString start (cs.flatMap spell ++ '"' :: rest) = .ok (String.ofList cs, rest) := by
  have scanned : ∃ pieces, scanPieces start (cs.flatMap spell ++ '"' :: rest) = .ok (pieces, rest) ∧
      joinPieces none pieces = cs := by
    induction cs with
    | nil => exact ⟨[], rfl, rfl⟩
    | cons c cs ih =>
      obtain ⟨here, others⟩ := List.forall_mem_cons.1 h
      obtain ⟨pieces, scan, join⟩ := here
      obtain ⟨more, scanned, joined⟩ := ih others
      refine ⟨pieces ++ more, ?_, ?_⟩
      · rw [List.flatMap_cons, List.append_assoc, scan start _ (by simp), scanned, foldr_push]
      · rw [join, joined]
  obtain ⟨pieces, scan, join⟩ := scanned
  simp [scanString, scan, Except.map, join]

/-! ## The character itself -/

/-- A character that stands for itself between quotes. -/
def Verbatim (c : Char) : Prop := c ≠ '"' ∧ c ≠ '\\' ∧ 0x20 ≤ c.toNat

instance : DecidablePred Verbatim := fun _ => inferInstanceAs (Decidable (_ ∧ _))

theorem spells_self {c : Char} (h : Verbatim c) : Spells [c] c := by
  obtain ⟨quote, backslash, visible⟩ := h
  refine ⟨[.char c], fun start rest _ => ?_, fun more => rfl⟩
  simp [scanPieces, backslash, Nat.not_lt.2 visible]

theorem scanString_of_verbatim {cs : List Char} (plain : ∀ c ∈ cs, Verbatim c)
    (start rest : List Char) :
    scanString start (cs ++ '"' :: rest) = .ok (String.ofList cs, rest) := by
  have read := scanString_of_spells (fun c hc => spells_self (plain c hc)) start rest
  rwa [List.flatMap_singleton'] at read

/-! ## Escapes -/

theorem spells_shortEscape {c : Char} {escape : List Char} (h : shortEscape? c = some escape) :
    Spells escape c := by
  unfold shortEscape? at h
  split_ifs at h <;>
    (cases h; subst_vars; exact ⟨[.char _], fun _ _ _ => rfl, fun _ => rfl⟩)

theorem hexValue?_hexDigit {d : Nat} (h : d < 16) : Text.hexValue? (Text.hexDigit d) = some d := by
  revert d
  decide

theorem unitEscape_eq (n : Nat) :
    unitEscape n = ['\\', 'u', Text.hexDigit (n / 16 / 16 / 16 % 16),
      Text.hexDigit (n / 16 / 16 % 16), Text.hexDigit (n / 16 % 16), Text.hexDigit (n % 16)] := rfl

/-- The digits of a unit are read as the unit. -/
theorem codeUnit?_hexDigits {n : Nat} (h : n < 0x10000) :
    codeUnit? (Text.hexDigit (n / 16 / 16 / 16 % 16)) (Text.hexDigit (n / 16 / 16 % 16))
      (Text.hexDigit (n / 16 % 16)) (Text.hexDigit (n % 16)) = some n := by
  have digit (m : Nat) : Text.hexValue? (Text.hexDigit (m % 16)) = some (m % 16) :=
    hexValue?_hexDigit (Nat.mod_lt m (by decide))
  simp only [codeUnit?, digit, Option.bind_eq_bind, Option.bind_some, Option.pure_def,
    Option.some.injEq]
  omega

theorem scanPieces_unitEscape {n : Nat} (h : n < 0x10000) (start : List Char) {rest : List Char}
    (goes : rest ≠ []) :
    scanPieces start (unitEscape n ++ rest) = Scan.push (.unit n) (scanPieces start rest) := by
  have further : rest.isEmpty = false := by simpa using goes
  simp [unitEscape_eq, scanPieces, codeUnit?_hexDigits h, further]

/-- A character is no half of a pair. -/
theorem not_isUnit (c : Char) : isHighUnit c.toNat = false ∧ isLowUnit c.toNat = false := by
  have valid : c.toNat < 0xD800 ∨ 0xDFFF < c.toNat ∧ c.toNat < 0x110000 := c.valid
  simp only [isHighUnit, isLowUnit, Bool.and_eq_false_iff, decide_eq_false_iff_not]
  omega

theorem spells_unitEscape {c : Char} (h : c.toNat < 0x10000) : Spells (unitEscape c.toNat) c := by
  refine ⟨[.unit c.toNat], fun start rest goes => scanPieces_unitEscape h start goes,
    fun more => ?_⟩
  simp [joinPieces, not_isUnit c, ofUnit]

/-- A character beyond the first plane is spelled by two halves. -/
theorem spells_pair {c : Char} (h : 0x10000 ≤ c.toNat) :
    Spells (unitEscape (0xD800 + (c.toNat - 0x10000) / 0x400) ++
      unitEscape (0xDC00 + (c.toNat - 0x10000) % 0x400)) c := by
  have bound : c.toNat < 0x110000 := by
    have valid : c.toNat < 0xD800 ∨ 0xDFFF < c.toNat ∧ c.toNat < 0x110000 := c.valid
    omega
  generalize split : c.toNat - 0x10000 = offset
  refine ⟨[.unit (0xD800 + offset / 0x400), .unit (0xDC00 + offset % 0x400)],
    fun start rest goes => ?_, fun more => ?_⟩
  · rw [List.append_assoc, scanPieces_unitEscape (by omega) start (by simp [unitEscape]),
      scanPieces_unitEscape (by omega) start goes]
    rfl
  · have high : isHighUnit (0xD800 + offset / 0x400) = true := by
      simp [isHighUnit]
      omega
    have low : isLowUnit (0xDC00 + offset % 0x400) = true := by
      simp [isLowUnit]
      omega
    have whole : ofPair (0xD800 + offset / 0x400) (0xDC00 + offset % 0x400) = c := by
      have code : 0x10000 + (0xD800 + offset / 0x400 - 0xD800) * 0x400 +
          (0xDC00 + offset % 0x400 - 0xDC00) = c.toNat := by omega
      rw [ofPair, code, Char.ofNat_toNat]
    simp [joinPieces, high, low, whole]

/-! ## Spellings in use -/

theorem spells_plainChar (c : Char) : Spells (plainChar c) c := by
  unfold plainChar
  cases short : shortEscape? c with
  | some escape => exact spells_shortEscape short
  | none =>
    obtain ⟨quote, backslash⟩ := ne_of_shortEscape?_eq_none short
    dsimp only
    split
    next control => exact spells_unitEscape (by omega)
    next visible => exact spells_self ⟨quote, backslash, by omega⟩

theorem spells_asciiChar (c : Char) : Spells (asciiChar c) c := by
  unfold asciiChar
  cases short : shortEscape? c with
  | some escape => exact spells_shortEscape short
  | none =>
    obtain ⟨quote, backslash⟩ := ne_of_shortEscape?_eq_none short
    dsimp only
    split
    next printable =>
      obtain ⟨visible, -⟩ := Bool.and_eq_true_iff.1 printable
      exact spells_self ⟨quote, backslash, of_decide_eq_true visible⟩
    next =>
      split
      next inPlane => exact spells_unitEscape inPlane
      next beyond => exact spells_pair (by omega)

/-! ## Literals as documents -/

theorem parseValue_quote (bound : Nat) (rest : List Char) (limit : Option Nat) :
    parseValue (bound + 1) ('"' :: rest) limit =
      (scanString ('"' :: rest) rest).map fun (text, rest) => (.str text, rest) := rfl

theorem scanString_text {spell : Char → List Char} (h : ∀ c, Spells (spell c) c) (s : String)
    (start rest : List Char) :
    scanString start (s.toList.flatMap spell ++ '"' :: rest) = .ok (s, rest) := by
  rw [scanString_of_spells (fun c _ => h c), String.ofList_toList]

/-- **The literal of a text is the document that holds the text**, however it is spelled. -/
theorem parse_literal {spell : Char → List Char} (h : ∀ c, Spells (spell c) c) (s : String) :
    parse (String.ofList (literal spell s.toList)) = .ok (.str s) := by
  have layout (cs : List Char) : skipLayout ('"' :: cs) = '"' :: cs := rfl
  rw [parse, String.toList_ofList, literal, List.cons_append, parseChars]
  · simp only [layout, parseValue_quote, scanString_text h]
    rfl
  · exact fun _ mark => absurd (List.cons.inj mark).1 (by decide)

/-! ## Printable characters -/

/-- Whether a character is printable ASCII. -/
def isPrintable (c : Char) : Bool := 0x20 ≤ c.toNat && c.toNat < 0x7F

theorem isPrintable_hexDigit {n : Nat} (h : n < 16) : isPrintable (Text.hexDigit n) = true := by
  revert n
  decide

theorem all_isPrintable_unitEscape (n : Nat) : (unitEscape n).all isPrintable = true := by
  have digit (m : Nat) : isPrintable (Text.hexDigit (m % 16)) = true :=
    isPrintable_hexDigit (Nat.mod_lt m (by decide))
  rw [unitEscape_eq]
  simp only [List.all_cons, digit]
  decide

theorem all_isPrintable_shortEscape {c : Char} {escape : List Char}
    (h : shortEscape? c = some escape) : escape.all isPrintable = true := by
  unfold shortEscape? at h
  split_ifs at h <;> (cases h; decide)

theorem all_isPrintable_asciiChar (c : Char) : (asciiChar c).all isPrintable = true := by
  unfold asciiChar
  cases short : shortEscape? c with
  | some escape => exact all_isPrintable_shortEscape short
  | none =>
    dsimp only
    split_ifs with visible
    · rw [List.all_cons, isPrintable, visible]
      rfl
    · exact all_isPrintable_unitEscape _
    · rw [List.all_append, all_isPrintable_unitEscape, all_isPrintable_unitEscape]
      rfl

/-- The literal of a text in ASCII is printable. -/
theorem all_isPrintable_quoteAscii (s : String) : (quoteAscii s).toList.all isPrintable = true := by
  have inner : (s.toList.flatMap asciiChar).all isPrintable = true := by
    rw [List.all_flatMap]
    exact List.all_eq_true.2 fun c _ => all_isPrintable_asciiChar c
  rw [quoteAscii, String.toList_ofList, literal, List.all_append, List.all_cons, inner]
  decide

end CatalogTypes.Json
