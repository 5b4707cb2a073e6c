import CatalogTypes.Proofs.Contained.Texts
import CatalogTypes.Proofs.Spelling
import CatalogTypes.Proofs.Types.Parts

/-!
# Literals in a type's text

A string literal may hold any text, whose quotes and backslashes it escapes.  So it is closed and
none of its marks is outside (`isPart_quotePlain`), and it is read back as the text
(`Json.scanString_of_spells`): distinct texts have distinct literals.
-/

namespace CatalogTypes

open Json

/-! ## Spellings -/

theorem plainChar_of_shortEscape {c : Char} {escape : List Char}
    (h : shortEscape? c = some escape) : plainChar c = escape := by
  unfold plainChar
  rw [h]

theorem plainChar_of_none {c : Char} (h : shortEscape? c = none) :
    plainChar c = if c.toNat < 0x20 then unitEscape c.toNat else [c] := by
  unfold plainChar
  rw [h]

theorem quotePlain_injective : Function.Injective quotePlain := by
  intro s t same
  have chars := congrArg String.toList same
  simp only [quotePlain, literal, String.toList_ofList, List.cons_append] at chars
  have read := congrArg (scanString []) (List.cons.inj chars).2
  rw [scanString_of_spells fun c _ => spells_plainChar c,
    scanString_of_spells fun c _ => spells_plainChar c] at read
  simpa using read

/-! ## Parts -/

theorem passed_of_verbatim {c : Char} (quote : c ≠ '"') (backslash : c ≠ '\\') (depth : Nat) :
    Passed ⟨.quoted '"', depth⟩ [c] :=
  .of_next rfl (by simp [TypeReading.next, quote, backslash])

/-- An escape is passed by, whatever it escapes. -/
theorem passed_escape (kind : Char) (depth : Nat) : Passed ⟨.quoted '"', depth⟩ ['\\', kind] :=
  ⟨rfl, fun _ => rfl⟩

theorem passed_plainChar (depth : Nat) (c : Char) : Passed ⟨.quoted '"', depth⟩ (plainChar c) := by
  cases short : shortEscape? c with
  | some escape =>
    rw [plainChar_of_shortEscape short]
    unfold shortEscape? at short
    split_ifs at short <;> (cases short; exact passed_escape _ depth)
  | none =>
    obtain ⟨quote, backslash⟩ := ne_of_shortEscape?_eq_none short
    rw [plainChar_of_none short]
    split_ifs
    · have digit (n : Nat) : Passed ⟨.quoted '"', depth⟩ [Text.hexDigit (n % 16)] := by
        obtain ⟨quote, backslash⟩ := hexDigit_ne (Nat.mod_lt n (by decide : 0 < 16))
        exact passed_of_verbatim quote backslash depth
      exact (passed_escape 'u' depth).append
        ((digit _).append ((digit _).append ((digit _).append (digit _))))
    · exact passed_of_verbatim quote backslash depth

theorem isPart_quotePlain {mark : Char} (other : mark ≠ '"') (text : String) :
    IsPart mark (quotePlain text).toList := by
  have body (depth : Nat) : Passed ⟨.quoted '"', depth⟩ (text.toList.flatMap plainChar) :=
    .flatMap (passed_plainChar depth) text.toList
  have run (depth : Nat) : TypeReading.run ⟨.code, depth⟩ (literal plainChar text.toList) =
      ⟨.code, depth⟩ := by
    show TypeReading.run ⟨.quoted '"', depth⟩ (text.toList.flatMap plainChar ++ ['"']) = _
    rw [TypeReading.run_append, (body depth).run]
    rfl
  have whole (m : Char) (depth : Nat)
      (apart : (TypeReading.isOutside ⟨.code, depth⟩ && '"' = m) = false) :
      Whole m ⟨.code, depth⟩ (literal plainChar text.toList) := by
    refine whole_cons_iff.2 ⟨apart, ?_⟩
    show Whole m ⟨.quoted '"', depth⟩ (text.toList.flatMap plainChar ++ ['"'])
    refine ((body depth).whole m).append ?_
    rw [(body depth).run]
    exact whole_cons_iff.2 ⟨rfl, rfl⟩
  constructor
  · rw [quotePlain, String.toList_ofList]
    exact ⟨run 0, fun depth => ⟨run (depth + 1), fun m => whole m (depth + 1) rfl⟩⟩
  · rw [quotePlain, String.toList_ofList]
    exact whole mark 0 (by simp [Ne.symm other])

end CatalogTypes
