import CatalogTypes.Proofs.Contained.Texts

/-!
# Comments on properties

**Theorem (`Member.render_commented`).** A property with a comment is written as one documentation
comment and, on the lines after it, as the same property without the comment.  In the comment the
mark that ends a comment stands once, at its end, whatever the comment says.

A text in which no comment ends, with the end mark behind it, holds the mark nowhere else: not
within the text, and not across its end, since no end mark begins another one
(`NoEnd.eq_nil_of_mark`).
-/

namespace CatalogTypes

/-- A documentation comment: it begins with its mark behind the indentation, and what ends a
comment stands in it once, at its end. -/
structure IsDocComment (indent doc : String) : Prop where
  marked : ∃ text, doc = indent ++ "/**" ++ text ++ "*/"
  ends_once : ∀ before after, doc.toList = before ++ ['*', '/'] ++ after → after = []

/-! ## The end mark -/

/-- An end mark behind a text without one is the only one. -/
theorem NoEnd.eq_nil_of_mark {front before after : List Char} (h : NoEnd front)
    (same : front ++ ['*', '/'] = before ++ ['*', '/'] ++ after) : after = [] := by
  have apart (rest : List Char) (shape : front = before ++ ['*', '/'] ++ rest) : False :=
    h ⟨before, rest, shape.symm⟩
  obtain ⟨left, shape, mark⟩ | ⟨left, shape, -⟩ := List.append_eq_append_iff.1 same
  · -- the mark of the two texts begins at the same place, or one character apart
    match left, mark with
    | [], _ => exact (apart [] (by simpa using shape.symm)).elim
    | ['*'], _ =>
      have last := congrArg List.getLast? shape
      simp at last
    | ['*', '/'], mark => simpa using mark.symm
    | a :: b :: c :: left, mark => simp at mark
  · exact (apart left shape).elim

theorem NoEnd.append_of_blank {lead cs : List Char} (blank : ∀ c ∈ lead, c = ' ')
    (h : NoEnd cs) : NoEnd (lead ++ cs) := by
  induction lead with
  | nil => exact h
  | cons c lead ih =>
    obtain ⟨rfl, others⟩ := List.forall_mem_cons.1 blank
    exact noEnd_cons.2 ⟨fun mark => absurd mark.1 (by decide), ih others⟩

theorem isDocComment_renderComment (depth : Nat) (comment : String) :
    IsDocComment (indentation depth) (renderComment (indentation depth) comment) := by
  obtain ⟨text, written, quiet⟩ := exists_renderComment depth comment
  constructor
  · refine ⟨String.ofList text, String.toList_injective ?_⟩
    rw [written]
    simp
  · intro before after same
    have opening : NoEnd ('/' :: '*' :: '*' :: text) :=
      noEnd_cons.2 ⟨by simp, noEnd_cons.2 ⟨by simp, quiet⟩⟩
    have front : NoEnd ((indentation depth).toList ++ '/' :: '*' :: '*' :: text) :=
      opening.append_of_blank fun c hc => mem_indentation hc
    have mark : (indentation depth).toList ++ '/' :: '*' :: '*' :: text ++ ['*', '/'] =
        before ++ ['*', '/'] ++ after := by
      rw [← same, written]
      simp
    exact front.eq_nil_of_mark mark

/-! ## Properties -/

/-- **A comment on a property changes nothing of what is written for the property.** -/
theorem Member.render_commented (depth : Nat) (key : String) (value : TypeExpr) {comment : String}
    (some_text : comment ≠ "") :
    ∃ doc, Member.render depth ⟨key, value, some comment⟩ =
        doc ++ "\n" ++ Member.render depth ⟨key, value, none⟩ ∧
      IsDocComment (indentation depth) doc := by
  refine ⟨renderComment (indentation depth) comment, ?_, isDocComment_renderComment depth comment⟩
  have filled : comment.isEmpty = false := by simpa using some_text
  rw [Member.render, renderMember, filled]
  rfl

/-- The end mark is taken apart, and the break before a slash leaves a star behind no end mark. -/
theorem render_commented_end_mark :
    "*/ *\u2028/" ≠ "" ∧
      ∃ doc, Member.render 1 ⟨"id", .named "number", some "*/ *\u2028/"⟩ =
          doc ++ "\n" ++ Member.render 1 ⟨"id", .named "number", none⟩ ∧
        IsDocComment (indentation 1) doc :=
  ⟨by decide, Member.render_commented 1 "id" (.named "number") (by decide)⟩

example : Member.render 1 ⟨"id", .named "number", some "*/ *\u2028/"⟩ =
    "  /**\n   * *\\/ *\n   * /\n   */\n  id: number;" := by decide

end CatalogTypes
