import CatalogTypes.Url.Label
import Mathlib.Data.List.Infix
import Mathlib.Data.List.TakeWhile

/-!
# Splitting a text that goes on

The parts of a URL and of a path are cut from the left.  So more text at the end changes the parts
only from the cut on at which it arrives, and where that is can be told from the text before it:

* behind a colon the scheme is settled (`Url.splitScheme_append`);
* what follows a colon belongs to the authority as long as that has not ended, and else to what
  follows the authority (`Url.splitAuthority_append`);
* what precedes an at sign plays no part in the host (`Url.hostPart_append`);
* behind a slash the names of a path before it are settled (`Path.namesOf_append`).
-/

namespace CatalogTypes

/-! ## Schemes and authorities -/

namespace Url

theorem mem_cleaned {cs : List Char} (h : ':' ∈ cs) : ':' ∈ cleaned cs := by
  refine List.mem_filter.2 ⟨?_, by decide⟩
  rw [← List.takeWhile_append_dropWhile (p := isLeading) (l := cs)] at h
  rcases List.mem_append.1 h with leading | behind
  · exact absurd (List.mem_takeWhile_imp leading) (by decide)
  · exact behind

theorem cleaned_append {cs : List Char} (h : ':' ∈ cs) (ds : List Char) :
    cleaned (cs ++ ds) = cleaned cs ++ ds.filter (!isPassed ·) := by
  have goes : (cs.dropWhile isLeading).isEmpty = false := by
    have there := (List.mem_filter.1 (mem_cleaned h)).1
    cases rest : cs.dropWhile isLeading with
    | nil => simp [rest] at there
    | cons => rfl
  simp [cleaned, List.dropWhile_append, goes]

/-- Behind a colon the scheme is settled. -/
theorem splitScheme_append {cs : List Char} (h : ':' ∈ cs) (ds : List Char) :
    splitScheme (cs ++ ds) = ((splitScheme cs).1, (splitScheme cs).2 ++ ds) := by
  obtain ⟨before, behind, rfl, fresh⟩ := List.eq_append_cons_of_mem h
  have plain : ∀ c ∈ before, decide (c ≠ ':') = true := by
    intro c hc
    have differs : c ≠ ':' := fun same => fresh (same ▸ hc)
    simpa using differs
  have scheme (rest : List Char) : (before ++ ':' :: rest).takeWhile (· ≠ ':') = before := by
    rw [List.takeWhile_append_of_pos plain]
    simp
  have others (rest : List Char) : (before ++ ':' :: rest).dropWhile (· ≠ ':') = ':' :: rest := by
    rw [List.dropWhile_append_of_pos plain]
    simp
  rw [List.append_assoc, List.cons_append]
  simp only [splitScheme, scheme, others]
  split_ifs <;> simp

/-- What follows a colon is the rest of the authority, or comes after it. -/
inductive Continues (front : List Char) : Prop
  | within (opened : List Char) : (∀ ds, splitAuthority (front ++ ':' :: ds) =
      (opened ++ ':' :: ds.takeWhile (!endsAuthority ·), ds.dropWhile (!endsAuthority ·))) →
      Continues front
  | after (authority rest : List Char) : (∀ ds, splitAuthority (front ++ ':' :: ds) =
      (authority, rest ++ ':' :: ds)) → Continues front

theorem splitAuthority_append (front : List Char) : Continues front := by
  have apart (h : ∀ rest, front ≠ '/' :: '/' :: rest) : Continues front := by
    refine .after [] front fun ds => ?_
    cases front with
    | nil => rfl
    | cons c front =>
      cases front with
      | nil => simp [splitAuthority]
      | cons d front =>
        have slashes : ¬ (c = '/' ∧ d = '/') := by
          rintro ⟨rfl, rfl⟩
          exact h front rfl
        by_cases hc : c = '/'
        · simp only [hc, true_and] at slashes
          simp [splitAuthority, hc, slashes]
        · simp [splitAuthority, hc]
  by_cases slashes : ∃ rest, front = '/' :: '/' :: rest
  · obtain ⟨rest, rfl⟩ := slashes
    by_cases going : ∀ c ∈ rest, (!endsAuthority c) = true
    · refine .within rest fun ds => ?_
      simp only [List.cons_append, splitAuthority, List.takeWhile_append_of_pos going,
        List.dropWhile_append_of_pos going]
      rfl
    · have stops : (rest.dropWhile (!endsAuthority ·)).isEmpty = false := by
        simpa only [List.isEmpty_eq_false_iff, ne_eq, List.dropWhile_eq_nil_iff] using going
      refine .after (rest.takeWhile (!endsAuthority ·)) (rest.dropWhile (!endsAuthority ·))
        fun ds => ?_
      have short : (rest.takeWhile (!endsAuthority ·)).length ≠ rest.length := by
        intro same
        have whole := List.takeWhile_append_dropWhile (p := (!endsAuthority ·)) (l := rest)
        have lengths := congrArg List.length whole
        rw [List.length_append, same] at lengths
        have none : rest.dropWhile (!endsAuthority ·) = [] :=
          List.length_eq_zero_iff.1 (by omega)
        simp [none] at stops
      simp [splitAuthority, List.takeWhile_append, List.dropWhile_append, stops, short]
  · exact apart fun rest same => slashes ⟨rest, same⟩

/-! ## Hosts -/

/-- What precedes an at sign plays no part in the host. -/
theorem hostPart_append (cs ds : List Char) : hostPart (cs ++ '@' :: ds) = hostPart ds := by
  unfold hostPart
  rw [List.reverse_append, List.reverse_cons, List.append_assoc]
  by_cases signs : '@' ∈ ds.reverse
  · obtain ⟨last, before, same, fresh⟩ := List.eq_append_cons_of_mem signs
    have plain : ∀ c ∈ last, decide (c ≠ '@') = true := by
      intro c hc
      have differs : c ≠ '@' := fun same => fresh (same ▸ hc)
      simpa using differs
    rw [same, List.append_assoc, List.takeWhile_append_of_pos plain,
      List.takeWhile_append_of_pos plain]
    simp
  · have plain : ∀ c ∈ ds.reverse, decide (c ≠ '@') = true := by
      intro c hc
      have differs : c ≠ '@' := fun same => signs (same ▸ hc)
      simpa using differs
    rw [List.takeWhile_append_of_pos plain, List.takeWhile_eq_self_iff.2 plain]
    simp

theorem rawHost_append (cs ds : List Char) : rawHost (cs ++ '@' :: ds) = rawHost ds := by
  unfold rawHost
  rw [hostPart_append]

theorem bracketsFault?_append (cs ds : List Char) :
    bracketsFault? (cs ++ '@' :: ds) = bracketsFault? ds := by
  unfold bracketsFault?
  rw [hostPart_append, rawHost_append]

end Url

/-! ## Names of a path -/

namespace Path

/-- The names of the path that a text spells. -/
def namesOf (cs : List Char) : List String := (ofString (String.ofList cs)).names

theorem namesOf_eq (cs : List Char) :
    namesOf cs = ((Text.splitBy (· = '/') cs).filter isName).map String.ofList := by
  simp [namesOf, ofString]

/-- Behind a slash the names before it are settled. -/
theorem namesOf_append (cs ds : List Char) :
    namesOf (cs ++ '/' :: ds) = namesOf cs ++ namesOf ds := by
  simp [namesOf_eq, Text.splitBy_append]

theorem namesOf_cons_slash (ds : List Char) : namesOf ('/' :: ds) = namesOf ds :=
  namesOf_append [] ds

/-- A text with a colon and without a slash is a name. -/
theorem namesOf_of_no_slash {cs : List Char} (colon : ':' ∈ cs) (h : '/' ∉ cs) :
    namesOf cs = [String.ofList cs] := by
  have single : Text.splitBy (· = '/') cs = [cs] := by
    refine Text.splitBy_of_forall fun c hc => ?_
    have differs : c ≠ '/' := fun same => h (same ▸ hc)
    simpa using differs
  have name : isName cs = true := by
    have point : cs ≠ ['.'] := by
      rintro rfl
      simp at colon
    have filled : cs ≠ [] := List.ne_nil_of_mem colon
    simp [isName, point, filled]
  simp [namesOf_eq, single, name]

/-- The last name of a path goes on from the last slash, if there is a colon in it. -/
theorem exists_getLast?_namesOf (cs : List Char) :
    ∃ start, ∀ ds, '/' ∉ ds →
      (namesOf (cs ++ ':' :: ds)).getLast? = some (String.ofList (start ++ ':' :: ds)) := by
  by_cases slash : '/' ∈ cs.reverse
  · obtain ⟨last, before, same, fresh⟩ := List.eq_append_cons_of_mem slash
    have split : cs = before.reverse ++ '/' :: last.reverse := by
      rw [← List.reverse_reverse cs, same]
      simp
    refine ⟨last.reverse, fun ds hds => ?_⟩
    have name : namesOf (last.reverse ++ ':' :: ds) = [String.ofList (last.reverse ++ ':' :: ds)] :=
      namesOf_of_no_slash (by simp) (by simp [hds, fresh])
    rw [split, List.append_assoc, List.cons_append, namesOf_append, name, List.getLast?_concat]
  · refine ⟨cs, fun ds hds => ?_⟩
    have plain : '/' ∉ cs := fun there => slash (List.mem_reverse.2 there)
    rw [namesOf_of_no_slash (by simp) (by simp [hds, plain])]
    rfl

end Path

/-! ## Erasing a piece -/

theorem eraseFirst_append_of_contained {piece cs : List Char} (h : piece <:+: cs) (ds : List Char) :
    eraseFirst piece (cs ++ ds) = eraseFirst piece cs ++ ds := by
  induction cs with
  | nil =>
    obtain rfl := List.infix_nil.1 h
    cases ds <;> simp [eraseFirst]
  | cons c cs ih =>
    rw [List.cons_append, eraseFirst, eraseFirst]
    by_cases first : piece <+: c :: cs
    · have longer : piece <+: c :: (cs ++ ds) := first.trans (List.prefix_append (c :: cs) ds)
      rw [if_pos (List.isPrefixOf_iff_prefix.2 longer), if_pos (List.isPrefixOf_iff_prefix.2 first)]
      exact List.drop_append_of_le_length first.length_le
    · have later : piece <:+: cs := (List.infix_cons_iff.1 h).resolve_left first
      have still : ¬ piece <+: c :: (cs ++ ds) := by
        intro longer
        refine first (List.prefix_of_prefix_length_le longer (List.prefix_append (c :: cs) ds) ?_)
        exact later.length_le.trans (by simp)
      rw [if_neg (fun h => still (List.isPrefixOf_iff_prefix.1 h)),
        if_neg (fun h => first (List.isPrefixOf_iff_prefix.1 h)), ih later]
      rfl

/-- A piece that begins nowhere in a text is erased from what follows. -/
theorem eraseFirst_append_of_clear {piece cs ds : List Char}
    (h : ∀ s, s ≠ [] → s <:+ cs → ¬ piece <+: s ++ ds) :
    eraseFirst piece (cs ++ ds) = cs ++ eraseFirst piece ds := by
  induction cs with
  | nil => rfl
  | cons c cs ih =>
    have here : ¬ piece <+: c :: (cs ++ ds) := h (c :: cs) (by simp) List.suffix_rfl
    rw [List.cons_append, eraseFirst,
      if_neg (fun first => here (List.isPrefixOf_iff_prefix.1 first)),
      ih fun s filled suffix => h s filled (suffix.trans (List.suffix_cons c cs))]
    rfl

/-- A beginning of a text that is put together lies in the first part or goes beyond it. -/
theorem prefix_append_cases {piece cs ds : List Char} (h : piece <+: cs ++ ds) :
    piece <+: cs ∨ ∃ more, more ≠ [] ∧ piece = cs ++ more ∧ more <+: ds := by
  by_cases short : piece.length ≤ cs.length
  · exact .inl (List.prefix_of_prefix_length_le h (List.prefix_append cs ds) short)
  · right
    have through : cs <+: piece :=
      List.prefix_of_prefix_length_le (List.prefix_append cs ds) h (by omega)
    obtain ⟨more, rfl⟩ := through
    refine ⟨more, ?_, rfl, (List.prefix_append_right_inj cs).1 h⟩
    rintro rfl
    simp at short

end CatalogTypes
