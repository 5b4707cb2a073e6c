import CatalogTypes.Naming
import Mathlib.Data.List.Infix
import Mathlib.Data.List.Induction
import Mathlib.Tactic.FinCases

/-!
# Laws of names

**Theorem (`naming_laws`).** A name in `pascalCase` has the form of a type's name and is its own
`pascalCase`.  What stands between the words of a name plays no part in it, and neither does
whether the name has been put into `camelCase` before.  A name in `camelCase` is its own
`camelCase`, since no underscores are left in it between letters or digits.

Both scans keep in their state what they need to know of the character before.  A scan that
capitalises (`capitalizedRuns`) sees after `camelCase` the same letters and digits, with a head
capitalised where it would capitalise it itself; so the two are related by one induction over the
text, state by state (`capitalizedRuns_joined`).
-/

namespace CatalogTypes.Naming

/-! ## Type names -/

/-- What is no lowercase letter stays as it is in uppercase. -/
theorem toUpper_of_not_isLower {c : Char} (h : ¬c.isLower) : c.toUpper = c := by
  unfold Char.isLower at h
  simp only [Bool.and_eq_true, decide_eq_true_eq] at h
  exact dif_neg h

theorem isUpper_toUpper_of_isLower {c : Char} (h : c.isLower) : c.toUpper.isUpper := by
  unfold Char.isLower at h
  unfold Char.toUpper Char.isUpper
  simp only [Bool.and_eq_true, UInt32.le_iff_toNat_le, decide_eq_true_eq] at h ⊢
  grind [UInt32.toNat_add]

/-- A letter or digit that a type's name may begin with, a digit behind an underscore. -/
def IsHead (c : Char) : Prop := c.isUpper = true ∨ c.isDigit = true

theorem IsHead.isAlphanum {c : Char} (h : IsHead c) : c.isAlphanum = true := by
  rcases h with upper | digit
  · unfold Char.isAlphanum Char.isAlpha
    simp [upper]
  · unfold Char.isAlphanum
    simp [digit]

theorem IsHead.toUpper_eq {c : Char} (h : IsHead c) : c.toUpper = c := by
  refine toUpper_of_not_isLower ?_
  rcases h with upper | digit
  · unfold Char.isUpper at upper
    unfold Char.isLower
    simp [UInt32.le_iff_toNat_le] at upper ⊢
    omega
  · unfold Char.isDigit at digit
    unfold Char.isLower
    simp [UInt32.le_iff_toNat_le] at digit ⊢
    omega

theorem isHead_toUpper {c : Char} (word : c.isAlphanum = true) : IsHead c.toUpper := by
  by_cases lower : c.isLower = true
  · exact .inl (isUpper_toUpper_of_isLower lower)
  · rw [toUpper_of_not_isLower lower]
    unfold Char.isAlphanum Char.isAlpha at word
    simpa [IsHead, lower] using word

/-- The form of a type's name: letters and digits after a capital, or after an underscore and a
digit; or an underscore alone. -/
inductive IsTypeName : List Char → Prop
  | bare : IsTypeName ['_']
  | capital {c : Char} {rest : List Char} (head : c.isUpper = true)
      (words : ∀ d ∈ rest, d.isAlphanum = true) : IsTypeName (c :: rest)
  | digit {c : Char} {rest : List Char} (head : c.isDigit = true)
      (words : ∀ d ∈ rest, d.isAlphanum = true) : IsTypeName ('_' :: c :: rest)

theorem head?_capitalizedRuns (cs : List Char) :
    ∀ c ∈ (capitalizedRuns true cs).head?, IsHead c := by
  induction cs with
  | nil => simp [capitalizedRuns]
  | cons d cs ih =>
    rw [capitalizedRuns]
    by_cases word : d.isAlphanum = true
    · rw [if_pos word, if_pos rfl]
      rintro c ⟨⟩
      exact isHead_toUpper word
    · rw [if_neg word]
      exact ih

theorem isTypeName_pascalChars (cs : List Char) : IsTypeName (pascalChars cs) := by
  have head := head?_capitalizedRuns cs
  have words : ∀ c ∈ capitalizedRuns true cs, c.isAlphanum = true :=
    isAlphanum_of_mem_capitalizedRuns
  rw [pascalChars]
  cases runs : capitalizedRuns true cs with
  | nil => exact .bare
  | cons c rest =>
    rw [runs] at head words
    have others := (List.forall_mem_cons.1 words).2
    dsimp only
    split
    next digit => exact .digit digit others
    next letter => exact .capital ((head c rfl).resolve_right letter) others

/-- Letters and digits within a run stay. -/
theorem capitalizedRuns_words {cs : List Char} (words : ∀ c ∈ cs, c.isAlphanum = true) :
    capitalizedRuns false cs = cs := by
  induction cs with
  | nil => rfl
  | cons c cs ih =>
    obtain ⟨word, others⟩ := List.forall_mem_cons.1 words
    rw [capitalizedRuns, if_pos word, ih others]
    rfl

theorem capitalizedRuns_head {c : Char} {rest : List Char} (head : IsHead c)
    (words : ∀ d ∈ rest, d.isAlphanum = true) :
    capitalizedRuns true (c :: rest) = c :: rest := by
  rw [capitalizedRuns, if_pos head.isAlphanum, if_pos rfl, head.toUpper_eq,
    capitalizedRuns_words words]

/-- **A type's name is its own type's name.** -/
theorem IsTypeName.pascalChars_eq {cs : List Char} (h : IsTypeName cs) : pascalChars cs = cs := by
  cases h with
  | bare => rfl
  | @capital c rest head words =>
    have upper : c.isDigit = false := by
      unfold Char.isUpper at head
      unfold Char.isDigit
      simp [UInt32.le_iff_toNat_le] at head ⊢
      omega
    simp [pascalChars, capitalizedRuns_head (.inl head) words, upper]
  | @digit c rest head words =>
    have skip : capitalizedRuns true ('_' :: c :: rest) = capitalizedRuns true (c :: rest) := rfl
    simp [pascalChars, skip, capitalizedRuns_head (.inr head) words, head]

/-! ## What stands between words -/

/-- Two texts of the same letters and digits, where for each run of other characters of one there
is a run of other characters at that place of the other one. -/
inductive Reseparated : List Char → List Char → Prop
  | nil : Reseparated [] []
  | word {c : Char} {cs ds : List Char} (word : c.isAlphanum = true) (rest : Reseparated cs ds) :
      Reseparated (c :: cs) (c :: ds)
  | run {run other cs ds : List Char} (some_run : run ≠ []) (some_other : other ≠ [])
      (between : ∀ c ∈ run, c.isAlphanum = false) (between' : ∀ c ∈ other, c.isAlphanum = false)
      (rest : Reseparated cs ds) : Reseparated (run ++ cs) (other ++ ds)

theorem capitalizedRuns_append_of_between {run : List Char} (some_run : run ≠ [])
    (between : ∀ c ∈ run, c.isAlphanum = false) (fresh : Bool) (cs : List Char) :
    capitalizedRuns fresh (run ++ cs) = capitalizedRuns true cs := by
  induction run generalizing fresh with
  | nil => exact absurd rfl some_run
  | cons c run ih =>
    obtain ⟨here, others⟩ := List.forall_mem_cons.1 between
    rw [List.cons_append, capitalizedRuns, here, if_neg (by decide)]
    cases run with
    | nil => rfl
    | cons d run => exact ih (by simp) others true

theorem Reseparated.capitalizedRuns_eq {cs ds : List Char} (h : Reseparated cs ds)
    (fresh : Bool) : capitalizedRuns fresh cs = capitalizedRuns fresh ds := by
  induction h generalizing fresh with
  | nil => rfl
  | word word _ ih => rw [capitalizedRuns, capitalizedRuns, if_pos word, if_pos word, ih]
  | run some_run some_other between between' _ ih =>
    rw [capitalizedRuns_append_of_between some_run between,
      capitalizedRuns_append_of_between some_other between', ih]

theorem Reseparated.pascalChars_eq {cs ds : List Char} (h : Reseparated cs ds) :
    pascalChars cs = pascalChars ds := by
  rw [pascalChars, pascalChars, h.capitalizedRuns_eq]

/-! ## Type names of property names -/

theorem isAlphanum_of_mem_replicate {n : Nat} :
    ∀ c ∈ List.replicate n '_', c.isAlphanum = false := by
  intro c hc
  rw [List.eq_of_mem_replicate hc]
  rfl

theorem capitalizedRuns_replicate (fresh : Bool) (n : Nat) (cs : List Char) :
    capitalizedRuns fresh (List.replicate n '_' ++ cs) = capitalizedRuns (fresh || n ≠ 0) cs := by
  cases n with
  | zero => simp
  | succ n =>
    rw [capitalizedRuns_append_of_between (by simp) isAlphanum_of_mem_replicate]
    simp

/-- What stands for a letter or digit behind `n` underscores is one too. -/
theorem isAlphanum_joined {c : Char} (word : c.isAlphanum = true) (n : Nat) :
    (if n = 0 then c else c.toUpper).isAlphanum = true := by
  split
  · exact word
  · exact isAlphanum_toUpper word

/-- A joined name has the runs of the name itself.  Behind underscores that are left out the head
of the next run is capitalised already. -/
theorem capitalizedRuns_joined (cs : List Char) :
    capitalizedRuns true (joinedAtUnderscores none cs) = capitalizedRuns true cs ∧
      ∀ n, capitalizedRuns false (joinedAtUnderscores (some n) cs) =
        capitalizedRuns (n ≠ 0) cs := by
  induction cs with
  | nil =>
    refine ⟨rfl, fun n => ?_⟩
    have kept := capitalizedRuns_replicate false n []
    rwa [List.append_nil] at kept
  | cons c cs ih =>
    obtain ⟨apart, behind⟩ := ih
    constructor
    · rw [joinedAtUnderscores, capitalizedRuns, capitalizedRuns]
      by_cases word : c.isAlphanum = true
      · simp only [if_pos word, behind 0]
        rfl
      · simp only [if_neg word, apart]
    · intro n
      rw [joinedAtUnderscores]
      by_cases underscore : c = '_'
      · subst underscore
        rw [if_pos rfl, behind (n + 1)]
        rfl
      · rw [if_neg underscore]
        by_cases word : c.isAlphanum = true
        · rw [if_pos word, capitalizedRuns, if_pos (isAlphanum_joined word n), behind 0,
            capitalizedRuns, if_pos word]
          by_cases first : n = 0 <;> simp [first]
        · rw [if_neg word, capitalizedRuns_replicate, capitalizedRuns, if_neg word, apart,
            capitalizedRuns, if_neg word]

theorem pascalChars_camelChars (cs : List Char) :
    pascalChars (camelChars cs) = pascalChars cs := by
  rw [pascalChars, pascalChars, camelChars, (capitalizedRuns_joined cs).1]

/-! ## Joints -/

/-- Somewhere in a text underscores stand between a letter or digit and another one. -/
def HasJoint (cs : List Char) : Prop :=
  ∃ before n after, before.isAlphanum = true ∧ after.isAlphanum = true ∧
    before :: (List.replicate (n + 1) '_' ++ [after]) <:+: cs

theorem HasJoint.mono {cs ds : List Char} (h : HasJoint cs) (part : cs <:+: ds) : HasJoint ds := by
  obtain ⟨before, n, after, word, word', here⟩ := h
  exact ⟨before, n, after, word, word', here.trans part⟩

/-- A text begins with underscores and then a letter or digit. -/
def ContinuesJoint (cs : List Char) : Prop :=
  ∃ n after, after.isAlphanum = true ∧ List.replicate (n + 1) '_' ++ [after] <+: cs

theorem hasJoint_cons_iff {c : Char} {cs : List Char} :
    HasJoint (c :: cs) ↔ (c.isAlphanum = true ∧ ContinuesJoint cs) ∨ HasJoint cs := by
  constructor
  · rintro ⟨before, n, after, word, word', here⟩
    rcases List.infix_cons_iff.1 here with first | later
    · obtain ⟨rfl, rest⟩ := List.cons_prefix_cons.1 first
      exact .inl ⟨word, n, after, word', rest⟩
    · exact .inr ⟨before, n, after, word, word', later⟩
  · rintro (⟨word, n, after, word', rest⟩ | later)
    · exact ⟨c, n, after, word, word', ((List.prefix_cons_inj c).2 rest).isInfix⟩
    · exact later.mono (List.suffix_cons c cs).isInfix

theorem hasJoint_append_of_between {run : List Char} (between : ∀ c ∈ run, c.isAlphanum = false)
    {cs : List Char} : HasJoint (run ++ cs) ↔ HasJoint cs := by
  induction run with
  | nil => rfl
  | cons c run ih =>
    obtain ⟨here, others⟩ := List.forall_mem_cons.1 between
    simp [hasJoint_cons_iff, here, ih others]

/-- Underscores at the end of a text, or before a character that is no part of a word, make no
joint with what stands before them. -/
theorem not_continuesJoint {cs : List Char}
    (apart : ∀ c ∈ cs.head?, c ≠ '_' ∧ c.isAlphanum = false) (n : Nat) :
    ¬ ContinuesJoint (List.replicate n '_' ++ cs) := by
  rintro ⟨m, after, word, here⟩
  induction n generalizing m with
  | zero =>
    cases cs with
    | nil => simp [List.replicate_succ] at here
    | cons c cs => exact (apart c rfl).1 (List.cons_prefix_cons.1 here).1.symm
  | succ n ih =>
    obtain ⟨-, rest⟩ := List.cons_prefix_cons.1 here
    cases m with
    | succ m => exact ih m rest
    | zero =>
      cases n with
      | succ n =>
        obtain ⟨rfl, -⟩ := List.cons_prefix_cons.1 rest
        exact absurd word (by decide)
      | zero =>
        cases cs with
        | nil => simp at rest
        | cons c cs =>
          obtain ⟨rfl, -⟩ := List.cons_prefix_cons.1 rest
          exact absurd word (by simp [(apart after rfl).2])

/-- No joint is left in a joined name. -/
theorem not_hasJoint_joined (cs : List Char) :
    ¬ HasJoint (joinedAtUnderscores none cs) ∧
      ∀ n before, before.isAlphanum = true →
        ¬ HasJoint (before :: joinedAtUnderscores (some n) cs) := by
  have nothing : ¬ HasJoint [] := by simp [HasJoint]
  induction cs with
  | nil =>
    refine ⟨nothing, fun n before word joint => ?_⟩
    rw [joinedAtUnderscores, ← List.append_nil (List.replicate n '_')] at joint
    rcases hasJoint_cons_iff.1 joint with ⟨-, here⟩ | later
    · exact not_continuesJoint (by simp) n here
    · exact nothing ((hasJoint_append_of_between isAlphanum_of_mem_replicate).1 later)
  | cons c cs ih =>
    obtain ⟨apart, behind⟩ := ih
    constructor
    · rw [joinedAtUnderscores]
      by_cases word : c.isAlphanum = true
      · rw [if_pos word]
        exact behind 0 c word
      · rw [if_neg word]
        intro joint
        rcases hasJoint_cons_iff.1 joint with ⟨head, -⟩ | later
        · exact word head
        · exact apart later
    · intro n before head
      rw [joinedAtUnderscores]
      by_cases underscore : c = '_'
      · rw [if_pos underscore]
        exact behind (n + 1) before head
      · rw [if_neg underscore]
        by_cases word : c.isAlphanum = true
        · rw [if_pos word]
          have joined := isAlphanum_joined word n
          generalize (if n = 0 then c else c.toUpper) = d at joined
          intro joint
          rcases hasJoint_cons_iff.1 joint with ⟨-, m, after, -, here⟩ | later
          · obtain ⟨rfl, -⟩ := List.cons_prefix_cons.1 here
            exact absurd joined (by decide)
          · exact behind 0 d joined later
        · rw [if_neg word]
          have between : c.isAlphanum = false := by simpa using word
          intro joint
          rcases hasJoint_cons_iff.1 joint with ⟨-, here⟩ | later
          · exact not_continuesJoint (by rintro d ⟨⟩; exact ⟨underscore, between⟩) n here
          · rw [hasJoint_append_of_between isAlphanum_of_mem_replicate] at later
            rcases hasJoint_cons_iff.1 later with ⟨head', -⟩ | later
            · exact word head'
            · exact apart later

/-- A name without joints stays. -/
theorem joined_of_not_hasJoint (cs : List Char) :
    (¬ HasJoint cs → joinedAtUnderscores none cs = cs) ∧
      ∀ n before, before.isAlphanum = true →
        ¬ HasJoint (before :: (List.replicate n '_' ++ cs)) →
        joinedAtUnderscores (some n) cs = List.replicate n '_' ++ cs := by
  induction cs with
  | nil => exact ⟨fun _ => rfl, fun n _ _ _ => (List.append_nil _).symm⟩
  | cons c cs ih =>
    obtain ⟨apart, behind⟩ := ih
    constructor
    · intro none_left
      rw [joinedAtUnderscores]
      by_cases word : c.isAlphanum = true
      · rw [if_pos word, behind 0 c word none_left]
        rfl
      · rw [if_neg word, apart fun later => none_left (hasJoint_cons_iff.2 (.inr later))]
    · intro n before head none_left
      rw [joinedAtUnderscores]
      by_cases underscore : c = '_'
      · subst underscore
        have moved : List.replicate n '_' ++ '_' :: cs = List.replicate (n + 1) '_' ++ cs := by
          rw [List.replicate_succ', List.append_assoc]
          rfl
        rw [moved] at none_left ⊢
        rw [if_pos rfl, behind (n + 1) before head none_left]
      · rw [if_neg underscore]
        by_cases word : c.isAlphanum = true
        · -- behind underscores there would be a joint
          have first : n = 0 := by
            cases n with
            | zero => rfl
            | succ n =>
              refine absurd ⟨before, n, c, head, word, ?_⟩ none_left
              refine List.IsPrefix.isInfix ((List.prefix_cons_inj before).2 ?_)
              exact ⟨cs, by simp⟩
          subst first
          have later : ¬ HasJoint (c :: (List.replicate 0 '_' ++ cs)) := fun joint =>
            none_left (hasJoint_cons_iff.2 (.inr joint))
          rw [if_pos word, if_pos rfl, behind 0 c word later]
          rfl
        · rw [if_neg word, apart fun later => none_left ?_]
          exact later.mono ⟨before :: (List.replicate n '_' ++ [c]), [], by simp⟩

theorem not_hasJoint_camelChars (cs : List Char) : ¬ HasJoint (camelChars cs) :=
  (not_hasJoint_joined cs).1

theorem camelChars_camelChars (cs : List Char) : camelChars (camelChars cs) = camelChars cs :=
  (joined_of_not_hasJoint _).1 (not_hasJoint_camelChars cs)

/-! ## Names -/

/-- **The laws of names.** -/
theorem naming_laws (name : String) :
    IsTypeName (pascalCase name).toList ∧
      pascalCase (pascalCase name) = pascalCase name ∧
      (∀ other : String, Reseparated name.toList other.toList →
        pascalCase other = pascalCase name) ∧
      pascalCase (camelCase name) = pascalCase name ∧
      camelCase (camelCase name) = camelCase name ∧
      ¬ HasJoint (camelCase name).toList := by
  simp only [pascalCase, camelCase, String.toList_ofList]
  refine ⟨isTypeName_pascalChars _, ?_, fun other same => ?_, ?_, ?_, not_hasJoint_camelChars _⟩
  · rw [(isTypeName_pascalChars _).pascalChars_eq]
  · rw [same.pascalChars_eq]
  · rw [pascalChars_camelChars]
  · rw [camelChars_camelChars]

/-- What stands between words may be no ASCII. -/
theorem naming_laws_reseparated :
    Reseparated "2fa__codes".toList "2fa é codes".toList ∧
      pascalCase "2fa é codes" = pascalCase "2fa__codes" := by
  have codes : Reseparated ['c', 'o', 'd', 'e', 's'] ['c', 'o', 'd', 'e', 's'] :=
    .word rfl (.word rfl (.word rfl (.word rfl (.word rfl .nil))))
  have between : Reseparated ['_', '_', 'c', 'o', 'd', 'e', 's']
      [' ', 'é', ' ', 'c', 'o', 'd', 'e', 's'] :=
    @Reseparated.run ['_', '_'] [' ', 'é', ' '] _ _ (by simp) (by simp)
      (fun c hc => by fin_cases hc <;> rfl) (fun c hc => by fin_cases hc <;> rfl) codes
  have same : Reseparated "2fa__codes".toList "2fa é codes".toList :=
    .word rfl (.word rfl (.word rfl between))
  exact ⟨same, (naming_laws "2fa__codes").2.2.1 _ same⟩

example : pascalCase "2fa__codes" = "_2faCodes" ∧ camelCase "_a__b_2_é" = "_aB2_é" := by decide

end CatalogTypes.Naming
