/-!
# Glob patterns

In a pattern `*` stands for any text, `?` for any one character, and brackets for one character of
a set, or of its complement after `!`; every other character stands for itself.  A bracket that is
not closed stands for itself too, and a closing bracket that comes first in a set belongs to it.

A range in a set whose ends are in the wrong order holds nothing.  A set that is left with nothing
in it matches nothing, and its complement anything.

`fits` says what a pattern means, and `isMatch` finds it out in a time that grows with the product
of the lengths of pattern and text; `isMatch_eq_fits` is that they agree.
-/

namespace CatalogTypes.Glob

/-! ## Pieces -/

/-- A set of characters: single ones, and ranges with their ends. -/
structure CharSet where
  negated : Bool
  singles : List Char
  ranges : List (Char × Char)
deriving Repr, DecidableEq

/-- Whether a character is in the set. -/
def CharSet.contains (s : CharSet) (c : Char) : Bool :=
  (s.singles.contains c || s.ranges.any fun (low, high) => low ≤ c && c ≤ high) != s.negated

/-- A piece of a pattern. -/
inductive Piece where
  | anyText
  | anyChar
  | char (c : Char)
  | set (s : CharSet)
deriving Repr, DecidableEq

/-! ## Sets -/

/-- The content of a set cut at the hyphens that make ranges: the first `wait` characters of a part
do not end it, nor does a hyphen that comes last. -/
def cutRanges (wait : Nat) (part : List Char) : List Char → List (List Char)
  | [] => [part.reverse]
  | c :: rest =>
    if c = '-' && wait = 0 then
      match rest with
      | [] => [('-' :: part).reverse]
      | _ => part.reverse :: cutRanges 2 [] rest
    else cutRanges (wait - 1) (c :: part) rest

/-- The parts without the ranges whose ends are in the wrong order. -/
def dropBackward : List (List Char) → List (List Char)
  | [] => []
  | part :: rest =>
    match dropBackward rest with
    | [] => [part]
    | next :: more =>
      match part.getLast?, next.head? with
      | some high, some low =>
        if low < high then (part.dropLast ++ next.tail) :: more else part :: next :: more
      | _, _ => part :: next :: more

/-- The ranges between each part and the next. -/
def rangesBetween : List (List Char) → List (Char × Char)
  | part :: next :: more =>
    match part.getLast?, next.head? with
    | some low, some high => (low, high) :: rangesBetween (next :: more)
    | _, _ => rangesBetween (next :: more)
  | _ => []

/-- The parts of the content of a set, without the ranges whose ends are in the wrong order. -/
def setParts (content : List Char) : List (List Char) :=
  if content.contains '-' then
    dropBackward (cutRanges (if content.head? = some '!' then 2 else 1) [] content)
  else [content]

/-- The set that parts stand for.  Behind the mark of a complement a hyphen makes no range, also
where the mark comes first because the ranges before it hold nothing. -/
def setOfParts : List (List Char) → CharSet
  | ['!'] :: next :: more => ⟨true, '-' :: (next :: more).flatten, rangesBetween (next :: more)⟩
  | ('!' :: first) :: more => ⟨true, (first :: more).flatten, rangesBetween (first :: more)⟩
  | parts => ⟨false, parts.flatten, rangesBetween parts⟩

/-- The set that the text between brackets stands for. -/
def charSet (content : List Char) : CharSet := setOfParts (setParts content)

/-- A text cut after a given character that may stand at its head. -/
def optionally (c : Char) : List Char → List Char × List Char
  | [] => ([], [])
  | d :: rest => if d = c then ([c], rest) else ([], d :: rest)

/-- The content of a set whose opening bracket has been read, and what follows it. -/
def bracket? (cs : List Char) : Option (List Char × List Char) :=
  let (mark, rest) := optionally '!' cs
  let (first, rest) := optionally ']' rest
  match rest.dropWhile (· ≠ ']') with
  | [] => none
  | _ :: after => some (mark ++ first ++ rest.takeWhile (· ≠ ']'), after)

theorem length_optionally_le (c : Char) (cs : List Char) :
    (optionally c cs).2.length ≤ cs.length := by
  cases cs with
  | nil => simp [optionally]
  | cons d rest => simp only [optionally]; split <;> simp

theorem length_of_bracket? {cs content after : List Char}
    (h : bracket? cs = some (content, after)) : after.length < cs.length := by
  have h₁ := length_optionally_le '!' cs
  have h₂ := length_optionally_le ']' (optionally '!' cs).2
  have h₃ := (List.dropWhile_suffix (· ≠ ']')
    (l := (optionally ']' (optionally '!' cs).2).2)).length_le
  simp only [bracket?] at h
  split at h
  · simp at h
  · next heq =>
    simp only [Option.some.injEq, Prod.mk.injEq] at h
    obtain ⟨-, rfl⟩ := h
    rw [heq, List.length_cons] at h₃
    omega

/-! ## Patterns -/

/-- The pieces of a pattern. -/
def pieces : List Char → List Piece
  | [] => []
  | c :: rest =>
    if c = '*' then .anyText :: pieces rest
    else if c = '?' then .anyChar :: pieces rest
    else if c = '[' then
      match _h : bracket? rest with
      | some (content, after) => .set (charSet content) :: pieces after
      | none => .char '[' :: pieces rest
    else .char c :: pieces rest
termination_by cs => cs.length
decreasing_by
  all_goals simp only [List.length_cons]
  all_goals first | omega | exact Nat.lt_succ_of_lt (length_of_bracket? _h)

/-! ## Matching -/

/-- The ends of a text, the whole text first. -/
def ends : List Char → List (List Char)
  | [] => [[]]
  | c :: rest => (c :: rest) :: ends rest

/-- Whether a text is of the form that the pieces give. -/
def fits : List Piece → List Char → Bool
  | [], cs => cs.isEmpty
  | .anyText :: more, cs => (ends cs).any (fits more)
  | .anyChar :: more, cs =>
    match cs with
    | [] => false
    | _ :: rest => fits more rest
  | .char c :: more, cs =>
    match cs with
    | [] => false
    | d :: rest => c = d && fits more rest
  | .set s :: more, cs =>
    match cs with
    | [] => false
    | d :: rest => s.contains d && fits more rest

/-! ## Matching every end at once

`fits` tries the same end of a text again and again.  `fitMarks` goes through the pieces once, from
the last one on, and marks each end of the text that the pieces fit. -/

/-- For each end, whether it or a shorter one is marked. -/
def orLater : List Bool → List Bool
  | [] => []
  | mark :: marks =>
    let later := orLater marks
    (mark || later.head?.getD false) :: later

/-- For each end of a text, whether it begins with a wanted character and what follows is marked. -/
def afterChar (wanted : Char → Bool) : List Char → List Bool → List Bool
  | c :: rest, _ :: marks =>
    (wanted c && marks.head?.getD false) :: afterChar wanted rest marks
  | _, _ => [false]

/-- For each end of a text, whether it is of the form that the pieces give. -/
def fitMarks : List Piece → List Char → List Bool
  | [], cs => (ends cs).map List.isEmpty
  | .anyText :: more, cs => orLater (fitMarks more cs)
  | .anyChar :: more, cs => afterChar (fun _ => true) cs (fitMarks more cs)
  | .char c :: more, cs => afterChar (c = ·) cs (fitMarks more cs)
  | .set s :: more, cs => afterChar s.contains cs (fitMarks more cs)

theorem head?_ends (cs : List Char) : (ends cs).head? = some cs := by cases cs <;> rfl

theorem orLater_map_ends (f : List Char → Bool) (cs : List Char) :
    orLater ((ends cs).map f) = (ends cs).map fun tail => (ends tail).any f := by
  induction cs with
  | nil => simp [ends, orLater]
  | cons c rest ih => simp [ends, orLater, ih, List.head?_map, head?_ends]

theorem afterChar_map_ends (wanted : Char → Bool) (f g : List Char → Bool) (nil : g [] = false)
    (cons : ∀ c rest, g (c :: rest) = (wanted c && f rest)) (cs : List Char) :
    afterChar wanted cs ((ends cs).map f) = (ends cs).map g := by
  induction cs with
  | nil => simp [ends, afterChar, nil]
  | cons c rest ih => simp [ends, afterChar, ih, List.head?_map, head?_ends, cons]

theorem fitMarks_eq (ps : List Piece) (cs : List Char) :
    fitMarks ps cs = (ends cs).map (fits ps) := by
  induction ps with
  | nil => rfl
  | cons p more ih =>
    cases p with
    | anyText => exact (congrArg orLater ih).trans (orLater_map_ends _ cs)
    | anyChar =>
      simp only [fitMarks, ih]
      exact afterChar_map_ends _ _ _ rfl (fun _ _ => rfl) cs
    | char c =>
      simp only [fitMarks, ih]
      exact afterChar_map_ends _ _ _ rfl (fun _ _ => rfl) cs
    | set s =>
      simp only [fitMarks, ih]
      exact afterChar_map_ends _ _ _ rfl (fun _ _ => rfl) cs

/-- Whether a text matches a pattern. -/
def isMatch (pattern text : String) : Bool :=
  (fitMarks (pieces pattern.toList) text.toList).head?.getD false

theorem isMatch_eq_fits (pattern text : String) :
    isMatch pattern text = fits (pieces pattern.toList) text.toList := by
  simp [isMatch, fitMarks_eq, List.head?_map, head?_ends]

end CatalogTypes.Glob
