import CatalogTypes.Text.Blank

/-!
# References in values

A value may refer to variables as `${NAME}` or `${NAME:-default}`.  A reference to a variable that
is unknown stands for its default, and for nothing without one.  Anything else stands for itself.
-/

namespace CatalogTypes.EnvFile

/-- A reference to a variable. -/
structure Reference where
  name : List Char
  default : List Char := []
deriving DecidableEq, Repr

/-- A character of a referenced name. -/
def isReferenceChar (c : Char) : Bool := c ≠ '}' && c ≠ ':'

/-- A character of a default. -/
def isDefaultChar (c : Char) : Bool := c ≠ '}'

/-- The reference behind an opening `${`, and what follows it. -/
def readReference? (cs : List Char) : Option (Reference × List Char) :=
  let name := cs.takeWhile isReferenceChar
  match cs.dropWhile isReferenceChar with
  | '}' :: rest => some ({ name }, rest)
  | ':' :: '-' :: rest =>
    match rest.dropWhile isDefaultChar with
    | _ :: after => some ({ name, default := rest.takeWhile isDefaultChar }, after)
    | [] => none
  | _ => none

theorem length_lt_of_readReference? {cs rest : List Char} {r : Reference}
    (h : readReference? cs = some (r, rest)) : rest.length < cs.length := by
  have le := (List.dropWhile_suffix isReferenceChar (l := cs)).length_le
  simp only [readReference?] at h
  split at h
  · next heq =>
    simp only [heq, List.length_cons, Option.some.injEq, Prod.mk.injEq] at le h
    obtain ⟨-, rfl⟩ := h
    omega
  · next rest' heq =>
    have le' := (List.dropWhile_suffix isDefaultChar (l := rest')).length_le
    split at h
    · next heq' =>
      simp only [heq, heq', List.length_cons, Option.some.injEq, Prod.mk.injEq] at le le' h
      obtain ⟨-, rfl⟩ := h
      omega
    · simp at h
  · simp at h

/-- The value with its references replaced by what they stand for. -/
def expandChars (resolve : Reference → List Char) : List Char → List Char
  | [] => []
  | '$' :: '{' :: rest =>
    match _found : readReference? rest with
    | some (r, after) => resolve r ++ expandChars resolve after
    | none => '$' :: expandChars resolve ('{' :: rest)
  | c :: rest => c :: expandChars resolve rest
termination_by cs => cs.length
decreasing_by
  all_goals simp only [List.length_cons]
  · have := length_lt_of_readReference? _found
    omega
  all_goals omega

/-- The value with its references replaced, where `lookup` gives the values of known variables. -/
def expand (lookup : String → Option String) (value : String) : String :=
  String.ofList (expandChars
    (fun r => ((lookup (String.ofList r.name)).map String.toList).getD r.default) value.toList)

end CatalogTypes.EnvFile
