import CatalogTypes.Proofs.Label.Splitting
import CatalogTypes.Text.Alphanumeric

/-!
# Labels and passwords

The label of a database is written to logs, so it should not show the password that stands in an
address, nor depend on it.

**Theorem (`Login.hidesPassword_iff`).** The label of an address does not depend on the password
in it exactly if the address is screened (`Login.IsScreened`): read without a password it is

* refused, but not with a message that quotes the authority the password stands in, or
* that of a server, and the password does not stand in the path, or
* that of a file, and a name of the path follows the password.

So the label of a server that is spelled plainly hides the password
(`Login.hidesPassword_of_server`).  But an address that is taken for a file is labelled by its last
name, whatever that holds: with the scheme of a driver it shows the password
(`Login.not_hidesPassword_of_driver`).

The text before the password decides where the password stands (`Url.Continues`,
`Path.exists_getLast?_namesOf`).
-/

namespace CatalogTypes

/-! ## Passwords -/

namespace Url

/-- A letter or numeral of any script, or a mark that means itself wherever it stands. -/
def isUnreserved (c : Char) : Bool := Text.isWordChar c || c = '-' || c = '.' || c = '~'

/-- The characters of a password are unreserved. -/
def IsPassword (p : List Char) : Prop := ∀ c ∈ p, isUnreserved c = true

instance (p : List Char) : Decidable (IsPassword p) :=
  decidable_of_iff (p.all isUnreserved = true) List.all_eq_true

namespace IsPassword

variable {p : List Char}

theorem not_mem (h : IsPassword p) {c : Char} (reserved : isUnreserved c = false) : c ∉ p := by
  intro hc
  rw [h c hc] at reserved
  cases reserved

/-- A class of reserved characters has none of a password. -/
theorem eq_false (h : IsPassword p) {kind : Char → Bool} (reserved : List Char)
    (among : ∀ c, kind c = true → c ∈ reserved) (apart : reserved.any isUnreserved = false) :
    ∀ c ∈ p, kind c = false := by
  intro c hc
  by_contra inside
  have reserved := List.any_eq_false.1 apart c (among c (by simpa using inside))
  exact h.not_mem (by simpa using reserved) hc

theorem isPassed_eq_false (h : IsPassword p) : ∀ c ∈ p, isPassed c = false :=
  h.eq_false ['\t', '\n', '\r'] (by simp [isPassed, or_assoc]) (by decide)

theorem endsAuthority_eq_false (h : IsPassword p) : ∀ c ∈ p, endsAuthority c = false :=
  h.eq_false ['/', '?', '#'] (by simp [endsAuthority, or_assoc]) (by decide)

theorem endsPath_eq_false (h : IsPassword p) : ∀ c ∈ p, endsPath c = false :=
  h.eq_false ['?', '#'] (by simp [endsPath]) (by decide)

theorem looksAlike_eq_false (h : IsPassword p) :
    ∀ c ∈ p, delimiterLookalikes.contains c.toNat = false := by
  refine h.eq_false (delimiterLookalikes.map Char.ofNat) (fun c hc => ?_) (by decide +kernel)
  refine List.mem_map.2 ⟨c.toNat, by simpa using hc, Char.ofNat_toNat c⟩

end IsPassword

end Url

open Url (IsPassword)

/-! ## Addresses with a password -/

/-- An address at which a user logs in, but for the password. -/
structure Login where
  scheme : List Char
  user : List Char
  host : List Char
  port : Option (List Char) := none
  path : Option (List Char) := none
deriving DecidableEq, Repr

/-- A text that is made from a password does not depend on it. -/
def Ignores {α : Type} (f : List Char → α) : Prop :=
  ∀ p q : List Char, IsPassword p → IsPassword q → f p = f q

namespace Login

/-- What precedes the colon before the password. -/
def front (l : Login) : List Char := l.scheme ++ "://".toList ++ l.user

/-- What follows the at sign behind the password. -/
def back (l : Login) : List Char :=
  l.host ++ (l.port.map (':' :: ·)).getD [] ++ (l.path.map ('/' :: ·)).getD []

/-- The characters of the address with a password. -/
def spelled (l : Login) (password : List Char) : List Char :=
  l.front ++ ':' :: (password ++ '@' :: l.back)

/-- The address with a password. -/
def withPassword (l : Login) (password : List Char) : String := String.ofList (l.spelled password)

/-- The label, or the refusal, is the same with any two passwords. -/
def HidesPassword (l : Login) : Prop := Ignores fun p => databaseLabel (l.withPassword p)

end Login

/-! ## Where the password stands -/

/-- A part of a URL. -/
inductive Url.Part where
  | authority
  | path
  | query
deriving DecidableEq, Repr

/-- The part of a URL to which belongs what follows the given text. -/
def Url.partBehind (front : List Char) : Url.Part :=
  match splitAuthority (splitScheme (cleaned front)).2 with
  | (_, []) => .authority
  | (_, rest) => if rest.any endsPath then .query else .path

namespace Login

/-- The part of the URL that the password stands in. -/
def passwordPart (l : Login) : Url.Part := Url.partBehind (l.front ++ [':'])

/-- What follows the at sign in the path of a file. -/
def fileBack (l : Login) : List Char :=
  if sqliteScheme <:+: l.front then l.back else eraseFirst sqliteScheme l.back

/-- The names of a file's path behind the one that the password stands in. -/
def fileNames (l : Login) : List String := Path.namesOf (l.fileBack.dropWhile (· ≠ '/'))

/-- The label is taken from where the password does not stand. -/
def IsScreened (l : Login) : Prop :=
  match Url.split (l.spelled []) with
  | .error (.ambiguous _) => l.passwordPart ≠ .authority
  | .error _ => True
  | .ok u =>
    if serverSchemes.contains u.scheme then l.passwordPart ≠ .path else l.fileNames ≠ []

end Login

/-! ## Texts that show a password -/

/-- A text that is made from a password has the password in it. -/
def Shows (f : List Char → Except UrlError String) : Prop :=
  ∃ (wrap : String → Except UrlError String) (before behind : List Char),
    Function.Injective wrap ∧
      ∀ p, IsPassword p → f p = wrap (String.ofList (before ++ (p ++ behind)))

theorem Shows.not_ignores {f : List Char → Except UrlError String} (h : Shows f) :
    ¬ Ignores f := by
  intro ignores
  obtain ⟨wrap, before, behind, injective, shows_⟩ := h
  have same := ignores ['a'] ['b'] (by decide) (by decide)
  rw [shows_ _ (by decide), shows_ _ (by decide)] at same
  have texts := congrArg String.toList (injective same)
  simp at texts

theorem ignores_of_eq {α : Type} {f : List Char → α} (a : α) (h : ∀ p, IsPassword p → f p = a) :
    Ignores f := by
  intro p q hp hq
  rw [h p hp, h q hq]

/-! ## The authority -/

/-- The error with the given authority quoted, if it quotes one. -/
def UrlError.quoting (authority : String) : UrlError → UrlError
  | ambiguous _ => ambiguous authority
  | error => error

namespace Url

variable {p : List Char}

theorem bracketsFault?_ne_ambiguous (cs : List Char) (a : String) :
    bracketsFault? cs ≠ some (.ambiguous a) := by
  unfold bracketsFault?
  dsimp only
  split_ifs
  · simp
  · cases bracketFault? (rawHost cs) <;> simp

/-- Only an authority with the look-alike of a delimiter is ambiguous. -/
theorem authorityFault?_ne_ambiguous {cs : List Char}
    (plain : ∀ c ∈ cs, delimiterLookalikes.contains c.toNat = false) (a : String) :
    authorityFault? cs ≠ some (.ambiguous a) := by
  have none : (cs.any fun c => delimiterLookalikes.contains c.toNat) = false :=
    List.any_eq_false.2 fun c hc => by rw [plain c hc]; decide
  have apart := bracketsFault?_ne_ambiguous cs a
  unfold authorityFault?
  rw [none]
  cases cs.contains '[' <;> cases cs.contains ']' <;> simp [apart]

/-- A password in an authority plays no part in its faults, but is quoted with it. -/
theorem authorityFault?_password (h : IsPassword p) (cs ds : List Char) :
    authorityFault? (cs ++ (p ++ '@' :: ds)) =
      (authorityFault? (cs ++ '@' :: ds)).map
        (UrlError.quoting (String.ofList (cs ++ (p ++ '@' :: ds)))) := by
  have holds (c : Char) (reserved : isUnreserved c = false) :
      (cs ++ (p ++ '@' :: ds)).contains c = (cs ++ '@' :: ds).contains c := by
    simp [h.not_mem reserved]
  have alike : ((cs ++ (p ++ '@' :: ds)).any fun c => delimiterLookalikes.contains c.toNat) =
      (cs ++ '@' :: ds).any fun c => delimiterLookalikes.contains c.toNat := by
    have none : (p.any fun c => delimiterLookalikes.contains c.toNat) = false :=
      List.any_eq_false.2 fun c hc => by rw [h.looksAlike_eq_false c hc]; decide
    rw [List.any_append, List.any_append, List.any_append, none, Bool.false_or]
  have brackets : bracketsFault? (cs ++ (p ++ '@' :: ds)) = bracketsFault? (cs ++ '@' :: ds) := by
    rw [← List.append_assoc, bracketsFault?_append, bracketsFault?_append]
  unfold authorityFault?
  rw [holds '[' (by decide), holds ']' (by decide), alike, brackets]
  have apart := bracketsFault?_ne_ambiguous (cs ++ '@' :: ds)
  cases (cs ++ '@' :: ds).contains '[' <;> cases (cs ++ '@' :: ds).contains ']' <;> dsimp only
  · simp only [Option.none_or]
    split_ifs <;> rfl
  · rfl
  · rfl
  · cases fault : bracketsFault? (cs ++ '@' :: ds) with
    | none =>
      simp only [Option.none_or]
      split_ifs <;> rfl
    | some error =>
      cases error with
      | ambiguous a => exact absurd fault (apart a)
      | _ => rfl

end Url

namespace Login

variable {l : Login} {p : List Char}

/-! ## The parts of the URL -/

theorem colon_mem_front (l : Login) : ':' ∈ l.front := by simp [front]

/-- The scheme of the URL. -/
def urlScheme (l : Login) : String := (Url.splitScheme (Url.cleaned l.front)).1

/-- What stands between the scheme and the colon before the password. -/
def middle (l : Login) : List Char := (Url.splitScheme (Url.cleaned l.front)).2

/-- What follows the at sign in the URL. -/
def urlBack (l : Login) : List Char := l.back.filter (!Url.isPassed ·)

theorem splitScheme_front (l : Login) (ds : List Char) :
    Url.splitScheme (Url.cleaned (l.front ++ ds)) =
      (l.urlScheme, l.middle ++ ds.filter (!Url.isPassed ·)) := by
  rw [Url.cleaned_append l.colon_mem_front,
    Url.splitScheme_append (Url.mem_cleaned l.colon_mem_front)]
  rfl

theorem split_spelled (h : IsPassword p) :
    Url.split (l.spelled p) =
      let (authority, rest) := Url.splitAuthority (l.middle ++ ':' :: (p ++ '@' :: l.urlBack))
      match Url.authorityFault? authority with
      | some fault => .error fault
      | none =>
        .ok { scheme := l.urlScheme, authority, path := rest.takeWhile (!Url.endsPath ·) } := by
  have kept : (':' :: (p ++ '@' :: l.back)).filter (!Url.isPassed ·) =
      ':' :: (p ++ '@' :: l.urlBack) := by
    have whole : p.filter (!Url.isPassed ·) = p :=
      List.filter_eq_self.2 fun c hc => by rw [h.isPassed_eq_false c hc]; rfl
    rw [List.filter_cons_of_pos (by decide), List.filter_append, whole,
      List.filter_cons_of_pos (by decide)]
    rfl
  unfold Url.split spelled
  rewrite [splitScheme_front, kept]
  rfl

theorem passwordPart_eq (l : Login) :
    l.passwordPart = match Url.splitAuthority (l.middle ++ [':']) with
      | (_, []) => .authority
      | (_, rest) => if rest.any Url.endsPath then .query else .path := by
  unfold passwordPart Url.partBehind
  rw [splitScheme_front]
  rfl

/-! ## Passwords in the authority -/

/-- A part that a password belongs to ends behind it. -/
theorem takeWhile_password {ends : Char → Bool} (apart : ∀ c ∈ p, ends c = false)
    (sign : ends '@' = false) (ds : List Char) :
    (p ++ '@' :: ds).takeWhile (!ends ·) = p ++ '@' :: ds.takeWhile (!ends ·) := by
  rw [List.takeWhile_append_of_pos fun c hc => by rw [apart c hc]; rfl]
  simp [sign]

/-- What has ended is not changed by what follows. -/
theorem takeWhile_append_of_any {ends : Char → Bool} {cs : List Char} (h : cs.any ends = true)
    (ds : List Char) : (cs ++ ds).takeWhile (!ends ·) = cs.takeWhile (!ends ·) := by
  induction cs with
  | nil => simp at h
  | cons c cs ih =>
    cases stops : ends c with
    | true => simp [stops]
    | false =>
      have later : cs.any ends = true := by simpa [stops] using h
      simp [stops, ih later]

theorem dropWhile_password {ends : Char → Bool} (apart : ∀ c ∈ p, ends c = false)
    (sign : ends '@' = false) (ds : List Char) :
    (p ++ '@' :: ds).dropWhile (!ends ·) = ds.dropWhile (!ends ·) := by
  rw [List.dropWhile_append_of_pos fun c hc => by rw [apart c hc]; rfl]
  simp [sign]

/-- What the label of a server is taken from precedes or follows the authority's user. -/
theorem serverLabel_authority (scheme : String) (path cs ds : List Char) :
    Url.serverLabel { scheme, authority := cs ++ '@' :: ds, path } =
      Url.serverLabel { scheme, authority := ds, path } := by
  unfold Url.serverLabel Url.host?
  rw [Url.rawHost_append]

/-! ## Passwords in the path -/

/-- Behind a colon all slashes at the head have been passed. -/
theorem serverLabel_path (scheme : String) (authority cs ds : List Char) :
    Url.serverLabel { scheme, authority, path := cs ++ ':' :: ds } =
      String.ofList (cs.dropWhile (· = '/') ++ ':' :: ds) := by
  have passed : (cs ++ ':' :: ds).dropWhile (· = '/') = cs.dropWhile (· = '/') ++ ':' :: ds := by
    rw [List.dropWhile_append]
    cases rest : cs.dropWhile (· = '/') <;> simp
  unfold Url.serverLabel
  rw [passed]
  cases cs.dropWhile (· = '/') <;> rfl

/-! ## Passwords in the name of a file -/

/-- No `sqlite://` runs on through the colon before a password. -/
theorem not_prefix_of_clear {s : List Char} (h : IsPassword p) (clear : ¬ sqliteScheme <+: s)
    (ds : List Char) : ¬ sqliteScheme <+: s ++ ':' :: (p ++ '@' :: ds) := by
  intro runs
  rcases prefix_append_cases runs with inside | ⟨more, filled, same, goes⟩
  · exact clear inside
  · cases more with
    | nil => exact filled rfl
    | cons c more =>
      obtain ⟨rfl, behind⟩ := List.cons_prefix_cons.1 goes
      -- there is one colon in the piece, and two slashes behind it
      have slashes : more = ['/', '/'] := by
        have parts : (sqliteScheme.dropWhile (· ≠ ':')) = ':' :: more := by
          have before : ':' ∉ s := by
            intro there
            have twice := congrArg (List.count ':') same
            have once := List.count_pos_iff.2 there
            have one : sqliteScheme.count ':' = 1 := by decide
            simp only [List.count_append, List.count_cons_self] at twice
            omega
          rw [same, List.dropWhile_append_of_pos]
          · simp
          · intro c hc
            have differs : c ≠ ':' := fun same => before (same ▸ hc)
            simpa using differs
        have known : sqliteScheme.dropWhile (· ≠ ':') = [':', '/', '/'] := by decide
        rw [known] at parts
        exact (List.cons.inj parts).2.symm
      rw [slashes] at behind
      cases p with
      | nil => simp at behind
      | cons d p =>
        obtain ⟨rfl, -⟩ := List.cons_prefix_cons.1 behind
        exact h.not_mem (by decide) List.mem_cons_self

/-- The colon before a password and the at sign behind it keep `sqlite://` apart from it. -/
theorem exists_eraseFirst_spelled (l : Login) :
    ∃ start, ∀ p, IsPassword p →
      eraseFirst sqliteScheme (l.spelled p) = start ++ ':' :: (p ++ '@' :: l.fileBack) := by
  unfold fileBack spelled
  by_cases inside : sqliteScheme <:+: l.front
  · refine ⟨eraseFirst sqliteScheme l.front, fun p _ => ?_⟩
    rw [eraseFirst_append_of_contained inside, if_pos inside]
  · refine ⟨l.front, fun p hp => ?_⟩
    have whole (ds : List Char) : ':' :: (p ++ '@' :: ds) = (':' :: (p ++ ['@'])) ++ ds := by simp
    have behind (s : List Char) (filled : s ≠ []) (suffix : s <:+ ':' :: (p ++ ['@'])) :
        ¬ sqliteScheme <+: s ++ l.back := by
      intro runs
      rcases prefix_append_cases runs with within_ | ⟨more, -, same, -⟩
      · have slash : '/' ∈ ':' :: (p ++ ['@']) := suffix.subset (within_.subset (by decide))
        simp [hp.not_mem (by decide : Url.isUnreserved '/' = false)] at slash
      · obtain ⟨cs, same'⟩ := suffix
        have sign : '@' ∈ s := by
          have last : (':' :: (p ++ ['@'])).getLast? = some '@' := by
            rw [← List.cons_append, List.getLast?_concat]
          rw [← same', List.getLast?_append_of_ne_nil _ filled] at last
          exact List.mem_of_getLast? last
        have there : '@' ∈ sqliteScheme := same ▸ List.mem_append_left more sign
        exact absurd there (by decide)
    rw [if_neg inside, eraseFirst_append_of_clear fun s _ suffix => not_prefix_of_clear hp
      (fun first => inside (first.isInfix.trans suffix.isInfix)) l.back]
    rw [whole l.back, eraseFirst_append_of_clear behind, ← whole]

/-- The label of a file does not depend on the password if a name follows it, and else shows it. -/
theorem fileLabel_withPassword (l : Login) :
    (l.fileNames ≠ [] → Ignores fun p => fileLabel (l.withPassword p)) ∧
      (l.fileNames = [] → ∃ before behind, ∀ p, IsPassword p →
        fileLabel (l.withPassword p) = String.ofList (before ++ (p ++ behind))) := by
  obtain ⟨start, erased⟩ := l.exists_eraseFirst_spelled
  obtain ⟨before, last⟩ := Path.exists_getLast?_namesOf start
  have label (p : List Char) (hp : IsPassword p) : fileLabel (l.withPassword p) =
      ((Path.namesOf (start ++ ':' :: (p ++ '@' :: l.fileBack))).getLast?).getD
        (l.withPassword p) := by
    unfold fileLabel withPassword
    rw [String.toList_ofList, erased p hp]
    rfl
  have first (p : List Char) (hp : IsPassword p) :
      (Path.namesOf (start ++ ':' :: (p ++ '@' :: l.fileBack.takeWhile (· ≠ '/')))).getLast? =
        some (String.ofList (before ++ ':' :: (p ++ '@' :: l.fileBack.takeWhile (· ≠ '/')))) := by
    refine last _ ?_
    intro there
    rcases List.mem_append.1 there with early | late
    · exact hp.not_mem (by decide) early
    · cases late with
      | tail _ late => exact absurd (List.mem_takeWhile_imp late) (by decide)
  have whole := List.takeWhile_append_dropWhile (p := (· ≠ '/')) (l := l.fileBack)
  unfold fileNames
  cases rest : l.fileBack.dropWhile (· ≠ '/') with
  | nil =>
    rw [rest, List.append_nil] at whole
    refine ⟨fun named => absurd rfl named, fun _ => ⟨before ++ [':'], '@' :: l.fileBack, ?_⟩⟩
    intro p hp
    have name := first p hp
    rw [whole] at name
    simp [label p hp, name]
  | cons c more =>
    obtain rfl : c = '/' := by
      have stops := List.head?_dropWhile_not (· ≠ '/') l.fileBack
      rw [rest] at stops
      simpa using stops
    rw [rest] at whole
    have names (p : List Char) : Path.namesOf (start ++ ':' :: (p ++ '@' :: l.fileBack)) =
        Path.namesOf (start ++ ':' :: (p ++ '@' :: l.fileBack.takeWhile (· ≠ '/'))) ++
          Path.namesOf more := by
      rw [← Path.namesOf_append]
      simp only [List.append_assoc, List.cons_append, whole]
    rw [Path.namesOf_cons_slash]
    refine ⟨fun named => ?_, fun unnamed => ?_⟩
    · refine ignores_of_eq ((Path.namesOf more).getLast named) fun p hp => ?_
      rw [label p hp, names, List.getLast?_append_of_ne_nil _ named,
        List.getLast?_eq_some_getLast named]
      rfl
    · refine ⟨before ++ [':'], '@' :: l.fileBack.takeWhile (· ≠ '/'), fun p hp => ?_⟩
      rw [label p hp, names, unnamed, List.append_nil, first p hp]
      simp

/-! ## Labels -/

theorem databaseLabel_withPassword (l : Login) (p : List Char) :
    databaseLabel (l.withPassword p) = (Url.split (l.spelled p)).map fun u =>
      if serverSchemes.contains u.scheme then u.serverLabel else fileLabel (l.withPassword p) := by
  unfold databaseLabel withPassword
  rw [String.toList_ofList]

/-- The label of a file hides the password exactly if a name follows it. -/
theorem hidesPassword_file_iff {u : List Char → Url} (l : Login)
    (reads : ∀ p, IsPassword p → Url.split (l.spelled p) = .ok (u p))
    (file : ∀ p, serverSchemes.contains (u p).scheme = false) :
    l.HidesPassword ↔ l.fileNames ≠ [] := by
  have label (p : List Char) (hp : IsPassword p) :
      databaseLabel (l.withPassword p) = .ok (fileLabel (l.withPassword p)) := by
    rw [databaseLabel_withPassword, reads p hp]
    simp only [Except.map, file]
    rfl
  obtain ⟨hidden, shown⟩ := l.fileLabel_withPassword
  constructor
  · intro hides unnamed
    obtain ⟨before, behind, shows_⟩ := shown unnamed
    refine Shows.not_ignores ⟨.ok, before, behind, fun _ _ => Except.ok.inj, ?_⟩ hides
    intro p hp
    rw [label p hp, shows_ p hp]
  · intro named p q hp hq
    change databaseLabel _ = databaseLabel _
    rw [label p hp, label q hq]
    exact congrArg Except.ok (hidden named p q hp hq)

/-- A label that is a refusal of its own, whatever the password, hides it. -/
theorem hidesPassword_of_error {error : UrlError} (l : Login)
    (reads : ∀ p, IsPassword p → Url.split (l.spelled p) = .error error) : l.HidesPassword :=
  ignores_of_eq (.error error) fun p hp => by
    rw [databaseLabel_withPassword, reads p hp]
    rfl

/-- The label of a server, whatever the password. -/
theorem databaseLabel_of_server {u : Url} {p : List Char} (l : Login)
    (reads : Url.split (l.spelled p) = .ok u) (server : serverSchemes.contains u.scheme = true) :
    databaseLabel (l.withPassword p) = .ok u.serverLabel := by
  rw [databaseLabel_withPassword, reads]
  simp only [Except.map, server]
  rfl

/-! ### In the authority -/

theorem passwordPart_of_within {opened : List Char}
    (splits : ∀ ds, Url.splitAuthority (l.middle ++ ':' :: ds) =
      (opened ++ ':' :: ds.takeWhile (!Url.endsAuthority ·),
        ds.dropWhile (!Url.endsAuthority ·))) : l.passwordPart = .authority := by
  rw [passwordPart_eq, splits]
  rfl

/-- A password in the authority stands between what the parts of the URL are settled by. -/
theorem split_of_within {opened : List Char}
    (splits : ∀ ds, Url.splitAuthority (l.middle ++ ':' :: ds) =
      (opened ++ ':' :: ds.takeWhile (!Url.endsAuthority ·),
        ds.dropWhile (!Url.endsAuthority ·))) :
    ∃ before behind path, ∀ p, IsPassword p → Url.split (l.spelled p) =
      match Url.authorityFault? (before ++ '@' :: behind) with
      | some fault => .error (fault.quoting (String.ofList (before ++ (p ++ '@' :: behind))))
      | none => .ok ⟨l.urlScheme, before ++ (p ++ '@' :: behind), path⟩ := by
  refine ⟨opened ++ [':'], l.urlBack.takeWhile (!Url.endsAuthority ·),
    (l.urlBack.dropWhile (!Url.endsAuthority ·)).takeWhile (!Url.endsPath ·), fun p hp => ?_⟩
  have faults := Url.authorityFault?_password hp (opened ++ [':'])
    (l.urlBack.takeWhile (!Url.endsAuthority ·))
  have spelled (ds : List Char) : opened ++ ':' :: ds = (opened ++ [':']) ++ ds := by simp
  rw [split_spelled hp, splits, takeWhile_password hp.endsAuthority_eq_false (by decide),
    dropWhile_password hp.endsAuthority_eq_false (by decide), spelled]
  dsimp only
  rw [faults]
  cases Url.authorityFault? ((opened ++ [':']) ++ '@' :: l.urlBack.takeWhile
    (!Url.endsAuthority ·)) <;> rfl

/-- A password in the authority shows in the message that quotes the authority, and nowhere else
at a server. -/
theorem hidesPassword_iff_of_within {opened : List Char} (l : Login)
    (splits : ∀ ds, Url.splitAuthority (l.middle ++ ':' :: ds) =
      (opened ++ ':' :: ds.takeWhile (!Url.endsAuthority ·),
        ds.dropWhile (!Url.endsAuthority ·))) :
    l.HidesPassword ↔ l.IsScreened := by
  obtain ⟨before, behind, path, reads⟩ := split_of_within splits
  unfold IsScreened
  rw [passwordPart_of_within splits, reads [] (by decide)]
  cases fault : Url.authorityFault? (before ++ '@' :: behind) with
  | none =>
    simp only [fault] at reads
    by_cases server : serverSchemes.contains l.urlScheme
    · have label (p : List Char) (hp : IsPassword p) : databaseLabel (l.withPassword p) =
          .ok (Url.serverLabel ⟨l.urlScheme, behind, path⟩) := by
        rw [l.databaseLabel_of_server (reads p hp) server, ← List.append_assoc,
          serverLabel_authority]
      simp only [server, if_true]
      exact iff_of_true (ignores_of_eq _ label) (by decide)
    · have file : serverSchemes.contains l.urlScheme = false := by simpa using server
      simp only [file]
      exact l.hidesPassword_file_iff reads fun _ => file
  | some error =>
    simp only [fault] at reads
    cases error with
    | ambiguous _ =>
      have quoted : Shows fun p => databaseLabel (l.withPassword p) := by
        refine ⟨fun text => .error (.ambiguous text), before, '@' :: behind, ?_, fun p hp => ?_⟩
        · intro _ _ same
          simpa using same
        · dsimp only
          rw [databaseLabel_withPassword, reads p hp]
          rfl
      exact iff_of_false quoted.not_ignores fun apart => apart rfl
    | misplacedBracket => exact iff_of_true (l.hidesPassword_of_error reads) trivial
    | host _ => exact iff_of_true (l.hidesPassword_of_error reads) trivial

/-! ### Behind the authority -/

theorem passwordPart_of_after {authority rest : List Char}
    (splits : ∀ ds, Url.splitAuthority (l.middle ++ ':' :: ds) = (authority, rest ++ ':' :: ds)) :
    l.passwordPart = if rest.any Url.endsPath then .query else .path := by
  rw [passwordPart_eq, splits]
  have colon : (rest ++ [':']).any Url.endsPath = rest.any Url.endsPath := by
    simp [Url.endsPath]
  cases rest with
  | nil => rfl
  | cons c rest => exact congrArg (fun b : Bool => if b then Url.Part.query else .path) colon

/-- A password behind the authority shows in the label of a server exactly if no query has begun
before it. -/
theorem hidesPassword_iff_of_after {authority rest : List Char} (l : Login)
    (splits : ∀ ds, Url.splitAuthority (l.middle ++ ':' :: ds) = (authority, rest ++ ':' :: ds)) :
    l.HidesPassword ↔ l.IsScreened := by
  have reads (p : List Char) (hp : IsPassword p) : Url.split (l.spelled p) =
      match Url.authorityFault? authority with
      | some fault => .error fault
      | none => .ok ⟨l.urlScheme, authority,
          (rest ++ ':' :: (p ++ '@' :: l.urlBack)).takeWhile (!Url.endsPath ·)⟩ := by
    rw [split_spelled hp, splits]
  unfold IsScreened
  rw [reads [] (by decide), passwordPart_of_after splits]
  cases fault : Url.authorityFault? authority with
  | some error =>
    simp only [fault] at reads
    have hides := l.hidesPassword_of_error reads
    cases error with
    | ambiguous _ => exact iff_of_true hides (by dsimp only; split_ifs <;> decide)
    | misplacedBracket => exact iff_of_true hides trivial
    | host _ => exact iff_of_true hides trivial
  | none =>
    simp only [fault] at reads
    by_cases server : serverSchemes.contains l.urlScheme
    · have label (p : List Char) (hp : IsPassword p) :=
        l.databaseLabel_of_server (reads p hp) server
      simp only [server, if_true]
      by_cases query : rest.any Url.endsPath
      · simp only [takeWhile_append_of_any query] at label
        rw [if_pos query]
        exact iff_of_true (ignores_of_eq _ label) (by decide)
      · have through : ∀ c ∈ rest, (!Url.endsPath c) = true := by simpa using query
        rw [if_neg query]
        have shown : Shows fun p => databaseLabel (l.withPassword p) := by
          refine ⟨.ok, rest.dropWhile (· = '/') ++ [':'], '@' :: l.urlBack.takeWhile
            (!Url.endsPath ·), fun _ _ => Except.ok.inj, fun p hp => ?_⟩
          dsimp only
          rw [label p hp, List.takeWhile_append_of_pos through,
            List.takeWhile_cons_of_pos (by decide),
            takeWhile_password hp.endsPath_eq_false (by decide), serverLabel_path]
          simp
        exact iff_of_false shown.not_ignores fun apart => apart rfl
    · have file : serverSchemes.contains l.urlScheme = false := by simpa using server
      simp only [file]
      exact l.hidesPassword_file_iff reads fun _ => file

/-! ### Anywhere -/

/-- The label of an address hides the password exactly if the address is screened. -/
theorem hidesPassword_iff (l : Login) : l.HidesPassword ↔ l.IsScreened := by
  cases Url.splitAuthority_append l.middle with
  | within opened splits => exact l.hidesPassword_iff_of_within splits
  | after authority rest splits => exact l.hidesPassword_iff_of_after splits

/-- An address whose scheme names a driver is that of a file, whose name is taken from the part
that the password stands in. -/
theorem not_hidesPassword_of_driver :
    ¬ HidesPassword { scheme := "postgresql+psycopg".toList, user := "app".toList,
                      host := "db.example.com".toList, port := some "5432".toList } := by
  intro hides
  have same := hides "s3cret".toList "other".toList (by decide) (by decide)
  revert same
  decide +kernel

/-! ## Addresses of servers -/

theorem urlScheme_of_server {l : Login} (server : String.ofList l.scheme ∈ serverSchemes) :
    l.urlScheme ∈ serverSchemes ∧ l.middle = '/' :: '/' :: l.user.filter (!Url.isPassed ·) := by
  have parts (opening : List Char) (colon : ':' ∈ opening)
      (same : l.scheme ++ "://".toList = opening) :
      l.urlScheme = (Url.splitScheme (Url.cleaned opening)).1 ∧
        l.middle = (Url.splitScheme (Url.cleaned opening)).2 ++
          l.user.filter (!Url.isPassed ·) := by
    unfold urlScheme middle front
    rw [same, Url.cleaned_append colon, Url.splitScheme_append (Url.mem_cleaned colon)]
    exact ⟨rfl, rfl⟩
  have spelled (name : String) (same : String.ofList l.scheme = name) :
      l.scheme ++ "://".toList = name.toList ++ "://".toList := by
    have scheme : l.scheme = name.toList := by rw [← same, String.toList_ofList]
    rw [scheme]
  rcases List.mem_cons.1 server with short | other
  · obtain ⟨scheme, middle⟩ := parts _ (by decide) (spelled "postgres" short)
    rw [scheme, middle]
    exact ⟨by decide, rfl⟩
  · have long := spelled "postgresql" (List.mem_singleton.1 other)
    obtain ⟨scheme, middle⟩ := parts _ (by decide) long
    rw [scheme, middle]
    exact ⟨by decide, rfl⟩

/-- At the address of a server whose user and host are plain the label hides the password. -/
theorem hidesPassword_of_server {l : Login} (server : String.ofList l.scheme ∈ serverSchemes)
    (user : ∀ c ∈ l.user, Url.endsAuthority c = false)
    (plain : ∀ c ∈ l.user ++ l.back, Url.delimiterLookalikes.contains c.toNat = false) :
    l.HidesPassword := by
  obtain ⟨scheme, middle⟩ := urlScheme_of_server server
  have going : ∀ c ∈ l.user.filter (!Url.isPassed ·), (!Url.endsAuthority c) = true := by
    intro c hc
    rw [user c (List.mem_of_mem_filter hc)]
    rfl
  have splits (ds : List Char) : Url.splitAuthority (l.middle ++ ':' :: ds) =
      (l.user.filter (!Url.isPassed ·) ++ ':' :: ds.takeWhile (!Url.endsAuthority ·),
        ds.dropWhile (!Url.endsAuthority ·)) := by
    simp only [middle, List.cons_append, Url.splitAuthority, List.takeWhile_append_of_pos going,
      List.dropWhile_append_of_pos going]
    rfl
  rw [l.hidesPassword_iff_of_within splits]
  unfold IsScreened
  rw [passwordPart_eq, splits, split_spelled (by decide), splits]
  have unlike : ∀ c ∈ l.user.filter (!Url.isPassed ·) ++
      ':' :: ([] ++ '@' :: l.urlBack).takeWhile (!Url.endsAuthority ·),
      Url.delimiterLookalikes.contains c.toNat = false := by
    intro c hc
    rcases List.mem_append.1 hc with before | behind
    · exact plain c (List.mem_append_left _ (List.mem_of_mem_filter before))
    · rcases List.mem_cons.1 behind with rfl | behind
      · decide
      · rcases List.mem_cons.1 ((List.takeWhile_prefix _).subset behind) with rfl | behind
        · decide
        · exact plain c (List.mem_append_right _ (List.mem_of_mem_filter behind))
  dsimp only
  cases fault : Url.authorityFault? (l.user.filter (!Url.isPassed ·) ++
      ':' :: ([] ++ '@' :: l.urlBack).takeWhile (!Url.endsAuthority ·)) with
  | none => simp [scheme]
  | some error =>
    cases error with
    | ambiguous a => exact absurd fault (Url.authorityFault?_ne_ambiguous unlike a)
    | misplacedBracket => trivial
    | host _ => trivial

end Login

end CatalogTypes
