import Mathlib.Data.List.DropRight

/-! URLs with the special schemes `http` and `https`, as the URL standard parses them: cleaning of
the input, the authority, and the path with its dot segments. -/

namespace MpcKit.Sdk

abbrev Text := List Char

inductive Scheme where
  | http
  | https
  deriving DecidableEq, Repr

def Scheme.name : Scheme → Text
  | .http => "http".toList
  | .https => "https".toList

/-- What the standard leaves to other standards: hosts and percent-encoding. -/
structure Standard (Origin : Type) where
  /-- User information, host and port of an authority; `none` when it is not one. -/
  authority : Scheme → Text → Option Origin
  encodePath : Char → Text
  encodeQuery : Char → Text
  encodeFragment : Char → Text

structure Url (Origin : Type) where
  scheme : Scheme
  origin : Origin
  path : List Text
  query : Option Text
  fragment : Option Text
  deriving DecidableEq, Repr

/-! ### Characters -/

/-- In a special URL a backslash counts as a slash. -/
def slash (c : Char) : Bool := c = '/' || c = '\\'

/-- The authority ends here. -/
def delimiter (c : Char) : Bool := slash c || c = '?' || c = '#'

/-- The path ends here. -/
def stop (c : Char) : Bool := c = '?' || c = '#'

def blank (c : Char) : Bool := c ≤ ' '

def tabOrNewline (c : Char) : Bool := c = '\t' || c = '\n' || c = '\r'

/-- Blanks around the input and tabs and newlines within it do not count. -/
def clean (text : Text) : Text := ((text.dropWhile blank).rdropWhile blank).filter (fun c => !tabOrNewline c)

/-! ### Paths -/

def lower (text : Text) : Text := text.map Char.toLower

def isSingleDot (segment : Text) : Bool := lower segment = ['.'] || lower segment = ['%', '2', 'e']

def isDoubleDot (segment : Text) : Bool :=
  lower segment = ['.', '.'] || lower segment = ['.', '%', '2', 'e'] || lower segment = ['%', '2', 'e', '.'] ||
    lower segment = ['%', '2', 'e', '%', '2', 'e']

variable {Origin : Type}

/-- A segment that another one follows. -/
def Standard.enter (standard : Standard Origin) (path : List Text) (segment : Text) : List Text :=
  if isDoubleDot segment then path.dropLast
  else if isSingleDot segment then path
  else path ++ [segment.flatMap standard.encodePath]

/-- The last segment; dots leave an empty one. -/
def Standard.finish (standard : Standard Origin) (path : List Text) (segment : Text) : List Text :=
  if isDoubleDot segment then path.dropLast ++ [[]]
  else if isSingleDot segment then path ++ [[]]
  else path ++ [segment.flatMap standard.encodePath]

def Standard.walk (standard : Standard Origin) : List Text → List Text → List Text
  | path, [] => path
  | path, [segment] => standard.finish path segment
  | path, segment :: next :: segments => standard.walk (standard.enter path segment) (next :: segments)

def segments (text : Text) : List Text := text.splitOnP slash

/-- The text before the query and the fragment. -/
def pathText (text : Text) : Text := text.takeWhile (fun c => !stop c)

def Standard.query (standard : Standard Origin) (text : Text) : Option Text :=
  match text.dropWhile (fun c => !stop c) with
  | '?' :: rest => some ((rest.takeWhile (· ≠ '#')).flatMap standard.encodeQuery)
  | _ => none

def Standard.fragment (standard : Standard Origin) (text : Text) : Option Text :=
  match text.dropWhile (· ≠ '#') with
  | '#' :: rest => some (rest.flatMap standard.encodeFragment)
  | _ => none

/-- The URL of an origin and what follows its authority. One slash in front opens the path. -/
def Standard.locate (standard : Standard Origin) (scheme : Scheme) (origin : Origin) (text : Text) : Url Origin where
  scheme := scheme
  origin := origin
  path := standard.walk [] (segments (match pathText text with
    | c :: rest => if slash c then rest else c :: rest
    | [] => []))
  query := standard.query text
  fragment := standard.fragment text

/-- What follows `scheme:`; any number of slashes opens the authority. -/
def Standard.authorize (standard : Standard Origin) (scheme : Scheme) (text : Text) : Option (Url Origin) :=
  let text := text.dropWhile slash
  (standard.authority scheme (text.takeWhile (fun c => !delimiter c))).map fun origin =>
    standard.locate scheme origin (text.dropWhile (fun c => !delimiter c))

def schemeOf (name : Text) : Option Scheme :=
  if lower name = Scheme.http.name then some .http else if lower name = Scheme.https.name then some .https else none

/-- `Url::parse` and `new URL` on an absolute URL of a special scheme. -/
def Standard.parse (standard : Standard Origin) (input : Text) : Option (Url Origin) :=
  let text := clean input
  match schemeOf (text.takeWhile (· ≠ ':')), text.dropWhile (· ≠ ':') with
  | some scheme, ':' :: rest => standard.authorize scheme rest
  | _, _ => none

/-- `Url::join` with a reference that begins with a slash: a second slash opens an authority, otherwise
the origin of the base is kept and its path is not. -/
def Standard.join (standard : Standard Origin) (base : Url Origin) (reference : Text) : Option (Url Origin) :=
  match clean reference with
  | '/' :: rest =>
      if rest.head?.any slash then standard.authorize base.scheme rest
      else some (standard.locate base.scheme base.origin ('/' :: rest))
  | _ => none

/-! ### Dot segments -/

/-- How many segments are left once dot segments are resolved, on top of `depth`. -/
def depth (path : Nat) (texts : List Text) : Nat :=
  texts.foldl (fun depth segment =>
    if isDoubleDot segment then depth - 1 else if isSingleDot segment then depth else depth + 1) path

/-- How many segments below the first `path` the double dots of the rest remove. -/
def climb : Nat → List Text → Nat
  | _, [] => 0
  | path, segment :: rest =>
      if isDoubleDot segment then if path = 0 then climb 0 rest + 1 else climb (path - 1) rest
      else if isSingleDot segment then climb path rest
      else climb (path + 1) rest

section Walking

variable {standard : Standard Origin} {path : List Text}

theorem walk_append (front : List Text) {back : List Text} (nonempty : back ≠ []) :
    standard.walk path (front ++ back) = standard.walk (front.foldl standard.enter path) back := by
  induction front generalizing path with
  | nil => rfl
  | cons segment front ih =>
    obtain ⟨next, rest, same⟩ : ∃ next rest, front ++ back = next :: rest := by
      cases front with
      | nil => exact ⟨_, _, (List.cons_head_tail nonempty).symm⟩
      | cons next rest => exact ⟨next, rest ++ back, rfl⟩
    rw [List.cons_append, List.foldl_cons, ← ih, same]
    rfl

theorem length_enter (standard : Standard Origin) (path : List Text) (texts : List Text) :
    (texts.foldl standard.enter path).length = depth path.length texts := by
  induction texts generalizing path with
  | nil => rfl
  | cons segment texts ih =>
    rw [List.foldl_cons, ih, depth, depth, List.foldl_cons]
    congr 1
    unfold Standard.enter
    split
    · exact List.length_dropLast
    · split <;> simp

theorem dropLast_below (below path : List Text) :
    (below ++ path).dropLast = below.take (below.length - if path.length = 0 then 1 else 0) ++ path.dropLast := by
  cases path with
  | nil => rw [List.append_nil, List.dropLast_eq_take, List.dropLast_nil, List.append_nil]; rfl
  | cons segment path => simp [List.dropLast_append_of_ne_nil]

/-- What lies below `path` only loses segments from its end, and is otherwise left alone. -/
theorem walk_below (below path : List Text) {texts : List Text} (nonempty : texts ≠ []) :
    standard.walk (below ++ path) texts =
      below.take (below.length - climb path.length texts) ++ standard.walk path texts := by
  induction texts generalizing below path with
  | nil => exact absurd rfl nonempty
  | cons segment texts ih =>
    cases texts with
    | nil =>
      simp only [Standard.walk, Standard.finish, climb]
      split
      · rw [dropLast_below, List.append_assoc]
      · split <;> simp
    | cons next texts =>
      have further : next :: texts ≠ [] := List.cons_ne_nil _ _
      rw [Standard.walk, Standard.walk, climb]
      unfold Standard.enter
      split
      · rw [dropLast_below, ih _ _ further, List.length_dropLast, List.length_take, List.take_take]
        congr 2
        split
        next first =>
          rw [first, Nat.zero_sub]
          omega
        next => omega
      · split
        · exact ih below path further
        · rw [List.append_assoc, ih below _ further, List.length_append, List.length_singleton]

theorem walk_eq_iff {texts : List Text} (nonempty : texts ≠ []) :
    standard.walk path texts = standard.walk [] texts ↔ path.length ≤ climb 0 texts := by
  have split := @walk_below Origin standard path [] texts nonempty
  rw [List.append_nil, List.length_nil] at split
  rw [split]
  constructor
  · intro same
    have lengths := congrArg List.length same
    rw [List.length_append, List.length_take] at lengths
    omega
  · intro climbs
    rw [Nat.sub_eq_zero_of_le climbs, List.take_zero, List.nil_append]

end Walking

end MpcKit.Sdk
