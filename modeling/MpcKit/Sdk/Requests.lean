import MpcKit.Sdk.Url

/-! The URL a request goes to: `MPCKitBuilder::build` and `request_json` of `sdk-rust/src/client.rs`
against the constructor and `request` of `sdk-ts/src/http.ts`. -/

namespace MpcKit.Sdk

/-- A base URL: scheme, authority, and a path prefix that may end with a slash. -/
structure Base where
  scheme : Scheme
  /-- The scheme as it is written, in any case. -/
  name : Text
  authority : Text
  pathPrefix : Text
  named : schemeOf name = some scheme
  letters : ∀ c ∈ name, blank c = false ∧ c ≠ ':'
  present : authority ≠ []
  bounded : ∀ c ∈ authority, blank c = false ∧ delimiter c = false
  rooted : pathPrefix ≠ [] → ∃ rest, pathPrefix = '/' :: rest
  endless : ∀ c ∈ pathPrefix, stop c = false

def Base.text (base : Base) : Text := base.name ++ "://".toList ++ base.authority ++ base.pathPrefix

/-- An API path, `/` and anything after it. -/
structure ApiPath where
  rest : Text

def ApiPath.text (path : ApiPath) : Text := '/' :: path.rest

def endsWithSlash (text : Text) : Bool := text.getLast? = some '/'

variable {Origin : Type}

namespace rust

/-- `Url::parse(&normalised)` of the builder. -/
def build (standard : Standard Origin) (rawBase : Text) : Option (Url Origin) :=
  let normalised := if endsWithSlash rawBase then rawBase else rawBase ++ ['/']
  standard.parse normalised

/-- `self.base_url.join(path)?`. -/
def requestUrl (standard : Standard Origin) (rawBase path : Text) : Option (Url Origin) :=
  (build standard rawBase).bind (fun baseUrl => standard.join baseUrl path)

end rust

namespace ts

/-- `opts.baseUrl.replace(/\/$/, "")`. -/
def baseUrl (text : Text) : Text := if endsWithSlash text then text.dropLast else text

/-- `fetch` of `${this.baseUrl}${path}`. -/
def requestUrl (standard : Standard Origin) (base path : Text) : Option (Url Origin) :=
  standard.parse (baseUrl base ++ path)

end ts

/-! ### What both make of the texts -/

/-- A text in the middle of an input. -/
def kept (text : Text) : Text := text.filter (fun c => !tabOrNewline c)

/-- The end of an input. -/
def ending (text : Text) : Text := kept (text.rdropWhile blank)

theorem rdropWhile_slash (front rest : Text) :
    (front ++ '/' :: rest).rdropWhile blank = front ++ '/' :: rest.rdropWhile blank := by
  have dark : blank '/' = false := by decide
  simp only [List.rdropWhile, List.reverse_append, List.reverse_cons, List.append_assoc, List.singleton_append,
    List.dropWhile_append]
  split
  next drained =>
    have none : rest.reverse.dropWhile blank = [] := by simpa using drained
    simp [none, dark]
  next => simp

theorem clean_append {first : Char} {front rest : Text} (dark : blank first = false) :
    clean (first :: front ++ '/' :: rest) = kept (first :: front) ++ '/' :: ending rest := by
  have slashed : tabOrNewline '/' = false := by decide
  have last : kept ('/' :: rest.rdropWhile blank) = '/' :: ending rest := List.filter_cons_of_pos (by simp [slashed])
  rw [clean, List.cons_append, List.dropWhile_cons_of_neg (by simp [dark]), ← List.cons_append, rdropWhile_slash,
    List.filter_append, ← last]
  rfl

theorem clean_slash (rest : Text) : clean ('/' :: rest) = '/' :: ending rest := by
  have slashed : tabOrNewline '/' = false := by decide
  have dark : blank '/' = false := by decide
  rw [clean, List.dropWhile_cons_of_neg (by simp [dark]), ← List.nil_append ('/' :: rest), rdropWhile_slash]
  simp [kept, ending, slashed]

theorem kept_eq_self {text : Text} (dark : ∀ c ∈ text, blank c = false) : kept text = text := by
  apply List.filter_eq_self.mpr
  intro c member
  have seen : tabOrNewline c = false := by
    by_contra removed
    simp only [tabOrNewline, Bool.or_eq_true, decide_eq_true_eq, Bool.not_eq_false] at removed
    have here := dark c member
    rcases removed with (rfl | rfl) | rfl <;> exact absurd here (by decide)
  rw [seen]
  rfl

section Parsing

variable {standard : Standard Origin} {base : Base}

/-- The base without the slash at its end. -/
def Base.stripped (base : Base) : Text := ts.baseUrl base.pathPrefix

theorem baseUrl_text (base : Base) :
    ts.baseUrl base.text = base.name ++ "://".toList ++ base.authority ++ base.stripped := by
  unfold Base.stripped Base.text ts.baseUrl
  by_cases empty : base.pathPrefix = []
  · have inner : endsWithSlash (base.name ++ "://".toList ++ base.authority) = false := by
      unfold endsWithSlash
      rw [List.getLast?_append_of_ne_nil _ base.present, decide_eq_false_iff_not]
      intro last
      have bounded := (base.bounded '/' (List.mem_of_getLast? last)).2
      exact absurd bounded (by decide)
    have none : endsWithSlash [] = false := rfl
    simp only [empty, List.append_nil, inner, none, Bool.false_eq_true, if_false]
  · have same : endsWithSlash (base.name ++ "://".toList ++ base.authority ++ base.pathPrefix) =
        endsWithSlash base.pathPrefix := by
      rw [endsWithSlash, List.getLast?_append_of_ne_nil _ empty]
      rfl
    rw [same]
    split
    · rw [List.dropLast_append_of_ne_nil empty]
    · rfl

theorem rooted_stripped (base : Base) : base.stripped ≠ [] → ∃ more, base.stripped = '/' :: more := by
  intro nonempty
  unfold Base.stripped ts.baseUrl at nonempty ⊢
  have given : base.pathPrefix ≠ [] := by
    intro empty
    rw [empty] at nonempty
    exact nonempty rfl
  obtain ⟨rest, rooted⟩ := base.rooted given
  rw [rooted] at nonempty ⊢
  split at nonempty
  next ends =>
    rw [if_pos ends]
    cases rest with
    | nil => exact absurd rfl nonempty
    | cons next rest => exact ⟨_, rfl⟩
  next open' =>
    rw [if_neg open']
    exact ⟨rest, rfl⟩

theorem parse_base (base : Base) {inner rest : Text} (rooted : inner ≠ [] → ∃ more, inner = '/' :: more) :
    standard.parse (base.name ++ "://".toList ++ base.authority ++ inner ++ '/' :: rest) =
      (standard.authority base.scheme base.authority).map fun origin =>
        standard.locate base.scheme origin (kept inner ++ '/' :: ending rest) := by
  have written : base.name ≠ [] := by
    intro empty
    have named := base.named
    rw [empty] at named
    cases named
  obtain ⟨first, letters, name⟩ := List.exists_cons_of_ne_nil written
  have dark : blank first = false := (base.letters first (by simp [name])).1
  have cleaned : clean (base.name ++ "://".toList ++ base.authority ++ inner ++ '/' :: rest) =
      base.name ++ ':' :: ('/' :: '/' :: (base.authority ++ (kept inner ++ '/' :: ending rest))) := by
    have split : base.name ++ "://".toList ++ base.authority ++ inner ++ '/' :: rest =
        first :: (letters ++ "://".toList ++ base.authority ++ inner) ++ '/' :: rest := by
      simp [name]
    have colon : kept "://".toList = [':', '/', '/'] := by decide
    have parts : kept (first :: (letters ++ "://".toList ++ base.authority ++ inner)) =
        kept base.name ++ kept "://".toList ++ kept base.authority ++ kept inner := by
      simp only [kept, ← List.filter_append, name, List.cons_append]
    rw [split, clean_append dark, parts, colon, kept_eq_self fun c member => (base.letters c member).1,
      kept_eq_self fun c member => (base.bounded c member).1]
    simp
  obtain ⟨more, open'⟩ : ∃ more, kept inner ++ '/' :: ending rest = '/' :: more := by
    by_cases empty : inner = []
    · exact ⟨ending rest, by rw [empty]; rfl⟩
    · obtain ⟨others, rfl⟩ := rooted empty
      exact ⟨kept others ++ '/' :: ending rest, rfl⟩
  rw [open'] at cleaned ⊢
  have before : (base.name ++ ':' :: ('/' :: '/' :: (base.authority ++ '/' :: more))).takeWhile (· ≠ ':') = base.name := by
    rw [List.takeWhile_append_of_pos fun c member => decide_eq_true (base.letters c member).2]
    simp
  have after : (base.name ++ ':' :: ('/' :: '/' :: (base.authority ++ '/' :: more))).dropWhile (· ≠ ':') =
      ':' :: ('/' :: '/' :: (base.authority ++ '/' :: more)) := by
    rw [List.dropWhile_append_of_pos fun c member => decide_eq_true (base.letters c member).2]
    simp
  obtain ⟨letter, others, authority⟩ := List.exists_cons_of_ne_nil base.present
  have bounded : ∀ c ∈ base.authority, (!delimiter c) = true := fun c member => by rw [(base.bounded c member).2]; rfl
  have entered : ('/' :: '/' :: (base.authority ++ '/' :: more)).dropWhile slash = base.authority ++ '/' :: more := by
    have outside : slash letter = false := by
      have inside := (base.bounded letter (by simp [authority])).2
      simp only [delimiter, Bool.or_eq_false_iff] at inside
      exact inside.1.1
    have slashed : slash '/' = true := by decide
    simp [slashed, authority, outside]
  have ends : (!delimiter '/') = false := by decide
  have host : (base.authority ++ '/' :: more).takeWhile (fun c => !delimiter c) = base.authority := by
    rw [List.takeWhile_append_of_pos bounded]
    simp [ends]
  have located : (base.authority ++ '/' :: more).dropWhile (fun c => !delimiter c) = '/' :: more := by
    rw [List.dropWhile_append_of_pos bounded]
    simp [ends]
  simp only [Standard.parse, cleaned, before, after, base.named, Standard.authorize, entered, host, located]

/-- What the TypeScript client requests. -/
theorem ts_requestUrl (standard : Standard Origin) (base : Base) (path : ApiPath) :
    ts.requestUrl standard base.text path.text = (standard.authority base.scheme base.authority).map fun origin =>
      standard.locate base.scheme origin (kept base.stripped ++ '/' :: ending path.rest) := by
  rw [ts.requestUrl, baseUrl_text, ApiPath.text, parse_base base (rooted_stripped base)]

/-- What the Rust client resolves its paths against. -/
theorem rust_build (standard : Standard Origin) (base : Base) :
    rust.build standard base.text = (standard.authority base.scheme base.authority).map fun origin =>
      standard.locate base.scheme origin (kept base.stripped ++ ['/']) := by
  have normalised : (if endsWithSlash base.text then base.text else base.text ++ ['/']) = ts.baseUrl base.text ++ ['/'] := by
    unfold ts.baseUrl
    split
    next ends =>
      have last : '/' ∈ base.text.getLast? := by simpa [endsWithSlash] using ends
      exact (List.dropLast_append_getLast? '/' last).symm
    · rfl
  rw [rust.build, normalised, baseUrl_text, parse_base base (rooted_stripped base)]
  rfl

end Parsing

/-! ### When they agree -/

/-- The segments of the prefix, without the slash at its end. -/
def Base.segments (base : Base) : List Text :=
  if base.stripped = [] then [] else Sdk.segments (kept base.stripped).tail

/-- The path after its first slash, as it is parsed. -/
def ApiPath.tail (path : ApiPath) : Text := ending path.rest

/-- What a path that begins with two slashes names as authority. -/
def ApiPath.host (path : ApiPath) : Text := (path.tail.dropWhile slash).takeWhile (fun c => !delimiter c)

/-- What follows that authority, without the slash that opens it. -/
def ApiPath.afterHost (path : ApiPath) : Text :=
  match pathText ((path.tail.dropWhile slash).dropWhile (fun c => !delimiter c)) with
  | c :: rest => if slash c then rest else c :: rest
  | [] => []

/-- The path climbs over all that is left of the prefix. A path with two slashes in front also has to name
the authority of the base, and to climb over the empty segments and that authority. -/
def Agree (standard : Standard Origin) (origin : Origin) (base : Base) (path : ApiPath) : Prop :=
  if path.tail.head?.any slash then
    standard.authority base.scheme path.host = some origin ∧
      depth 0 (base.segments ++ Sdk.segments (path.tail.takeWhile slash ++ path.host)) ≤
        climb 0 (Sdk.segments path.afterHost)
  else depth 0 base.segments ≤ climb 0 (Sdk.segments (pathText path.tail))

section Agreement

variable {standard : Standard Origin} {base : Base} {path : ApiPath}

theorem segments_ne_nil (text : Text) : segments text ≠ [] := List.splitOnP_ne_nil slash text

section Fronts

variable {front : Text} (endless : ∀ c ∈ front, stop c = false) (text : Text)

include endless

theorem pathText_append : pathText (front ++ text) = front ++ pathText text :=
  List.takeWhile_append_of_pos fun c member => by rw [endless c member]; rfl

theorem query_append : standard.query (front ++ text) = standard.query text := by
  unfold Standard.query
  rw [List.dropWhile_append_of_pos fun c member => by rw [endless c member]; rfl]

theorem fragment_append : standard.fragment (front ++ text) = standard.fragment text := by
  unfold Standard.fragment
  rw [List.dropWhile_append_of_pos]
  intro c member
  have here := endless c member
  simp only [stop, Bool.or_eq_false_iff, decide_eq_false_iff_not] at here
  exact decide_eq_true here.2

end Fronts

theorem forall_of_all {p : Char → Prop} [DecidablePred p] {text : Text}
    (holds : text.all (fun c => decide (p c)) = true) : ∀ c ∈ text, p c :=
  fun c member => of_decide_eq_true (List.all_eq_true.mp holds c member)

theorem endless_slash : ∀ c ∈ ['/'], stop c = false := forall_of_all (by decide)

/-- The URL with the path alone. -/
theorem locate_path (scheme : Scheme) (origin : Origin) (tail : Text) :
    standard.locate scheme origin ('/' :: tail) =
      ⟨scheme, origin, standard.walk [] (segments (pathText tail)), standard.query tail, standard.fragment tail⟩ := by
  have slashed : slash '/' = true := by decide
  rw [Standard.locate, ← List.singleton_append, pathText_append endless_slash, query_append endless_slash,
    fragment_append endless_slash]
  simp only [List.singleton_append, slashed, if_true]

theorem endless_stripped (base : Base) : ∀ c ∈ kept base.stripped, stop c = false := by
  intro c member
  have inside : c ∈ base.stripped := List.mem_of_mem_filter member
  unfold Base.stripped ts.baseUrl at inside
  split at inside
  · exact base.endless c ((List.dropLast_sublist _).subset inside)
  · exact base.endless c inside

/-- The URL below the prefix. -/
theorem locate_prefix (origin : Origin) (base : Base) (path : ApiPath) :
    standard.locate base.scheme origin (kept base.stripped ++ '/' :: path.tail) = {
      scheme := base.scheme
      origin := origin
      path := standard.walk [] (base.segments ++ segments (pathText path.tail))
      query := standard.query path.tail
      fragment := standard.fragment path.tail } := by
  have slashed : slash '/' = true := by decide
  by_cases empty : base.stripped = []
  · rw [Base.segments, if_pos empty, empty]
    exact locate_path base.scheme origin path.tail
  · obtain ⟨more, rooted⟩ := rooted_stripped base empty
    have front : kept base.stripped = '/' :: kept more := by
      rw [rooted]
      rfl
    have text : pathText (kept base.stripped ++ '/' :: path.tail) = '/' :: (kept more ++ '/' :: pathText path.tail) := by
      rw [pathText_append (endless_stripped base), ← List.singleton_append (l := path.tail), pathText_append endless_slash,
        front]
      rfl
    have split : Sdk.segments (kept more ++ '/' :: pathText path.tail) =
        Sdk.segments (kept more) ++ Sdk.segments (pathText path.tail) := List.splitOnP_append_cons _ _ slashed
    rw [Base.segments, if_neg empty, front, List.tail_cons, ← split, ← front, Standard.locate, text,
      query_append (endless_stripped base), fragment_append (endless_stripped base), ← List.singleton_append (l := path.tail),
      query_append endless_slash, fragment_append endless_slash]
    simp only [slashed, if_true]

/-- The path that opens with two slashes, cut at its authority. -/
theorem tail_eq (path : ApiPath) : path.tail = path.tail.takeWhile slash ++ (path.host ++
    (path.tail.dropWhile slash).dropWhile (fun c => !delimiter c)) := by
  rw [ApiPath.host, List.takeWhile_append_dropWhile, List.takeWhile_append_dropWhile]

/-- The slashes in front and the authority after them. -/
theorem segments_host {slashes host : Text} (some : slashes ≠ []) (slashed : ∀ c ∈ slashes, slash c = true)
    (bounded : ∀ c ∈ host, slash c = false) : ∃ front, segments (slashes ++ host) = front ++ [[]] ++ [host] := by
  have alone : segments host = [host] := List.splitOnP_eq_singleton bounded
  obtain ⟨init, last, rfl⟩ := (List.eq_nil_or_concat slashes).resolve_left some
  have cut : segments (init ++ [last] ++ host) = segments init ++ [host] := by
    rw [List.append_assoc, List.singleton_append, ← alone]
    exact List.splitOnP_append_cons _ _ (slashed last (by simp))
  rcases List.eq_nil_or_concat init with rfl | ⟨before, final, rfl⟩
  · exact ⟨[], cut⟩
  · have inner : segments (before ++ [final]) = segments before ++ [[]] :=
      List.splitOnP_append_cons _ _ (slashed final (by simp))
    rw [List.concat_eq_append] at cut
    exact ⟨segments before, by rw [List.concat_eq_append, List.concat_eq_append, cut, inner]⟩

/-- A last segment leaves a single empty one only where it climbs to the top. -/
theorem finish_eq_iff (path : List Text) (host : Text) :
    standard.walk [] [[]] = standard.finish (path ++ [[]]) host ↔ (standard.enter (path ++ [[]]) host).length ≤ climb 0 [[]] := by
  have top : standard.walk [] [[]] = [[]] := rfl
  have none : climb 0 [[]] = 0 := rfl
  rw [top, none]
  unfold Standard.finish Standard.enter
  split
  · rw [List.dropLast_concat, Nat.le_zero, List.length_eq_zero_iff]
    constructor
    · intro same
      simpa using same
    · rintro rfl
      rfl
  · have longer : ∀ last, [[]] ≠ path ++ [[]] ++ [last] := by
      intro last same
      have lengths := congrArg List.length same
      simp at lengths
    split
    · exact ⟨fun same => absurd same (longer _), fun short => absurd short (by simp)⟩
    · exact ⟨fun same => absurd same (longer _), fun short => absurd short (by simp)⟩

theorem endless_host (path : ApiPath) : ∀ c ∈ path.tail.takeWhile slash ++ path.host, stop c = false := by
  intro c member
  rcases List.mem_append.mp member with slashes | host
  · have here : slash c = true := List.mem_takeWhile_imp slashes
    simp only [slash, Bool.or_eq_true, decide_eq_true_eq] at here
    rcases here with rfl | rfl <;> decide
  · have here : delimiter c = false := by simpa using List.mem_takeWhile_imp host
    simp only [delimiter, Bool.or_eq_false_iff] at here
    simp only [stop, here.1.2, here.2, Bool.or_self]

/-- A path that opens with two slashes, under the prefix and under the authority it names. -/
theorem walk_host (standard : Standard Origin) (base : Base) (path : ApiPath) (doubled : path.tail.head?.any slash = true) :
    standard.walk [] (segments path.afterHost) = standard.walk [] (base.segments ++ segments (pathText path.tail)) ↔
      depth 0 (base.segments ++ segments (path.tail.takeWhile slash ++ path.host)) ≤ climb 0 (segments path.afterHost) := by
  let rest := (path.tail.dropWhile slash).dropWhile (fun c => !delimiter c)
  have slashes : ∀ c ∈ path.tail.takeWhile slash, slash c = true := fun c member => List.mem_takeWhile_imp member
  have bounded : ∀ c ∈ path.host, delimiter c = false := by
    intro c member
    simpa using List.mem_takeWhile_imp member
  have plain : ∀ c ∈ path.host, slash c = false := by
    intro c member
    have here := bounded c member
    simp only [delimiter, Bool.or_eq_false_iff] at here
    exact here.1.1
  have nonempty : path.tail.takeWhile slash ≠ [] := by
    cases tail : path.tail with
    | nil => simp [tail] at doubled
    | cons c more =>
      have opens : slash c = true := by simpa [tail] using doubled
      simp [opens]
  have text : pathText path.tail = (path.tail.takeWhile slash ++ path.host) ++ pathText rest := by
    rw [← pathText_append (endless_host path), List.append_assoc, ← tail_eq]
  have entered : depth 0 (base.segments ++ segments (path.tail.takeWhile slash ++ path.host)) = _ :=
    (length_enter standard [] _).symm
  rw [text, entered]
  cases found : pathText rest with
  | nil =>
    have after : path.afterHost = [] := by
      unfold ApiPath.afterHost
      rw [show pathText ((path.tail.dropWhile slash).dropWhile fun c => !delimiter c) = [] from found]
    obtain ⟨front, cut⟩ := segments_host nonempty slashes plain
    have alone : segments ([] : Text) = [[]] := rfl
    rw [List.append_nil, cut, after, alone, ← List.append_assoc, ← List.append_assoc,
      walk_append _ (List.cons_ne_nil _ _)]
    simp only [List.foldl_append, List.foldl_cons, List.foldl_nil]
    exact finish_eq_iff _ path.host
  | cons c more =>
    have opens : slash c = true := by
      have ends : ∀ text : Text, (text.dropWhile fun c => !delimiter c).head?.all delimiter = true := by
        intro text
        induction text with
        | nil => rfl
        | cons first text ih =>
          rw [List.dropWhile_cons]
          split
          · exact ih
          next outside => simpa using outside
      have first := ends (path.tail.dropWhile slash)
      change rest.head?.all delimiter = true at first
      cases shape : rest with
      | nil => simp [shape, pathText] at found
      | cons head others =>
        simp only [shape, pathText, List.takeWhile_cons] at found
        split at found
        next open' =>
          cases found
          simp only [shape, List.head?_cons, Option.all_some, delimiter, Bool.or_eq_true] at first
          simp only [stop, Bool.not_eq_true', Bool.or_eq_false_iff] at open'
          simpa [open'.1, open'.2] using first
        · cases found
    have after : path.afterHost = more := by
      unfold ApiPath.afterHost
      rw [show pathText ((path.tail.dropWhile slash).dropWhile fun c => !delimiter c) = c :: more from found]
      simp only [opens, if_true]
    have cut : segments (path.tail.takeWhile slash ++ path.host ++ c :: more) =
        segments (path.tail.takeWhile slash ++ path.host) ++ segments more := List.splitOnP_append_cons _ _ opens
    rw [after, cut, ← List.append_assoc, walk_append _ (segments_ne_nil _), eq_comm, walk_eq_iff (segments_ne_nil _)]

end Agreement

/-- The Rust client requests the base followed by the path, as the TypeScript client does, exactly in these cases. -/
theorem same_url_iff (standard : Standard Origin) (base : Base) (path : ApiPath) (origin : Origin)
    (valid : standard.authority base.scheme base.authority = some origin) :
    rust.requestUrl standard base.text path.text = ts.requestUrl standard base.text path.text ↔
      Agree standard origin base path := by
  rw [ts_requestUrl, rust.requestUrl, rust_build, valid]
  simp only [Option.map_some, Option.bind_some]
  rw [ApiPath.text, Standard.join, clean_slash, show ending path.rest = path.tail from rfl, locate_prefix]
  unfold Agree
  by_cases doubled : path.tail.head?.any slash
  · simp only [doubled, if_true]
    rw [← walk_host standard base path doubled, Standard.authorize]
    change Option.map (fun other => standard.locate base.scheme other _) (standard.authority base.scheme path.host) = _ ↔ _
    cases standard.authority base.scheme path.host with
    | none => simp
    | some other =>
      have query : standard.query path.tail =
          standard.query ((path.tail.dropWhile slash).dropWhile fun c => !delimiter c) := by
        conv_lhs => rw [tail_eq, ← List.append_assoc, query_append (endless_host path)]
      have fragment : standard.fragment path.tail =
          standard.fragment ((path.tail.dropWhile slash).dropWhile fun c => !delimiter c) := by
        conv_lhs => rw [tail_eq, ← List.append_assoc, fragment_append (endless_host path)]
      rw [Option.map_some, Option.some.injEq, Option.some.injEq, Url.mk.injEq, query, fragment]
      simp only [Standard.locate, true_and, and_true]
      rfl
  · simp only [doubled]
    rw [if_neg Bool.false_ne_true, if_neg Bool.false_ne_true, walk_append _ (segments_ne_nil _)]
    change some (standard.locate base.scheme origin ('/' :: path.tail)) = _ ↔ _
    rw [locate_path, Option.some.injEq, Url.mk.injEq, eq_comm (a := standard.walk [] _), walk_eq_iff (segments_ne_nil _),
      length_enter]
    simp

/-- Hosts that need no normalisation, and characters that need no encoding. -/
def plainStandard : Standard Text where
  authority _ text := if text = [] then none else some text
  encodePath c := [c]
  encodeQuery c := [c]
  encodeFragment c := [c]

/-- A self-hosted server at the root of its host, or under a prefix. -/
def selfHosted (pathPrefix : Text) (rooted : pathPrefix ≠ [] → ∃ rest, pathPrefix = '/' :: rest)
    (endless : ∀ c ∈ pathPrefix, stop c = false) : Base where
  scheme := .https
  name := "https".toList
  authority := "kit.example".toList
  pathPrefix := pathPrefix
  named := by decide
  letters := forall_of_all (by decide)
  present := by decide
  bounded := forall_of_all (by decide)
  rooted := rooted
  endless := endless

def atRoot : Base := selfHosted ['/'] (fun _ => ⟨[], rfl⟩) (forall_of_all (by decide))
def underPrefix : Base := selfHosted "/mpckit/".toList (fun _ => ⟨"mpckit/".toList, rfl⟩) (forall_of_all (by decide))

def pricing : ApiPath := ⟨"v1/billing/pricing".toList⟩

theorem same_url_iff_sample :
    rust.requestUrl plainStandard atRoot.text pricing.text = ts.requestUrl plainStandard atRoot.text pricing.text :=
  (same_url_iff plainStandard atRoot pricing "kit.example".toList (by decide)).mpr (by
    unfold Agree
    decide +kernel)

/-- `https://kit.example/v1/billing/pricing` instead of `https://kit.example/mpckit/v1/billing/pricing`. -/
theorem prefix_dropped :
    rust.requestUrl plainStandard underPrefix.text pricing.text =
      some ⟨.https, "kit.example".toList, ["v1".toList, "billing".toList, "pricing".toList], none, none⟩ ∧
    ts.requestUrl plainStandard underPrefix.text pricing.text =
      some ⟨.https, "kit.example".toList, ["mpckit".toList, "v1".toList, "billing".toList, "pricing".toList], none, none⟩ ∧
    rust.requestUrl plainStandard underPrefix.text pricing.text ≠
      ts.requestUrl plainStandard underPrefix.text pricing.text := by
  decide +kernel

end MpcKit.Sdk
