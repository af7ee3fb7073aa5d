import Mathlib.Data.List.Infix
import MpcKit.Core.Assertion

/-! Client data as browsers write it: a flat JSON object without whitespace. In such a text the
substring searches of the passkey check find fields, and nothing inside another value. -/

namespace MpcKit.Core
namespace assertion

def backslash : UInt8 := 92

/-- A byte that needs no escape. -/
def Plain (byte : UInt8) : Prop := byte ≠ 34 ∧ byte ≠ backslash ∧ 32 ≤ byte

instance (byte : UInt8) : Decidable (Plain byte) := inferInstanceAs (Decidable (_ ∧ _ ∧ _))

/-- How a serialiser goes on after the backslash of a control character: `n`, `u000a`. -/
structure Escapes where
  code : UInt8 → Bytes
  unquoted : ∀ byte, ∀ other ∈ code byte, other ≠ 34 ∧ other ≠ backslash

def Escapes.byte (escapes : Escapes) (byte : UInt8) : Bytes :=
  if byte = 34 then [backslash, 34]
  else if byte = backslash then [backslash, backslash]
  else if byte < 32 then backslash :: escapes.code byte
  else [byte]

/-- The inside of a string literal. -/
def Escapes.text (escapes : Escapes) (content : Bytes) : Bytes := content.flatMap escapes.byte

inductive Value where
  | boolean (value : Bool)
  | text (content : Bytes)
  deriving DecidableEq, Repr

/-- A flat object; keys have no quote and no backslash and are pairwise distinct. -/
structure ClientData where
  fields : List (Bytes × Value)
  distinct : (fields.map Prod.fst).Nodup
  keys : ∀ field ∈ fields, ∀ byte ∈ field.1, byte ≠ 34 ∧ byte ≠ backslash

namespace ClientData

def get (object : ClientData) (key : Bytes) : Option Value :=
  (object.fields.find? (fun field => field.1 = key)).map Prod.snd

def literal (escapes : Escapes) (content : Bytes) : Bytes := quote ++ escapes.text content ++ quote

def value (escapes : Escapes) : Value → Bytes
  | .boolean true => ascii "true"
  | .boolean false => ascii "false"
  | .text content => literal escapes content

def field (escapes : Escapes) (entry : Bytes × Value) : Bytes :=
  literal escapes entry.1 ++ ascii ":" ++ value escapes entry.2

/-- The compact serialisation. -/
def serialise (escapes : Escapes) (object : ClientData) : Bytes :=
  ascii "\x7b" ++ (ascii ",").intercalate (object.fields.map (field escapes)) ++ ascii "\x7d"

end ClientData

/-! ### What a needle can match -/

/-- `"key":"content"`. -/
def needle (key content : Bytes) : Bytes := quote ++ key ++ ascii "\":\"" ++ content ++ quote

/-- No quote and no backslash. -/
def Clean (text : Bytes) : Prop := ∀ byte ∈ text, byte ≠ 34 ∧ byte ≠ backslash

instance (text : Bytes) : Decidable (Clean text) := inferInstanceAs (Decidable (∀ byte ∈ text, _))

/-- A key that does not begin like anything that follows a closing quote. -/
structure Word (key : Bytes) : Prop where
  clean : Clean key
  starts : ∃ first rest, key = first :: rest ∧ first ≠ 58 ∧ first ≠ 44 ∧ first ≠ 125

/-- The text goes on after a value, with a comma or the closing brace. -/
def Ends (rest : Bytes) : Prop := ∃ first more, rest = first :: more ∧ (first = 44 ∨ first = 125)

section Matching

variable {escapes : Escapes} {key content : Bytes}

theorem Clean.tail {first : UInt8} {rest : Bytes} (clean : Clean (first :: rest)) : Clean rest :=
  fun byte member => clean byte (List.mem_cons_of_mem _ member)

theorem text_cons (escapes : Escapes) (byte : UInt8) (content : Bytes) :
    escapes.text (byte :: content) = escapes.byte byte ++ escapes.text content := List.flatMap_cons

/-- A byte stands for itself or is written with a backslash in front. -/
theorem byte_cases (escapes : Escapes) (byte : UInt8) :
    escapes.byte byte = [byte] ∧ byte ≠ 34 ∧ byte ≠ backslash ∨ ∃ code, escapes.byte byte = backslash :: code ∧
      (code = [34] ∨ ∀ other ∈ code, other ≠ 34) := by
  unfold Escapes.byte
  split
  · exact .inr ⟨[34], rfl, .inl rfl⟩
  next unquoted =>
    split
    · exact .inr ⟨[backslash], rfl, .inr (by simp [backslash])⟩
    next unescaped =>
      split
      · exact .inr ⟨escapes.code byte, rfl, .inr fun other member => (escapes.unquoted byte other member).1⟩
      · exact .inl ⟨rfl, unquoted, unescaped⟩

/-- A clean text up to a quote is the whole inside of a literal. -/
theorem read_text {front rest : Bytes} (clean : Clean key)
    (matched : key ++ 34 :: front <+: escapes.text content ++ 34 :: rest) :
    key = escapes.text content ∧ front <+: rest := by
  induction content generalizing key with
  | nil =>
    cases key with
    | nil =>
      simp only [Escapes.text, List.flatMap_nil, List.nil_append, List.prefix_cons_inj] at matched
      exact ⟨rfl, matched⟩
    | cons first key =>
      have same := (List.cons_prefix_cons.mp matched).1
      exact absurd same (clean first List.mem_cons_self).1
  | cons byte content ih =>
    rw [text_cons] at matched ⊢
    rcases byte_cases escapes byte with ⟨itself, unquoted, _⟩ | ⟨code, escaped, _⟩
    · rw [itself] at matched ⊢
      cases key with
      | nil => exact absurd (List.cons_prefix_cons.mp matched).1.symm unquoted
      | cons first key =>
        obtain ⟨same, further⟩ := List.cons_prefix_cons.mp matched
        obtain ⟨read, more⟩ := ih clean.tail further
        exact ⟨by rw [same, read]; rfl, more⟩
    · rw [escaped] at matched
      cases key with
      | nil => exact absurd (List.cons_prefix_cons.mp matched).1 (by decide)
      | cons first key =>
        have same := (List.cons_prefix_cons.mp matched).1
        exact absurd same (clean first List.mem_cons_self).2

theorem needle_eq (key content : Bytes) :
    needle key content = 34 :: (key ++ 34 :: (58 :: 34 :: (content ++ [34]))) := by
  have colon : ascii "\":\"" = [34, 58, 34] := by decide
  simp [needle, quote, colon]

/-- A needle begins with a quote. -/
theorem no_needle {byte : UInt8} {rest : Bytes} (other : byte ≠ 34) : ¬needle key content <+: byte :: rest := by
  rw [needle_eq, List.cons_prefix_cons]
  exact fun same => other same.1.symm

theorem infix_skip {front rest : Bytes} (unquoted : ∀ byte ∈ front, byte ≠ 34) :
    needle key content <:+: front ++ rest ↔ needle key content <:+: rest := by
  induction front with
  | nil => rfl
  | cons byte front ih =>
    rw [List.cons_append, List.infix_cons_iff, ih fun other member => unquoted other (List.mem_cons_of_mem _ member)]
    exact or_iff_right (no_needle (unquoted byte List.mem_cons_self))

/-- Inside a literal only escaped quotes could begin a match. -/
theorem infix_text {inner rest : Bytes} (none : ∀ later, ¬needle key content <+: 34 :: (escapes.text later ++ rest)) :
    needle key content <:+: escapes.text inner ++ rest ↔ needle key content <:+: rest := by
  induction inner with
  | nil => rfl
  | cons byte inner ih =>
    rw [text_cons, List.append_assoc, ← ih]
    rcases byte_cases escapes byte with ⟨itself, unquoted, _⟩ | ⟨code, escaped, rfl | unquoted⟩
    · rw [itself]
      exact infix_skip (by simpa using unquoted)
    · rw [escaped, List.cons_append, List.infix_cons_iff, List.singleton_append, List.infix_cons_iff]
      rw [or_iff_right (no_needle (by decide)), or_iff_right (none inner)]
    · rw [escaped]
      refine infix_skip fun other member => ?_
      rcases List.mem_cons.mp member with rfl | inside
      · decide
      · exact unquoted other inside

end Matching

/-! ### Fields -/

section Fields

variable {escapes : Escapes} {key content : Bytes}

theorem no_needle_ends {rest : Bytes} (word : Word key) (ends : Ends rest) : ¬needle key content <+: 34 :: rest := by
  obtain ⟨first, more, rfl, after⟩ := ends
  obtain ⟨letter, others, rfl, _, comma, brace⟩ := word.starts
  intro matched
  rw [needle_eq, List.prefix_cons_inj, List.cons_append, List.cons_prefix_cons] at matched
  rcases after with rfl | rfl
  · exact comma matched.1
  · exact brace matched.1

/-- A literal that is a value is not followed by a colon. -/
theorem no_needle_value {inner rest : Bytes} (word : Word key) (ends : Ends rest) :
    ¬needle key content <+: 34 :: (escapes.text inner ++ 34 :: rest) := by
  obtain ⟨first, more, rfl, after⟩ := ends
  intro matched
  rw [needle_eq, List.prefix_cons_inj] at matched
  have colon := (List.cons_prefix_cons.mp (read_text word.clean matched).2).1
  rcases after with rfl | rfl <;> cases colon

theorem infix_value {value : Value} {rest : Bytes} (word : Word key) (ends : Ends rest) :
    needle key content <:+: ClientData.value escapes value ++ rest ↔ needle key content <:+: rest := by
  cases value with
  | boolean value =>
    cases value with
    | false => exact infix_skip (by simp [ClientData.value, ascii])
    | true => exact infix_skip (by simp [ClientData.value, ascii])
  | text inner =>
    have shape : ClientData.value escapes (.text inner) ++ rest = 34 :: (escapes.text inner ++ 34 :: rest) := by
      simp [ClientData.value, ClientData.literal, quote]
    rw [shape, List.infix_cons_iff, or_iff_right (no_needle_value word ends),
      infix_text fun later => no_needle_value word ends, List.infix_cons_iff, or_iff_right (no_needle_ends word ends)]

/-- The text of a value is a given literal. -/
theorem prefix_value {value : Value} {rest : Bytes} (clean : Clean content) :
    34 :: (content ++ [34]) <+: ClientData.value escapes value ++ rest ↔
      ∃ inner, value = .text inner ∧ content = escapes.text inner := by
  cases value with
  | boolean value =>
    have unquoted : ¬34 :: (content ++ [34]) <+: ClientData.value escapes (.boolean value) ++ rest := by
      cases value with
      | false => simp [ClientData.value, ascii, List.cons_prefix_cons]
      | true => simp [ClientData.value, ascii, List.cons_prefix_cons]
    simp [unquoted]
  | text inner =>
    have shape : ClientData.value escapes (.text inner) ++ rest = 34 :: (escapes.text inner ++ 34 :: rest) := by
      simp [ClientData.value, ClientData.literal, quote]
    rw [shape, List.prefix_cons_inj]
    constructor
    · intro matched
      exact ⟨inner, rfl, (read_text clean matched).1⟩
    · rintro ⟨other, same, rfl⟩
      cases same
      exact ⟨rest, by simp⟩

/-- A literal without quotes and backslashes shows no quote, whatever else it escapes. -/
theorem unquoted_text (clean : Clean content) : ∀ byte ∈ escapes.text content, byte ≠ 34 := by
  intro byte member
  obtain ⟨origin, inside, written⟩ := List.mem_flatMap.mp member
  obtain ⟨unquoted, unescaped⟩ := clean origin inside
  rw [Escapes.byte, if_neg unquoted, if_neg unescaped] at written
  split at written
  · rcases List.mem_cons.mp written with rfl | coded
    · decide
    · exact (escapes.unquoted origin byte coded).1
  · rw [List.mem_singleton.mp written]
    exact unquoted

theorem infix_field {entry : Bytes × Value} {rest : Bytes} (word : Word key) (clean : Clean content)
    (unquoted : ∀ byte ∈ entry.1, byte ≠ 34 ∧ byte ≠ backslash) (ends : Ends rest) :
    needle key content <:+: ClientData.field escapes entry ++ rest ↔
      (key = escapes.text entry.1 ∧ ∃ inner, entry.2 = .text inner ∧ content = escapes.text inner) ∨
        needle key content <:+: rest := by
  have shape : ClientData.field escapes entry ++ rest =
      34 :: (escapes.text entry.1 ++ 34 :: 58 :: (ClientData.value escapes entry.2 ++ rest)) := by
    have colon : ascii ":" = [58] := by decide
    simp [ClientData.field, ClientData.literal, quote, colon]
  have inside : ∀ byte ∈ escapes.text entry.1, byte ≠ 34 := unquoted_text unquoted
  have opening : needle key content <+: 34 :: (escapes.text entry.1 ++ 34 :: 58 :: (ClientData.value escapes entry.2 ++ rest)) ↔
      key = escapes.text entry.1 ∧ ∃ inner, entry.2 = .text inner ∧ content = escapes.text inner := by
    rw [needle_eq, List.prefix_cons_inj, ← prefix_value clean]
    constructor
    · intro matched
      obtain ⟨read, further⟩ := read_text word.clean matched
      exact ⟨read, (List.prefix_cons_inj 58).mp further⟩
    · rintro ⟨rfl, further⟩
      rw [List.prefix_append_right_inj, List.prefix_cons_inj, List.prefix_cons_inj]
      exact further
  have closing : ¬needle key content <+: 34 :: 58 :: (ClientData.value escapes entry.2 ++ rest) := by
    obtain ⟨letter, others, rfl, colon, _, _⟩ := word.starts
    intro matched
    rw [needle_eq, List.prefix_cons_inj, List.cons_append, List.cons_prefix_cons] at matched
    exact colon matched.1
  rw [shape, List.infix_cons_iff, opening, infix_skip inside, List.infix_cons_iff, or_iff_right closing,
    List.infix_cons_iff, or_iff_right (no_needle (by decide)), infix_value word ends]

/-- A literal that reads like a text without escapes has that text as its content. -/
theorem text_eq {plain : Bytes} (needless : ∀ byte ∈ plain, Plain byte) : plain = escapes.text content ↔ content = plain := by
  constructor
  · intro read
    induction content generalizing plain with
    | nil => exact read.symm
    | cons byte content ih =>
      rw [text_cons] at read
      rcases byte_cases escapes byte with ⟨itself, _⟩ | ⟨code, escaped, _⟩
      · rw [itself] at read
        subst read
        exact congrArg (byte :: ·) (ih (fun other member => needless other (List.mem_cons_of_mem _ member)) rfl)
      · rw [escaped] at read
        have first : backslash ∈ plain := read ▸ List.mem_cons_self
        exact absurd rfl (needless backslash first).2.1
  · rintro rfl
    induction content with
    | nil => rfl
    | cons byte content ih =>
      obtain ⟨unquoted, unescaped, printable⟩ := needless byte List.mem_cons_self
      rw [text_cons, Escapes.byte, if_neg unquoted, if_neg unescaped, if_neg (UInt8.not_lt.mpr printable),
        List.singleton_append, ← ih fun other member => needless other (List.mem_cons_of_mem _ member)]

/-- The fields after the first one, and the closing brace. -/
theorem infix_fields {fields : List (Bytes × Value)} (word : Word key) (clean : Clean content)
    (unquoted : ∀ entry ∈ fields, ∀ byte ∈ entry.1, byte ≠ 34 ∧ byte ≠ backslash) :
    Ends (fields.flatMap (fun entry => 44 :: ClientData.field escapes entry) ++ [125]) ∧
    (needle key content <:+: fields.flatMap (fun entry => 44 :: ClientData.field escapes entry) ++ [125] ↔
      ∃ entry ∈ fields, key = escapes.text entry.1 ∧ ∃ inner, entry.2 = .text inner ∧ content = escapes.text inner) := by
  induction fields with
  | nil =>
    refine ⟨⟨125, [], rfl, .inr rfl⟩, ?_⟩
    have alone : ¬needle key content <:+: [] ++ [125] := by
      rw [List.nil_append, List.infix_cons_iff, or_iff_right (no_needle (by decide)), needle_eq]
      simp
    simp only [List.flatMap_nil, alone, List.not_mem_nil, false_and, exists_false]
  | cons entry fields ih =>
    obtain ⟨ends, later⟩ := ih fun other member => unquoted other (List.mem_cons_of_mem _ member)
    rw [List.flatMap_cons, List.append_assoc, List.cons_append]
    refine ⟨⟨44, _, rfl, .inl rfl⟩, ?_⟩
    rw [List.infix_cons_iff, or_iff_right (no_needle (by decide)),
      infix_field word clean (unquoted entry List.mem_cons_self) ends, later]
    simp only [List.mem_cons, exists_eq_or_imp]

end Fields

namespace ClientData

variable {escapes : Escapes} {object : ClientData} {key content : Bytes}

theorem intercalate_comma (first : Bytes) (rest : List Bytes) :
    [44].intercalate (first :: rest) = first ++ rest.flatMap (fun text => 44 :: text) := by
  induction rest generalizing first with
  | nil => simp [List.intercalate]
  | cons second rest ih =>
    rw [List.flatMap_cons, List.cons_append, ← ih second]
    simp [List.intercalate]

theorem serialise_eq (escapes : Escapes) (object : ClientData) :
    object.serialise escapes = match object.fields with
      | [] => [123, 125]
      | entry :: fields => 123 :: (field escapes entry ++
          (fields.flatMap (fun entry => 44 :: field escapes entry) ++ [125])) := by
  have opened : ascii "\x7b" = [123] := by decide
  have comma : ascii "," = [44] := by decide
  have closed : ascii "\x7d" = [125] := by decide
  rw [serialise, opened, comma, closed]
  cases object.fields with
  | nil => rfl
  | cons entry fields => simp [intercalate_comma, List.flatMap_map]

theorem get_eq_some {value : Value} : object.get key = some value ↔ (key, value) ∈ object.fields := by
  obtain ⟨fields, distinct, keys⟩ := object
  simp only [get]
  induction fields with
  | nil => simp
  | cons entry fields ih =>
    obtain ⟨unused, others⟩ := List.nodup_cons.mp distinct
    rw [List.find?_cons]
    by_cases same : entry.1 = key
    · have absent : (key, value) ∉ fields := by
        intro member
        exact unused (same ▸ List.mem_map_of_mem (f := Prod.fst) member)
      simp only [same, decide_true, Option.map_some, Option.some.injEq, List.mem_cons, absent, or_false]
      constructor
      · rintro rfl
        rw [← same]
      · intro equal
        rw [← equal]
    · have other : (key, value) ≠ entry := by
        rintro rfl
        exact same rfl
      simp only [same, decide_false, List.mem_cons, other, false_or]
      exact ih others (fun field member => keys field (List.mem_cons_of_mem _ member))

/-- A needle occurs exactly if the object has its field. -/
theorem infix_serialise (word : Word key) (plain : ∀ byte ∈ key, Plain byte) (printable : ∀ byte ∈ content, Plain byte) :
    needle key content <:+: object.serialise escapes ↔ object.get key = some (.text content) := by
  have clean : Clean content := fun byte member => ⟨(printable byte member).1, (printable byte member).2.1⟩
  have found : (∃ entry ∈ object.fields, key = escapes.text entry.1 ∧
      ∃ inner, entry.2 = .text inner ∧ content = escapes.text inner) ↔ object.get key = some (.text content) := by
    simp only [get_eq_some, text_eq plain, text_eq printable]
    constructor
    · rintro ⟨⟨name, value⟩, member, rfl, inner, rfl, rfl⟩
      exact member
    · intro member
      exact ⟨_, member, rfl, _, rfl, rfl⟩
  rw [serialise_eq, ← found]
  obtain ⟨fields, distinct, unquoted⟩ := object
  cases fields with
  | nil =>
    simp only [List.not_mem_nil, false_and, exists_false, iff_false]
    rw [List.infix_cons_iff, or_iff_right (no_needle (by decide)), List.infix_cons_iff,
      or_iff_right (no_needle (by decide)), needle_eq]
    simp
  | cons entry fields =>
    obtain ⟨ends, later⟩ := @infix_fields escapes key content fields word clean
      fun other member => unquoted other (List.mem_cons_of_mem _ member)
    simp only
    rw [List.infix_cons_iff, or_iff_right (no_needle (by decide)),
      infix_field word clean (unquoted entry List.mem_cons_self) ends, later]
    simp only [List.mem_cons, exists_eq_or_imp]

end ClientData

theorem symbol_mem (bits : UInt64) : symbol bits ∈ alphabet := by
  have inside : (bits &&& 0x3f).toNat < alphabet.length := by
    have length : alphabet.length = 64 := by decide
    rw [length, UInt64.toNat_and]
    exact Nat.lt_succ_of_le Nat.and_le_right
  rw [symbol, List.getD_eq_getElem _ _ inside]
  exact List.getElem_mem inside

theorem mem_base64url {input : Bytes} {byte : UInt8} (member : byte ∈ base64url input) : byte ∈ alphabet := by
  rw [base64url, ← List.flatMap_eq_foldl] at member
  simp only [List.mem_append, List.mem_flatMap, List.mem_cons, List.not_mem_nil, or_false] at member
  rcases member with ⟨group, _, rfl | rfl | rfl | rfl⟩ | rfl | rfl | rfl <;> exact symbol_mem _

theorem word_type : Word (ascii "type") := ⟨by decide +kernel, 116, ascii "ype", by decide, by decide, by decide, by decide⟩
theorem word_challenge : Word (ascii "challenge") :=
  ⟨by decide +kernel, 99, ascii "hallenge", by decide, by decide, by decide, by decide⟩
theorem word_origin : Word (ascii "origin") :=
  ⟨by decide +kernel, 111, ascii "rigin", by decide, by decide, by decide, by decide⟩

/-- Client data in compact JSON passes exactly if its own fields name the challenge, the type and the
origin, whatever else the object says. -/
theorem verifyClientDataJson_serialise (escapes : Escapes) (object : ClientData) (challenge : Bytes)
    (sized : challenge.length = 32) :
    verifyClientDataJson (object.serialise escapes) challenge = .ok () ↔
      object.get (ascii "type") = some (.text (ascii "webauthn.get")) ∧
      object.get (ascii "challenge") = some (.text (base64url challenge)) ∧
      object.get (ascii "origin") = some (.text expectedOrigin) := by
  have type : typeNeedle = needle (ascii "type") (ascii "webauthn.get") := by decide
  have origin : originNeedle = needle (ascii "origin") expectedOrigin := by decide
  have named : challengeNeedle (base64url challenge) = needle (ascii "challenge") (base64url challenge) := by
    have opening : ascii "\"challenge\":\"" = quote ++ ascii "challenge" ++ ascii "\":\"" := by decide
    rw [challengeNeedle, needle, opening]
  have alphabetic : ∀ byte ∈ alphabet, Plain byte := by decide +kernel
  rw [verifyClientDataJson_eq_ok, Names, type, origin, named,
    ClientData.infix_serialise word_type (by decide +kernel) (by decide +kernel),
    ClientData.infix_serialise word_origin (by decide +kernel) (by decide +kernel),
    ClientData.infix_serialise word_challenge (by decide +kernel) fun byte member => alphabetic byte (mem_base64url member)]
  constructor
  · rintro ⟨_, challenged, typed, located⟩
    exact ⟨typed, challenged, located⟩
  · rintro ⟨typed, challenged, located⟩
    exact ⟨sized, challenged, typed, located⟩

/-- A hostile value quotes all three fields, but the object has another origin. -/
def spoofed (origin : Bytes) : ClientData where
  fields := [(ascii "type", .text (ascii "webauthn.get")),
    (ascii "challenge", .text (base64url (List.replicate 32 0))), (ascii "origin", .text origin),
    (ascii "crossOrigin", .boolean false), (ascii "extra", .text originNeedle)]
  distinct := by
    simp only [List.map_cons, List.map_nil]
    decide +kernel
  keys := by
    simp only [List.forall_mem_cons, List.not_mem_nil, false_implies, implies_true, and_true]
    decide +kernel

def newlines : Escapes := ⟨fun _ => ascii "n", fun _ => by decide +kernel⟩

theorem verifyClientDataJson_serialise_sample :
    verifyClientDataJson ((spoofed expectedOrigin).serialise newlines) (List.replicate 32 0) =
      .ok () ∧
    verifyClientDataJson ((spoofed (ascii "https://evil.example")).serialise newlines)
      (List.replicate 32 0) ≠ .ok () := by
  refine ⟨(verifyClientDataJson_serialise _ _ _ (by decide)).mpr ⟨by decide +kernel, by decide +kernel, by decide +kernel⟩, ?_⟩
  rw [Ne, verifyClientDataJson_serialise _ _ _ (by decide)]
  decide +kernel

end assertion
end MpcKit.Core
