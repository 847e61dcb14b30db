import AddressBook.Proofs.Http.Unlinking
import AddressBook.Proofs.Json.Scalar
import Mathlib.Data.Bool.AllAny

namespace AddressBook

/-- The bytes of characters below U+0080. -/
def Bytes.ofAscii (text : List Char) : Bytes := text.map fun c => UInt8.ofNat c.toNat

namespace Text

theorem utf8Lead_of_ascii {first : UInt8} (ascii : first.toNat < 0x80) (rest : Bytes) :
    utf8Lead first rest = .character first.toNat 1 := by
  have alone : followers first 0 rest = 0 := by
    cases rest with
    | nil => rfl
    | cons second rest => simp [followers]
  unfold utf8Lead
  simp only [if_pos ascii, alone]
  rw [if_neg (by omega)]
  rfl

theorem spelledSurrogate?_of_ascii {first : UInt8} (ascii : first.toNat < 0x80) (rest : Bytes) :
    spelledSurrogate? (first :: rest) = none := by
  unfold spelledSurrogate?
  split
  next same =>
    cases same
    exact absurd ascii (by decide)
  next => rfl

theorem decodeUtf8_ofAscii {text : List Char} (ascii : ∀ c ∈ text, c.toNat < 0x80) (lenient : Bool)
    (offset : Nat) : decodeUtf8 lenient offset (Bytes.ofAscii text) = .ok text := by
  induction text generalizing offset with
  | nil => rw [Bytes.ofAscii, List.map_nil, decodeUtf8]
  | cons c rest ih =>
    have low := ascii c (by simp)
    have byte : (UInt8.ofNat c.toNat).toNat = c.toNat :=
      UInt8.toNat_ofNat_of_lt' (Nat.lt_trans low (by decide))
    have first : (UInt8.ofNat c.toNat).toNat < 0x80 := by omega
    have character : charOf c.toNat = c := by
      rw [charOf, if_neg (by omega), Char.ofNat_toNat]
    have tail := ih (fun d member => ascii d (List.mem_cons_of_mem _ member)) (offset + 1)
    rw [Bytes.ofAscii, List.map_cons, decodeUtf8, utf8Lead_of_ascii first, byte]
    · simp only [Nat.sub_self, List.drop_zero]
      rw [← Bytes.ofAscii, tail, Except.map, character]
    · intro n _ spelled
      rw [spelledSurrogate?_of_ascii first] at spelled
      cases spelled

end Text

namespace Json

theorem readString_of_plain {text : List Char} (plain : ∀ c ∈ text, IsPlain c) (start offset : Nat)
    (rest before : List Char) :
    readString start offset (text ++ '"' :: rest) before =
      .ok (String.ofList (before.reverse ++ text), ⟨offset + text.length + 1, rest⟩) := by
  induction text generalizing offset before with
  | nil => rw [List.nil_append, readString, List.append_nil]; rfl
  | cons c text ih =>
    have plain' : ∀ d ∈ text, IsPlain d := fun d member => plain d (List.mem_cons_of_mem _ member)
    have next := ih plain' (offset + 1) (c :: before)
    rw [List.cons_append, readString_plain (plain c (by simp)), next]
    rw [List.reverse_cons, List.append_assoc, List.length_cons]
    simp only [List.singleton_append]
    congr 3
    omega

theorem readValue_of_plain {text : List Char} (plain : ∀ c ∈ text, IsPlain c)
    (measure nesting offset : Nat) (rest : List Char) :
    readValue (measure + 1) nesting ⟨offset, '"' :: (text ++ '"' :: rest)⟩ =
      .ok (.string (String.ofList text), ⟨offset + 1 + text.length + 1, rest⟩) := by
  rw [readValue]
  simp only [readString_of_plain plain]
  rfl

/-- An object with one field, a text. -/
theorem readFields_of_plain {name text : List Char} (namePlain : ∀ c ∈ name, IsPlain c)
    (plain : ∀ c ∈ text, IsPlain c) (measure nesting offset : Nat) :
    ∃ last, readFields (measure + 2) nesting []
        ⟨offset, '"' :: (name ++ '"' :: ':' :: '"' :: (text ++ '"' :: ['}']))⟩ =
      .ok (.object [(String.ofList name, .string (String.ofList text))], ⟨last, []⟩) := by
  refine ⟨offset + 1 + name.length + 1 + 1 + 1 + text.length + 1 + 1, ?_⟩
  rw [readFields]
  simp only [readString_of_plain namePlain]
  rw [skipGap_cons (by decide)]
  simp only []
  rw [skip_cons, skipGap_cons (by decide), readValue_of_plain plain]
  simp only []
  rw [skipGap_cons (by decide)]
  rfl

def accountChars (text : List Char) : List Char :=
  '{' :: '"' :: ("account".toList ++ '"' :: ':' :: '"' :: (text ++ '"' :: ['}']))

theorem ofChars_accountChars {text : List Char} (plain : ∀ c ∈ text, IsPlain c) :
    ofChars (accountChars text) = .ok (.object [("account", .string (String.ofList text))]) := by
  have namePlain : ∀ c ∈ "account".toList, IsPlain c := List.all_iff_forall_prop.mp (by decide)
  obtain ⟨measure, enough⟩ : ∃ measure, 2 * (accountChars text).length + 2 = measure + 3 :=
    ⟨2 * (accountChars text).length - 1, by simp only [accountChars, List.length_cons]; omega⟩
  rw [ofChars, enough, accountChars, skipGap_cons (by decide), readValue]
  simp only []
  rw [skip_cons, skipGap_cons (by decide), if_neg (by decide)]
  simp only []
  obtain ⟨last, read⟩ := readFields_of_plain namePlain plain measure (0 + 1) (0 + 1)
  rw [read]
  rfl

end Json

namespace Http

def accountBody (text : List Char) : Bytes := Bytes.ofAscii (Json.accountChars text)

/-- The text that a body gives for an account is the one put between the quotes. -/
theorem namedAccount?_accountBody {text : List Char} (ascii : ∀ c ∈ text, c.toNat < 0x80)
    (plain : ∀ c ∈ text, Json.IsPlain c) :
    namedAccount? (accountBody text) = some (String.ofList text) := by
  have chars : ∀ c ∈ Json.accountChars text, c.toNat < 0x80 := by
    have around : ∀ c ∈ '{' :: '"' :: "account".toList ++ ['"', ':', '"', '}'], c.toNat < 0x80 :=
      List.all_iff_forall_prop.mp (by decide)
    intro c member
    by_cases inside : c ∈ text
    · exact ascii c inside
    · refine around c ?_
      simp only [Json.accountChars, List.mem_cons, List.mem_append] at member ⊢
      simp only [inside, false_or] at member
      grind
  have decoded : Json.decodeBytes (accountBody text) = .ok (Json.accountChars text) :=
    Text.decodeUtf8_ofAscii chars true 0
  unfold namedAccount? Json.ofBytes
  rw [decoded]
  simp only [Json.ofChars_accountChars plain]
  rfl

theorem Request.content_of_too_long {request : Request}
    (unmeasured : header? "Content-Length" request.headers = none)
    (long : maxLength < request.body.length) :
    request.content = .error (.fault .requestTooBig
      "Request body exceeded settings.DATA_UPLOAD_MAX_MEMORY_SIZE.") := by
  rw [content, length, unmeasured]
  simp only
  rw [if_pos (by omega)]

end Http
end AddressBook
