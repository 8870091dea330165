import Mathlib.Algebra.Group.Nat.Defs
import Mathlib.Data.List.DropRight
import Mathlib.Data.List.Infix
import Pingoo.Library.Base64

namespace Pingoo

/-!
# Text

A Rust string is a sequence of Unicode scalar values, which is what a list of
characters is.  Positions and lengths that the source takes in bytes are taken
in bytes here too.
-/

/-- A Rust `str` or `String`. -/
abbrev Str := List Char

instance lawfulBEqStr : LawfulBEq Str :=
  inferInstance

/-- Raw bytes, a Rust `[u8]`. -/
abbrev Bytes := List UInt8

/--
What holds of every character of a text is decided along the text, and not along
all the characters there are.
-/
instance (priority := 10000) decidableForallMem {α : Type} (elements : List α)
    (holds : α → Prop) [DecidablePred holds] :
    Decidable (∀ element ∈ elements, holds element) :=
  List.decidableBAll holds elements

/-- A character of the alphabet of `URL_SAFE_NO_PAD`. -/
def urlSafeChar (sextet : Base64.Sextet) : Char :=
  "ABCDEFGHIJKLMNOPQRSTUVWXYZabcdefghijklmnopqrstuvwxyz0123456789-_".toList.get
    sextet

/-- The alphabet of `URL_SAFE_NO_PAD`. -/
def urlSafe : Base64.Alphabet where
  char :=
    urlSafeChar
  injective := by
    have different : ∀ sextet other,
        urlSafeChar sextet = urlSafeChar other → sextet = other := by
      decide +kernel
    exact fun sextet other => different sextet other

/-- A function that computes SHA-256 digests. -/
abbrev Sha256 := Bytes → Vector UInt8 32

/-- The little-endian bytes of a number, `to_le_bytes`. -/
def toLeBytes (width number : Nat) : Bytes :=
  (List.range width).map fun position => (number >>> (8 * position)).toUInt8

theorem isUpper_iff_toNat
    {character : Char} :
    character.isUpper = true ↔
      'A'.toNat ≤ character.toNat ∧ character.toNat ≤ 'Z'.toNat :=
  decide_eq_true_iff

theorem isLower_iff_toNat
    {character : Char} :
    character.isLower = true ↔
      'a'.toNat ≤ character.toNat ∧ character.toNat ≤ 'z'.toNat :=
  Bool.and_eq_true_iff.trans
    (and_congr decide_eq_true_iff decide_eq_true_iff)

/-- A letter or a digit lies in one of three ranges. -/
theorem isAlphanum_iff
    {character : Char} :
    character.isAlphanum = true ↔
      (character.isUpper = true ∨ character.isLower = true) ∨
        character.isDigit = true :=
  Bool.or_eq_true_iff.trans (or_congr_left Bool.or_eq_true_iff)

namespace Str

/-- The number of bytes of the UTF-8 encoding, Rust's `str::len`. -/
def len : Str → Nat
  | [] =>
      0
  | character :: rest =>
      character.utf8Size + len rest

/-- The UTF-8 encoding, Rust's `str::as_bytes`. -/
def asBytes (text : Str) : Bytes :=
  text.flatMap String.utf8EncodeChar

/--
The slice `&text[..n]`.  It is `none` where Rust panics: past the end of the
text, or inside the encoding of a character.
-/
def sliceTo : Str → Nat → Option Str
  | _, 0 =>
      some []
  | [], _ + 1 =>
      none
  | character :: rest, n + 1 =>
      if character.utf8Size ≤ n + 1 then
        (sliceTo rest (n + 1 - character.utf8Size)).map (character :: ·)
      else
        none

/-- `str::starts_with` for a string pattern. -/
def startsWith (text pattern : Str) : Bool :=
  pattern.isPrefixOf text

/-- `str::contains` for a string pattern. -/
def contains (text pattern : Str) : Bool :=
  decide (pattern <:+: text)

/-- `str::to_ascii_lowercase`. -/
def toAsciiLowercase (text : Str) : Str :=
  text.map Char.toLower

/-- `str::trim_start_matches` for a character pattern. -/
def trimStartMatches (text : Str) (pattern : Char) : Str :=
  text.dropWhile (· == pattern)

/-- `str::trim_end_matches` for a character pattern. -/
def trimEndMatches (text : Str) (pattern : Char) : Str :=
  text.rdropWhile (· == pattern)

/-- `str::trim_matches` for a character pattern. -/
def trimMatches (text : Str) (pattern : Char) : Str :=
  (text.trimStartMatches pattern).trimEndMatches pattern

/-- `str::strip_prefix` for a string pattern. -/
def stripPrefix (text pattern : Str) : Option Str :=
  if pattern.isPrefixOf text then some (text.drop pattern.length) else none

/-- `str::trim_start_matches` for a string pattern, at most `rounds` times. -/
def stripPrefixes (pattern : Str) : Nat → Str → Str
  | 0, text =>
      text
  | rounds + 1, text =>
      match text.stripPrefix pattern with
      | none => text
      | some rest => stripPrefixes pattern rounds rest

/-- `str::trim_start_matches` for a string pattern. -/
def trimStartMatchesStr (text pattern : Str) : Str :=
  stripPrefixes pattern text.length text

/-- The decimal digits of a number. -/
def decimal (number : Nat) : Str :=
  Nat.toDigits 10 number

/-- The lower-case hexadecimal digits of a number, Rust's `{:x}`. -/
def lowerHex (number : Nat) : Str :=
  Nat.toDigits 16 number

/-- `hex::encode`: two lower-case digits for each byte. -/
def hexEncode (bytes : Bytes) : Str :=
  bytes.flatMap fun byte =>
    [Nat.digitChar (byte.toNat / 16), Nat.digitChar (byte.toNat % 16)]

/-- `char::is_whitespace`: the Unicode property `White_Space`. -/
def isWhitespace (character : Char) : Bool :=
  let code := character.toNat
  (0x09 ≤ code && code ≤ 0x0D) || code == 0x20 || code == 0x85 ||
    code == 0xA0 || code == 0x1680 || (0x2000 ≤ code && code ≤ 0x200A) ||
    code == 0x2028 || code == 0x2029 || code == 0x202F ||
    code == 0x205F || code == 0x3000

/-- `str::trim`. -/
def trim (text : Str) : Str :=
  (text.dropWhile isWhitespace).rdropWhile isWhitespace

/-- `trim` takes nothing but characters of the text. -/
theorem trim_subset (text : Str) : text.trim ⊆ text :=
  List.Subset.trans (List.rdropWhile_prefix _ _).subset
    (List.dropWhile_suffix _).subset

/-- A digit of a number in some base. -/
theorem mem_toDigits
    {base number : Nat}
    (baseLarge : 1 < base)
    {character : Char}
    (member : character ∈ Nat.toDigits base number) :
    ∃ digit, digit < base ∧ character = Nat.digitChar digit := by
  induction number using Nat.strongRecOn with
  | ind number inductionHypothesis =>
      rw [Nat.toDigits_eq_if baseLarge] at member
      split at member
      · next small =>
          exact ⟨number, small, List.mem_singleton.mp member⟩
      · next large =>
          rcases List.mem_append.mp member with inFront | isLast
          · exact inductionHypothesis _
              (Nat.div_lt_self (by omega) baseLarge) inFront
          · exact ⟨number % base, Nat.mod_lt _ (by omega),
              List.mem_singleton.mp isLast⟩

/-- A character of joined texts stands in a text or in the separator. -/
theorem mem_intercalate
    {separator : Str}
    {parts : List Str}
    {character : Char}
    (member : character ∈ separator.intercalate parts) :
    character ∈ separator ∨ ∃ part ∈ parts, character ∈ part := by
  induction parts with
  | nil =>
      simp at member
  | cons first rest inductionHypothesis =>
      cases rest with
      | nil =>
          right
          exact ⟨first, List.mem_cons_self, by simpa using member⟩
      | cons second others =>
          rw [List.intercalate_cons_cons, List.mem_append,
            List.mem_append] at member
          rcases member with (inFirst | inSeparator) | inRest
          · exact Or.inr ⟨first, List.mem_cons_self, inFirst⟩
          · exact Or.inl inSeparator
          · rcases inductionHypothesis inRest with
              inSeparator | ⟨part, inParts, inPart⟩
            · exact Or.inl inSeparator
            · exact Or.inr ⟨part, List.mem_cons_of_mem _ inParts, inPart⟩

/-- Trimming keeps a text without white space. -/
theorem trim_eq_self
    {text : Str}
    (solid : ∀ character ∈ text, isWhitespace character = false) :
    trim text = text := by
  have trimmedStart : text.dropWhile isWhitespace = text := by
    rw [List.dropWhile_eq_self_iff]
    intro positive
    simp [solid _ (List.getElem_mem positive)]
  rw [trim, trimmedStart, List.rdropWhile_eq_self_iff]
  intro nonempty
  simp [solid _ (List.getLast_mem nonempty)]

/-- What surrounds a text is trimmed. -/
theorem trimMatches_of_surrounded
    {pattern : Char}
    {text : Str}
    (notIn : pattern ∉ text) :
    trimMatches (pattern :: text ++ [pattern]) pattern = text := by
  have isOther : ∀ character ∈ text, ¬ (character == pattern) = true := by
    intro character member isPattern
    exact notIn (eq_of_beq isPattern ▸ member)
  have isPattern : (pattern == pattern) = true :=
    beq_self_eq_true pattern
  rw [trimMatches, trimStartMatches, trimEndMatches, List.cons_append,
    List.dropWhile_cons, if_pos isPattern]
  cases text with
  | nil =>
      simp
  | cons first rest =>
      rw [List.cons_append, List.dropWhile_cons,
        if_neg (isOther first List.mem_cons_self), ← List.cons_append,
        List.rdropWhile_concat, if_pos isPattern,
        List.rdropWhile_eq_self_iff]
      intro nonempty
      exact isOther _ (List.getLast_mem nonempty)

/-- Trimming drops a space before the text. -/
theorem trim_cons_space (text : Str) : trim (' ' :: text) = trim text := by
  rw [trim, List.dropWhile_cons_of_pos (by decide), trim]

/-- Texts with the same encoding are the same. -/
theorem asBytes_injective : Function.Injective asBytes := by
  intro text other same
  have encoded : List.utf8Encode text = List.utf8Encode other :=
    congrArg List.toByteArray same
  have decoded := congrArg ByteArray.utf8Decode? encoded
  simpa using decoded

@[simp] theorem len_append (first second : Str) :
    len (first ++ second) = len first + len second := by
  induction first with
  | nil =>
      simp [len]
  | cons character rest inductionHypothesis =>
      simp [len, inductionHypothesis, Nat.add_assoc]

/-- No character has more than four bytes. -/
theorem len_le (text : Str) : len text ≤ 4 * text.length := by
  induction text with
  | nil =>
      exact Nat.le_refl 0
  | cons character rest inductionHypothesis =>
      have few := character.utf8Size_le_four
      rw [len, List.length_cons]
      omega

/-- A text of characters of one byte has as many bytes as characters. -/
theorem len_eq_length
    {text : Str}
    (single : ∀ character ∈ text, character.utf8Size = 1) :
    len text = text.length := by
  induction text with
  | nil =>
      rfl
  | cons character rest inductionHypothesis =>
      rw [List.forall_mem_cons] at single
      rw [len, single.1, inductionHypothesis single.2, List.length_cons,
        Nat.add_comm]

/-- Slicing at the end of a first part gives that part, without a panic. -/
theorem sliceTo_len_append (first second : Str) :
    sliceTo (first ++ second) (len first) = some first := by
  induction first with
  | nil =>
      simp [len, sliceTo]
  | cons character rest inductionHypothesis =>
      have positive : 0 < character.utf8Size :=
        character.utf8Size_pos
      obtain ⟨before, shape⟩ : ∃ n,
          len (character :: rest) = n + 1 :=
        ⟨len (character :: rest) - 1, by
          simp only [len]
          omega⟩
      have fits : character.utf8Size ≤ before + 1 := by
        simp only [len] at shape
        omega
      have remaining :
          before + 1 - character.utf8Size = len rest := by
        simp only [len] at shape
        omega
      rw [List.cons_append, shape, sliceTo, if_pos fits, remaining,
        inductionHypothesis]
      rfl

end Str

section Encodings

/-- A text in hexadecimal needs no escaping. -/
theorem isAlphanum_of_mem_hexEncode
    {bytes : Bytes}
    {character : Char}
    (member : character ∈ Str.hexEncode bytes) :
    character.isAlphanum = true := by
  have digits :
      ∀ value < 16, (Nat.digitChar value).isAlphanum = true := by
    decide
  obtain ⟨byte, _, inDigits⟩ := List.mem_flatMap.mp member
  have small := byte.toNat_lt
  rcases List.mem_pair.mp inDigits with rfl | rfl
  · exact digits _ (by omega)
  · exact digits _ (by omega)

theorem isAlphanum_of_mem_decimal
    {number : Nat}
    {character : Char}
    (member : character ∈ Str.decimal number) :
    character.isAlphanum = true := by
  obtain ⟨digit, small, rfl⟩ := Str.mem_toDigits (by decide) member
  have digits : ∀ digit < 10, (Nat.digitChar digit).isAlphanum = true := by
    decide
  exact digits digit small

/-- Bytes in hexadecimal are told apart. -/
theorem hexEncode_injective : Function.Injective Str.hexEncode := by
  have digitsDiffer :
      ∀ digit < 16, ∀ other < 16,
        Nat.digitChar digit = Nat.digitChar other → digit = other := by
    decide
  intro bytes
  induction bytes with
  | nil =>
      intro others same
      cases others with
      | nil =>
          rfl
      | cons byte rest =>
          cases same
  | cons byte rest inductionHypothesis =>
      intro others same
      cases others with
      | nil =>
          cases same
      | cons other others =>
          injection same with sameHigh same
          injection same with sameLow sameRest
          have small := byte.toNat_lt
          have otherSmall := other.toNat_lt
          have high := digitsDiffer _ (by omega) _ (by omega) sameHigh
          have low := digitsDiffer _ (by omega) _ (by omega) sameLow
          have sameByte : byte = other :=
            UInt8.toNat_inj.mp (by omega)
          rw [sameByte, inductionHypothesis sameRest]

@[simp] theorem length_toLeBytes (width number : Nat) :
    (toLeBytes width number).length = width := by
  simp [toLeBytes]

/-- The lowest byte comes first. -/
theorem toLeBytes_succ (width number : Nat) :
    toLeBytes (width + 1) number =
      number.toUInt8 :: toLeBytes width (number / 256) := by
  rw [toLeBytes, toLeBytes, List.range_succ_eq_map, List.map_cons,
    List.map_map]
  refine congrArg (_ :: ·) (List.map_congr_left fun position _ => ?_)
  have shifted : 8 * (position + 1) = 8 + 8 * position := by
    omega
  have byByte : number >>> 8 = number / 256 :=
    Nat.shiftRight_eq_div_pow number 8
  simp only [Function.comp_apply, Nat.succ_eq_add_one, shifted,
    Nat.shiftRight_add, byByte]

/-- Numbers that fit are told apart by their bytes. -/
theorem eq_of_toLeBytes_eq
    {width first second : Nat}
    (firstFits : first < 2 ^ (8 * width))
    (secondFits : second < 2 ^ (8 * width))
    (same : toLeBytes width first = toLeBytes width second) :
    first = second := by
  induction width generalizing first second with
  | zero =>
      rw [Nat.mul_zero, Nat.pow_zero, Nat.lt_one_iff] at firstFits secondFits
      rw [firstFits, secondFits]
  | succ width inductionHypothesis =>
      rw [toLeBytes_succ, toLeBytes_succ] at same
      injection same with sameLow sameRest
      have lowBytes := congrArg UInt8.toNat sameLow
      simp only [UInt8.toNat_ofNat'] at lowBytes
      have split : 2 ^ (8 * (width + 1)) = 256 * 2 ^ (8 * width) := by
        rw [Nat.mul_succ, Nat.pow_add, Nat.mul_comm]
      have high : first / 256 = second / 256 :=
        inductionHypothesis (Nat.div_lt_of_lt_mul (by omega))
          (Nat.div_lt_of_lt_mul (by omega)) sameRest
      omega

end Encodings

/-- `heapless::String<N>`: a text of at most `capacity` bytes. -/
structure HeaplessString (capacity : Nat) where
  text : Str
  fits : text.len ≤ capacity
  deriving DecidableEq

namespace HeaplessString

/-- The empty string. -/
def new {capacity : Nat} : HeaplessString capacity where
  text :=
    []
  fits :=
    Nat.zero_le capacity

/-- `FromStr::from_str`: an error when the text is too long. -/
def fromStr {capacity : Nat} (text : Str) : Option (HeaplessString capacity) :=
  if fits : text.len ≤ capacity then some ⟨text, fits⟩ else none

/-- `from_str(..).unwrap_or_default()`. -/
def fromStrOrDefault {capacity : Nat} (text : Str) : HeaplessString capacity :=
  (fromStr text).getD new

/-- A string read with a default has no other characters than the text. -/
theorem fromStrOrDefault_subset {capacity : Nat} (text : Str) :
    (fromStrOrDefault text : HeaplessString capacity).text ⊆ text := by
  unfold fromStrOrDefault fromStr
  split
  · exact List.Subset.refl text
  · exact List.nil_subset text

end HeaplessString

end Pingoo
