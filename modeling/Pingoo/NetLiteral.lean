import Pingoo.NetParse

namespace Pingoo.IpAddr

/-!
# Which texts are addresses

What the parser of addresses takes from a text is of a class of characters: an
IPv4 address has digits and dots, an IPv6 address has a colon.  An address in
brackets is not read; the text of an IPv4 address is read as that address.
-/

/-- A reader took characters of a class from a text, and left the rest. -/
def Reads (allowed : Char → Prop) (text rest : Str) : Prop :=
  ∃ taken : Str,
    text = taken ++ rest ∧
    ∀ character ∈ taken, allowed character

namespace Reads

variable {allowed : Char → Prop} {text next rest : Str}

theorem refl (allowed : Char → Prop) (text : Str) : Reads allowed text text :=
  ⟨[], rfl, nofun⟩

theorem cons
    {character : Char}
    (isAllowed : allowed character)
    (reads : Reads allowed text rest) :
    Reads allowed (character :: text) rest := by
  obtain ⟨taken, rfl, all⟩ := reads
  exact ⟨character :: taken, rfl, List.forall_mem_cons.mpr ⟨isAllowed, all⟩⟩

/-- One reader after another. -/
theorem trans
    (first : Reads allowed text next)
    (second : Reads allowed next rest) : Reads allowed text rest := by
  obtain ⟨taken, rfl, all⟩ := first
  obtain ⟨others, rfl, othersAll⟩ := second
  refine ⟨taken ++ others, (List.append_assoc _ _ _).symm, ?_⟩
  exact List.forall_mem_append.mpr ⟨all, othersAll⟩

theorem mono
    {larger : Char → Prop}
    (implies : ∀ character, allowed character → larger character)
    (reads : Reads allowed text rest) : Reads larger text rest := by
  obtain ⟨taken, same, all⟩ := reads
  exact ⟨taken, same, fun character member => implies _ (all _ member)⟩

/-- Nothing else is left in the rest than what was in the text. -/
theorem subset (reads : Reads allowed text rest) : rest ⊆ text := by
  obtain ⟨taken, rfl, _⟩ := reads
  exact List.subset_append_right taken rest

/-- When everything was taken, everything is of the class. -/
theorem all (reads : Reads allowed text []) :
    ∀ character ∈ text, allowed character := by
  obtain ⟨taken, rfl, all⟩ := reads
  rwa [List.append_nil]

end Reads

/-- What an IPv4 address is made of. -/
def IsIpv4Char (character : Char) : Prop :=
  character.isDigit = true ∨ character = '.'

/-- What an IPv6 address is made of. -/
def IsIpv6Char (character : Char) : Prop :=
  (toDigit 16 character).isSome = true ∨ character = ':' ∨ character = '.'

section Readers

variable {text rest : Str}

theorem isDigit_of_toDigit
    {character : Char}
    (isDigit : (toDigit 10 character).isSome = true) :
    character.isDigit = true := by
  simp only [toDigit] at isDigit
  split at isDigit
  · next range =>
      exact Char.isDigit_iff_toNat.mpr range
  · split at isDigit
    · rw [if_neg (by omega)] at isDigit
      cases isDigit
    · split at isDigit
      · rw [if_neg (by omega)] at isDigit
        cases isDigit
      · rw [if_neg (by omega)] at isDigit
        cases isDigit

theorem isIpv6Char_of_isIpv4Char
    {character : Char}
    (isChar : IsIpv4Char character) : IsIpv6Char character := by
  rcases isChar with isDigit | rfl
  · left
    have range : '0' ≤ character ∧ character ≤ '9' :=
      Char.isDigit_iff_toNat.mp isDigit
    have below : character.toNat ≤ '9'.toNat :=
      range.2
    have small : character.toNat - '0'.toNat < 16 := by
      have nine : '9'.toNat = 57 :=
        rfl
      have zero : '0'.toNat = 48 :=
        rfl
      omega
    simp only [toDigit, if_pos range, if_pos small, Option.isSome_some]
  · exact Or.inr (Or.inr rfl)

theorem readDigits_reads (radix : Nat) (text : Str) :
    Reads (fun character => (toDigit radix character).isSome = true) text
      (readDigits radix text).2 := by
  induction text with
  | nil =>
      exact Reads.refl _ _
  | cons character following inductionHypothesis =>
      rw [readDigits]
      cases isDigit : toDigit radix character with
      | none =>
          exact Reads.refl _ _
      | some digit =>
          exact inductionHypothesis.cons (by rw [isDigit]; rfl)

theorem readNumber_reads
    {radix maxDigits bound value : Nat}
    {allowZeroPrefix : Bool}
    (read :
      readNumber radix maxDigits bound allowZeroPrefix text =
        some (value, rest)) :
    Reads (fun character => (toDigit radix character).isSome = true) text
      rest := by
  simp only [readNumber] at read
  split at read
  · cases read
  · split at read
    · cases read
    · split at read
      · cases read
        exact readDigits_reads radix text
      · cases read

/-- A separator of the class, and then what the reader takes. -/
theorem readSeparator_reads
    {α : Type}
    {allowed : Char → Prop}
    {separator : Char}
    (isAllowed : allowed separator)
    {read : Str → Option (α × Str)}
    (reads :
      ∀ {text value rest},
        read text = some (value, rest) → Reads allowed text rest)
    {isFirst : Bool}
    {value : α}
    (found : readSeparator separator isFirst read text = some (value, rest)) :
    Reads allowed text rest := by
  unfold readSeparator at found
  split at found
  · exact reads found
  · split at found
    · cases found
    · split at found
      · next character following same =>
          rw [same]
          exact (reads found).cons isAllowed
      · cases found

theorem readOctet_reads
    {octet : UInt8}
    (read : readOctet text = some (octet, rest)) :
    Reads IsIpv4Char text rest := by
  simp only [readOctet, Option.map_eq_some_iff, Prod.mk.injEq] at read
  obtain ⟨⟨value, following⟩, isNumber, _, rfl⟩ := read
  exact (readNumber_reads isNumber).mono
    fun character isDigit => Or.inl (isDigit_of_toDigit isDigit)

theorem readIpv4Addr_reads
    {octets : Ipv4Addr}
    (read : readIpv4Addr text = some (octets, rest)) :
    Reads IsIpv4Char text rest := by
  have octetReads :
      ∀ {isFirst : Bool} {text : Str} {octet : UInt8} {rest : Str},
        readSeparator '.' isFirst readOctet text = some (octet, rest) →
        Reads IsIpv4Char text rest :=
    fun found => readSeparator_reads (Or.inr rfl) readOctet_reads found
  simp only [readIpv4Addr, Option.bind_eq_bind, Option.bind_eq_some_iff,
    Option.some.injEq, Prod.mk.injEq] at read
  obtain ⟨⟨_, _⟩, first, ⟨_, _⟩, second, ⟨_, _⟩, third, ⟨_, _⟩, fourth, _,
    rfl⟩ := read
  exact (octetReads first).trans ((octetReads second).trans
    ((octetReads third).trans (octetReads fourth)))

theorem readGroup_reads
    {group : UInt16}
    (read : readGroup text = some (group, rest)) :
    Reads IsIpv6Char text rest := by
  simp only [readGroup, Option.map_eq_some_iff, Prod.mk.injEq] at read
  obtain ⟨⟨value, following⟩, isNumber, _, rfl⟩ := read
  exact (readNumber_reads isNumber).mono fun character isDigit => Or.inl isDigit

theorem readGroups_reads (remaining : Nat) (isFirst : Bool) (text : Str) :
    Reads IsIpv6Char text (readGroups remaining isFirst text).2.2 := by
  have ipv4Reads :
      ∀ {text : Str} {octets : Ipv4Addr} {rest : Str},
        readIpv4Addr text = some (octets, rest) →
        Reads IsIpv6Char text rest :=
    fun read => (readIpv4Addr_reads read).mono fun _ => isIpv6Char_of_isIpv4Char
  induction remaining generalizing isFirst text with
  | zero =>
      exact Reads.refl _ _
  | succ remaining inductionHypothesis =>
      rw [readGroups]
      split
      · next octets rest found =>
          split at found
          · exact readSeparator_reads (Or.inr (Or.inl rfl)) ipv4Reads found
          · cases found
      · cases found : readSeparator ':' isFirst readGroup text with
        | none =>
            exact Reads.refl _ _
        | some read =>
            obtain ⟨group, rest⟩ := read
            have first : Reads IsIpv6Char text rest :=
              readSeparator_reads (Or.inr (Or.inl rfl)) readGroup_reads found
            exact first.trans (inductionHypothesis false rest)

theorem readIpv6Addr_reads
    {segments : List UInt16}
    (read : readIpv6Addr text = some (segments, rest)) :
    Reads IsIpv6Char text rest := by
  have isColon : IsIpv6Char ':' :=
    Or.inr (Or.inl rfl)
  have headReads := readGroups_reads 8 true text
  simp only [readIpv6Addr] at read
  split at read
  · cases read
    exact headReads
  · split at read
    · cases read
    · split at read
      · next following same =>
          cases read
          rw [same] at headReads
          have tailReads :=
            (readGroups_reads (7 - (readGroups 8 true text).1.length) true
              following).cons isColon
          exact headReads.trans (tailReads.cons isColon)
      · cases read

/-- Without a colon there is no second group. -/
theorem readGroups_of_notMem
    (noColon : ':' ∉ text)
    (remaining : Nat) :
    (readGroups remaining false text).1 = [] := by
  have noSeparator :
      ∀ {α : Type} (read : Str → Option (α × Str)),
        readSeparator ':' false read text = none := by
    intro α read
    cases text with
    | nil =>
        rfl
    | cons character following =>
        have different : character ≠ ':' := by
          rintro rfl
          exact noColon List.mem_cons_self
        simp only [readSeparator, Bool.false_eq_true, if_false,
          if_neg different]
  cases remaining with
  | zero =>
      rfl
  | succ remaining =>
      rw [readGroups, noSeparator, noSeparator]
      simp

/-- Without a colon there are at most the two groups of an IPv4 address. -/
theorem length_readGroups_of_notMem
    (noColon : ':' ∉ text)
    (remaining : Nat) :
    (readGroups remaining true text).1.length ≤ 2 := by
  cases remaining with
  | zero =>
      exact Nat.zero_le 2
  | succ remaining =>
      rw [readGroups]
      split
      · exact Nat.le_refl 2
      · cases found : readSeparator ':' true readGroup text with
        | none =>
            exact Nat.zero_le 2
        | some read =>
            obtain ⟨group, following⟩ := read
            have reads : Reads IsIpv6Char text following :=
              readGroup_reads found
            have noneFollows :=
              readGroups_of_notMem (fun member => noColon (reads.subset member))
                remaining
            simp only [noneFollows]
            exact Nat.le_succ 1

/-- An IPv6 address has a colon. -/
theorem mem_colon_of_readIpv6Addr
    {segments : List UInt16}
    (read : readIpv6Addr text = some (segments, rest)) : ':' ∈ text := by
  by_contra noColon
  have short := length_readGroups_of_notMem noColon 8
  simp only [readIpv6Addr] at read
  split at read
  · next eight =>
      omega
  · split at read
    · cases read
    · split at read
      · next following same =>
          have left := (readGroups_reads 8 true text).subset
          rw [same] at left
          exact noColon (left List.mem_cons_self)
      · cases read

end Readers

section Addresses

variable {text : Str}

theorem readIpAddr_of_parse
    {ip : IpAddr}
    (parsed : parse text = some ip) : readIpAddr text = some (ip, []) := by
  simp only [parse] at parsed
  cases found : readIpAddr text with
  | none =>
      rw [found] at parsed
      cases parsed
  | some read =>
      obtain ⟨readIp, rest⟩ := read
      rw [found] at parsed
      cases rest with
      | nil =>
          cases parsed
          rfl
      | cons character following =>
          cases parsed

/-- What is read as an IPv4 address has digits and dots. -/
theorem isIpv4Char_of_parse
    {octets : Ipv4Addr}
    (parsed : parse text = some (.v4 octets)) :
    ∀ character ∈ text, IsIpv4Char character := by
  have found := readIpAddr_of_parse parsed
  unfold readIpAddr at found
  split at found
  · next isIpv4 =>
      cases found
      exact (readIpv4Addr_reads isIpv4).all
  · simp only [Option.bind_eq_some_iff, Option.map_eq_some_iff] at found
    obtain ⟨⟨_, _⟩, _, ip, isSegments, same⟩ := found
    cases same
    unfold ofSegments at isSegments
    split at isSegments <;> cases isSegments

/-- What is read as an IPv6 address has a colon, digits, colons and dots. -/
theorem isIpv6Char_of_parse
    {segments : Vector UInt16 8}
    (parsed : parse text = some (.v6 segments)) :
    ':' ∈ text ∧ ∀ character ∈ text, IsIpv6Char character := by
  have found := readIpAddr_of_parse parsed
  unfold readIpAddr at found
  split at found
  · cases found
  · simp only [Option.bind_eq_some_iff, Option.map_eq_some_iff] at found
    obtain ⟨⟨_, _⟩, isIpv6, ip, _, same⟩ := found
    cases same
    exact ⟨mem_colon_of_readIpv6Addr isIpv6, (readIpv6Addr_reads isIpv6).all⟩

/-- An address in brackets is not read. -/
theorem parse_bracket (rest : Str) : parse ('[' :: rest) = none := by
  have noDigit : ∀ radix ≤ 16, toDigit radix '[' = none := by
    decide
  have noNumber :
      ∀ {radix maxDigits bound : Nat} {allowZeroPrefix : Bool},
        radix ≤ 16 →
        readNumber radix maxDigits bound allowZeroPrefix ('[' :: rest) =
          none := by
    intro radix maxDigits bound allowZeroPrefix small
    simp [readNumber, readDigits, noDigit radix small]
  have noIpv4 : readIpv4Addr ('[' :: rest) = none := by
    simp [readIpv4Addr, readSeparator, readOctet, noNumber]
  have noGroup : readGroup ('[' :: rest) = none := by
    simp [readGroup, noNumber]
  have noGroups :
      readGroups 8 true ('[' :: rest) = ([], false, '[' :: rest) := by
    simp [readGroups, readSeparator, noIpv4, noGroup]
  have noIpv6 : readIpv6Addr ('[' :: rest) = none := by
    simp [readIpv6Addr, noGroups]
  simp [parse, readIpAddr, noIpv4, noIpv6]

end Addresses

section RoundTrip

/-- The digits of a number are read up to what is no digit. -/
theorem readDigits_append
    {digits rest : Str}
    (isDigits :
      ∀ character ∈ digits, (toDigit 10 character).isSome = true)
    (ends : ∀ character ∈ rest.head?, toDigit 10 character = none) :
    readDigits 10 (digits ++ rest) =
      (digits.filterMap (toDigit 10), rest) := by
  induction digits with
  | nil =>
      cases rest with
      | nil =>
          rfl
      | cons character following =>
          rw [List.nil_append, readDigits, ends character rfl]
          rfl
  | cons character others inductionHypothesis =>
      obtain ⟨digit, isDigit⟩ :=
        Option.isSome_iff_exists.mp (isDigits character List.mem_cons_self)
      rw [List.cons_append, readDigits, isDigit,
        inductionHypothesis fun other member =>
          isDigits other (List.mem_cons_of_mem character member),
        List.filterMap_cons_some isDigit]

/-- An octet is read from its decimal digits. -/
theorem readOctet_decimal
    (octet : UInt8)
    {rest : Str}
    (ends : ∀ character ∈ rest.head?, toDigit 10 character = none) :
    readOctet (Str.decimal octet.toNat ++ rest) = some (octet, rest) := by
  have allOctets :
      ∀ value < 256,
        let digits := (Str.decimal value).filterMap (toDigit 10)
        (∀ character ∈ Str.decimal value,
          (toDigit 10 character).isSome = true) ∧
        (digits ≠ [] ∧ digits.length ≤ 3) ∧
        ((Str.decimal value).head? = some '0' → digits.length ≤ 1) ∧
        digits.foldl (fun number digit => 10 * number + digit) 0 = value := by
    decide +kernel
  obtain ⟨isDigits, ⟨nonempty, short⟩, noZeroPrefix, isValue⟩ :=
    allOctets octet.toNat octet.toNat_lt
  have sameHead :
      (Str.decimal octet.toNat ++ rest).head? =
        (Str.decimal octet.toNat).head? :=
    List.head?_append_of_ne_nil _ Nat.toDigits_ne_nil
  have noRefusal :
      ¬ ((Str.decimal octet.toNat).head? = some '0' ∧
        1 < ((Str.decimal octet.toNat).filterMap (toDigit 10)).length) :=
    fun ⟨isZero, long⟩ => absurd (noZeroPrefix isZero) (Nat.not_le.mpr long)
  have isRead :
      readNumber 10 3 256 false (Str.decimal octet.toNat ++ rest) =
        some (octet.toNat, rest) := by
    simp only [readNumber, readDigits_append isDigits ends, sameHead]
    rw [if_neg (by simp only [nonempty, false_or]; omega),
      if_neg (by simpa using noRefusal), isValue, if_pos octet.toNat_lt]
  simp only [readOctet, isRead, Option.map_some, Nat.toUInt8,
    UInt8.ofNat_toNat]

/-- The first item has no separator before it. -/
theorem readSeparator_first
    {α : Type}
    (separator : Char)
    (read : Str → Option (α × Str))
    (text : Str) :
    readSeparator separator true read text = read text :=
  rfl

/-- Each further item is read after its separator. -/
theorem readSeparator_next
    {α : Type}
    (separator : Char)
    (read : Str → Option (α × Str))
    (rest : Str) :
    readSeparator separator false read (separator :: rest) = read rest := by
  simp [readSeparator]

/-- An IPv4 address is its four octets. -/
theorem exists_eq_new (octets : Ipv4Addr) :
    ∃ first second third fourth,
      octets = .new first second third fourth := by
  refine ⟨octets[0], octets[1], octets[2], octets[3], ?_⟩
  ext index bound
  rcases index with _ | _ | _ | _ | index
  · rfl
  · rfl
  · rfl
  · rfl
  · omega

/-- The text of an IPv4 address are its octets with points between them. -/
theorem dotted_new (first second third fourth : UInt8) :
    dotted (Ipv4Addr.new first second third fourth).toList =
      Str.decimal first.toNat ++ ('.' ::
        (Str.decimal second.toNat ++ ('.' ::
          (Str.decimal third.toNat ++ ('.' ::
            (Str.decimal fourth.toNat ++ [])))))) := by
  simp [dotted, List.intercalate, List.intersperse]

/-- The text of an IPv4 address is short. -/
theorem length_dotted_le (octets : Ipv4Addr) :
    (dotted octets.toList).length ≤ 15 := by
  have short : ∀ octet : UInt8, (Str.decimal octet.toNat).length ≤ 3 := by
    intro octet
    refine (Nat.length_toDigits_le_iff (by decide) (by decide)).mpr ?_
    exact Nat.lt_of_lt_of_le octet.toNat_lt (by decide)
  obtain ⟨first, second, third, fourth, rfl⟩ := exists_eq_new octets
  rw [dotted_new]
  simp only [List.length_append, List.length_cons, List.length_nil]
  have firstShort := short first
  have secondShort := short second
  have thirdShort := short third
  have fourthShort := short fourth
  omega

/-- The text of an IPv4 address is read as that address. -/
theorem parse_dotted (octets : Ipv4Addr) :
    parse (dotted octets.toList) = some (.v4 octets) := by
  have nextIsPoint :
      ∀ {rest : Str}, ∀ character ∈ ('.' :: rest).head?,
        toDigit 10 character = none := by
    intro rest character isHead
    cases isHead
    rfl
  have noneFollows :
      ∀ character ∈ ([] : Str).head?, toDigit 10 character = none :=
    nofun
  obtain ⟨first, second, third, fourth, rfl⟩ := exists_eq_new octets
  have isRead :
      readIpv4Addr (dotted (Ipv4Addr.new first second third fourth).toList) =
        some (.new first second third fourth, []) := by
    rw [dotted_new]
    simp only [readIpv4Addr, readSeparator_first, readSeparator_next,
      readOctet_decimal _ nextIsPoint, readOctet_decimal _ noneFollows,
      Option.bind_eq_bind, Option.bind_some]
  simp only [parse, readIpAddr, isRead]

end RoundTrip

end Pingoo.IpAddr
