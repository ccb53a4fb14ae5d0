import DeclDocs.Text.Utf8

/-! # What UTF-8 encodes is decoded again

A character beyond the ASCII range is encoded by a first byte and the bytes that complete it
(`Begun.Completes`).  The decoder takes exactly such bytes for a character
(`decodeFrom_completes`, `exists_completes_of_decodeFrom`), and they are the bytes that encode
that character (`isReadAs_encode`, `encode_of_completes`).  So the decoder accepts what encodes a
text, gives back that text, and accepts nothing else (`decode_eq_ok_iff`).
-/
namespace DeclDocs
namespace Utf8

variable {begun : Begun} {byte : UInt8} {position : Nat} {done characters : List Char}
  {bytes : List UInt8}

/-- The bytes that encode some characters. -/
def encode (characters : List Char) : List UInt8 :=
  characters.flatMap String.utf8EncodeChar

/-- The bytes that complete a character that has been begun, and its code. -/
inductive Begun.Completes : Begun → List UInt8 → Nat → Prop where
  | last {begun : Begun} {byte : UInt8} (hadmits : begun.admits byte = true)
      (hneeded : begun.needed ≤ 1) : Completes begun [byte] (begun.bitsWith byte)
  | next {begun : Begun} {byte : UInt8} {bytes : List UInt8} {code : Nat}
      (hadmits : begun.admits byte = true) (hneeded : ¬begun.needed ≤ 1)
      (hafter : Completes (begun.after byte) bytes code) : Completes begun (byte :: bytes) code

/-! ### The decoder takes such bytes, and no others, for a character -/

theorem decodeFrom_completes {code : Nat} (h : begun.Completes bytes code) (position : Nat)
    (done : List Char) (rest : List UInt8) :
    decodeFrom position done (some begun) (bytes ++ rest) =
      decodeFrom (position + bytes.length) (Char.ofNat code :: done) none rest := by
  induction h generalizing position with
  | last hadmits hneeded =>
    rw [List.singleton_append, decodeFrom, hadmits, if_neg (by simp), if_pos hneeded]
    rfl
  | next hadmits hneeded _ ih =>
    rw [List.cons_append, decodeFrom, hadmits, if_neg (by simp), if_neg hneeded, ih,
      List.length_cons, Nat.add_assoc, Nat.add_comm 1]

theorem exists_completes_of_decodeFrom
    (h : decodeFrom position done (some begun) bytes = .ok characters) :
    ∃ completing code position' rest, begun.Completes completing code ∧
      bytes = completing ++ rest ∧
      decodeFrom position' (Char.ofNat code :: done) none rest = .ok characters := by
  induction bytes generalizing position begun with
  | nil => cases h
  | cons byte rest ih =>
    rw [decodeFrom] at h
    split at h
    next => cases h
    next hadmits =>
      rw [Bool.not_eq_true, Bool.not_eq_false'] at hadmits
      split at h
      next hneeded => exact ⟨[byte], _, _, rest, .last hadmits hneeded, rfl, h⟩
      next hneeded =>
        obtain ⟨completing, code, position', rest, hcompletes, rfl, hrest⟩ := ih h
        exact ⟨byte :: completing, code, position', rest, .next hadmits hneeded hcompletes, rfl,
          hrest⟩

/-! ### The bytes of a character -/

/-- The state after a first byte, by the number of bytes that the character takes. -/
inductive Begun.StartsWith (begun : Begun) (n : Nat) : Prop where
  | two (hneeded : begun.needed = 1) (hn : 0xC2 ≤ n ∧ n < 0xE0) (hbits : begun.bits = n - 0xC0)
      (hlow : begun.low.toNat = 0x80) (hhigh : begun.high.toNat = 0xBF)
  | three (hneeded : begun.needed = 2) (hn : 0xE0 ≤ n ∧ n < 0xF0) (hbits : begun.bits = n - 0xE0)
      (hlow : n = 0xE0 ∧ begun.low.toNat = 0xA0 ∨ n ≠ 0xE0 ∧ begun.low.toNat = 0x80)
      (hhigh : n = 0xED ∧ begun.high.toNat = 0x9F ∨ n ≠ 0xED ∧ begun.high.toNat = 0xBF)
  | four (hneeded : begun.needed = 3) (hn : 0xF0 ≤ n ∧ n < 0xF5) (hbits : begun.bits = n - 0xF0)
      (hlow : n = 0xF0 ∧ begun.low.toNat = 0x90 ∨ n ≠ 0xF0 ∧ begun.low.toNat = 0x80)
      (hhigh : n = 0xF4 ∧ begun.high.toNat = 0x8F ∨ n ≠ 0xF4 ∧ begun.high.toNat = 0xBF)

theorem startsWith_of_begin? (h : begin? byte position = some begun) :
    begun.StartsWith byte.toNat := by
  unfold begin? at h
  dsimp only at h
  split at h
  next => cases h
  split at h
  next =>
    cases h
    exact .two rfl (by omega) rfl rfl rfl
  split at h
  next hn =>
    cases h
    exact .three rfl (by omega) (by simp [hn]) (.inl ⟨hn, rfl⟩) (.inr ⟨by omega, rfl⟩)
  split at h
  next hn =>
    cases h
    exact .three rfl (by omega) (by simp [hn]) (.inr ⟨by omega, rfl⟩) (.inl ⟨hn, rfl⟩)
  split at h
  next =>
    cases h
    exact .three rfl (by omega) rfl (.inr ⟨by omega, rfl⟩) (.inr ⟨by omega, rfl⟩)
  split at h
  next hn =>
    cases h
    exact .four rfl (by omega) (by simp [hn]) (.inl ⟨hn, rfl⟩) (.inr ⟨by omega, rfl⟩)
  split at h
  next =>
    cases h
    exact .four rfl (by omega) rfl (.inr ⟨by omega, rfl⟩) (.inr ⟨by omega, rfl⟩)
  split at h
  next hn =>
    cases h
    exact .four rfl (by omega) (by simp [hn]) (.inr ⟨by omega, rfl⟩) (.inl ⟨hn, rfl⟩)
  next => cases h

theorem exists_begin? (position : Nat) (byte : UInt8) (hlow : 0xC2 ≤ byte.toNat)
    (hhigh : byte.toNat < 0xF5) : ∃ begun, begin? byte position = some begun := by
  unfold begin?
  dsimp only
  repeat' split
  all_goals first | exact ⟨_, rfl⟩ | omega

theorem admits_iff :
    begun.admits byte = true ↔ begun.low.toNat ≤ byte.toNat ∧ byte.toNat ≤ begun.high.toNat := by
  simp [Begun.admits, UInt8.le_iff_toNat_le]

theorem after_admits_iff {next : UInt8} :
    (begun.after byte).admits next = true ↔ 0x80 ≤ next.toNat ∧ next.toNat ≤ 0xBF :=
  admits_iff

theorem completes_one_iff (hneeded : begun.needed = 1) {completing : List UInt8} {code : Nat} :
    begun.Completes completing code ↔
      ∃ byte, completing = [byte] ∧ begun.admits byte = true ∧ code = begun.bitsWith byte := by
  constructor
  · rintro (⟨hadmits, -⟩ | ⟨-, hmore, -⟩)
    · exact ⟨_, rfl, hadmits, rfl⟩
    · exact absurd (Nat.le_of_eq hneeded) hmore
  · rintro ⟨byte, rfl, hadmits, rfl⟩
    exact .last hadmits (Nat.le_of_eq hneeded)

theorem completes_more_iff (hneeded : 1 < begun.needed) {completing : List UInt8} {code : Nat} :
    begun.Completes completing code ↔
      ∃ byte rest, completing = byte :: rest ∧ begun.admits byte = true ∧
        (begun.after byte).Completes rest code := by
  constructor
  · rintro (⟨-, hlast⟩ | ⟨hadmits, -, hafter⟩)
    · omega
    · exact ⟨_, _, rfl, hadmits, hafter⟩
  · rintro ⟨byte, rest, rfl, hadmits, hafter⟩
    exact .next hadmits (Nat.not_le.mpr hneeded) hafter

theorem toNat_ofNat_of_isValidChar {code : Nat} (h : code.isValidChar) :
    (Char.ofNat code).toNat = code := by
  rw [Char.ofNat, dif_pos h]
  rfl

theorem exists_byte {n : Nat} (h : n < 256) : ∃ byte : UInt8, byte.toNat = n :=
  ⟨UInt8.ofNat n, by rw [UInt8.toNat_ofNat']; omega⟩

theorem ofNat_eq {n : Nat} (byte : UInt8) (h : byte.toNat = n) : UInt8.ofNat n = byte := by
  rw [← h, UInt8.ofNat_toNat]

theorem utf8EncodeChar_one {c : Char} (hc : c.toNat < 0x80) :
    String.utf8EncodeChar c = [UInt8.ofNat c.toNat] := by
  rw [String.utf8EncodeChar, Char.toNat_val, if_pos (Nat.le_of_lt_succ hc)]

theorem utf8EncodeChar_two {c : Char} {byte₁ byte₂ : UInt8}
    (hc : 0x80 ≤ c.toNat ∧ c.toNat < 0x800) (h₁ : byte₁.toNat = c.toNat / 64 + 0xC0)
    (h₂ : byte₂.toNat = c.toNat % 64 + 0x80) : String.utf8EncodeChar c = [byte₁, byte₂] := by
  rw [String.utf8EncodeChar, Char.toNat_val, if_neg (by omega), if_pos (by omega),
    ofNat_eq byte₁ (by omega), ofNat_eq byte₂ h₂]

theorem utf8EncodeChar_three {c : Char} {byte₁ byte₂ byte₃ : UInt8}
    (hc : 0x800 ≤ c.toNat ∧ c.toNat < 0x10000) (h₁ : byte₁.toNat = c.toNat / 4096 + 0xE0)
    (h₂ : byte₂.toNat = c.toNat / 64 % 64 + 0x80) (h₃ : byte₃.toNat = c.toNat % 64 + 0x80) :
    String.utf8EncodeChar c = [byte₁, byte₂, byte₃] := by
  rw [String.utf8EncodeChar, Char.toNat_val, if_neg (by omega), if_neg (by omega),
    if_pos (by omega), ofNat_eq byte₁ (by omega), ofNat_eq byte₂ h₂, ofNat_eq byte₃ h₃]

theorem utf8EncodeChar_four {c : Char} {byte₁ byte₂ byte₃ byte₄ : UInt8}
    (hc : 0x10000 ≤ c.toNat ∧ c.toNat < 0x110000) (h₁ : byte₁.toNat = c.toNat / 262144 + 0xF0)
    (h₂ : byte₂.toNat = c.toNat / 4096 % 64 + 0x80) (h₃ : byte₃.toNat = c.toNat / 64 % 64 + 0x80)
    (h₄ : byte₄.toNat = c.toNat % 64 + 0x80) :
    String.utf8EncodeChar c = [byte₁, byte₂, byte₃, byte₄] := by
  rw [String.utf8EncodeChar, Char.toNat_val, if_neg (by omega), if_neg (by omega),
    if_neg (by omega), ofNat_eq byte₁ (by omega), ofNat_eq byte₂ h₂, ofNat_eq byte₃ h₃,
    ofNat_eq byte₄ h₄]

/-- The bytes that begin and complete a character encode it. -/
theorem encode_of_completes {completing : List UInt8} {code : Nat}
    (hbegin : begin? byte position = some begun) (hcompletes : begun.Completes completing code) :
    String.utf8EncodeChar (Char.ofNat code) = byte :: completing := by
  -- The range of the second byte keeps the code from having a shorter form and off the surrogates.
  cases startsWith_of_begin? hbegin with
  | two hneeded hn hbits hlow hhigh =>
    obtain ⟨byte₂, rfl, h₂, hcode⟩ := (completes_one_iff hneeded).mp hcompletes
    rw [admits_iff, hlow, hhigh] at h₂
    rw [Begun.bitsWith, hbits] at hcode
    have hchar : (Char.ofNat code).toNat = code := toNat_ofNat_of_isValidChar (.inl (by omega))
    exact utf8EncodeChar_two (by omega) (by omega) (by omega)
  | three hneeded hn hbits hlow hhigh =>
    obtain ⟨byte₂, rest, rfl, h₂, hrest⟩ := (completes_more_iff (by omega)).mp hcompletes
    obtain ⟨byte₃, rfl, h₃, hcode⟩ := (completes_one_iff (by simp [Begun.after, hneeded])).mp hrest
    rw [admits_iff] at h₂
    rw [after_admits_iff] at h₃
    simp only [Begun.after, Begun.bitsWith, hbits] at hcode
    have hchar : (Char.ofNat code).toNat = code := toNat_ofNat_of_isValidChar (by omega)
    exact utf8EncodeChar_three (by omega) (by omega) (by omega) (by omega)
  | four hneeded hn hbits hlow hhigh =>
    obtain ⟨byte₂, rest, rfl, h₂, hrest⟩ := (completes_more_iff (by omega)).mp hcompletes
    obtain ⟨byte₃, rest, rfl, h₃, hrest⟩ :=
      (completes_more_iff (by simp [Begun.after, hneeded])).mp hrest
    obtain ⟨byte₄, rfl, h₄, hcode⟩ := (completes_one_iff (by simp [Begun.after, hneeded])).mp hrest
    rw [admits_iff] at h₂
    rw [after_admits_iff] at h₃ h₄
    simp only [Begun.after, Begun.bitsWith, hbits] at hcode
    have hchar : (Char.ofNat code).toNat = code := toNat_ofNat_of_isValidChar (by omega)
    exact utf8EncodeChar_four (by omega) (by omega) (by omega) (by omega) (by omega)

/-- Some bytes are a first byte and those that complete a character. -/
def IsReadAs (bytes : List UInt8) (position : Nat) (c : Char) : Prop :=
  ∃ byte completing begun, bytes = byte :: completing ∧ 0x80 ≤ byte.toNat ∧
    begin? byte position = some begun ∧ begun.Completes completing c.toNat

theorem isReadAs_two {c : Char} (hc : 0x80 ≤ c.toNat ∧ c.toNat < 0x800) (position : Nat) :
    IsReadAs (String.utf8EncodeChar c) position c := by
  obtain ⟨byte₁, h₁⟩ := exists_byte (n := c.toNat / 64 + 0xC0) (by omega)
  obtain ⟨byte₂, h₂⟩ := exists_byte (n := c.toNat % 64 + 0x80) (by omega)
  obtain ⟨begun, hbegin⟩ := exists_begin? position byte₁ (by omega) (by omega)
  refine ⟨byte₁, [byte₂], begun, utf8EncodeChar_two hc h₁ h₂, by omega, hbegin, ?_⟩
  cases startsWith_of_begin? hbegin with
  | two hneeded hn hbits hlow hhigh =>
    refine (completes_one_iff hneeded).mpr ⟨byte₂, rfl, admits_iff.mpr (by omega), ?_⟩
    rw [Begun.bitsWith, hbits]
    omega
  | three _ hn | four _ hn => omega

theorem isReadAs_three {c : Char} (hc : 0x800 ≤ c.toNat ∧ c.toNat < 0x10000) (position : Nat) :
    IsReadAs (String.utf8EncodeChar c) position c := by
  have hvalid : c.toNat.isValidChar := c.valid
  obtain ⟨byte₁, h₁⟩ := exists_byte (n := c.toNat / 4096 + 0xE0) (by omega)
  obtain ⟨byte₂, h₂⟩ := exists_byte (n := c.toNat / 64 % 64 + 0x80) (by omega)
  obtain ⟨byte₃, h₃⟩ := exists_byte (n := c.toNat % 64 + 0x80) (by omega)
  obtain ⟨begun, hbegin⟩ := exists_begin? position byte₁ (by omega) (by omega)
  refine ⟨byte₁, [byte₂, byte₃], begun, utf8EncodeChar_three hc h₁ h₂ h₃, by omega, hbegin, ?_⟩
  cases startsWith_of_begin? hbegin with
  | three hneeded hn hbits hlow hhigh =>
    refine (completes_more_iff (by omega)).mpr ⟨byte₂, _, rfl, admits_iff.mpr (by omega), ?_⟩
    refine (completes_one_iff (by simp [Begun.after, hneeded])).mpr
      ⟨byte₃, rfl, after_admits_iff.mpr (by omega), ?_⟩
    simp only [Begun.after, Begun.bitsWith, hbits]
    omega
  | two _ hn | four _ hn => omega

theorem isReadAs_four {c : Char} (hc : 0x10000 ≤ c.toNat ∧ c.toNat < 0x110000) (position : Nat) :
    IsReadAs (String.utf8EncodeChar c) position c := by
  obtain ⟨byte₁, h₁⟩ := exists_byte (n := c.toNat / 262144 + 0xF0) (by omega)
  obtain ⟨byte₂, h₂⟩ := exists_byte (n := c.toNat / 4096 % 64 + 0x80) (by omega)
  obtain ⟨byte₃, h₃⟩ := exists_byte (n := c.toNat / 64 % 64 + 0x80) (by omega)
  obtain ⟨byte₄, h₄⟩ := exists_byte (n := c.toNat % 64 + 0x80) (by omega)
  obtain ⟨begun, hbegin⟩ := exists_begin? position byte₁ (by omega) (by omega)
  refine ⟨byte₁, [byte₂, byte₃, byte₄], begun, utf8EncodeChar_four hc h₁ h₂ h₃ h₄, by omega,
    hbegin, ?_⟩
  cases startsWith_of_begin? hbegin with
  | four hneeded hn hbits hlow hhigh =>
    refine (completes_more_iff (by omega)).mpr ⟨byte₂, _, rfl, admits_iff.mpr (by omega), ?_⟩
    refine (completes_more_iff (by simp [Begun.after, hneeded])).mpr
      ⟨byte₃, _, rfl, after_admits_iff.mpr (by omega), ?_⟩
    refine (completes_one_iff (by simp [Begun.after, hneeded])).mpr
      ⟨byte₄, rfl, after_admits_iff.mpr (by omega), ?_⟩
    simp only [Begun.after, Begun.bitsWith, hbits]
    omega
  | two _ hn | three _ hn => omega

/-- The bytes that encode a character beyond the ASCII range begin and complete it. -/
theorem isReadAs_encode {c : Char} (hc : 0x80 ≤ c.toNat) (position : Nat) :
    IsReadAs (String.utf8EncodeChar c) position c := by
  have hvalid : c.toNat.isValidChar := c.valid
  rcases Nat.lt_or_ge c.toNat 0x800 with htwo | hmore
  · exact isReadAs_two ⟨hc, htwo⟩ position
  rcases Nat.lt_or_ge c.toNat 0x10000 with hthree | hfour
  · exact isReadAs_three ⟨hmore, hthree⟩ position
  · exact isReadAs_four ⟨hfour, by omega⟩ position

/-! ### Whole texts -/

theorem encode_cons (c : Char) (characters : List Char) :
    encode (c :: characters) = String.utf8EncodeChar c ++ encode characters :=
  List.flatMap_cons

theorem byte_lt_iff : byte < 0x80 ↔ byte.toNat < 0x80 :=
  UInt8.lt_iff_toNat_lt

theorem decodeFrom_utf8EncodeChar (position : Nat) (done : List Char) (c : Char)
    (rest : List UInt8) :
    ∃ position', decodeFrom position done none (String.utf8EncodeChar c ++ rest) =
      decodeFrom position' (c :: done) none rest := by
  rcases Nat.lt_or_ge c.toNat 0x80 with hone | hmore
  · obtain ⟨byte, hbyte⟩ := exists_byte (n := c.toNat) (by omega)
    refine ⟨position + 1, ?_⟩
    rw [utf8EncodeChar_one hone, ofNat_eq byte hbyte, List.singleton_append, decodeFrom,
      if_pos (byte_lt_iff.mpr (by omega)), hbyte, Char.ofNat_toNat]
  · obtain ⟨byte, completing, begun, hencode, hbyte, hbegin, hcompletes⟩ :=
      isReadAs_encode hmore position
    refine ⟨position + 1 + completing.length, ?_⟩
    rw [hencode, List.cons_append, decodeFrom, if_neg (by rw [byte_lt_iff]; omega), hbegin]
    dsimp only
    rw [decodeFrom_completes hcompletes, Char.ofNat_toNat]

theorem decodeFrom_encode (position : Nat) (done characters : List Char) :
    decodeFrom position done none (encode characters) = .ok (done.reverse ++ characters) := by
  induction characters generalizing position done with
  | nil => rw [List.append_nil]; rfl
  | cons c rest ih =>
    obtain ⟨position', hstep⟩ := decodeFrom_utf8EncodeChar position done c (encode rest)
    rw [encode_cons, hstep, ih, List.reverse_cons, List.append_assoc, List.singleton_append]

/-- What has been decoded begins with the encoding of a character. -/
theorem exists_step_of_decodeFrom (hne : bytes ≠ [])
    (h : decodeFrom position done none bytes = .ok characters) :
    ∃ c position' rest, bytes = String.utf8EncodeChar c ++ rest ∧
      decodeFrom position' (c :: done) none rest = .ok characters := by
  obtain ⟨byte, rest, rfl⟩ := List.exists_cons_of_ne_nil hne
  rw [decodeFrom] at h
  split at h
  next hone =>
    rw [byte_lt_iff] at hone
    have hchar : (Char.ofNat byte.toNat).toNat = byte.toNat :=
      toNat_ofNat_of_isValidChar (.inl (by omega))
    refine ⟨Char.ofNat byte.toNat, _, rest, ?_, h⟩
    rw [utf8EncodeChar_one (by omega), hchar, UInt8.ofNat_toNat, List.singleton_append]
  next =>
    split at h
    next => cases h
    next begun hbegin =>
      obtain ⟨completing, code, position', rest, hcompletes, rfl, hrest⟩ :=
        exists_completes_of_decodeFrom h
      refine ⟨Char.ofNat code, position', rest, ?_, hrest⟩
      rw [encode_of_completes hbegin hcompletes, List.cons_append]

theorem encode_of_decodeFrom (h : decodeFrom position done none bytes = .ok characters) :
    ∃ more, characters = done.reverse ++ more ∧ encode more = bytes := by
  induction hlength : bytes.length using Nat.strongRecOn generalizing position done bytes with
  | _ length ih =>
    by_cases hne : bytes = []
    · subst hne
      cases h
      exact ⟨[], (List.append_nil _).symm, rfl⟩
    · obtain ⟨c, position', rest, rfl, hrest⟩ := exists_step_of_decodeFrom hne h
      have hshorter : rest.length < length := by
        have := List.length_pos_iff.mpr (String.utf8EncodeChar_ne_nil (c := c))
        rw [← hlength, List.length_append]
        omega
      obtain ⟨more, rfl, hmore⟩ := ih rest.length hshorter hrest rfl
      refine ⟨c :: more, ?_, by rw [encode_cons, hmore]⟩
      rw [List.reverse_cons, List.append_assoc, List.singleton_append]

/-- **The decoder is the inverse of the encoding**, and accepts nothing that encodes no text. -/
theorem decode_eq_ok_iff : decode bytes = .ok characters ↔ encode characters = bytes := by
  constructor
  · intro h
    obtain ⟨more, rfl, hmore⟩ := encode_of_decodeFrom h
    exact hmore
  · rintro rfl
    exact decodeFrom_encode 0 [] characters

/-! ### The bytes of a text -/

theorem toList_loop (bytes : ByteArray) (i : Nat) (read : List UInt8) :
    ByteArray.toList.loop bytes i read = read.reverse ++ bytes.data.toList.drop i := by
  fun_induction ByteArray.toList.loop bytes i read with
  | case1 i read hi ih =>
    have hlength : i < bytes.data.toList.length := by simpa using hi
    rw [ih, List.drop_eq_getElem_cons (l := bytes.data.toList) hlength]
    simp [ByteArray.get!, hi]
  | case2 i read hi =>
    rw [List.drop_eq_nil_of_le (by simpa using Nat.le_of_not_lt hi), List.append_nil]

theorem toList_toUTF8 (text : String) : text.toUTF8.toList = encode text.toList := by
  rw [ByteArray.toList, toList_loop, List.reverse_nil, List.nil_append, List.drop_zero]
  show text.toByteArray.data.toList = encode text.toList
  rw [← String.utf8Encode_toList, List.utf8Encode, List.data_toByteArray, List.toList_toArray]
  rfl

theorem decode_toUTF8 (text : String) : decode text.toUTF8.toList = .ok text.toList :=
  decode_eq_ok_iff.mpr (toList_toUTF8 text).symm

/-- What cannot be decoded is no text. -/
theorem exists_decode_eq_error_iff :
    (∃ fault, decode bytes = .error fault) ↔ ∀ text : String, text.toUTF8.toList ≠ bytes := by
  constructor
  · rintro ⟨fault, hfault⟩ text rfl
    rw [decode_toUTF8] at hfault
    cases hfault
  · intro hnone
    cases hdecode : decode bytes with
    | error fault => exact ⟨fault, rfl⟩
    | ok characters =>
      refine absurd ?_ (hnone (String.ofList characters))
      rw [toList_toUTF8, String.toList_ofList, decode_eq_ok_iff.mp hdecode]

end Utf8
end DeclDocs
