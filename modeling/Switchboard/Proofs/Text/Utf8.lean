/-
**What is written as UTF-8 is read back, and nothing else is read.**

`readChar` finds each character again from the bytes that `String.utf8EncodeChar` gives it
(`readChar_encode`), and no other bytes (`encodeChar_of_readChar`). So a text is read back whole
(`decode_encode`), and what can be read is the bytes of a text (`decode_eq_ok_iff`). A byte below
0x80 stands for itself and for nothing else (`mem_encode_ascii`): the line ends of a text are those
of its bytes, and a part with such characters only is found among the bytes where it stands in the
text (`exists_split_at_text`).
-/

import Mathlib.Tactic.SplitIfs
import Switchboard.Text.Utf8

namespace Switchboard.Text.Utf8

/-! ### Characters by their size -/

section Reading

variable {first second third fourth : UInt8} (rest : List UInt8)

theorem isTail_iff {byte : UInt8} : isTail byte = true ↔ 0x80 ≤ byte.toNat ∧ byte.toNat ≤ 0xBF := by
  simp [isTail, UInt8.le_iff_toNat_le]

theorem mayFollow_iff :
    mayFollow first second = true ↔
      (if first.toNat = 0xE0 then 0xA0 else if first.toNat = 0xF0 then 0x90 else 0x80) ≤
          second.toNat ∧
        second.toNat ≤
          (if first.toNat = 0xED then 0x9F else if first.toNat = 0xF4 then 0x8F else 0xBF) := by
  unfold mayFollow secondRange
  simp only [← UInt8.toNat_inj, Bool.and_eq_true, decide_eq_true_eq, UInt8.le_iff_toNat_le]
  split_ifs <;> simp_all

theorem not_ascii_of_lead (lead : 0xC2 ≤ first.toNat ∧ first.toNat ≤ 0xF4) :
    ¬ first < 0x80 ∧ ¬ (first < 0xC2 || 0xF4 < first) = true := by
  simp only [UInt8.lt_iff_toNat_lt, Bool.or_eq_true, decide_eq_true_eq]
  change ¬ first.toNat < 0x80 ∧ ¬ (first.toNat < 0xC2 ∨ 0xF4 < first.toNat)
  omega

theorem readChar_one (single : first.toNat < 0x80) :
    readChar first rest = .char (Char.ofNat first.toNat) 1 := by
  unfold readChar
  rw [if_pos (UInt8.lt_iff_toNat_lt.mpr single)]

theorem readChar_two (lead : 0xC2 ≤ first.toNat ∧ first.toNat < 0xE0)
    (tail : isTail second = true) :
    readChar first (second :: rest) =
      .char (Char.ofNat ((first.toNat - 0xC0) * 0x40 + tailBits second)) 2 := by
  have long := not_ascii_of_lead ⟨lead.1, by omega⟩
  unfold readChar
  rw [if_neg long.1, if_neg long.2]
  dsimp only
  rw [if_pos (UInt8.lt_iff_toNat_lt.mpr lead.2), if_pos tail]

theorem readChar_three (lead : 0xE0 ≤ first.toNat ∧ first.toNat < 0xF0)
    (follows : mayFollow first second = true) (tail : isTail third = true) :
    readChar first (second :: third :: rest) =
      .char
        (Char.ofNat
          ((first.toNat - 0xE0) * 0x1000 + tailBits second * 0x40 + tailBits third)) 3 := by
  have bounds : 0xC2 ≤ first.toNat ∧ first.toNat ≤ 0xF4 := by omega
  have long := not_ascii_of_lead bounds
  have longer : ¬ first < 0xE0 := by
    rw [UInt8.lt_iff_toNat_lt]
    exact Nat.not_lt.mpr lead.1
  unfold readChar
  rw [if_neg long.1, if_neg long.2]
  dsimp only
  rw [if_neg longer, if_neg (by simp [follows])]
  rw [if_neg (by simp [tail]), if_pos (UInt8.lt_iff_toNat_lt.mpr lead.2)]

theorem readChar_four (lead : 0xF0 ≤ first.toNat ∧ first.toNat ≤ 0xF4)
    (follows : mayFollow first second = true) (tail : isTail third = true)
    (last : isTail fourth = true) :
    readChar first (second :: third :: fourth :: rest) =
      .char
        (Char.ofNat ((first.toNat - 0xF0) * 0x40000 + tailBits second * 0x1000
          + tailBits third * 0x40 + tailBits fourth)) 4 := by
  have bounds : 0xC2 ≤ first.toNat ∧ first.toNat ≤ 0xF4 := by omega
  have long := not_ascii_of_lead bounds
  have longer : ¬ first < 0xE0 ∧ ¬ first < 0xF0 := by
    rw [UInt8.lt_iff_toNat_lt, UInt8.lt_iff_toNat_lt]
    change ¬ first.toNat < 0xE0 ∧ ¬ first.toNat < 0xF0
    omega
  unfold readChar
  rw [if_neg long.1, if_neg long.2]
  dsimp only
  rw [if_neg longer.1, if_neg (by simp [follows])]
  rw [if_neg (by simp [tail]), if_neg longer.2, if_pos last]

end Reading

/-! ### Reading what was written -/

-- With `UInt8.size` in the bound, `omega` would not close it.
theorem toNat_ofNat {n : Nat} (small : n < 256) : (UInt8.ofNat n).toNat = n :=
  UInt8.toNat_ofNat_of_lt' small

theorem isTail_ofNat (n : Nat) : isTail (UInt8.ofNat (n % 64 + 128)) = true := by
  rw [isTail_iff, toNat_ofNat (by omega)]
  omega

theorem tailBits_ofNat (n : Nat) : tailBits (UInt8.ofNat (n % 64 + 128)) = n % 64 := by
  rw [tailBits, toNat_ofNat (by omega)]
  omega

/-- The bytes of the character with the number `n`. -/
theorem utf8EncodeChar_eq {c : Char} {n : Nat} (number : c.toNat = n) :
    String.utf8EncodeChar c =
      if n ≤ 127 then [UInt8.ofNat n]
      else if n ≤ 2047 then [UInt8.ofNat (n / 64 % 32 + 192), UInt8.ofNat (n % 64 + 128)]
      else if n ≤ 65535 then
        [UInt8.ofNat (n / 4096 % 16 + 224), UInt8.ofNat (n / 64 % 64 + 128),
          UInt8.ofNat (n % 64 + 128)]
      else
        [UInt8.ofNat (n / 262144 % 8 + 240), UInt8.ofNat (n / 4096 % 64 + 128),
          UInt8.ofNat (n / 64 % 64 + 128), UInt8.ofNat (n % 64 + 128)] := by
  rw [← number]
  rfl

theorem readChar_encode (c : Char) :
    ∃ first more, String.utf8EncodeChar c = first :: more ∧
      ∀ rest, readChar first (more ++ rest) = .char c (more.length + 1) := by
  have valid : c.toNat < 0xD800 ∨ 0xDFFF < c.toNat ∧ c.toNat < 0x110000 := c.valid
  have same : Char.ofNat c.toNat = c := Char.ofNat_toNat c
  rw [utf8EncodeChar_eq rfl]
  generalize c.toNat = n at valid same ⊢
  split_ifs with one two three
  · refine ⟨_, _, rfl, fun rest => ?_⟩
    have number : (UInt8.ofNat n).toNat = n := toNat_ofNat (by omega)
    rw [List.nil_append, readChar_one rest (by omega), number, same]
    rfl
  · refine ⟨_, _, rfl, fun rest => ?_⟩
    have lead : (UInt8.ofNat (n / 64 % 32 + 192)).toNat = n / 64 % 32 + 192 :=
      toNat_ofNat (by omega)
    have number : (n / 64 % 32 + 192 - 192) * 64 + n % 64 = n := by omega
    rw [List.singleton_append, readChar_two rest (by omega) (isTail_ofNat n), lead, tailBits_ofNat,
      number, same]
    rfl
  · refine ⟨_, _, rfl, fun rest => ?_⟩
    have lead : (UInt8.ofNat (n / 4096 % 16 + 224)).toNat = n / 4096 % 16 + 224 :=
      toNat_ofNat (by omega)
    have second : (UInt8.ofNat (n / 64 % 64 + 128)).toNat = n / 64 % 64 + 128 :=
      toNat_ofNat (by omega)
    have follows : mayFollow (UInt8.ofNat (n / 4096 % 16 + 224))
        (UInt8.ofNat (n / 64 % 64 + 128)) = true := by
      rw [mayFollow_iff, lead, second]
      split_ifs <;> omega
    have number : (n / 4096 % 16 + 224 - 224) * 4096 + n / 64 % 64 * 64 + n % 64 = n := by omega
    rw [List.cons_append, List.singleton_append,
      readChar_three rest (by omega) follows (isTail_ofNat n), lead, tailBits_ofNat, tailBits_ofNat,
      number, same]
    rfl
  · refine ⟨_, _, rfl, fun rest => ?_⟩
    have lead : (UInt8.ofNat (n / 262144 % 8 + 240)).toNat = n / 262144 % 8 + 240 :=
      toNat_ofNat (by omega)
    have second : (UInt8.ofNat (n / 4096 % 64 + 128)).toNat = n / 4096 % 64 + 128 :=
      toNat_ofNat (by omega)
    have follows : mayFollow (UInt8.ofNat (n / 262144 % 8 + 240))
        (UInt8.ofNat (n / 4096 % 64 + 128)) = true := by
      rw [mayFollow_iff, lead, second]
      split_ifs <;> omega
    have number : (n / 262144 % 8 + 240 - 240) * 262144 + n / 4096 % 64 * 4096 + n / 64 % 64 * 64
        + n % 64 = n := by omega
    rw [List.cons_append, List.cons_append, List.singleton_append,
      readChar_four rest (by omega) follows (isTail_ofNat (n / 64)) (isTail_ofNat n), lead,
      tailBits_ofNat, tailBits_ofNat, tailBits_ofNat, number, same]
    rfl

theorem decodeFrom_skip (index : Nat) (read : List Char) (skipped rest : List UInt8) :
    decodeFrom index skipped.length read (skipped ++ rest) =
      decodeFrom (index + skipped.length) 0 read rest := by
  induction skipped generalizing index with
  | nil => rfl
  | cons byte more ih =>
    have step : decodeFrom index (more.length + 1) read (byte :: (more ++ rest)) =
        decodeFrom (index + 1) more.length read (more ++ rest) := rfl
    rw [List.length_cons, List.cons_append, step, ih, Nat.add_assoc, Nat.add_comm 1]

theorem encode_cons (c : Char) (rest : List Char) :
    encode (c :: rest) = String.utf8EncodeChar c ++ encode rest :=
  List.flatMap_cons

theorem decodeFrom_encode (index : Nat) (read chars : List Char) :
    decodeFrom index 0 read (encode chars) = .ok (read.reverse ++ chars) := by
  induction chars generalizing index read with
  | nil => exact congrArg Except.ok (List.append_nil _).symm
  | cons c rest ih =>
    obtain ⟨first, more, bytes, reads⟩ := readChar_encode c
    have split : encode (c :: rest) = first :: (more ++ encode rest) := by
      rw [encode_cons, bytes, List.cons_append]
    rw [split, decodeFrom, reads]
    dsimp only
    rw [Nat.add_sub_cancel, decodeFrom_skip, ih, List.reverse_cons, List.append_assoc]
    rfl

theorem decode_encode (chars : List Char) : decode (encode chars) = .ok chars :=
  decodeFrom_encode 0 [] chars

theorem encode_injective : Function.Injective encode := by
  intro first second same
  have read := congrArg decode same
  rw [decode_encode, decode_encode] at read
  exact Except.ok.inj read

theorem encode_append (first second : List Char) :
    encode (first ++ second) = encode first ++ encode second :=
  List.flatMap_append

theorem encode_flatMap {α : Type} (members : List α) (chars : α → List Char) :
    encode (members.flatMap chars) = members.flatMap fun member => encode (chars member) :=
  List.flatMap_assoc

/-! ### Writing what was read -/

theorem toNat_charOfNat {n : Nat} (valid : n < 0xD800 ∨ 0xDFFF < n ∧ n < 0x110000) :
    (Char.ofNat n).toNat = n := by
  unfold Char.ofNat
  rw [dif_pos valid]
  rfl

theorem ofNat_eq_of_toNat {byte : UInt8} {n : Nat} (number : byte.toNat = n) :
    UInt8.ofNat n = byte := by
  rw [← number, UInt8.ofNat_toNat]

/-- A continuing byte carries its six lower bits. -/
theorem toNat_of_isTail {byte : UInt8} (tail : isTail byte = true) :
    byte.toNat = tailBits byte + 128 ∧ tailBits byte < 64 := by
  rw [isTail_iff] at tail
  unfold tailBits
  omega

section Written

variable {first second third fourth : UInt8}

theorem encodeChar_two (lead : 0xC2 ≤ first.toNat ∧ first.toNat < 0xE0)
    (tail : isTail second = true) :
    String.utf8EncodeChar (Char.ofNat ((first.toNat - 0xC0) * 0x40 + tailBits second)) =
      [first, second] := by
  obtain ⟨bits, small⟩ := toNat_of_isTail tail
  have number := toNat_charOfNat
    (show (first.toNat - 0xC0) * 0x40 + tailBits second < 0xD800 ∨ _ from .inl (by omega))
  rw [utf8EncodeChar_eq number, if_neg (by omega), if_pos (by omega),
    ofNat_eq_of_toNat (by omega : first.toNat = _), ofNat_eq_of_toNat (by omega : second.toNat = _)]

theorem mayFollow_isTail (follows : mayFollow first second = true) : isTail second = true := by
  rw [mayFollow_iff] at follows
  rw [isTail_iff]
  split_ifs at follows <;> omega

theorem encodeChar_three (lead : 0xE0 ≤ first.toNat ∧ first.toNat < 0xF0)
    (follows : mayFollow first second = true) (tail : isTail third = true) :
    String.utf8EncodeChar
        (Char.ofNat
          ((first.toNat - 0xE0) * 0x1000 + tailBits second * 0x40 + tailBits third)) =
      [first, second, third] := by
  obtain ⟨bits₂, small₂⟩ := toNat_of_isTail (mayFollow_isTail follows)
  obtain ⟨bits₃, small₃⟩ := toNat_of_isTail tail
  rw [mayFollow_iff] at follows
  have valid : 2047 < (first.toNat - 0xE0) * 0x1000 + tailBits second * 0x40 + tailBits third ∧
      ((first.toNat - 0xE0) * 0x1000 + tailBits second * 0x40 + tailBits third < 0xD800 ∨
        0xDFFF < (first.toNat - 0xE0) * 0x1000 + tailBits second * 0x40 + tailBits third ∧
          (first.toNat - 0xE0) * 0x1000 + tailBits second * 0x40 + tailBits third < 0x110000) := by
    split_ifs at follows <;> omega
  rw [utf8EncodeChar_eq (toNat_charOfNat valid.2), if_neg (by omega), if_neg (by omega),
    if_pos (by omega), ofNat_eq_of_toNat (by omega : first.toNat = _),
    ofNat_eq_of_toNat (by omega : second.toNat = _), ofNat_eq_of_toNat (by omega : third.toNat = _)]

theorem encodeChar_four (lead : 0xF0 ≤ first.toNat ∧ first.toNat ≤ 0xF4)
    (follows : mayFollow first second = true) (tail : isTail third = true)
    (last : isTail fourth = true) :
    String.utf8EncodeChar
        (Char.ofNat ((first.toNat - 0xF0) * 0x40000 + tailBits second * 0x1000
          + tailBits third * 0x40 + tailBits fourth)) =
      [first, second, third, fourth] := by
  obtain ⟨bits₂, small₂⟩ := toNat_of_isTail (mayFollow_isTail follows)
  obtain ⟨bits₃, small₃⟩ := toNat_of_isTail tail
  obtain ⟨bits₄, small₄⟩ := toNat_of_isTail last
  rw [mayFollow_iff] at follows
  have valid : 0xFFFF < (first.toNat - 0xF0) * 0x40000 + tailBits second * 0x1000
        + tailBits third * 0x40 + tailBits fourth ∧
      (first.toNat - 0xF0) * 0x40000 + tailBits second * 0x1000
        + tailBits third * 0x40 + tailBits fourth < 0x110000 := by
    split_ifs at follows <;> omega
  rw [utf8EncodeChar_eq (toNat_charOfNat (.inr ⟨by omega, valid.2⟩)), if_neg (by omega),
    if_neg (by omega), if_neg (by omega), ofNat_eq_of_toNat (by omega : first.toNat = _),
    ofNat_eq_of_toNat (by omega : second.toNat = _), ofNat_eq_of_toNat (by omega : third.toNat = _),
    ofNat_eq_of_toNat (by omega : fourth.toNat = _)]

end Written

/-- A character that is read is written with the bytes it was read from. -/
theorem encodeChar_of_readChar {first : UInt8} {rest : List UInt8} {c : Char} {size : Nat}
    (reads : readChar first rest = .char c size) :
    ∃ more tail, rest = more ++ tail ∧ size = more.length + 1 ∧
      String.utf8EncodeChar c = first :: more := by
  unfold readChar at reads
  split at reads
  · next single =>
    cases reads
    have small := UInt8.lt_iff_toNat_lt.mp single
    change first.toNat < 128 at small
    refine ⟨[], rest, rfl, rfl, ?_⟩
    rw [utf8EncodeChar_eq (toNat_charOfNat (.inl (by omega))), if_pos (by omega),
      UInt8.ofNat_toNat]
  split at reads
  · cases reads
  next many bad =>
  have lead : 0xC2 ≤ first.toNat ∧ first.toNat ≤ 0xF4 := by
    simp only [UInt8.lt_iff_toNat_lt, Bool.or_eq_true, decide_eq_true_eq] at bad
    change ¬ (first.toNat < 0xC2 ∨ 0xF4 < first.toNat) at bad
    omega
  split at reads
  · cases reads
  next second rest =>
  split at reads
  · next short =>
    split at reads
    · next tail =>
      cases reads
      exact ⟨[second], rest, rfl, rfl,
        encodeChar_two ⟨lead.1, UInt8.lt_iff_toNat_lt.mp short⟩ tail⟩
    · cases reads
  next long =>
  have three : 0xE0 ≤ first.toNat :=
    Nat.le_of_not_lt fun less => long (UInt8.lt_iff_toNat_lt.mpr less)
  split at reads
  · cases reads
  next follows =>
  rw [Bool.not_eq_true, Bool.not_eq_false'] at follows
  split at reads
  · cases reads
  next third rest =>
  split at reads
  · cases reads
  next tail =>
  rw [Bool.not_eq_true, Bool.not_eq_false'] at tail
  split at reads
  · next short =>
    cases reads
    exact ⟨[second, third], rest, rfl, rfl,
      encodeChar_three ⟨three, UInt8.lt_iff_toNat_lt.mp short⟩ follows tail⟩
  next longer =>
  have four : 0xF0 ≤ first.toNat :=
    Nat.le_of_not_lt fun less => longer (UInt8.lt_iff_toNat_lt.mpr less)
  split at reads
  · cases reads
  next fourth rest =>
  split at reads
  · next last =>
    cases reads
    exact ⟨[second, third, fourth], rest, rfl, rfl,
      encodeChar_four ⟨four, lead.2⟩ follows tail last⟩
  · cases reads

theorem encode_of_decodeFrom {index : Nat} {read text : List Char} {bytes : List UInt8}
    (decodes : decodeFrom index 0 read bytes = .ok text) :
    ∃ more, text = read.reverse ++ more ∧ bytes = encode more := by
  induction shorter : bytes.length using Nat.strongRecOn generalizing index read bytes with
  | ind length ih =>
    cases bytes with
    | nil =>
      cases decodes
      exact ⟨[], (List.append_nil _).symm, rfl⟩
    | cons byte rest =>
      unfold decodeFrom at decodes
      dsimp only at decodes
      split at decodes
      · next c size reads =>
        obtain ⟨front, tail, rfl, rfl, written⟩ := encodeChar_of_readChar reads
        rw [Nat.add_sub_cancel, decodeFrom_skip] at decodes
        have less : tail.length < length := by
          rw [← shorter, List.length_cons, List.length_append]
          omega
        obtain ⟨more, rfl, rfl⟩ := ih tail.length less decodes rfl
        refine ⟨c :: more, ?_, ?_⟩
        · rw [List.reverse_cons, List.append_assoc, List.singleton_append]
        · unfold encode
          rw [List.flatMap_cons, written, List.cons_append]
      · cases decodes
      · cases decodes

/-- The bytes that can be read are those of a text, and are read as that text. -/
theorem decode_eq_ok_iff {bytes : List UInt8} {text : List Char} :
    decode bytes = .ok text ↔ bytes = encode text := by
  constructor
  · intro decodes
    obtain ⟨more, rfl, same⟩ := encode_of_decodeFrom decodes
    exact same
  · rintro rfl
    exact decode_encode text

/-! ### Bytes that stand for themselves -/

theorem mem_encodeChar_ascii {c : Char} {byte : UInt8} (inside : byte ∈ String.utf8EncodeChar c)
    (ascii : byte.toNat < 0x80) : c.toNat = byte.toNat := by
  rw [utf8EncodeChar_eq rfl] at inside
  have high {n : Nat} (big : 0x80 ≤ n) (small : n < 0x100) : byte ≠ UInt8.ofNat n := by
    rintro rfl
    rw [toNat_ofNat small] at ascii
    omega
  generalize c.toNat = n at inside ⊢
  split_ifs at inside
  · rw [List.mem_singleton.mp inside]
    exact (toNat_ofNat (by omega)).symm
  all_goals
    simp only [List.mem_cons, List.not_mem_nil, or_false] at inside
  · rcases inside with is | is <;> exact absurd is (high (by omega) (by omega))
  · rcases inside with is | is | is <;> exact absurd is (high (by omega) (by omega))
  · rcases inside with is | is | is | is <;> exact absurd is (high (by omega) (by omega))

theorem mem_encode_ascii {c : Char} (ascii : c.toNat < 0x80) {chars : List Char} :
    UInt8.ofNat c.toNat ∈ encode chars ↔ c ∈ chars := by
  have number : (UInt8.ofNat c.toNat).toNat = c.toNat := toNat_ofNat (by omega)
  unfold encode
  rw [List.mem_flatMap]
  constructor
  · rintro ⟨other, member, inside⟩
    have same := mem_encodeChar_ascii inside (by omega)
    rw [number] at same
    rwa [← Char.toNat_inj.mp same]
  · intro member
    refine ⟨c, member, ?_⟩
    rw [utf8EncodeChar_eq rfl, if_pos (by omega)]
    exact List.mem_singleton_self _

/-! ### Places in a text -/

/-- A character below 0x80 takes one byte. -/
theorem utf8EncodeChar_ascii {c : Char} (ascii : c.toNat < 0x80) :
    String.utf8EncodeChar c = [UInt8.ofNat c.toNat] := by
  rw [utf8EncodeChar_eq rfl, if_pos (by omega)]

/-- What stands in front of a byte begins with a part that does not have it. -/
theorem exists_more_of_not_mem {part rest before behind : List UInt8} {byte : UInt8}
    (outside : byte ∉ part) (bytes : part ++ rest = before ++ byte :: behind) :
    ∃ more, before = part ++ more ∧ rest = more ++ byte :: behind := by
  rcases List.append_eq_append_iff.mp bytes with found | ⟨more, own, later⟩
  · exact found
  · cases more with
    | nil => exact ⟨[], by rw [own, List.append_nil, List.append_nil], later.symm⟩
    | cons first more =>
      obtain ⟨rfl, -⟩ := List.cons.inj later
      exact absurd (own ▸ List.mem_append_right _ List.mem_cons_self) outside

/-- Where the byte of a character below 0x80 stands, the text falls apart at that character. -/
theorem exists_split_at_ascii {c : Char} (ascii : c.toNat < 0x80) {chars : List Char}
    {before behind : List UInt8} (bytes : encode chars = before ++ UInt8.ofNat c.toNat :: behind) :
    ∃ front back, chars = front ++ c :: back ∧ encode front = before ∧ encode back = behind := by
  induction chars generalizing before with
  | nil => exact absurd bytes.symm (List.append_ne_nil_of_right_ne_nil _ (List.cons_ne_nil _ _))
  | cons first rest ih =>
    by_cases isFirst : first = c
    · subst isFirst
      rw [encode_cons, utf8EncodeChar_ascii ascii, List.singleton_append] at bytes
      cases before with
      | nil => exact ⟨[], rest, rfl, rfl, (List.cons.inj bytes).2⟩
      | cons byte more =>
        obtain ⟨rfl, later⟩ := List.cons.inj bytes
        obtain ⟨front, back, rfl, rfl, same⟩ := ih later
        refine ⟨first :: front, back, rfl, ?_, same⟩
        rw [encode_cons, utf8EncodeChar_ascii ascii, List.singleton_append]
    · have number : (UInt8.ofNat c.toNat).toNat = c.toNat := toNat_ofNat (by omega)
      have outside : UInt8.ofNat c.toNat ∉ String.utf8EncodeChar first := fun inside =>
        isFirst (Char.toNat_inj.mp ((mem_encodeChar_ascii inside (by omega)).trans number))
      rw [encode_cons] at bytes
      obtain ⟨more, rfl, later⟩ := exists_more_of_not_mem outside bytes
      obtain ⟨front, back, rfl, rfl, same⟩ := ih later
      exact ⟨first :: front, back, rfl, encode_cons first front, same⟩

/-- Where the bytes of characters below 0x80 stand, the text falls apart in front of them and behind
them. -/
theorem exists_split_at_text {pattern : List Char} (ascii : ∀ c ∈ pattern, c.toNat < 0x80)
    (filled : pattern ≠ []) {chars : List Char} {before behind : List UInt8}
    (bytes : encode chars = before ++ (encode pattern ++ behind)) :
    ∃ front back, chars = front ++ (pattern ++ back) ∧ encode front = before ∧
      encode back = behind := by
  induction pattern generalizing chars before with
  | nil => exact absurd rfl filled
  | cons c pattern ih =>
    obtain ⟨first, others⟩ := List.forall_mem_cons.mp ascii
    rw [encode_cons, utf8EncodeChar_ascii first, List.append_assoc, List.singleton_append] at bytes
    obtain ⟨front, rest, rfl, rfl, later⟩ := exists_split_at_ascii first bytes
    by_cases last : pattern = []
    · subst last
      exact ⟨front, rest, rfl, rfl, later⟩
    · rw [← List.nil_append (encode pattern ++ behind)] at later
      obtain ⟨nothing, back, rfl, empty, same⟩ := ih others last later
      have : nothing = [] := encode_injective empty
      subst this
      exact ⟨front, back, rfl, rfl, same⟩

/-- Whether no character stands across a place among bytes. -/
def isBoundary (bytes : List UInt8) (index : Nat) : Bool :=
  match bytes[index]? with
  | some byte => !isTail byte
  | none => index == bytes.length

/-- No character begins with a byte that continues one. -/
theorem readChar_of_isTail {first : UInt8} (tail : isTail first = true) (rest : List UInt8) :
    readChar first rest = .invalid 1 := by
  obtain ⟨least, greatest⟩ := isTail_iff.mp tail
  unfold readChar
  rw [if_neg, if_pos]
  · simp only [Bool.or_eq_true, decide_eq_true_eq, UInt8.lt_iff_toNat_lt]
    exact .inl (show first.toNat < 0xC2 by omega)
  · rw [UInt8.lt_iff_toNat_lt]
    exact (show ¬ first.toNat < 0x80 by omega)

theorem isBoundary_encode (front back : List Char) :
    isBoundary (encode front ++ encode back) (encode front).length = true := by
  unfold isBoundary
  rw [List.getElem?_append_right (Nat.le_refl _), Nat.sub_self]
  cases back with
  | nil => exact beq_iff_eq.mpr (congrArg List.length (List.append_nil _)).symm
  | cons c rest =>
    obtain ⟨first, more, bytes, reads⟩ := readChar_encode c
    rw [encode_cons, bytes, List.cons_append, List.getElem?_cons_zero]
    cases tail : isTail first with
    | false => simp only [tail, Bool.not_false]
    | true => exact absurd ((reads []).symm.trans (readChar_of_isTail tail _)) nofun

end Switchboard.Text.Utf8
