import Mathlib.Tactic.Common
import QuorumRate.Encoding.Detection

/-! Texts written in an encoding, with or without a byte order mark in front, and read back. The
encoding is found again from the first few octets, since the text starts in ASCII and holds no
zero. -/
namespace QuorumRate.Encoding

namespace ByteOrder

def octets16 (order : ByteOrder) (n : Nat) : Octets :=
  match order with
  | .little => [.ofNat n, .ofNat (n / 256)]
  | .big => [.ofNat (n / 256), .ofNat n]

def octets32 (order : ByteOrder) (n : Nat) : Octets :=
  match order with
  | .little => [.ofNat n, .ofNat (n / 256), .ofNat (n / 65536), .ofNat (n / 16777216)]
  | .big => [.ofNat (n / 16777216), .ofNat (n / 65536), .ofNat (n / 256), .ofNat n]

end ByteOrder

def Utf16.encode (order : ByteOrder) (c : CodePoint) : Octets :=
  if c.val < 0x10000 then order.octets16 c.val
  else
    order.octets16 (0xD800 + (c.val - 0x10000) / 0x400) ++
      order.octets16 (0xDC00 + (c.val - 0x10000) % 0x400)

def Utf32.encode (order : ByteOrder) (c : CodePoint) : Octets := order.octets32 c.val

def encode : Encoding → CodePoint → Octets
  | .utf8 => Utf8.encode
  | .utf16 order => Utf16.encode order
  | .utf32 order => Utf32.encode order

def mark (e : Encoding) : Octets := e.encode ⟨0xFEFF, by decide⟩

def written (e : Encoding) (marked : Bool) (t : Text) : Octets :=
  (if marked then e.mark else []) ++ t.flatMap e.encode

theorem octetValue {n : Nat} (small : n < 256) : (UInt8.ofNat n).toNat = n := by
  rw [UInt8.toNat_ofNat', Nat.mod_eq_of_lt small]

theorem octetNonzero {n : Nat} (positive : n % 256 ≠ 0) : UInt8.ofNat n ≠ 0 := by
  rw [Ne, ← UInt8.toNat_inj, UInt8.toNat_ofNat']
  exact positive

namespace Utf8

theorem isTailIff {b : UInt8} : isTail b = true ↔ 0x80 ≤ b.toNat ∧ b.toNat < 0xC0 := by
  simp [isTail, UInt8.le_iff_toNat_le, UInt8.lt_iff_toNat_lt]

theorem mayFollowIff {a b : UInt8} : mayFollow a b = true ↔ (0x80 ≤ b.toNat ∧ b.toNat < 0xC0) ∧
    (a.toNat = 0xE0 → 0xA0 ≤ b.toNat) ∧ (a.toNat = 0xED → b.toNat < 0xA0) ∧
    (a.toNat = 0xF0 → 0x90 ≤ b.toNat) ∧ (a.toNat = 0xF4 → b.toNat < 0x90) := by
  rw [mayFollow, Bool.and_eq_true, isTailIff]
  refine and_congr_right fun _ => ?_
  simp only [← UInt8.toNat_inj, UInt8.le_iff_toNat_le, UInt8.lt_iff_toNat_lt]
  simp only [UInt8.reduceToNat]
  repeat' split
  all_goals simp only [decide_eq_true_eq, true_iff]; omega

theorem cutOne {a : UInt8} (ascii : a.toNat < 0x80) (rest : Octets) :
    cut a rest = .character ⟨a.toNat, by omega⟩ 1 := by
  have small : a < 0x80 := ascii
  simp [cut, small, Nat.mod_eq_of_lt ascii]

theorem cutTwo {a b : UInt8} (lead : 0xC2 ≤ a.toNat ∧ a.toNat < 0xE0)
    (follows : mayFollow a b = true) (rest : Octets) :
    cut a (b :: rest) = .character (codePoint2 a b) 2 := by
  have two : isLead2 a = true := by
    simpa [isLead2, UInt8.le_iff_toNat_le, UInt8.lt_iff_toNat_lt] using lead
  have large : ¬ a < 0x80 := by simp [UInt8.lt_iff_toNat_lt]; omega
  simp [cut, large, two, cut2, follows]

theorem cutThree {a b c : UInt8} (lead : 0xE0 ≤ a.toNat ∧ a.toNat < 0xF0)
    (follows : mayFollow a b = true) (tail : isTail c = true) (rest : Octets) :
    cut a (b :: c :: rest) = .character (codePoint3 a b c) 3 := by
  have three : isLead3 a = true := by
    simpa [isLead3, UInt8.le_iff_toNat_le, UInt8.lt_iff_toNat_lt] using lead
  have notTwo : isLead2 a = false := by simp [isLead2, UInt8.lt_iff_toNat_lt]; omega
  have large : ¬ a < 0x80 := by simp [UInt8.lt_iff_toNat_lt]; omega
  simp [cut, large, notTwo, three, cut3, follows, tail]

theorem cutFour {a b c d : UInt8} (lead : 0xF0 ≤ a.toNat ∧ a.toNat < 0xF5)
    (follows : mayFollow a b = true) (third : isTail c = true) (fourth : isTail d = true)
    (rest : Octets) : cut a (b :: c :: d :: rest) = .character (codePoint4 a b c d) 4 := by
  have four : isLead4 a = true := by
    simpa [isLead4, UInt8.le_iff_toNat_le, UInt8.lt_iff_toNat_lt] using lead
  have notThree : isLead3 a = false := by simp [isLead3, UInt8.lt_iff_toNat_lt]; omega
  have notTwo : isLead2 a = false := by simp [isLead2, UInt8.lt_iff_toNat_lt]; omega
  have large : ¬ a < 0x80 := by simp [UInt8.lt_iff_toNat_lt]; omega
  simp [cut, large, notTwo, notThree, four, cut4, follows, third, fourth]

theorem cutOrdinary {a b : UInt8} (follows : a.toNat = 0xED → b.toNat < 0xA0) (rest : Octets) :
    cutWithSurrogates a (b :: rest) = cut a (b :: rest) := by
  unfold cutWithSurrogates
  split
  · rename_i b c _ same
    cases same
    rw [if_neg]
    simp only [Bool.and_eq_true, decide_eq_true_eq, ← UInt8.toNat_inj, UInt8.le_iff_toNat_le]
    exact fun ⟨⟨⟨own, high⟩, _⟩, _⟩ => absurd (follows own) (Nat.not_lt.mpr high)
  · rfl

theorem oneEncoded {n : Nat} (one : n < 0x80) (rest : Octets) :
    cutWithSurrogates (.ofNat n) rest = .character ⟨n, by omega⟩ 1 := by
  have a := octetValue (n := n) (by omega)
  have plain : cutWithSurrogates (.ofNat n) rest = cut (.ofNat n) rest := by
    cases rest with
    | nil => rfl
    | cons b rest => exact cutOrdinary (by omega) rest
  rw [plain, cutOne (by omega)]
  simp only [a]

theorem twoEncoded {n : Nat} (more : 0x80 ≤ n) (two : n < 0x800) (rest : Octets) :
    cutWithSurrogates (.ofNat (0xC0 + n / 64)) (.ofNat (0x80 + n % 64) :: rest) =
      .character ⟨n, by omega⟩ 2 := by
  have a := octetValue (n := 0xC0 + n / 64) (by omega)
  have b := octetValue (n := 0x80 + n % 64) (by omega)
  have follows : mayFollow (.ofNat (0xC0 + n / 64)) (.ofNat (0x80 + n % 64)) = true := by
    rw [mayFollowIff, a, b]
    omega
  rw [cutOrdinary (by omega), cutTwo (by omega) follows]
  simp only [codePoint2, tailBits, a, b, Segment.character.injEq, CodePoint.mk.injEq, and_true]
  omega

theorem threeEncoded {n : Nat} (more : 0x800 ≤ n) (three : n < 0x10000)
    (ordinary : ¬ (0xD800 ≤ n ∧ n ≤ 0xDFFF)) (rest : Octets) :
    cutWithSurrogates (.ofNat (0xE0 + n / 4096))
        (.ofNat (0x80 + n / 64 % 64) :: .ofNat (0x80 + n % 64) :: rest) =
      .character ⟨n, by omega⟩ 3 := by
  have a := octetValue (n := 0xE0 + n / 4096) (by omega)
  have b := octetValue (n := 0x80 + n / 64 % 64) (by omega)
  have c := octetValue (n := 0x80 + n % 64) (by omega)
  have follows : mayFollow (.ofNat (0xE0 + n / 4096)) (.ofNat (0x80 + n / 64 % 64)) = true := by
    rw [mayFollowIff, a, b]
    omega
  rw [cutOrdinary (mayFollowIff.mp follows).2.2.1,
    cutThree (by omega) follows (isTailIff.mpr (by omega))]
  simp only [codePoint3, tailBits, a, b, c, Segment.character.injEq, CodePoint.mk.injEq, and_true]
  omega

theorem fourEncoded {n : Nat} (more : 0x10000 ≤ n) (bound : n < 0x110000) (rest : Octets) :
    cutWithSurrogates (.ofNat (0xF0 + n / 262144)) (.ofNat (0x80 + n / 4096 % 64) ::
        .ofNat (0x80 + n / 64 % 64) :: .ofNat (0x80 + n % 64) :: rest) =
      .character ⟨n, bound⟩ 4 := by
  have a := octetValue (n := 0xF0 + n / 262144) (by omega)
  have b := octetValue (n := 0x80 + n / 4096 % 64) (by omega)
  have c := octetValue (n := 0x80 + n / 64 % 64) (by omega)
  have d := octetValue (n := 0x80 + n % 64) (by omega)
  have follows :
      mayFollow (.ofNat (0xF0 + n / 262144)) (.ofNat (0x80 + n / 4096 % 64)) = true := by
    rw [mayFollowIff, a, b]
    omega
  have lead : (0xF0 + n / 262144) % 8 * 64 + (0x80 + n / 4096 % 64) % 64 = n / 4096 := by omega
  rw [cutOrdinary (mayFollowIff.mp follows).2.2.1,
    cutFour (by omega) follows (isTailIff.mpr (by omega)) (isTailIff.mpr (by omega))]
  simp only [codePoint4, tailBits, a, b, c, d, lead, Segment.character.injEq, CodePoint.mk.injEq,
    and_true]
  omega

theorem cutEncoded {c : CodePoint} (scalar : c.isSurrogate = false) (rest : Octets) :
    ∃ a tail, encode c = a :: tail ∧
      cutWithSurrogates a (tail ++ rest) = .character c (tail.length + 1) := by
  obtain ⟨n, bound⟩ := c
  have ordinary : ¬ (0xD800 ≤ n ∧ n ≤ 0xDFFF) := by simpa [CodePoint.isSurrogate] using scalar
  unfold encode
  dsimp only
  split
  · rename_i one
    exact ⟨_, [], rfl, oneEncoded one rest⟩
  split
  · rename_i more two
    exact ⟨_, [_], rfl, twoEncoded (Nat.le_of_not_lt more) two rest⟩
  split
  · rename_i more three
    exact ⟨_, [_, _], rfl, threeEncoded (Nat.le_of_not_lt more) three ordinary rest⟩
  · rename_i more
    exact ⟨_, [_, _, _], rfl, fourEncoded (Nat.le_of_not_lt more) bound rest⟩

end Utf8

theorem ByteOrder.unit16Octets (order : ByteOrder) {n : Nat} (small : n < 0x10000) :
    ∃ a b, order.octets16 n = [a, b] ∧ order.unit16 a b = ⟨n, by omega⟩ := by
  have high := octetValue (n := n / 256) (by omega)
  cases order with
  | little =>
    refine ⟨_, _, rfl, ?_⟩
    simp only [unit16, CodePoint.ofUnit, high, UInt8.toNat_ofNat', CodePoint.mk.injEq]
    omega
  | big =>
    refine ⟨_, _, rfl, ?_⟩
    simp only [unit16, CodePoint.ofUnit, high, UInt8.toNat_ofNat', CodePoint.mk.injEq]
    omega

theorem Utf16.cutEncoded (order : ByteOrder) {c : CodePoint} (scalar : c.isSurrogate = false)
    (rest : Octets) : ∃ a tail, Utf16.encode order c = a :: tail ∧
      Utf16.cut order a (tail ++ rest) = .character c (tail.length + 1) := by
  obtain ⟨n, bound⟩ := c
  have outside : ¬ (0xD800 ≤ n ∧ n ≤ 0xDFFF) := by simpa [CodePoint.isSurrogate] using scalar
  unfold Utf16.encode
  dsimp only
  split
  · rename_i one
    obtain ⟨a, b, octets, unit⟩ := order.unit16Octets one
    have single : (⟨n, bound⟩ : CodePoint).isHighSurrogate = false := by
      simp only [CodePoint.isHighSurrogate, Bool.and_eq_false_iff, decide_eq_false_iff_not]
      omega
    refine ⟨a, [b], octets, ?_⟩
    unfold Utf16.cut
    simp only [List.singleton_append, unit, single, Bool.false_and]
    split <;> rfl
  · obtain ⟨a, b, first, high⟩ :=
      order.unit16Octets (n := 0xD800 + (n - 0x10000) / 0x400) (by omega)
    obtain ⟨c, d, second, low⟩ :=
      order.unit16Octets (n := 0xDC00 + (n - 0x10000) % 0x400) (by omega)
    refine ⟨a, [b, c, d], by rw [first, second]; rfl, ?_⟩
    have isPair : (order.unit16 a b).isHighSurrogate && (order.unit16 c d).isLowSurrogate := by
      rw [high, low]
      simp [CodePoint.isHighSurrogate, CodePoint.isLowSurrogate]
      omega
    have joined : CodePoint.ofSurrogates (order.unit16 a b) (order.unit16 c d) = ⟨n, bound⟩ := by
      rw [high, low]
      simp only [CodePoint.ofSurrogates, CodePoint.mk.injEq]
      omega
    unfold Utf16.cut
    simp only [List.cons_append, List.nil_append, isPair, if_true, joined, List.length_cons,
      List.length_nil]

theorem Utf32.cutEncoded (order : ByteOrder) (c : CodePoint) (rest : Octets) :
    ∃ a tail, Utf32.encode order c = a :: tail ∧
      Utf32.cut order a (tail ++ rest) = .character c (tail.length + 1) := by
  obtain ⟨n, bound⟩ := c
  have most := octetValue (n := n / 16777216) (by omega)
  cases order with
  | little =>
    have same : ByteOrder.little.unit32 (.ofNat n) (.ofNat (n / 256)) (.ofNat (n / 65536))
        (.ofNat (n / 16777216)) = n := by
      simp only [ByteOrder.unit32, most, UInt8.toNat_ofNat']
      omega
    refine ⟨_, [_, _, _], rfl, ?_⟩
    simp [Utf32.cut, same, bound]
  | big =>
    have same : ByteOrder.big.unit32 (.ofNat (n / 16777216)) (.ofNat (n / 65536))
        (.ofNat (n / 256)) (.ofNat n) = n := by
      simp only [ByteOrder.unit32, most, UInt8.toNat_ofNat']
      omega
    refine ⟨_, [_, _, _], rfl, ?_⟩
    simp [Utf32.cut, same, bound]

theorem cutEncoded (e : Encoding) {c : CodePoint} (scalar : c.isSurrogate = false)
    (rest : Octets) : ∃ a tail, e.encode c = a :: tail ∧
      e.cutter a (tail ++ rest) = .character c (tail.length + 1) := by
  cases e with
  | utf8 => exact Utf8.cutEncoded scalar rest
  | utf16 order => exact Utf16.cutEncoded order scalar rest
  | utf32 order => exact Utf32.cutEncoded order c rest

theorem segmentsSkip (cut : Cutter) (found : List Segment) (tail rest : Octets) :
    segmentsOnto cut found tail.length (tail ++ rest) = segmentsOnto cut found 0 rest := by
  induction tail with
  | nil => rfl
  | cons a tail ih => rw [List.length_cons, List.cons_append, segmentsOnto, ih]

theorem segmentsEncoded (e : Encoding) {t : Text} (scalar : ∀ c ∈ t, c.isSurrogate = false)
    (found : List Segment) : segmentsOnto e.cutter found 0 (t.flatMap e.encode) =
      found.reverse ++ t.map fun c => .character c (e.encode c).length := by
  induction t generalizing found with
  | nil => simp [segmentsOnto]
  | cons c t ih =>
    obtain ⟨a, tail, encoded, cut⟩ :=
      e.cutEncoded (scalar c List.mem_cons_self) (t.flatMap e.encode)
    rw [List.flatMap_cons, encoded, List.cons_append, segmentsOnto, cut]
    change segmentsOnto e.cutter _ tail.length _ = _
    rw [segmentsSkip, ih fun d member => scalar d (List.mem_cons_of_mem c member)]
    simp [encoded]

theorem textCharacters (length : CodePoint → Nat) (t : Text) (offset : Nat) (found : Text) :
    textOnto offset found (t.map fun c => .character c (length c)) = .ok (found.reverse ++ t) := by
  induction t generalizing offset found with
  | nil => simp [textOnto]
  | cons c t ih =>
    rw [List.map_cons, textOnto, ih]
    simp

theorem decodeEncoded (e : Encoding) {t : Text} (scalar : ∀ c ∈ t, c.isSurrogate = false)
    (offset : Nat) : decode e.cutter offset (t.flatMap e.encode) = .ok t := by
  unfold decode segments
  rw [segmentsEncoded e scalar, List.reverse_nil, List.nil_append, textCharacters]
  rfl

theorem Utf8.encodeAscii {c : CodePoint} (ascii : c.val < 0x80) :
    Utf8.encode c = [.ofNat c.val] := if_pos ascii

theorem Utf8.encodeNonzero {c : CodePoint} (positive : c.val ≠ 0) :
    ∃ a tail, Utf8.encode c = a :: tail ∧ a ≠ 0 := by
  obtain ⟨n, bound⟩ := c
  unfold Utf8.encode
  dsimp only at *
  split
  · exact ⟨_, _, rfl, octetNonzero (by omega)⟩
  split
  · exact ⟨_, _, rfl, octetNonzero (by omega)⟩
  split
  · exact ⟨_, _, rfl, octetNonzero (by omega)⟩
  · exact ⟨_, _, rfl, octetNonzero (by omega)⟩

theorem ByteOrder.octets16Nonzero (order : ByteOrder) {n : Nat} (positive : n ≠ 0)
    (small : n < 0x10000) : ∃ a b, order.octets16 n = [a, b] ∧ ¬ (a = 0 ∧ b = 0) := by
  have either : UInt8.ofNat n ≠ 0 ∨ UInt8.ofNat (n / 256) ≠ 0 := by
    by_cases low : n % 256 = 0
    · exact .inr (octetNonzero (by omega))
    · exact .inl (octetNonzero low)
  cases order with
  | little => exact ⟨_, _, rfl, fun zero => either.elim (absurd zero.1) (absurd zero.2)⟩
  | big => exact ⟨_, _, rfl, fun zero => either.elim (absurd zero.2) (absurd zero.1)⟩

theorem Utf16.encodeNonzero (order : ByteOrder) {c : CodePoint} (positive : c.val ≠ 0) :
    ∃ a b tail, Utf16.encode order c = a :: b :: tail ∧ ¬ (a = 0 ∧ b = 0) := by
  have bound := c.isLt
  unfold Utf16.encode
  split
  · rename_i one
    obtain ⟨a, b, octets, nonzero⟩ := order.octets16Nonzero positive one
    exact ⟨a, b, [], octets, nonzero⟩
  · obtain ⟨a, b, octets, nonzero⟩ :=
      order.octets16Nonzero (n := 0xD800 + (c.val - 0x10000) / 0x400) (by omega) (by omega)
    exact ⟨a, b, _, by rw [octets]; rfl, nonzero⟩

/-! Which octets are zero. -/

theorem zerosNowhere {a b : UInt8} (first : a ≠ 0) (second : b ≠ 0) (rest : Octets) :
    ofZeros (a :: b :: rest) = .utf8 := by
  match rest with
  | [] => simp [ofZeros, first, second]
  | [_] => rfl
  | _ :: _ :: _ => simp [ofZeros, first, second]

theorem zerosBehind {a b c : UInt8} (first : a ≠ 0) (notBoth : ¬ (b = 0 ∧ c = 0))
    (rest : Octets) : ofZeros (a :: 0 :: b :: c :: rest) = .utf16 .little := by
  simp [ofZeros, first, notBoth]

theorem zerosBefore {b : UInt8} (second : b ≠ 0) (c d : UInt8) (rest : Octets) :
    ofZeros (0 :: b :: c :: d :: rest) = .utf16 .big := by
  simp [ofZeros, second]

theorem octetAscii {n : Nat} (ascii : n < 0x80) {k : UInt8} (high : 0x80 ≤ k.toNat) :
    (UInt8.ofNat n == k) = false := by
  refine beq_false_of_ne fun same => ?_
  rw [← same, octetValue (by omega)] at high
  omega

theorem detectMarked (e : Encoding) {t : Text} (nonzero : ∀ c ∈ t, c.val ≠ 0) :
    detect (e.mark ++ t.flatMap e.encode) = (e, e.mark.length) := by
  cases e with
  | utf8 => rfl
  | utf32 order => cases order <;> rfl
  | utf16 order =>
    cases order with
    | big => rfl
    | little =>
      cases t with
      | nil => rfl
      | cons c t =>
        obtain ⟨a, b, tail, octets, notBoth⟩ :=
          Utf16.encodeNonzero .little (nonzero c List.mem_cons_self)
        have other : (a == 0 && b == 0) = false := by simpa using notBoth
        change detect (0xFF :: 0xFE :: (Utf16.encode .little c ++ _)) = _
        rw [octets]
        simp [detect, marks, List.find?, other]
        rfl

section
variable {n : Nat}

/-! No mark begins with an ASCII octet, and none has such an octet behind a zero. -/

theorem unmarkedAscii (ascii : n < 0x80) (positive : n ≠ 0) (octets : Octets) :
    detect (.ofNat n :: octets) = (ofZeros (.ofNat n :: octets), 0) := by
  have ff : (UInt8.ofNat n == 0xFF) = false := octetAscii ascii (by decide)
  have fe : (UInt8.ofNat n == 0xFE) = false := octetAscii ascii (by decide)
  have ef : (UInt8.ofNat n == 0xEF) = false := octetAscii ascii (by decide)
  have zero : (UInt8.ofNat n == 0) = false := beq_false_of_ne (octetNonzero (by omega))
  simp [detect, marks, List.find?, ff, fe, ef, zero]

theorem unmarkedZero (ascii : n < 0x80) (positive : n ≠ 0) (octets : Octets) :
    detect (0 :: .ofNat n :: octets) = (ofZeros (0 :: .ofNat n :: octets), 0) := by
  have zero : (UInt8.ofNat n == 0) = false := beq_false_of_ne (octetNonzero (by omega))
  simp [detect, marks, List.find?, zero]

end

theorem Utf16.encodeAscii {c : CodePoint} (ascii : c.val < 0x80) :
    Utf16.encode .little c = [.ofNat c.val, 0] ∧ Utf16.encode .big c = [0, .ofNat c.val] := by
  have one : c.val < 0x10000 := by omega
  have high : c.val / 256 = 0 := Nat.div_eq_of_lt (by omega)
  simp [Utf16.encode, one, ByteOrder.octets16, high]

theorem Utf32.encodeAscii {c : CodePoint} (ascii : c.val < 0x80) :
    Utf32.encode .little c = [.ofNat c.val, 0, 0, 0] ∧
      Utf32.encode .big c = [0, 0, 0, .ofNat c.val] := by
  have high {k : Nat} (large : 256 ≤ k) : c.val / k = 0 := Nat.div_eq_of_lt (by omega)
  simp [Utf32.encode, ByteOrder.octets32, high]

theorem detectUnmarked (e : Encoding) {first : CodePoint} {rest : Text}
    (ascii : first.val < 0x80) (nonzero : ∀ c ∈ first :: rest, c.val ≠ 0) :
    detect ((first :: rest).flatMap e.encode) = (e, 0) := by
  have positive := nonzero first List.mem_cons_self
  have lead : UInt8.ofNat first.val ≠ 0 := octetNonzero (by omega)
  have later {second : CodePoint} {more : Text} (split : rest = second :: more) :
      second.val ≠ 0 := nonzero second (by simp [split])
  have unmarked := unmarkedAscii ascii positive
  rw [List.flatMap_cons]
  cases e with
  | utf8 =>
    rw [encode, Utf8.encodeAscii ascii, List.singleton_append, unmarked]
    cases split : rest with
    | nil => rfl
    | cons second more =>
      obtain ⟨b, tail, octets, nonzero⟩ := Utf8.encodeNonzero (later split)
      rw [List.flatMap_cons, octets, List.cons_append, zerosNowhere lead nonzero]
  | utf16 order =>
    obtain ⟨little, big⟩ := Utf16.encodeAscii ascii
    cases order with
    | little =>
      rw [encode, little, List.cons_append, List.singleton_append, unmarked]
      cases split : rest with
      | nil => simp [ofZeros, lead]
      | cons second more =>
        obtain ⟨b, c, tail, octets, notBoth⟩ := Utf16.encodeNonzero .little (later split)
        rw [List.flatMap_cons, octets, List.cons_append, List.cons_append,
          zerosBehind lead notBoth]
    | big =>
      rw [encode, big, List.cons_append, List.singleton_append, unmarkedZero ascii positive]
      cases split : rest with
      | nil => rfl
      | cons second more =>
        obtain ⟨b, c, tail, octets, _⟩ := Utf16.encodeNonzero .big (later split)
        rw [List.flatMap_cons, octets, List.cons_append, List.cons_append, zerosBefore lead]
  | utf32 order =>
    obtain ⟨little, big⟩ := Utf32.encodeAscii ascii
    cases order with
    | little =>
      rw [encode, little, List.cons_append, unmarked]
      simp [ofZeros, lead]
    | big =>
      rw [encode, big]
      rfl

theorem readWritten (e : Encoding) (marked : Bool) {first : CodePoint} {rest : Text}
    (ascii : first.val < 0x80) (nonzero : ∀ c ∈ first :: rest, c.val ≠ 0)
    (scalar : ∀ c ∈ first :: rest, c.isSurrogate = false) :
    read (e.written marked (first :: rest)) = .ok (first :: rest) := by
  have decoded := decodeEncoded e scalar
  unfold read written
  cases marked with
  | true =>
    rw [if_pos rfl, detectMarked e nonzero]
    simp only [List.drop_left, decoded]
  | false =>
    rw [if_neg Bool.false_ne_true, List.nil_append, detectUnmarked e ascii nonzero]
    simp only [List.drop_zero, decoded]

end QuorumRate.Encoding
