import Mathlib.Tactic.Common
import QuorumRate.Text.Number

/-! Digits in a text: where they end, and the digits that a number is written in. -/
namespace QuorumRate

namespace CodePoint

theorem isDigitIff {ch : Char} : ch.isDigit = true ↔ 48 ≤ ch.toNat ∧ ch.toNat ≤ 57 := by
  simp [Char.isDigit, UInt32.le_iff_toNat_le]

theorem digitIff {c : CodePoint} : c.isAsciiDigit = true ↔ 48 ≤ c.val ∧ c.val ≤ 57 := by
  simp [isAsciiDigit]

@[simp] theorem ofCharDigit (ch : Char) : (ofChar ch).isAsciiDigit = ch.isDigit := by
  rw [Bool.eq_iff_iff, isDigitIff, digitIff]
  exact Iff.rfl

@[simp] theorem ofCharIs (a b : Char) : (ofChar a).is b = (a == b) := by
  have same : (ofChar a).val = b.toNat ↔ a = b := Char.toNat_inj
  rw [Bool.eq_iff_iff, is, beq_iff_eq, beq_iff_eq, same]

@[simp] theorem ofCharSame {a b : Char} : ofChar a = ofChar b ↔ a = b := by
  rw [mk.injEq]
  exact Char.toNat_inj

theorem digitIs {c : CodePoint} (digit : c.isAsciiDigit = true) {ch : Char}
    (other : ch.isDigit = false) : c.is ch = false := by
  rw [← Bool.not_eq_true, isDigitIff] at other
  rw [digitIff] at digit
  simp only [is, beq_eq_false_iff_ne]
  omega

theorem foldDigitAscii {c : CodePoint} (ascii : c.val < 128) : c.foldDigit = c := by
  have all : ∀ n : Fin 128, (ofNat n).foldDigit = ofNat n := by decide +kernel
  have own : ofNat c.val = c := dif_pos c.isLt
  rw [← own]
  exact all ⟨c.val, ascii⟩

end CodePoint

namespace Text

def digits (n : Nat) : Text := (Nat.toDigits 10 n).map .ofChar

def Ends (t : Text) : Prop := ∀ c ∈ t.head?, c.isAsciiDigit = false

theorem takeDigits {t rest : Text} (inside : ∀ c ∈ t, c.isAsciiDigit = true) (ends : Ends rest) :
    (t ++ rest).takeWhile CodePoint.isAsciiDigit = t := by
  rw [List.takeWhile_append_of_pos inside]
  cases rest with
  | nil => simp
  | cons c rest => simp [ends c rfl]

theorem dropDigits {t rest : Text} (inside : ∀ c ∈ t, c.isAsciiDigit = true) (ends : Ends rest) :
    (t ++ rest).dropWhile CodePoint.isAsciiDigit = rest := by
  rw [List.dropWhile_append_of_pos inside]
  cases rest with
  | nil => rfl
  | cons c rest => simp [ends c rfl]

theorem digitsInside (n : Nat) : ∀ c ∈ digits n, c.isAsciiDigit = true := by
  intro c member
  obtain ⟨ch, digit, rfl⟩ := List.mem_map.mp member
  simpa using Nat.isDigit_of_mem_toDigits (by decide) (by decide) digit

theorem digitsSmall {n : Nat} (small : n < 10) : digits n = [.ofChar n.digitChar] := by
  rw [digits, Nat.toDigits_of_lt_base small, List.map_singleton]

theorem digitsLarge {n : Nat} (large : 10 ≤ n) :
    digits n = digits (n / 10) ++ [.ofChar (n % 10).digitChar] := by
  rw [digits, Nat.toDigits_of_base_le (by decide) large, List.map_append, List.map_singleton]
  rfl

theorem digitsLead {n : Nat} (positive : n ≠ 0) :
    ∃ first rest, digits n = first :: rest ∧ first.is '0' = false := by
  induction n using Nat.strongRecOn with
  | ind n ih =>
    by_cases small : n < 10
    · exact ⟨_, [], digitsSmall small, by simp [positive]⟩
    · obtain ⟨first, rest, split, lead⟩ := ih (n / 10) (by omega) (by omega)
      exact ⟨first, _, by rw [digitsLarge (by omega), split]; rfl, lead⟩

theorem digitsHead (n : Nat) :
    ∃ first rest, digits n = first :: rest ∧ (first.is '0' = true → rest = []) := by
  by_cases zero : n = 0
  · exact ⟨.ofChar '0', [], by rw [zero]; rfl, fun _ => rfl⟩
  · obtain ⟨first, rest, split, lead⟩ := digitsLead zero
    exact ⟨first, rest, split, by simp [lead]⟩

theorem dropNone {blank : CodePoint → Bool} {t : Text} (none : ∀ c ∈ t, blank c = false) :
    t.dropWhile blank = t := by
  cases t with
  | nil => rfl
  | cons c rest => simp [none c List.mem_cons_self]

theorem trimNone {t : Text} (none : ∀ c ∈ t, c.isBlank = false) : t.trim = t := by
  have reversed : ∀ c ∈ t.reverse, c.isBlank = false :=
    fun c member => none c (List.mem_reverse.mp member)
  rw [trim, trimBy, dropNone none, dropNone reversed, List.reverse_reverse]

theorem wordDigit {word : String} {first : CodePoint} (digit : first.isAsciiDigit = true)
    (letter : ∃ c t, ofString word = c :: t ∧ c.isAsciiDigit = false) (rest : Text) :
    first :: rest ≠ ofString word := by
  obtain ⟨c, t, split, other⟩ := letter
  intro same
  rw [(List.cons.inj (same.trans split)).1, other] at digit
  contradiction

theorem dropWordDigit {word : String} {first : CodePoint} (digit : first.isAsciiDigit = true)
    (letter : ∃ c t, ofString word = c :: t ∧ c.isAsciiDigit = false) (rest : Text) :
    dropWord? word (first :: rest) = none := by
  have differs := wordDigit digit letter
  obtain ⟨c, t, split, _⟩ := letter
  refine if_neg ?_
  rw [split, List.length_cons, List.take_succ_cons, ← split]
  exact differs _

end Text

end QuorumRate
