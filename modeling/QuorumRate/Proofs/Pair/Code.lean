import Mathlib.Data.List.TakeWhile
import QuorumRate.Pair
import QuorumRate.Proofs.Text.Casing

/-! Which texts are codes of a currency. White space is taken off before the letters are made small,
so what is left has to be the three letters themselves, each in either case. -/
namespace QuorumRate

namespace Text

def AllBlank (t : Text) : Prop := ∀ c ∈ t, c.isBlank = true

theorem trimSplit (t : Text) :
    ∃ before after, t = before ++ t.trim ++ after ∧ AllBlank before ∧ AllBlank after := by
  have front := List.takeWhile_append_dropWhile (p := CodePoint.isBlank) (l := t)
  have back := List.takeWhile_append_dropWhile (p := CodePoint.isBlank)
    (l := (t.dropWhile CodePoint.isBlank).reverse)
  refine ⟨t.takeWhile CodePoint.isBlank,
    ((t.dropWhile CodePoint.isBlank).reverse.takeWhile CodePoint.isBlank).reverse, ?_, ?_, ?_⟩
  · rw [trim, trimBy, List.append_assoc, ← List.reverse_append, back, List.reverse_reverse, front]
  · exact fun c member => List.mem_takeWhile_imp member
  · exact fun c member => List.mem_takeWhile_imp (List.mem_reverse.mp member)

theorem trimMargins {before word after : Text} (front : AllBlank before) (back : AllBlank after)
    (bare : ∀ c ∈ word, c.isBlank = false) : trim (before ++ word ++ after) = word := by
  have reversed : ∀ c ∈ after.reverse, c.isBlank = true :=
    fun c member => back c (List.mem_reverse.mp member)
  unfold trim trimBy
  rw [List.append_assoc, List.dropWhile_append_of_pos front]
  cases word with
  | nil => simp [List.dropWhile_eq_nil_iff.mpr back]
  | cons c rest =>
    have turned : ∀ d ∈ (c :: rest).reverse, d.isBlank = false :=
      fun d member => bare d (List.mem_reverse.mp member)
    rw [List.cons_append, List.dropWhile_cons_of_neg (by simp [bare c List.mem_cons_self]),
      ← List.cons_append, List.reverse_append, List.dropWhile_append_of_pos reversed,
      dropNone turned, List.reverse_reverse]

theorem trimIff {t word : Text} (bare : ∀ c ∈ word, c.isBlank = false) :
    t.trim = word ↔
      ∃ before after, t = before ++ word ++ after ∧ AllBlank before ∧ AllBlank after := by
  constructor
  · rintro rfl
    exact trimSplit t
  · rintro ⟨before, after, rfl, front, back⟩
    exact trimMargins front back bare

end Text

def CodePoint.InEitherCase (c : CodePoint) (small capital : Char) : Prop :=
  c = .ofChar small ∨ c = .ofChar capital

theorem CodePoint.foldLetter {c : CodePoint} {small capital : Char}
    (letter : 0x41 ≤ capital.toNat ∧ capital.toNat ≤ 0x5A)
    (same : small.toNat = capital.toNat + 32) :
    c.foldCase = .ofChar small ↔ c.InEitherCase small capital := by
  obtain ⟨n, inside⟩ := c
  unfold foldCase InEitherCase ofChar
  dsimp only
  split
  · simp only [mk.injEq]
    omega
  · simp only [mk.injEq]
    omega

theorem Text.foldedUsd (word : Text) : word.foldCase = Text.ofString "usd" ↔
    ∃ u s d, word = [u, s, d] ∧
      u.InEitherCase 'u' 'U' ∧ s.InEitherCase 's' 'S' ∧ d.InEitherCase 'd' 'D' := by
  unfold foldCase
  constructor
  · intro folded
    obtain ⟨u, rest, rfl, uFolded, folded⟩ := List.map_eq_cons_iff.mp folded
    obtain ⟨s, rest, rfl, sFolded, folded⟩ := List.map_eq_cons_iff.mp folded
    obtain ⟨d, rest, rfl, dFolded, folded⟩ := List.map_eq_cons_iff.mp folded
    cases List.map_eq_nil_iff.mp folded
    exact ⟨u, s, d, rfl, (CodePoint.foldLetter (by decide) (by decide)).mp uFolded,
      (CodePoint.foldLetter (by decide) (by decide)).mp sFolded,
      (CodePoint.foldLetter (by decide) (by decide)).mp dFolded⟩
  · rintro ⟨u, s, d, rfl, uCase, sCase, dCase⟩
    rw [List.map_cons, List.map_cons, List.map_cons, List.map_nil,
      (CodePoint.foldLetter (by decide) (by decide)).mpr uCase,
      (CodePoint.foldLetter (by decide) (by decide)).mpr sCase,
      (CodePoint.foldLetter (by decide) (by decide)).mpr dCase]
    rfl

theorem CodePoint.InEitherCase.visible {c : CodePoint} {small capital : Char}
    (letter : c.InEitherCase small capital)
    (visible : (ofChar small).isBlank = false ∧ (ofChar capital).isBlank = false) :
    c.isBlank = false := by
  obtain rfl | rfl := letter
  · exact visible.1
  · exact visible.2

namespace Pair

theorem ofCurrencyLowered (code : Text) :
    ofCurrency? code = some .usd ↔ code.trim.lowerCase = Text.ofString "usd" := by
  constructor
  · intro found
    have accepted := List.find?_some found
    exact of_decide_eq_true accepted
  · intro same
    exact List.find?_cons_of_pos (decide_eq_true same)

def WritesUsd (code : Text) : Prop :=
  ∃ before after u s d, code = before ++ [u, s, d] ++ after ∧
    Text.AllBlank before ∧ Text.AllBlank after ∧
    u.InEitherCase 'u' 'U' ∧ s.InEitherCase 's' 'S' ∧ d.InEitherCase 'd' 'D'

theorem ofCurrencyIff (code : Text) : ofCurrency? code = some .usd ↔ WritesUsd code := by
  have plain : ∀ d ∈ Text.ofString "usd", d.IsPlain := by
    unfold CodePoint.IsPlain
    decide
  have visible {u s d : CodePoint} (uCase : u.InEitherCase 'u' 'U') (sCase : s.InEitherCase 's' 'S')
      (dCase : d.InEitherCase 'd' 'D') : ∀ c ∈ [u, s, d], c.isBlank = false := by
    simp [uCase.visible (by decide), sCase.visible (by decide), dCase.visible (by decide)]
  rw [ofCurrencyLowered, Text.lowerCasePlain plain, Text.foldedUsd]
  constructor
  · rintro ⟨u, s, d, trimmed, uCase, sCase, dCase⟩
    obtain ⟨before, after, written, front, back⟩ :=
      (Text.trimIff (visible uCase sCase dCase)).mp trimmed
    exact ⟨before, after, u, s, d, written, front, back, uCase, sCase, dCase⟩
  · rintro ⟨before, after, u, s, d, written, front, back, uCase, sCase, dCase⟩
    exact ⟨u, s, d, (Text.trimIff (visible uCase sCase dCase)).mpr
      ⟨before, after, written, front, back⟩, uCase, sCase, dCase⟩

structure CodeExact (code : Text) : Prop where
  accepted : ofCurrency? code = some .usd ↔ WritesUsd code
  refused : ofCurrency? code = none ↔ ¬ WritesUsd code

theorem currencyCodeExact (code : Text) : CodeExact code := by
  constructor
  case accepted => exact ofCurrencyIff code
  case refused =>
    rw [← ofCurrencyIff]
    cases ofCurrency? code with
    | none => simp
    | some pair => cases pair; simp

end Pair
end QuorumRate
