import QuorumRate.Proofs.Text.Digits
import QuorumRate.Text.LowerCase

/-! Texts whose lower case is a word of plain letters. Of all capital letters only those of ASCII
have a plain small letter, but for the sign of the kelvin, which has a k. -/
namespace QuorumRate

namespace CodePoint

def IsPlain (c : CodePoint) : Prop := 0x61 ≤ c.val ∧ c.val ≤ 0x7A ∧ c.val ≠ 0x6B

theorem capitalsBeyond : ∀ run ∈ capitalRuns, run = (0x41, 0x5A, 1, 0x61) ∨
    0x7A < run.1 ∧ (0x7A < run.2.2.2 ∨ run.1 = run.2.1 ∧ run.2.2.2 = 0x6B) := by decide +kernel

theorem ofNatOther {n : Nat} (other : 0x7A < n ∨ n = 0x6B) : ¬ (ofNat n).IsPlain := by
  rintro ⟨_, most, notK⟩
  unfold ofNat at most notK
  split at most
  · rename_i small
    rw [dif_pos small] at notK
    dsimp only at most notK
    omega
  · exact absurd most (by decide)

theorem foldCapital {c : CodePoint} (least : 0x41 ≤ c.val) (most : c.val ≤ 0x5A) :
    c.foldCase = .ofNat (0x61 + (c.val - 0x41)) := by
  have shifted : 0x61 + (c.val - 0x41) = c.val + 32 := by omega
  unfold foldCase ofNat
  rw [shifted, dif_pos ⟨least, most⟩, dif_pos]

theorem foldFar {c : CodePoint} (far : 0x7A < c.val) : ¬ c.foldCase.IsPlain := by
  have own : c.foldCase = c := dif_neg fun capital => by omega
  rw [own]
  exact fun plain => absurd plain.2.1 (Nat.not_le.mpr far)

theorem lowerPlain {c d : CodePoint} (plain : d.IsPlain) : c.lowerCase = d ↔ c.foldCase = d := by
  unfold lowerCase
  cases found : capitalRuns.find? _ with
  | none =>
    have outside := List.find?_eq_none.mp found (0x41, 0x5A, 1, 0x61) List.mem_cons_self
    have own : c.foldCase = c := dif_neg fun capital => outside (by simp [capital, Nat.mod_one])
    rw [own]
  | some run =>
    obtain ⟨first, last, step, small⟩ := run
    have inside := List.find?_some found
    simp only [Bool.and_eq_true, decide_eq_true_eq] at inside
    dsimp only
    obtain ascii | ⟨far, beyond⟩ := capitalsBeyond _ (List.mem_of_find?_eq_some found)
    · cases ascii
      rw [foldCapital inside.1.1 inside.1.2]
    · dsimp only at far beyond
      have own : c.foldCase = c := dif_neg fun capital => by omega
      rw [own]
      have foreign : 0x7A < small + (c.val - first) ∨ small + (c.val - first) = 0x6B := by omega
      refine iff_of_false ?_ ?_
      · rintro rfl
        exact ofNatOther foreign plain
      · rintro rfl
        have most := plain.2.1
        omega

end CodePoint

namespace Text

theorem lowerAfterPlain {t w : Text} (before : Text) (plain : ∀ d ∈ w, d.IsPlain) :
    lowerCaseAfter before t = w ↔ t.foldCase = w := by
  induction t generalizing before w with
  | nil => rfl
  | cons c rest ih =>
    have none {small : Text} (d : CodePoint) (member : d ∈ small) (foreign : ¬ d.IsPlain)
        (far : 0x7A < c.val) :
        small ++ lowerCaseAfter (c :: before) rest = w ↔ Text.foldCase (c :: rest) = w := by
      refine iff_of_false ?_ ?_
      · rintro rfl
        exact foreign (plain d (List.mem_append_left _ member))
      · rintro rfl
        exact CodePoint.foldFar far (plain _ List.mem_cons_self)
    unfold lowerCaseAfter
    dsimp only
    split
    · exact none (.ofNat 0x307) (by simp) (CodePoint.ofNatOther (by decide)) (by omega)
    split
    · rename_i sigma
      have own : c.val = 0x3A3 := by simp_all
      exact none (.ofNat 0x3C2) (by simp) (CodePoint.ofNatOther (by decide)) (by omega)
    · cases w with
      | nil => exact iff_of_false nofun nofun
      | cons d w =>
        have first : d.IsPlain := plain d List.mem_cons_self
        have others : ∀ d ∈ w, d.IsPlain := fun d member => plain d (List.mem_cons_of_mem _ member)
        change c.lowerCase :: lowerCaseAfter (c :: before) rest = d :: w ↔
          c.foldCase :: foldCase rest = d :: w
        rw [List.cons.injEq, List.cons.injEq, CodePoint.lowerPlain first, ih (c :: before) others]

theorem lowerCasePlain {t w : Text} (plain : ∀ d ∈ w, d.IsPlain) :
    t.lowerCase = w ↔ t.foldCase = w := lowerAfterPlain [] plain

end Text

end QuorumRate
