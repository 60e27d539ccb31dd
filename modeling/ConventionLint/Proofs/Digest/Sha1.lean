import Mathlib.Data.List.Infix
import Mathlib.Tactic.IntervalCases
import ConventionLint.Digest.Sha1
import ConventionLint.Proofs.Text.Utf8

/-! The written form of a digest: forty lower-case hexadecimal digits, which determine it. -/
namespace ConventionLint.Digest
open ConventionLint.Text

def lowerHex : List Char := "0123456789abcdef".toList

theorem memLowerHex {c : Char} : c ∈ lowerHex ↔
    48 ≤ c.toNat ∧ c.toNat ≤ 57 ∨ 97 ≤ c.toNat ∧ c.toNat ≤ 102 := by
  constructor
  · intro mem
    have each : (lowerHex.all fun d =>
        decide (48 ≤ d.toNat ∧ d.toNat ≤ 57 ∨ 97 ≤ d.toNat ∧ d.toNat ≤ 102)) = true := by decide
    exact of_decide_eq_true (List.all_eq_true.mp each c mem)
  · intro range
    have same : Char.ofNat c.toNat = c := Char.ofNat_toNat c
    generalize c.toNat = n at range same
    subst same
    rcases range with ⟨low,high⟩ | ⟨low,high⟩ <;> interval_cases n <;> decide

theorem hexDigitLower {n : Nat} (small : n < 16) : hexDigit n ∈ lowerHex := by
  interval_cases n <;> decide

theorem hexDigitInjective {a b : Nat} (ha : a < 16) (hb : b < 16) (same : hexDigit a = hexDigit b) :
    a = b := by
  have each : ∀ x < 16, ∀ y < 16, hexDigit x = hexDigit y → x = y := by decide
  exact each a ha b hb same

theorem hexOfLower (width n : Nat) : ∀ c ∈ hexOf width n, c ∈ lowerHex := by
  induction width generalizing n with
  | zero => simp [hexOf]
  | succ width ih =>
    intro c mem
    rcases List.mem_append.mp mem with front | last
    · exact ih (n / 16) c front
    · rw [List.mem_singleton.mp last]
      exact hexDigitLower (Nat.mod_lt n (by omega))

theorem hexOfInjective {width a b : Nat} (same : hexOf width a = hexOf width b) :
    a % 16 ^ width = b % 16 ^ width := by
  induction width generalizing a b with
  | zero => simp [Nat.mod_one]
  | succ width ih =>
    obtain ⟨front,last⟩ := List.append_inj same (by simp [hexOf_length])
    have high := ih front
    have low := hexDigitInjective (Nat.mod_lt a (by omega)) (Nat.mod_lt b (by omega))
      (List.singleton_inj.mp last)
    rw [pow_succ',Nat.mod_mul,Nat.mod_mul,low,high]

theorem wordInjective {a b : UInt32} (same : hexOf 8 a.toNat = hexOf 8 b.toNat) : a = b := by
  have equal := hexOfInjective same
  have ha := a.toNat_lt
  have hb := b.toNat_lt
  norm_num at equal
  exact UInt32.toNat_inj.mp (by omega)

theorem sha1HexLower (message : Bytes) : ∀ c ∈ sha1Hex message, c ∈ lowerHex := by
  intro c mem
  obtain ⟨w,_,inside⟩ := List.mem_flatMap.mp mem
  exact hexOfLower 8 w.toNat c inside

theorem sha1HexIff (a b : Bytes) : sha1Hex a = sha1Hex b ↔ sha1 a = sha1 b := by
  constructor
  · intro same
    simp only [sha1Hex,List.flatMap_cons,List.flatMap_nil,List.append_nil] at same
    obtain ⟨h1,same⟩ := List.append_inj same (by simp [hexOf_length])
    obtain ⟨h2,same⟩ := List.append_inj same (by simp [hexOf_length])
    obtain ⟨h3,same⟩ := List.append_inj same (by simp [hexOf_length])
    obtain ⟨h4,h5⟩ := List.append_inj same (by simp [hexOf_length])
    generalize sha1 a = x at *
    generalize sha1 b = y at *
    cases x
    cases y
    simp only [Chaining.mk.injEq]
    exact ⟨wordInjective h1,wordInjective h2,wordInjective h3,wordInjective h4,wordInjective h5⟩
  · intro same
    simp only [sha1Hex,same]

end ConventionLint.Digest
