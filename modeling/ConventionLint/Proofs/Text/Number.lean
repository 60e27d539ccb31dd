import Mathlib.Data.List.Forall2
import Mathlib.Data.Nat.Digits.Defs
import ConventionLint.Text.Number

/-! Numerals and their values. A digit counts as much as its place in the row of all digits says, and the
letters among them may be capitals. -/
namespace ConventionLint.Text

theorem lowerOrCapital (c : Char) : c.toLower = c ∨ c ∈ "ABCDEFGHIJKLMNOPQRSTUVWXYZ".toList := by
  have row : ∀ n < 91, 65 ≤ n → Char.ofNat n ∈ "ABCDEFGHIJKLMNOPQRSTUVWXYZ".toList := by decide
  unfold Char.toLower
  split
  · next capital =>
    have least : 65 ≤ c.toNat := UInt32.le_iff_toNat_le.mp capital.1
    have greatest : c.toNat ≤ 90 := UInt32.le_iff_toNat_le.mp capital.2
    have own := row c.toNat (by omega) least
    rw [Char.ofNat_toNat] at own
    exact .inr own
  · exact .inl rfl

theorem lowerTwice (c : Char) : c.toLower.toLower = c.toLower := by
  rcases lowerOrCapital c with same | capital
  · rw [same,same]
  · have lowered : "ABCDEFGHIJKLMNOPQRSTUVWXYZ".toList.Forall fun c => c.toLower.toLower = c.toLower := by decide
    exact List.forall_iff_forall_mem.mp lowered c capital

def digitRow : List Char := "0123456789abcdef".toList

structure IsDigit (base : Nat) (c : Char) (d : Nat) : Prop where
  below : d < base
  place : digitRow[d]? = some c.toLower

section Digit
variable {base d : Nat} {c : Char}

theorem valueLower (c : Char) : digitValue? 16 c.toLower = digitValue? 16 c := by
  rcases lowerOrCapital c with same | capital
  · rw [same]
  · have alike : "ABCDEFGHIJKLMNOPQRSTUVWXYZ".toList.Forall fun c =>
        digitValue? 16 c.toLower = digitValue? 16 c := by decide
    exact List.forall_iff_forall_mem.mp alike c capital

theorem valueOfDigit (digit : IsDigit base c d) (hexadecimal : base ≤ 16) : digitValue? base c = some d := by
  have row : ∀ d < 16, (digitRow[d]?).bind (digitValue? 16) = some d := by decide
  have whole := row d (Nat.lt_of_lt_of_le digit.below hexadecimal)
  rw [digit.place,Option.bind_some,valueLower] at whole
  exact Option.filter_eq_some_iff.mpr
    ⟨(Option.filter_eq_some_iff.mp whole).1,decide_eq_true digit.below⟩

theorem digitLower (digit : IsDigit base c d) : IsDigit base c.toLower d :=
  ⟨digit.below,by rw [lowerTwice,digit.place]⟩

end Digit

structure Denotes (base : Nat) (cs : List Char) (v : Nat) : Prop where
  nonempty : cs ≠ []
  digits : ∃ ds, List.Forall₂ (IsDigit base) cs ds ∧ v = Nat.ofDigits base ds.reverse

section Numeral
variable {base v : Nat} {cs : List Char}

theorem denotesLower (numeral : Denotes base cs v) : Denotes base (cs.map Char.toLower) v := by
  obtain ⟨nonempty,ds,digits,rfl⟩ := numeral
  refine ⟨by simpa using nonempty,ds,?_,rfl⟩
  exact List.forall₂_map_left_iff.mpr (digits.imp fun _ _ => digitLower)

theorem digitsRead {ds : List Nat} (digits : List.Forall₂ (IsDigit base) cs ds) (hexadecimal : base ≤ 16)
    (acc : Nat) : digitsFrom? base acc cs = some (ds.foldl (fun v d => d + base * v) acc) := by
  induction digits generalizing acc with
  | nil => rfl
  | cons digit _ ih =>
    rw [digitsFrom?,valueOfDigit digit hexadecimal,Option.bind_eq_bind,Option.bind_some,ih,List.foldl_cons,
      Nat.add_comm,Nat.mul_comm]

theorem naturalRead (numeral : Denotes base cs v) (hexadecimal : base ≤ 16) : natural? base cs = some v := by
  obtain ⟨nonempty,ds,digits,rfl⟩ := numeral
  rw [natural?,if_neg (by simpa using nonempty),digitsRead digits hexadecimal,Nat.ofDigits_eq_foldr,
    List.foldr_reverse]
  rfl

theorem digitsForeign {c : Char} (mem : c ∈ cs) (foreign : digitValue? base c = none) (acc : Nat) :
    digitsFrom? base acc cs = none := by
  induction cs generalizing acc with
  | nil => cases mem
  | cons d cs ih =>
    rw [digitsFrom?,Option.bind_eq_bind]
    rcases List.mem_cons.mp mem with rfl | mem
    · rw [foreign,Option.bind_none]
    · exact Option.bind_eq_none_iff.mpr fun v _ => ih mem _

theorem digitsOnly (numeral : Denotes base cs v) (hexadecimal : base ≤ 16) {c : Char}
    (foreign : digitValue? base c = none) : c ∉ cs := by
  intro mem
  have read := naturalRead numeral hexadecimal
  rw [natural?,if_neg (by simpa using numeral.nonempty),digitsForeign mem foreign] at read
  cases read

theorem boundedRead (numeral : Denotes base cs v) (hexadecimal : base ≤ 16) (bound : Nat) :
    bounded? base bound cs = if v < bound then some v else none := by
  have unsigned : '+' ∉ cs := digitsOnly numeral hexadecimal rfl
  unfold bounded?
  split
  · exact absurd List.mem_cons_self unsigned
  · dsimp only
    rw [naturalRead numeral hexadecimal,Option.filter_some]
    simp only [decide_eq_true_eq]

theorem boundedForeign {c : Char} (mem : c ∈ cs) (foreign : digitValue? base c = none) (unsigned : c ≠ '+')
    (bound : Nat) : bounded? base bound cs = none := by
  have rest {cs : List Char} (mem : c ∈ cs) : (natural? base cs).filter (· < bound) = none := by
    unfold natural?
    split
    · rfl
    · rw [digitsForeign mem foreign,Option.filter_none]
  unfold bounded?
  split
  · exact rest ((List.mem_cons.mp mem).resolve_left unsigned)
  · exact rest mem

end Numeral

end ConventionLint.Text
