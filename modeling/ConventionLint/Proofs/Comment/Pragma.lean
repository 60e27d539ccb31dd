import Mathlib.Data.List.TakeWhile
import ConventionLint.Comment.Pragma
import ConventionLint.Proofs.Annotation.Blocks
import ConventionLint.Proofs.List
import ConventionLint.Proofs.Text.Line

/-! Suppressions line by line. Each comes from the pragma of one line, and there is always a number sign in
such a line. A pragma on a line of its own holds as long as no line is indented less, blank lines apart. -/
namespace ConventionLint.Comment
open Text (isBlank numberedIff numberedLines trimStart)

variable {text line rest : List Char} {lines : List (List Char)} {n m : Nat} {p : Pragma} {s : Suppression}

theorem signInList {list : List Char} (found : Pragma.list? line = some list) : '#' ∈ line := by
  induction line with
  | nil => cases found
  | cons c cs ih =>
    unfold Pragma.list? at found
    split at found
    · next here =>
      obtain ⟨behind,sign,_⟩ := Option.bind_eq_some_iff.mp here
      obtain ⟨cut,dropped,_⟩ := Option.map_eq_some_iff.mp sign
      rw [Text.eq_append_of_dropHead? dropped]
      exact List.mem_append_left _ List.mem_cons_self
    · exact List.mem_cons_of_mem _ (ih found)

theorem signInPragma (found : Pragma.ofLine? line = some p) : '#' ∈ line := by
  obtain ⟨list,listed,_⟩ := Option.bind_eq_some_iff.mp found
  exact signInList listed

theorem signFirst (first : (trimStart line).head? = some '#') :
    ∃ blank behind, line = blank ++ '#' :: behind ∧ ∀ c ∈ blank, isBlank c = true := by
  obtain ⟨blank,split,all⟩ := Annotation.trimStartSplit line
  obtain ⟨behind,same⟩ := List.head?_eq_some_iff.mp first
  exact ⟨blank,behind,by rw [← same]; exact split,all⟩

theorem blockFirst (found : Pragma.ofLine? line = some p) (block : p.scope = .block) :
    (trimStart line).head? = some '#' := by
  obtain ⟨list,_,made⟩ := Option.bind_eq_some_iff.mp found
  dsimp only at made
  split at made
  · cases made
  · cases made
    simpa using block

def staysIn (indent : Nat) (line : List Char) : Bool := Text.allBlank line || indent ≤ indentation line

def lastLine (p : Pragma) (n : Nat) (line : List Char) (rest : List (List Char)) : Nat :=
  match p.scope with
  | .line => n
  | .block => n + (blockLines (indentation line) rest).length

theorem ofLinesCons : Suppression.ofLines n (line :: lines) =
    ((Pragma.ofLine? line).map fun p => ⟨n,lastLine p n line lines,p⟩).toList ++
      Suppression.ofLines (n + 1) lines := by
  rw [Suppression.ofLines]
  cases Pragma.ofLine? line <;> rfl

theorem suppressionOfLines : s ∈ Suppression.ofLines n lines ↔ ∃ i line p, lines[i]? = some line ∧
    Pragma.ofLine? line = some p ∧ s = ⟨n + i,lastLine p (n + i) line (lines.drop (i + 1)),p⟩ := by
  induction lines generalizing n with
  | nil => simp [Suppression.ofLines]
  | cons line lines ih =>
    have next (i : Nat) : n + 1 + i = n + (i + 1) := by omega
    rw [ofLinesCons,List.mem_append,Option.mem_toList,Option.map_eq_some_iff,ih]
    constructor
    · rintro (⟨p,found,rfl⟩ | ⟨i,l,p,atIndex,found,rfl⟩)
      · exact ⟨0,line,p,rfl,found,rfl⟩
      · exact ⟨i + 1,l,p,atIndex,found,by rw [next]; rfl⟩
    · rintro ⟨i,l,p,atIndex,found,rfl⟩
      cases i with
      | zero =>
        cases atIndex
        exact .inl ⟨p,found,rfl⟩
      | succ i => exact .inr ⟨i,l,p,atIndex,found,by rw [next]; rfl⟩

theorem suppressionOfText : s ∈ Suppression.ofText text ↔ ∃ n line p, (n,line) ∈ numberedLines text ∧
    Pragma.ofLine? line = some p ∧ s = ⟨n,lastLine p n line ((Text.lines text).drop n),p⟩ := by
  rw [Suppression.ofText,suppressionOfLines]
  constructor
  · rintro ⟨i,line,p,atIndex,found,rfl⟩
    exact ⟨1 + i,line,p,numberedIff.mpr ⟨by omega,by simpa using atIndex⟩,found,by rw [Nat.add_comm 1 i]⟩
  · rintro ⟨n,line,p,there,found,rfl⟩
    obtain ⟨positive,atIndex⟩ := numberedIff.mp there
    obtain ⟨i,rfl⟩ : ∃ i, n = i + 1 := ⟨n - 1,by omega⟩
    exact ⟨i,line,p,atIndex,found,by rw [Nat.add_comm 1 i]⟩

theorem noSuppressions : Suppression.ofText text = [] ↔
    ∀ n line, (n,line) ∈ numberedLines text → Pragma.ofLine? line = none := by
  constructor
  · intro empty n line there
    by_contra other
    obtain ⟨p,found⟩ := Option.ne_none_iff_exists'.mp other
    have mem := suppressionOfText.mpr ⟨n,line,p,there,found,rfl⟩
    rw [empty] at mem
    cases mem
  · intro clean
    refine List.eq_nil_iff_forall_not_mem.mpr fun s mem => ?_
    obtain ⟨n,line,p,there,found,_⟩ := suppressionOfText.mp mem
    rw [clean n line there] at found
    cases found

theorem reachesIff (block : p.scope = .block) (notBefore : n ≤ m) (inside : m ≤ (Text.lines text).length) :
    m ≤ lastLine p n line ((Text.lines text).drop n) ↔
      ∀ j l, (j,l) ∈ numberedLines text → n < j → j ≤ m → staysIn (indentation line) l = true := by
  have size : m ≤ lastLine p n line ((Text.lines text).drop n) ↔
      m - n ≤ (((Text.lines text).drop n).takeWhile (staysIn (indentation line))).length := by
    rw [lastLine,block]
    show m ≤ n + (((Text.lines text).drop n).takeWhile (staysIn (indentation line))).length ↔ _
    omega
  rw [size,leTakeWhile,List.length_drop]
  constructor
  · rintro ⟨_,all⟩ j l there behind upTo
    obtain ⟨_,atIndex⟩ := numberedIff.mp there
    exact all (j - 1 - n) (by omega) l (by rw [List.getElem?_drop,← atIndex]; congr 1; omega)
  · intro all
    refine ⟨by omega,fun i less l atIndex => ?_⟩
    rw [List.getElem?_drop] at atIndex
    exact all (n + i + 1) l (numberedIff.mpr ⟨by omega,atIndex⟩) (by omega) (by omega)

theorem suppressedByBlock (there : (n,line) ∈ numberedLines text) (found : Pragma.ofLine? line = some p)
    (block : p.scope = .block) (notBefore : n ≤ m) (inside : m ≤ (Text.lines text).length) {name : String}
    (listed : name ∈ p.names) (code : String) :
    isSuppressed (Suppression.ofText text) m name code = true ↔
      (∀ j l, (j,l) ∈ numberedLines text → n < j → j ≤ m → staysIn (indentation line) l = true) ∨
      ∃ s ∈ Suppression.ofText text, s.first ≠ n ∧ s.holdsFor m name code = true := by
  have own := suppressionOfText.mpr ⟨n,line,p,there,found,rfl⟩
  have covers : p.covers name code = true := by simp [Pragma.covers,listed]
  rw [isSuppressed,List.any_eq_true,← reachesIff block notBefore inside]
  constructor
  · rintro ⟨s,mem,holds⟩
    by_cases same : s.first = n
    · obtain ⟨n',line',p',there',found',rfl⟩ := suppressionOfText.mp mem
      obtain rfl : n' = n := same
      obtain rfl : line' = line := by
        have one := (numberedIff.mp there').2
        rw [(numberedIff.mp there).2] at one
        exact (Option.some.inj one).symm
      rw [found] at found'
      cases found'
      simp only [Suppression.holdsFor,Bool.and_eq_true,decide_eq_true_eq] at holds
      exact .inl holds.1.2
    · exact .inr ⟨s,mem,same,holds⟩
  · rintro (reaches | ⟨s,mem,_,holds⟩)
    · exact ⟨_,own,by simp [Suppression.holdsFor,notBefore,reaches,covers]⟩
    · exact ⟨s,mem,holds⟩

theorem lastLineBound (there : (n,line) ∈ numberedLines text) :
    lastLine p n line ((Text.lines text).drop n) ≤ (Text.lines text).length := by
  obtain ⟨positive,atIndex⟩ := numberedIff.mp there
  obtain ⟨inside,_⟩ := List.getElem?_eq_some_iff.mp atIndex
  unfold lastLine
  split
  · omega
  · have kept : (blockLines (indentation line) ((Text.lines text).drop n)).length ≤
        ((Text.lines text).drop n).length := (List.takeWhile_sublist _).length_le
    rw [List.length_drop] at kept
    omega

/-- The lines for which the pragma of a line holds: its own one if it stands behind code, and else from there
on as long as lines are blank or have at least its indentation. -/
inductive Covers (text : List Char) (n : Nat) (line : List Char) (p : Pragma) : Nat → Prop where
  | own (trailing : p.scope = .line) : Covers text n line p n
  | block {m : Nat} (alone : p.scope = .block) (notBefore : n ≤ m) (inside : m ≤ (Text.lines text).length)
      (indented : ∀ j l, (j,l) ∈ numberedLines text → n < j → j ≤ m → Text.allBlank l = false →
        indentation line ≤ indentation l) : Covers text n line p m

theorem staysInIff {indent : Nat} {l : List Char} :
    staysIn indent l = true ↔ (Text.allBlank l = false → indent ≤ indentation l) := by
  cases blank : Text.allBlank l <;> simp [staysIn,blank]

theorem coversIff (there : (n,line) ∈ numberedLines text) :
    Covers text n line p m ↔ n ≤ m ∧ m ≤ lastLine p n line ((Text.lines text).drop n) := by
  cases scope : p.scope with
  | line =>
    have last : lastLine p n line ((Text.lines text).drop n) = n := by rw [lastLine,scope]
    rw [last]
    constructor
    · rintro (_ | ⟨alone,_,_,_⟩)
      · exact ⟨le_rfl,le_rfl⟩
      · cases scope.symm.trans alone
    · rintro ⟨notBefore,upTo⟩
      obtain rfl := Nat.le_antisymm notBefore upTo
      exact .own scope
  | block =>
    constructor
    · rintro (trailing | ⟨_,notBefore,inside,indented⟩)
      · cases scope.symm.trans trailing
      · refine ⟨notBefore,(reachesIff scope notBefore inside).mpr fun j l numbered behind upTo => ?_⟩
        exact staysInIff.mpr (indented j l numbered behind upTo)
    · rintro ⟨notBefore,upTo⟩
      have inside := upTo.trans (lastLineBound there)
      refine .block scope notBefore inside fun j l numbered behind before => ?_
      exact staysInIff.mp ((reachesIff scope notBefore inside).mp upTo j l numbered behind before)

/-- A message is switched off in a line just if a pragma that lists it, by its symbol or by its code, or lists
`all`, holds for the line. -/
theorem suppressedIff (text : List Char) (m : Nat) (symbol code : String) :
    isSuppressed (Suppression.ofText text) m symbol code = true ↔
      ∃ n line p, (n,line) ∈ numberedLines text ∧ Pragma.ofLine? line = some p ∧
        (symbol ∈ p.names ∨ code ∈ p.names ∨ "all" ∈ p.names) ∧ Covers text n line p m := by
  have lists (p : Pragma) :
      p.covers symbol code = true ↔ symbol ∈ p.names ∨ code ∈ p.names ∨ "all" ∈ p.names := by
    simp [Pragma.covers,or_assoc]
  rw [isSuppressed,List.any_eq_true]
  constructor
  · rintro ⟨s,mem,holds⟩
    obtain ⟨n,line,p,there,found,rfl⟩ := suppressionOfText.mp mem
    simp only [Suppression.holdsFor,Bool.and_eq_true,decide_eq_true_eq] at holds
    exact ⟨n,line,p,there,found,(lists p).mp holds.2,(coversIff there).mpr holds.1⟩
  · rintro ⟨n,line,p,there,found,listed,covers⟩
    obtain ⟨notBefore,upTo⟩ := (coversIff there).mp covers
    refine ⟨_,suppressionOfText.mpr ⟨n,line,p,there,found,rfl⟩,?_⟩
    simp [Suppression.holdsFor,notBefore,upTo,(lists p).mpr listed]

end ConventionLint.Comment
