import ConventionLint.Glob.Pattern
import ConventionLint.Proofs.Text.Cut
import ConventionLint.Proofs.Text.Utf8

/-! What patterns say of a path below a root. A part of what a pattern excludes can be seen from the root;
the rest has to do with where the root is. -/
namespace ConventionLint.Glob

section Match
variable {ts : List Token} {cs : List Char}

theorem anyComponentRestIff {p : List Char → Bool} :
    anyComponentRest p cs = true ↔ p [] = true ∨ ∃ u v, cs = u ++ '/' :: v ∧ p v = true := by
  induction cs with
  | nil => simp [anyComponentRest]
  | cons c cs ih =>
    rw [anyComponentRest,Bool.or_eq_true,Bool.and_eq_true,ih,beq_iff_eq]
    constructor
    · rintro (⟨rfl,here⟩ | ending | ⟨u,v,rfl,later⟩)
      · exact .inr ⟨[],cs,rfl,here⟩
      · exact .inl ending
      · exact .inr ⟨c :: u,v,rfl,later⟩
    · rintro (ending | ⟨u,v,same,later⟩)
      · exact .inr (.inl ending)
      · cases u with
        | nil =>
          obtain ⟨rfl,rfl⟩ := List.cons.inj same
          exact .inl ⟨rfl,later⟩
        | cons d u =>
          obtain ⟨rfl,rfl⟩ := List.cons.inj same
          exact .inr (.inr ⟨u,v,rfl,later⟩)

theorem matchComponents : matchTokens (.anyComponents :: ts) cs = true ↔
    matchTokens ts cs = true ∨ matchTokens ts [] = true ∨ ∃ u v, cs = u ++ '/' :: v ∧ matchTokens ts v = true := by
  rw [matchTokens.eq_def]
  simp only [Bool.or_eq_true,anyComponentRestIff]

theorem matchDeeper (above : List Char) (fits : matchTokens (.anyComponents :: ts) cs = true) :
    matchTokens (.anyComponents :: ts) (above ++ '/' :: cs) = true := by
  rw [matchComponents] at fits ⊢
  rcases fits with here | ending | ⟨u,v,rfl,later⟩
  · exact .inr (.inr ⟨above,cs,rfl,here⟩)
  · exact .inr (.inl ending)
  · exact .inr (.inr ⟨above ++ '/' :: u,v,by simp,later⟩)

theorem matchChars (word : List Char) : matchTokens (word.map Token.char ++ ts) cs = true ↔
    ∃ rest, cs = word ++ rest ∧ matchTokens ts rest = true := by
  induction word generalizing cs with
  | nil => simp
  | cons c word ih =>
    cases cs with
    | nil => simp [matchTokens]
    | cons d cs =>
      rw [List.map_cons,List.cons_append,matchTokens,Bool.and_eq_true,ih,Token.admits,beq_iff_eq]
      · constructor
        · rintro ⟨rfl,rest,rfl,fits⟩
          exact ⟨rest,rfl,fits⟩
        · rintro ⟨rest,same,fits⟩
          obtain ⟨rfl,rfl⟩ := List.cons.inj same
          exact ⟨rfl,rest,rfl,fits⟩
      · exact nofun
      · exact nofun

end Match

namespace Pattern
variable {p : Pattern}

def isOrdinary (c : Char) : Bool := c != '*' && c != '?' && c != '['

def Within (p : Pattern) (seen : List Char) : Prop :=
  (∃ core, p.core? = some core ∧ core <:+: '/' :: seen) ∨
    (['*','*'] <+: p.text.toList ∧ p.fits (String.ofList seen))

/-- Excludes a path for what is above the root as well: the pattern begins with something special and fits
the path as a whole, or a part of paths begins above the root. -/
def Reaches (p : Pattern) (above seen : List Char) : Prop :=
  (∃ c, p.text.toList.head? = some c ∧ isOrdinary c = false ∧ p.fits (String.ofList (above ++ '/' :: seen))) ∨
    ∃ core, p.core? = some core ∧ Text.BeginsIn core above ('/' :: seen)

theorem okOfMapped {ε α β : Type} {x : Except ε α} {f : α → β} {b : β} (read : x.map f = .ok b) :
    ∃ a, x = .ok a ∧ f a = b := by
  cases x with
  | error e => cases read
  | ok a => exact ⟨a,rfl,Except.ok.inj read⟩

theorem tokensOfParsed (parsed : parse p.text = .ok p) : tokensFrom 0 true p.text.toList = .ok p.tokens := by
  obtain ⟨ts,read,same⟩ := okOfMapped parsed
  rw [read,← same]

section Tokens
variable {position : Nat} {atStart : Bool} {cs : List Char} {ts : List Token}

theorem tokensPlain {c : Char} (plain : isOrdinary c) : tokensFrom position atStart (c :: cs) =
    (tokensFrom (position + 1) (c == '/') cs).map (.char c :: ·) := by
  rw [tokensFrom.eq_def]
  split <;> simp_all [isOrdinary]

theorem tokensStars (read : tokensFrom position true ('*' :: '*' :: cs) = .ok ts) :
    ∃ rest, ts = .anyComponents :: rest := by
  cases cs with
  | nil => exact ⟨[],by simpa [tokensFrom] using read.symm⟩
  | cons c cs =>
    by_cases third : c = '*'
    · simp [tokensFrom,third] at read
    · by_cases ends : c = '/'
      · rw [ends,tokensFrom,if_pos rfl] at read
        obtain ⟨rest,_,same⟩ := okOfMapped read
        exact ⟨rest,same.symm⟩
      · simp [tokensFrom,third,ends] at read

end Tokens

theorem specialOfFits {cs : List Char} (parsed : parse p.text = .ok p) (relative : p.text.toList.head? ≠ some '/')
    (fits : p.fits (String.ofList ('/' :: cs)) = true) :
    ∃ c, p.text.toList.head? = some c ∧ isOrdinary c = false := by
  have read := tokensOfParsed parsed
  rw [Pattern.fits,String.toList_ofList] at fits
  cases text : p.text.toList with
  | nil =>
    rw [text,tokensFrom] at read
    rw [← Except.ok.inj read] at fits
    cases fits
  | cons c rest =>
    refine ⟨c,rfl,Bool.eq_false_iff.mpr fun plain => relative ?_⟩
    rw [text,tokensPlain plain] at read
    obtain ⟨ts,_,same⟩ := okOfMapped read
    rw [← same,matchTokens,Bool.and_eq_true,Token.admits,beq_iff_eq] at fits
    · rw [text,fits.1]
      rfl
    · exact Token.noConfusion
    · exact Token.noConfusion

theorem fitsDeeper {seen : List Char} (above : List Char) (parsed : parse p.text = .ok p)
    (stars : ['*','*'] <+: p.text.toList) (fits : p.fits (String.ofList seen) = true) :
    p.fits (String.ofList (above ++ '/' :: seen)) = true := by
  have read := tokensOfParsed parsed
  obtain ⟨rest,text⟩ := stars
  rw [← text] at read
  obtain ⟨ts,same⟩ := tokensStars read
  rw [Pattern.fits,String.toList_ofList,same] at fits ⊢
  exact matchDeeper above fits

theorem excludesBelow {above seen : List Char} (parsed : parse p.text = .ok p)
    (relative : p.text.toList.head? ≠ some '/') (absolute : (above ++ '/' :: seen).head? = some '/') :
    p.excludes (String.ofList (above ++ '/' :: seen)) = true ↔ p.Within seen ∨ p.Reaches above seen := by
  have part (core : List Char) : core <:+: above ++ '/' :: seen ↔
      core <:+: '/' :: seen ∨ Text.BeginsIn core above ('/' :: seen) := Text.infixAppend
  rw [excludes,Bool.or_eq_true,Option.any_eq_true,String.toList_ofList]
  simp only [Text.containsIff,part]
  constructor
  · rintro (fits | ⟨core,own,inside | overRoot⟩)
    · obtain ⟨cs,whole⟩ := List.head?_eq_some_iff.mp absolute
      obtain ⟨c,first,special⟩ := specialOfFits parsed relative (whole ▸ fits)
      exact .inr (.inl ⟨c,first,special,fits⟩)
    · exact .inl (.inl ⟨core,own,inside⟩)
    · exact .inr (.inr ⟨core,own,overRoot⟩)
  · rintro ((⟨core,own,inside⟩ | ⟨stars,fits⟩) | ⟨c,_,_,fits⟩ | ⟨core,own,overRoot⟩)
    · exact .inr ⟨core,own,.inl inside⟩
    · exact .inl (fitsDeeper above parsed stars fits)
    · exact .inl fits
    · exact .inr ⟨core,own,.inr overRoot⟩

def directory (d : String) : Pattern :=
  ⟨"**/" ++ d ++ "/**",.anyComponents :: (d.toList.map .char ++ [.char '/',.anyComponents])⟩

structure IsPlain (d : String) : Prop where
  named : d ≠ ""
  ordinary : ∀ c ∈ d.toList, isOrdinary c
  whole : '/' ∉ d.toList

section Directory
variable {d : String} {cs : List Char}

theorem tokensDirectory {word : List Char} (ordinary : ∀ c ∈ word, isOrdinary c) (position : Nat)
    (atStart : Bool) : tokensFrom position atStart (word ++ ['/','*','*']) =
      .ok (word.map .char ++ [.char '/',.anyComponents]) := by
  induction word generalizing position atStart with
  | nil =>
    rw [List.nil_append,tokensPlain rfl]
    simp [tokensFrom,Except.map]
  | cons c word ih =>
    obtain ⟨plain,rest⟩ := List.forall_mem_cons.mp ordinary
    rw [List.cons_append,tokensPlain plain,ih rest]
    rfl

theorem directoryText : (directory d).text.toList = '*' :: '*' :: '/' :: (d.toList ++ ['/','*','*']) := by
  simp [directory]

theorem parseDirectory (plain : IsPlain d) : parse (directory d).text = .ok (directory d) := by
  rw [parse,directoryText,tokensFrom,if_pos rfl,tokensDirectory plain.ordinary]
  rfl

theorem starsOnce {inner : List Char} (unstarred : '*' ∉ inner) : ¬ ['*','*'] <:+: inner ++ ['*'] := by
  rw [Text.infixAppend]
  rintro (inside | ⟨before,rest,rfl,nonempty,starts⟩)
  · exact absurd inside.length_le (by decide)
  · obtain ⟨c,rest,rfl⟩ := List.exists_cons_of_ne_nil nonempty
    obtain ⟨rfl,_⟩ := List.cons_prefix_cons.mp starts
    exact unstarred (by simp)

theorem eraseStars {inner : List Char} (unstarred : '*' ∉ inner) :
    Text.eraseAll ['*','*'] ('*' :: '*' :: (inner ++ ['*','*'])) = inner := by
  have opening : Text.cutAt? ['*','*'] ('*' :: '*' :: (inner ++ ['*','*'])) = some ([],inner ++ ['*','*']) := rfl
  have closing : Text.cutAt? ['*','*'] (inner ++ ['*','*'] ++ []) = some (inner,[]) :=
    Text.cutFirst (List.cons_ne_nil '*' ['*']) (starsOnce unstarred)
  rw [List.append_nil] at closing
  have nothing (n : Nat) : Text.eraseAllBounded ['*','*'] n [] = [] := by cases n <;> rfl
  rw [Text.eraseAll,List.length_cons,List.length_cons,Text.eraseAllBounded,opening]
  dsimp only
  rw [Text.eraseAllBounded,closing]
  dsimp only
  rw [nothing,List.append_nil,List.nil_append]

theorem coreDirectory (plain : IsPlain d) : (directory d).core? = some ('/' :: (d.toList ++ ['/'])) := by
  have unstarred : '*' ∉ '/' :: (d.toList ++ ['/']) := by
    simp only [List.mem_cons,List.mem_append,List.not_mem_nil,or_false]
    rintro (same | mem | same)
    · cases same
    · cases plain.ordinary _ mem
    · cases same
  have erased := eraseStars unstarred
  have long : 1 < Text.Utf8.size ('/' :: (d.toList ++ ['/'])) := by
    have ends : Text.Utf8.size ['/'] = 1 := rfl
    have starts : Char.utf8Size '/' = 1 := rfl
    rw [Text.Utf8.size,Text.Utf8.sizeAppend,ends,starts]
    omega
  rw [core?,directoryText]
  simp only [List.cons_append,List.append_assoc,List.nil_append] at erased
  rw [erased]
  exact if_pos long

theorem excludesDirectory (plain : IsPlain d) (absolute : cs.head? = some '/') :
    (directory d).excludes (String.ofList cs) = true ↔ '/' :: (d.toList ++ ['/']) <:+: cs := by
  obtain ⟨rest,rfl⟩ := List.head?_eq_some_iff.mp absolute
  have fits : matchTokens (directory d).tokens ('/' :: rest) = true →
      '/' :: (d.toList ++ ['/']) <:+: '/' :: rest := by
    rw [directory,matchComponents,matchChars,matchChars]
    rintro (⟨behind,same,_⟩ | ⟨behind,same,_⟩ | ⟨u,v,same,named⟩)
    · obtain ⟨c,name,spelled⟩ := List.exists_cons_of_ne_nil (mt String.toList_eq_nil_iff.mp plain.named)
      rw [spelled] at same
      obtain ⟨rfl,_⟩ := List.cons.inj same
      exact absurd (by simp [spelled]) plain.whole
    · have empty := (List.append_eq_nil_iff.mp same.symm).1
      exact absurd (String.toList_eq_nil_iff.mp empty) plain.named
    · obtain ⟨behind,rfl,ended⟩ := (matchChars d.toList).mp named
      obtain ⟨tail,rfl,_⟩ := (matchChars ['/']).mp ended
      exact ⟨u,tail,by rw [same]; simp⟩
  rw [excludes,Bool.or_eq_true,coreDirectory plain,Option.any_some,String.toList_ofList,Text.containsIff]
  refine ⟨fun hit => hit.elim (fun whole => fits ?_) id,.inr⟩
  rwa [Pattern.fits,String.toList_ofList] at whole

end Directory

end Pattern

end ConventionLint.Glob
