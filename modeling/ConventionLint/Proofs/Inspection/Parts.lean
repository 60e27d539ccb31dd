import ConventionLint.Proofs.Glob.Literal
import ConventionLint.Proofs.Inspection.Exclusion

/-! What a pattern of parts excludes. Next to stars a part has to be a whole component of the path. Where there are
no stars it may be the end or the start of one, since the pattern also stands for any text that it is a part of. -/
namespace ConventionLint

namespace Storage.Path
open Glob.Pattern (IsPlain bare isOrdinary literal onlyIf)
variable {ds pieces before after : List String} {front back s : String} {u v cs : List Char}

theorem piecesOfSome (cs : List Char) : piecesOf cs ≠ [] := by
  rw [piecesOf,splitByOn,ne_eq,List.map_eq_nil_iff]
  exact List.splitOn_ne_nil '/' cs

theorem spellPieces (cs : List Char) : spell (piecesOf cs) = '/' :: cs := by
  rw [← spellJoined (piecesOfSome cs),piecesOfWritten,String.toList_ofList]

theorem spellAppend (ps qs : List String) : spell (ps ++ qs) = spell ps ++ spell qs := List.flatMap_append

theorem piecesOfBehind (u v : List Char) : piecesOf (u ++ '/' :: v) = piecesOf u ++ piecesOf v := by
  have cut := List.splitOnP_append_cons (p := fun c => c == '/') u v (beq_self_eq_true '/')
  rw [← List.splitOn_eq_splitOnP,← List.splitOn_eq_splitOnP,← List.splitOn_eq_splitOnP] at cut
  simp only [piecesOf,splitByOn,cut,List.map_append]

theorem spellSome (nonempty : pieces ≠ []) : ∃ x, spell pieces = '/' :: x := by
  obtain ⟨d,rest,rfl⟩ := List.exists_cons_of_ne_nil nonempty
  exact ⟨_,rfl⟩

theorem lastCut (u : List Char) : '/' ∉ u ∨ ∃ above front, u = above ++ '/' :: front ∧ '/' ∉ front := by
  induction u using List.reverseRecOn with
  | nil => exact .inl List.not_mem_nil
  | append_singleton u c ih =>
    by_cases separates : c = '/'
    · exact .inr ⟨u,[],by rw [separates],List.not_mem_nil⟩
    · rcases ih with free | ⟨above,front,rfl,free⟩
      · exact .inl (by simp [free,Ne.symm separates])
      · exact .inr ⟨above,front ++ [c],by simp,by simp [free,Ne.symm separates]⟩

theorem headPieces (anywhere : Bool) (u : List Char) : ∃ before front, '/' ∉ front ∧
    (anywhere = true → front = [] ∧ before ≠ []) ∧
    ∀ rest, piecesOf (u ++ onlyIf anywhere ['/'] ++ rest) = before ++ piecesOf (front ++ rest) := by
  cases anywhere with
  | true =>
    refine ⟨piecesOf u,[],List.not_mem_nil,fun _ => ⟨rfl,piecesOfSome u⟩,fun rest => ?_⟩
    rw [onlyIf,if_pos rfl,List.append_assoc]
    exact piecesOfBehind u rest
  | false =>
    simp only [onlyIf,Bool.false_eq_true,if_false,List.append_nil,false_implies,true_and]
    rcases lastCut u with free | ⟨above,front,rfl,free⟩
    · exact ⟨[],u,free,fun rest => rfl⟩
    · refine ⟨piecesOf above,front,free,fun rest => ?_⟩
      rw [List.append_assoc]
      exact piecesOfBehind above (front ++ rest)

theorem tailPieces (below : Bool) (v : List Char) : ∃ back after, '/' ∉ back ∧
    (below = true → back = [] ∧ after ≠ []) ∧
    ∀ rest, piecesOf (rest ++ onlyIf below ['/'] ++ v) = piecesOf (rest ++ back) ++ after := by
  cases below with
  | true =>
    refine ⟨[],piecesOf v,List.not_mem_nil,fun _ => ⟨rfl,piecesOfSome v⟩,fun rest => ?_⟩
    rw [onlyIf,if_pos rfl,List.append_assoc,List.append_nil]
    exact piecesOfBehind rest v
  | false =>
    simp only [onlyIf,Bool.false_eq_true,if_false,List.append_nil,false_implies,true_and]
    by_cases inside : '/' ∈ v
    · obtain ⟨back,behind,rfl,free⟩ := List.eq_append_cons_of_mem inside
      refine ⟨back,piecesOf behind,free,fun rest => ?_⟩
      rw [← List.append_assoc]
      exact piecesOfBehind (rest ++ back) behind
    · exact ⟨v,[],inside,fun rest => (List.append_nil _).symm⟩

/-- Parts stand one below the other among pieces, if not for a front before the first one and a back behind the last
one in the same pieces. -/
def StandIn (ds pieces before after : List String) (front back : String) : Prop :=
  ∃ ps, pieces = before ++ ps ++ after ∧ "/".intercalate ps = front ++ "/".intercalate ds ++ back ∧
    '/' ∉ front.toList ∧ '/' ∉ back.toList

theorem spelledNonempty (nonempty : ds ≠ []) (named : ∀ d ∈ ds, d ≠ "") : "/".intercalate ds ≠ "" := by
  intro empty
  have joined := spellJoined nonempty
  rw [empty] at joined
  obtain ⟨d,rest,rfl⟩ := List.exists_cons_of_ne_nil nonempty
  have sizes := congrArg List.length joined
  have own : 0 < d.toList.length :=
    List.length_pos_iff.mpr (mt String.toList_eq_nil_iff.mp (named d List.mem_cons_self))
  simp [spell] at sizes
  simp [sizes.1] at own

theorem standInWhole (wholePieces : IsWhole pieces) (whole : IsWhole ds) (nonempty : ds ≠ [])
    (named : ∀ d ∈ ds, d ≠ "") (stand : StandIn ds pieces before after "" "") :
    pieces = before ++ ds ++ after := by
  obtain ⟨ps,rfl,joined,_,_⟩ := stand
  simp only [String.empty_append,String.append_empty] at joined
  have given : ps ≠ [] := by
    rintro rfl
    exact spelledNonempty nonempty named joined.symm
  have wholeParts : IsWhole ps := fun piece mem => wholePieces piece (by simp [mem])
  rw [← piecesOfJoined wholeParts given,joined,piecesOfJoined whole nonempty]

theorem headSpelled {anywhere : Bool} (head : anywhere = true → front = "" ∧ before ≠ []) :
    ∃ u, spell before ++ '/' :: front.toList = '/' :: (u ++ onlyIf anywhere ['/']) := by
  cases anywhere with
  | true =>
    obtain ⟨rfl,nonempty⟩ := head rfl
    obtain ⟨x,above⟩ := spellSome nonempty
    exact ⟨x,by simp [above,onlyIf]⟩
  | false =>
    by_cases atTop : before = []
    · exact ⟨front.toList,by simp [atTop,spell,onlyIf]⟩
    · obtain ⟨x,above⟩ := spellSome atTop
      exact ⟨x ++ '/' :: front.toList,by simp [above,onlyIf]⟩

theorem tailSpelled {below : Bool} (tail : below = true → back = "" ∧ after ≠ []) :
    ∃ v, back.toList ++ spell after = onlyIf below ['/'] ++ v := by
  cases below with
  | true =>
    obtain ⟨rfl,nonempty⟩ := tail rfl
    obtain ⟨y,behind⟩ := spellSome nonempty
    exact ⟨y,by simp [behind,onlyIf]⟩
  | false => exact ⟨_,rfl⟩

theorem bareInside {anywhere below : Bool} (nonempty : ds ≠ []) (named : ∀ d ∈ ds, d ≠ "") :
    bare anywhere below ("/".intercalate ds) <:+: cs ↔
      ∃ before after front back, StandIn ds (piecesOf cs) before after front back ∧
        (anywhere = true → front = "" ∧ before ≠ []) ∧ (below = true → back = "" ∧ after ≠ []) := by
  constructor
  · rintro ⟨u,v,rfl⟩
    obtain ⟨before,front,free,head,headApart⟩ := headPieces anywhere u
    obtain ⟨back,after,free',tail,tailApart⟩ := tailPieces below v
    refine ⟨before,after,String.ofList front,String.ofList back,
      ⟨piecesOf (front ++ ("/".intercalate ds).toList ++ back),?_,?_,by simpa,by simpa⟩,?_,?_⟩
    · have apart : u ++ bare anywhere below ("/".intercalate ds) ++ v =
          u ++ onlyIf anywhere ['/'] ++ (("/".intercalate ds).toList ++ onlyIf below ['/'] ++ v) := by
        simp [bare]
      rw [apart,headApart,← List.append_assoc,← List.append_assoc,tailApart,List.append_assoc before]
    · rw [piecesOfWritten,← String.toList_inj]
      simp
    · exact fun here => ⟨by rw [(head here).1],(head here).2⟩
    · exact fun here => ⟨by rw [(tail here).1],(tail here).2⟩
  · rintro ⟨before,after,front,back,⟨ps,same,joined,_,_⟩,head,tail⟩
    have given : ps ≠ [] := by
      rintro rfl
      have nothing := congrArg String.toList joined.symm
      simp only [String.toList_append,List.append_assoc,List.append_eq_nil_iff,String.toList_eq_nil_iff,
        String.intercalate_nil,String.toList_empty] at nothing
      exact spelledNonempty nonempty named nothing.2.1
    obtain ⟨u,start⟩ := headSpelled head
    obtain ⟨v,ending⟩ := tailSpelled tail
    refine ⟨u,v,?_⟩
    have whole : '/' :: cs = (spell before ++ '/' :: front.toList) ++ ("/".intercalate ds).toList ++
        (back.toList ++ spell after) := by
      rw [← spellPieces cs,same,spellAppend,spellAppend,← spellJoined given,joined]
      simp
    rw [start,ending] at whole
    rw [(List.cons.inj whole).2,bare]
    simp

section Patterns
variable {anywhere below : Bool}

theorem wholeOfPlain (plain : ∀ d ∈ ds, IsPlain d) : IsWhole ds := fun d mem => (plain d mem).whole

theorem ordinaryParts (nonempty : ds ≠ []) (plain : ∀ d ∈ ds, IsPlain d) :
    ∀ c ∈ ("/".intercalate ds).toList, isOrdinary c := by
  intro c mem
  have spelled : c ∈ spell ds := spellJoined nonempty ▸ List.mem_cons_of_mem '/' mem
  obtain ⟨d,listed,inside⟩ := List.mem_flatMap.mp spelled
  rcases List.mem_cons.mp inside with rfl | own
  · rfl
  · exact (plain d listed).ordinary c own

theorem fitsParts (nonempty : ds ≠ []) (plain : ∀ d ∈ ds, IsPlain d) :
    (literal anywhere below ("/".intercalate ds)).fits s = true ↔
      ∃ before after, piecesOf s.toList = before ++ ds ++ after ∧ (anywhere = true ∨ before = []) ∧
        (below = true ↔ after ≠ []) := by
  have named : ∀ d ∈ ds, d ≠ "" := fun d mem => (plain d mem).named
  rw [Glob.Pattern.fitsLiteral (spelledNonempty nonempty named)]
  constructor
  · rintro ⟨u,v,same,start,ending⟩
    obtain ⟨after,tail,empty⟩ : ∃ after, piecesOf (("/".intercalate ds).toList ++ v) = ds ++ after ∧
        (below = true ↔ after ≠ []) := by
      have own := piecesOfJoined (wholeOfPlain plain) nonempty
      cases below with
      | true =>
        obtain ⟨rest,rfl⟩ := ending
        exact ⟨piecesOf rest,by rw [piecesOfBehind,own],by simp [piecesOfSome]⟩
      | false =>
        obtain rfl : v = [] := ending
        exact ⟨[],by rw [List.append_nil,List.append_nil,own],by simp⟩
    rcases start with rfl | ⟨here,above,rfl⟩
    · exact ⟨[],after,by rw [same]; exact tail,.inr rfl,empty⟩
    · refine ⟨piecesOf above,after,?_,.inl here,empty⟩
      rw [same,List.append_assoc,List.append_assoc above,List.append_assoc,← tail]
      exact piecesOfBehind above _
  · rintro ⟨before,after,same,start,ending⟩
    have whole : '/' :: s.toList = spell before ++ '/' :: ("/".intercalate ds).toList ++ spell after := by
      rw [← spellPieces s.toList,same,spellAppend,spellAppend,← spellJoined nonempty]
    have behind : if below = true then ∃ rest, spell after = '/' :: rest else spell after = [] := by
      cases below with
      | true => exact spellSome (ending.mp rfl)
      | false =>
        obtain rfl : after = [] := not_not.mp (mt ending.mpr Bool.false_ne_true)
        rfl
    by_cases atTop : before = []
    · subst atTop
      exact ⟨[],spell after,(List.cons.inj whole).2,.inl rfl,behind⟩
    · obtain ⟨x,above⟩ := spellSome atTop
      rw [above] at whole
      refine ⟨x ++ ['/'],spell after,?_,.inr ⟨start.resolve_right atTop,x,rfl⟩,behind⟩
      rw [(List.cons.inj whole).2]
      simp

theorem excludesParts (nonempty : ds ≠ []) (plain : ∀ d ∈ ds, IsPlain d) :
    (literal anywhere below ("/".intercalate ds)).excludes s = true ↔
      (∃ before after, piecesOf s.toList = before ++ ds ++ after ∧ (anywhere = true ∨ before = []) ∧
        (below = true ↔ after ≠ [])) ∨
      1 < Text.Utf8.size (bare anywhere below ("/".intercalate ds)) ∧
        ∃ before after front back, StandIn ds (piecesOf s.toList) before after front back ∧
          (anywhere = true → front = "" ∧ before ≠ []) ∧ (below = true → back = "" ∧ after ≠ []) := by
  rw [Glob.Pattern.excludesLiteral (ordinaryParts nonempty plain),fitsParts nonempty plain,
    bareInside nonempty fun d mem => (plain d mem).named]

theorem piecesOfSpelled {rest : List Char} (whole : IsWhole pieces) (nonempty : pieces ≠ [])
    (spelled : '/' :: rest = spell pieces) : piecesOf rest = pieces := by
  rw [← spellJoined nonempty] at spelled
  rw [(List.cons.inj spelled).2,piecesOfJoined whole nonempty]

theorem notAmong (nonempty : ds ≠ []) (named : ∀ d ∈ ds, d ≠ "") (same : ds.length = pieces.length)
    (other : ds ≠ pieces) : ¬ ds <:+: "" :: pieces ∧ ¬ ds <:+: pieces ++ [""] := by
  constructor
  · intro among
    rcases List.infix_cons_iff.mp among with first | rest
    · obtain ⟨d,more,rfl⟩ := List.exists_cons_of_ne_nil nonempty
      exact named d List.mem_cons_self (List.cons_prefix_cons.mp first).1
    · exact other (rest.eq_of_length same)
  · intro among
    rcases List.infix_concat_iff.mp among with last | rest
    · obtain ⟨front,d,rfl⟩ := List.eq_nil_or_concat' ds |>.resolve_left nonempty
      have ends := last.getLast (by simp)
      simp only [List.getLast_append_singleton] at ends
      exact named d (by simp) ends
    · exact other (rest.eq_of_length same)

theorem piecesLonger {front : List String} {d : String} (whole : IsWhole (front ++ [d])) :
    piecesOf (("/".intercalate (front ++ [d])).toList ++ ['x']) = front ++ [d ++ "x"] := by
  have nonempty : front ++ [d] ≠ [] := List.concat_ne_nil d front
  refine piecesOfSpelled (fun piece mem => ?_) (List.concat_ne_nil _ front) ?_
  · rcases List.mem_append.mp mem with sooner | last
    · exact whole piece (List.mem_append_left _ sooner)
    · have free := whole d (by simp)
      rw [List.mem_singleton.mp last]
      simp [free]
  · rw [← List.cons_append,spellJoined nonempty,spellAppend,spellAppend]
    simp [spell]

theorem piecesEarlier {rest : List String} {d : String} (whole : IsWhole (d :: rest)) :
    piecesOf ('x' :: ("/".intercalate (d :: rest)).toList) = ("x" ++ d) :: rest := by
  refine piecesOfSpelled (fun piece mem => ?_) (List.cons_ne_nil _ rest) ?_
  · rcases List.mem_cons.mp mem with rfl | later
    · have free := whole d List.mem_cons_self
      simp [free]
    · exact whole piece (List.mem_cons_of_mem d later)
  · have joined := spellJoined (List.cons_ne_nil d rest)
    simp only [spell,List.flatMap_cons,List.cons_append,List.cons.injEq,true_and] at joined
    simp [spell,joined]

theorem looseParts (nonempty : ds ≠ []) (plain : ∀ d ∈ ds, IsPlain d)
    (limited : ¬ (anywhere = true ∧ below = true)) :
    ∃ s : String, bare anywhere below ("/".intercalate ds) <:+: s.toList ∧ ¬ ds <:+: piecesOf s.toList := by
  have named : ∀ d ∈ ds, d ≠ "" := fun d mem => (plain d mem).named
  have whole := wholeOfPlain plain
  have nothing : piecesOf [] = [""] := rfl
  cases anywhere with
  | true =>
    obtain rfl : below = false := by simpa using limited
    obtain ⟨front,d,rfl⟩ := List.eq_nil_or_concat' ds |>.resolve_left nonempty
    have cut := piecesOfBehind [] (("/".intercalate (front ++ [d])).toList ++ ['x'])
    rw [piecesLonger whole,nothing] at cut
    refine ⟨"/" ++ "/".intercalate (front ++ [d]) ++ "x",⟨[],['x'],by simp [bare,onlyIf]⟩,?_⟩
    have inPieces : piecesOf ("/" ++ "/".intercalate (front ++ [d]) ++ "x").toList =
        "" :: (front ++ [d ++ "x"]) := by
      simpa using cut
    rw [inPieces]
    refine (notAmong nonempty named (by simp) fun same => ?_).1
    have sizes := congrArg (fun ps => (ps.getLastD "").length) same
    simp at sizes
  | false =>
    obtain ⟨d,rest,rfl⟩ := List.exists_cons_of_ne_nil nonempty
    have cut := piecesOfBehind ('x' :: ("/".intercalate (d :: rest)).toList) []
    rw [piecesEarlier whole,nothing] at cut
    refine ⟨"x" ++ "/".intercalate (d :: rest) ++ "/",?_,?_⟩
    · cases below with
      | true => exact ⟨['x'],[],by simp [bare,onlyIf]⟩
      | false => exact ⟨['x'],['/'],by simp [bare,onlyIf]⟩
    · have inPieces : piecesOf ("x" ++ "/".intercalate (d :: rest) ++ "/").toList =
          (("x" ++ d) :: rest) ++ [""] := by
        simpa using cut
      rw [inPieces]
      refine (notAmong nonempty named (by simp) fun same => ?_).2
      have sizes := congrArg String.length (List.cons.inj same).1
      simp at sizes

theorem wholeOfExcluded (nonempty : ds ≠ []) (plain : ∀ d ∈ ds, IsPlain d) :
    (∀ s, (literal anywhere below ("/".intercalate ds)).excludes s = true → ds <:+: piecesOf s.toList) ↔
      anywhere = true ∧ below = true ∨ Text.Utf8.size (bare anywhere below ("/".intercalate ds)) ≤ 1 := by
  have named : ∀ d ∈ ds, d ≠ "" := fun d mem => (plain d mem).named
  constructor
  · intro all
    by_contra other
    obtain ⟨limited,long⟩ := not_or.mp other
    obtain ⟨s,inside,apart⟩ := looseParts nonempty plain limited
    refine apart (all s ((Glob.Pattern.excludesLiteral (ordinaryParts nonempty plain)).mpr (.inr ⟨?_,inside⟩)))
    exact Nat.lt_of_not_le long
  · intro closed s excluded
    rcases (excludesParts nonempty plain).mp excluded with
      ⟨before,after,same,_⟩ | ⟨long,before,after,front,back,stand,head,tail⟩
    · exact ⟨before,after,same.symm⟩
    · obtain ⟨rfl,rfl⟩ := closed.resolve_right (Nat.not_le_of_lt long)
      obtain ⟨rfl,_⟩ := head rfl
      obtain ⟨rfl,_⟩ := tail rfl
      exact ⟨before,after,(standInWhole (piecesOfWhole _) (wholeOfPlain plain) nonempty named stand).symm⟩

end Patterns

end Storage.Path

namespace Inspection
open Glob (Pattern)
open Glob.Pattern (bare literal)
open Storage (Path)
open Storage.Path (StandIn piecesOf)

theorem singlePattern {current : Path} {r : Request} {x : Inspection} {p : Pattern} (done : setUp current r = .ok x)
    (single : r.excludeTexts = [p.text]) (parsed : Pattern.parse p.text = .ok p) (path : Path) :
    x.isExcluded path = p.excludes path.toString := by
  have read := (setUpParts done).2.2
  rw [single,Pattern.parseAll,parsed] at read
  have own : [p] = x.exclude := Except.ok.inj read
  rw [isExcluded,← own,List.any_cons,List.any_nil,Bool.or_false]

/-- With one pattern of parts a path is excluded where the parts fit it, and wherever the text of the parts with
their separators is, if that is longer than a byte. Then an end of the parts with stars is an end of a component,
and one without stars need not be. So the parts have to be components just if there are stars at both ends. -/
theorem excludedByParts {current : Path} {r : Request} {x : Inspection} {anywhere below : Bool} {ds : List String}
    (done : setUp current r = .ok x) (nonempty : ds ≠ []) (plain : ∀ d ∈ ds, Pattern.IsPlain d)
    (single : r.excludeTexts =
      [(if anywhere then "**/" else "") ++ "/".intercalate ds ++ if below then "/**" else ""]) :
    (∀ p : Path, x.isExcluded p = true ↔
      (∃ before after, piecesOf p.toString.toList = before ++ ds ++ after ∧ (anywhere = true ∨ before = []) ∧
        (below = true ↔ after ≠ [])) ∨
      1 < Text.Utf8.size (bare anywhere below ("/".intercalate ds)) ∧
        ∃ before after front back, StandIn ds (piecesOf p.toString.toList) before after front back ∧
          (anywhere = true → front = "" ∧ before ≠ []) ∧ (below = true → back = "" ∧ after ≠ [])) ∧
    ((∀ p : Path, x.isExcluded p = true → ds <:+: piecesOf p.toString.toList) ↔
      anywhere = true ∧ below = true ∨ Text.Utf8.size (bare anywhere below ("/".intercalate ds)) ≤ 1) := by
  have parsed : Pattern.parse _ = .ok (literal anywhere below ("/".intercalate ds)) :=
    Pattern.parseLiteral (Path.ordinaryParts nonempty plain)
  have own := singlePattern done single parsed
  refine ⟨fun p => ?_,?_⟩
  · rw [own,Path.excludesParts nonempty plain]
  · rw [← Path.wholeOfExcluded nonempty plain]
    constructor
    · intro all s excluded
      have there := all (.ofString s)
      rw [own,Path.toStringOfString] at there
      exact there excluded
    · intro all p excluded
      exact all p.toString (own p ▸ excluded)

theorem excludedByEnding :
    let r : Request := ⟨none,none,[],["docs/**"],[],false⟩
    let p := Path.ofString "/home/apidocs/m.py"
    ∃ x, setUp ⟨true,[]⟩ r = .ok x ∧ x.isExcluded p = true ∧ ¬ ["docs"] <:+: piecesOf p.toString.toList ∧
      ¬ ∀ p : Path, x.isExcluded p = true → ["docs"] <:+: piecesOf p.toString.toList := by
  intro r p
  have plain : ∀ d ∈ ["docs"], Pattern.IsPlain d :=
    List.forall_mem_singleton.mpr ⟨by decide,List.all_eq_true.mp (by decide),by decide⟩
  have single : r.excludeTexts =
      [(if false then "**/" else "") ++ "/".intercalate ["docs"] ++ if true then "/**" else ""] := by decide
  have parsed : Pattern.parse (literal false true "docs").text = .ok (literal false true "docs") :=
    Pattern.parseLiteral (plain "docs" List.mem_cons_self).ordinary
  have done : setUp ⟨true,[]⟩ r =
      .ok ⟨r.absoluteRoot ⟨true,[]⟩,[],[literal false true "docs"],[],r.settings,false⟩ := by
    have texts : r.excludeTexts = [(literal false true "docs").text] := rfl
    rw [setUp,texts,Pattern.parseAll,parsed]
    rfl
  obtain ⟨excludedIff,whole⟩ := excludedByParts done (List.cons_ne_nil _ _) plain single
  refine ⟨_,done,(excludedIff p).mpr (.inr ⟨by decide,["","home"],["m.py"],"api","",⟨["apidocs"],?_⟩,?_⟩),?_,?_⟩
  · decide
  · decide
  · decide
  · rw [whole]
    decide

end Inspection

end ConventionLint
