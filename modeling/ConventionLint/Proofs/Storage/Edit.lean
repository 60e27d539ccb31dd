import Mathlib.Data.List.TakeWhile
import ConventionLint.Proofs.Storage.Sealed

/-! What changing one byte of a sealed text does to its seal. In the body it breaks the seal unless the
two bodies collide. The last line is only searched for a digest, so around the digest a change may go
unseen, and behind it always does. -/
namespace ConventionLint.Storage.Sealed
open ConventionLint.Text ConventionLint.Digest

def shown (body : Bytes) : Bytes := Utf8.encode (sha1Hex body)

theorem shownLength (body : Bytes) : (shown body).length = 40 := by
  rw [shown,encodeHexLength (sha1HexLower body),sha1Hex_length]

theorem shownHex (body : Bytes) : ∀ b ∈ shown body, isHexDigit b := encodeHex (sha1HexLower body)

theorem shownIff {a b : Bytes} : shown a = shown b ↔ sha1 a = sha1 b := by
  rw [← sha1HexIff]
  constructor
  · exact encodeHexInjective (sha1HexLower a) (sha1HexLower b)
  · exact fun same => congrArg Utf8.encode same

theorem newlineNoDigit : ¬ isHexDigit newline := by decide

section Found
variable {b : UInt8} {bs lead digest more : Bytes}

def Begins (bs : Bytes) : Prop := (bs.take 40).length = 40 ∧ (bs.take 40).all isHexDigit

theorem digestShort (short : bs.length < 40) : digest? bs = none := by
  induction bs with
  | nil => rfl
  | cons c bs ih =>
    rw [List.length_cons] at short
    rw [digestSkip,ih (by omega)]
    rintro ⟨size,_⟩
    simp only [List.length_take,List.length_cons] at size
    omega

theorem digestBegins {c : UInt8} (begins : Begins (c :: bs)) :
    digest? (c :: bs) = some ((c :: bs).take 40) := by
  unfold digest?
  exact if_pos begins

theorem beginsAppend (begins : Begins bs) (more : Bytes) : (bs ++ more).take 40 = bs.take 40 := by
  have size : 40 ≤ bs.length := by
    have := begins.1
    rw [List.length_take] at this
    omega
  exact List.take_append_of_le_length size

theorem digestAppend (found : digest? bs = some digest) (more : Bytes) :
    digest? (bs ++ more) = some digest := by
  induction bs with
  | nil => cases found
  | cons c bs ih =>
    by_cases begins : Begins (c :: bs)
    · have same := beginsAppend begins more
      rw [digestBegins begins] at found
      rw [List.cons_append] at same ⊢
      rw [digestBegins (by rw [Begins,same]; exact begins),same,found]
    · rw [digestSkip begins] at found
      rw [List.cons_append,digestSkip,ih found]
      intro begun
      rw [← List.cons_append] at begun
      by_cases long : 40 ≤ (c :: bs).length
      · rw [List.take_append_of_le_length long] at begun
        exact begins begun
      · rw [List.length_cons] at long
        rw [digestShort (by omega)] at found
        cases found

theorem digestExists (lead : Bytes) (size : digest.length = 40) (hex : ∀ b ∈ digest, isHexDigit b) :
    ∃ found, digest? (lead ++ digest) = some found := by
  induction lead with
  | nil =>
    have here : digest? (digest ++ []) = some digest := digestHere size hex
    exact ⟨digest,by simpa using here⟩
  | cons c lead ih =>
    by_cases begins : Begins (c :: lead ++ digest)
    · exact ⟨_,digestBegins begins⟩
    · rw [List.cons_append] at begins ⊢
      rwa [digestSkip begins]

theorem digestBarrier (other : ¬ isHexDigit b) (bs more : Bytes) :
    digest? (bs ++ b :: more) = (digest? bs).or (digest? more) := by
  have beyond (cs : Bytes) (few : cs.length < 40) : ¬ Begins (cs ++ b :: more) := by
    rintro ⟨_,run⟩
    refine other (List.all_eq_true.mp run b ?_)
    rw [List.take_append]
    obtain ⟨n,size⟩ : ∃ n, 40 - cs.length = n + 1 := ⟨39 - cs.length,by omega⟩
    simp [size]
  induction bs with
  | nil => exact digestSkip (beyond [] (by decide))
  | cons c bs ih =>
    by_cases begins : Begins (c :: bs)
    · rw [digestAppend (digestBegins begins),digestBegins begins,Option.some_or]
    · rw [digestSkip begins,List.cons_append,digestSkip,ih]
      rw [← List.cons_append]
      by_cases long : 40 ≤ (c :: bs).length
      · intro begun
        refine begins ?_
        rwa [List.take_append_of_le_length long] at begun
      · exact beyond _ (by omega)

theorem digestEnd (bs : Bytes) : digest? (bs ++ [newline]) = digest? bs := by
  rw [digestBarrier newlineNoDigit,show digest? [] = none from rfl,Option.or_none]

structure Leftmost (lead digest : Bytes) : Prop where
  size : digest.length = 40
  hex : ∀ b ∈ digest, isHexDigit b
  noneBefore : digest? lead = none
  apart : ∀ b, lead.getLast? = some b → ¬ isHexDigit b

theorem digestParts (found : digest? bs = some digest) :
    ∃ lead trail, bs = lead ++ (digest ++ trail) ∧ Leftmost lead digest := by
  induction bs with
  | nil => cases found
  | cons c bs ih =>
    by_cases begins : Begins (c :: bs)
    · rw [digestBegins begins] at found
      cases found
      refine ⟨[],(c :: bs).drop 40,(List.take_append_drop 40 _).symm,begins.1,?_,rfl,nofun⟩
      exact List.all_eq_true.mp begins.2
    · rw [digestSkip begins] at found
      obtain ⟨lead,trail,rfl,left⟩ := ih found
      refine ⟨c :: lead,trail,rfl,left.size,left.hex,?_,?_⟩
      · rw [digestSkip,left.noneBefore]
        intro begun
        refine begins ?_
        rw [← List.cons_append,Begins,beginsAppend begun]
        exact begun
      · intro b last
        cases lead with
        | cons d lead => exact left.apart b (by simpa using last)
        | nil =>
          obtain rfl : c = b := by simpa using last
          intro hex
          refine begins ⟨by simp [left.size]; omega,List.all_eq_true.mpr fun b mem => ?_⟩
          rw [List.nil_append,List.take_succ_cons,List.take_append_of_le_length (by rw [left.size]; decide)] at mem
          rcases List.mem_cons.mp mem with rfl | inside
          · exact hex
          · exact left.hex b (List.mem_of_mem_take inside)

theorem Leftmost.within (left : Leftmost lead digest) {front : Bytes} (few : front.length < 40) :
    digest? (lead ++ front) = none := by
  rcases List.eq_nil_or_concat lead with rfl | ⟨before,c,rfl⟩
  · exact digestShort few
  · have other := left.apart c (by simp)
    have nothing := left.noneBefore
    rw [List.concat_eq_append,digestBarrier other,Option.or_eq_none_iff] at nothing
    rw [List.concat_eq_append,List.append_assoc,List.singleton_append,digestBarrier other,nothing.1,
      digestShort few,Option.or_none]

theorem Leftmost.found (left : Leftmost lead digest) (more : Bytes) :
    digest? (lead ++ (digest ++ more)) = some digest := by
  refine digestLeftmost left.size left.hex (fun run inside size all => ?_) left.apart
  obtain ⟨before,after,rfl⟩ := inside
  obtain ⟨e,early⟩ := digestExists before size (List.all_eq_true.mp all)
  have := left.noneBefore
  rw [digestAppend early] at this
  cases this

end Found

section Edited
variable {body line before tail front back lead trail : Bytes} {b x : UInt8}

theorem verifyLastLine (last : UInt8) (ends : body.getLast? = some newline) (oneLine : newline ∉ line) :
    verify (body ++ (line ++ [last])) = true ↔ digest? (line ++ [last]) = some (shown body) := by
  simp only [verify,splitLastLine [last] ends oneLine rfl,beq_iff_eq,shown]

theorem verifyLine (ends : body.getLast? = some newline) (oneLine : newline ∉ line) :
    verify (body ++ (line ++ [newline])) = true ↔ digest? line = some (shown body) := by
  rw [verifyLastLine newline ends oneLine,digestEnd]

theorem verifyOneLine (oneLine : newline ∉ line) (last : UInt8) : verify (line ++ [last]) = false := by
  have run : (line.reverse.takeWhile (· ≠ newline)) = line.reverse := by
    refine List.takeWhile_eq_self_iff.mpr fun b mem => ?_
    have : b ≠ newline := fun same => oneLine (by simpa [same] using mem)
    simpa using this
  have unsplit : split? (line ++ [last]) = none := by
    simp only [split?,List.dropLast_concat,run,List.length_reverse,List.length_append,List.length_singleton]
    exact if_neg (by omega)
  simp only [verify,unsplit]

theorem newlineSplit (bs : Bytes) : newline ∉ bs ∨
    ∃ before tail, bs = before ++ tail ∧ before.getLast? = some newline ∧ newline ∉ tail := by
  induction bs with
  | nil => exact .inl List.not_mem_nil
  | cons c bs ih =>
    rcases ih with free | ⟨before,tail,rfl,ends,free⟩
    · by_cases here : c = newline
      · exact .inr ⟨[c],bs,rfl,by rw [here]; rfl,free⟩
      · exact .inl (by simp [Ne.symm here,free])
    · refine .inr ⟨c :: before,tail,rfl,?_,free⟩
      rw [List.getLast?_cons,ends]
      rfl

theorem setAt (u v : Bytes) (x b : UInt8) : (u ++ x :: v).set u.length b = u ++ b :: v := by simp

theorem splitHere {bs : Bytes} {i : Nat} (inside : bs[i]? = some x) :
    ∃ front back, bs = front ++ x :: back ∧ i = front.length := by
  obtain ⟨short,rfl⟩ := List.getElem?_eq_some_iff.mp inside
  refine ⟨bs.take i,bs.drop (i + 1),?_,(List.length_take_of_le short.le).symm⟩
  rw [List.cons_getElem_drop_succ,List.take_append_drop]

theorem cutWithin {u v : Bytes} (same : u ++ v = front ++ x :: back) :
    (∃ w, u = front ++ x :: w ∧ back = w ++ v) ∨ ∃ w, front = u ++ w ∧ v = w ++ x :: back := by
  rcases List.append_eq_append_iff.mp same with later | ⟨w,rfl,rest⟩
  · exact .inr later
  · cases w with
    | nil => exact .inr ⟨[],by simp,by simpa using rest.symm⟩
    | cons y w =>
      obtain ⟨rfl,rfl⟩ := List.cons_eq_cons.mp rest
      exact .inl ⟨w,rfl,rfl⟩

theorem editBody (ends : body.getLast? = some newline) (oneLine : newline ∉ line)
    (found : digest? line = some (shown body)) {i : Nat} (inside : i + 1 < body.length) :
    verify ((body ++ (line ++ [newline])).set i b) = true ↔ sha1 (body.set i b) = sha1 body := by
  have endsStill : (body.set i b).getLast? = some newline := by
    obtain ⟨above,rfl⟩ := List.getLast?_eq_some_iff.mp ends
    rw [List.length_append,List.length_singleton] at inside
    rw [List.set_append_left i b (by omega),List.getLast?_concat]
  rw [List.set_append_left i b (by omega),verifyLine endsStill oneLine,found,Option.some.injEq,shownIff]
  exact eq_comm

theorem joinLine (oneLine : newline ∉ line) (plain : b ≠ newline) (above : newline ∉ tail)
    (ends : before.getLast? = some newline) :
    verify ((before ++ tail ++ [newline] ++ (line ++ [newline])).set (before ++ tail).length b) = true ↔
      digest? (tail ++ b :: line) = some (shown before) := by
  have joined : newline ∉ tail ++ b :: line := by simp [above,oneLine,plain.symm]
  rw [← verifyLine ends joined,List.append_assoc _ [newline],List.singleton_append,setAt]
  simp

theorem joinOnlyLine (oneLine : newline ∉ line) (plain : b ≠ newline) (above : newline ∉ tail) :
    verify ((tail ++ [newline] ++ (line ++ [newline])).set tail.length b) = false := by
  have joined : newline ∉ tail ++ b :: line := by simp [above,oneLine,plain.symm]
  rw [← verifyOneLine joined newline,List.append_assoc _ [newline],List.singleton_append,setAt]
  simp

theorem setInLine (body front back : Bytes) (x b : UInt8) :
    (body ++ (front ++ x :: back ++ [newline])).set (body ++ front).length b =
      body ++ (front ++ b :: back ++ [newline]) := by
  rw [List.append_assoc front,← List.append_assoc body,List.cons_append,setAt]
  simp

theorem breakLine (body : Bytes) (oneLine : newline ∉ front ++ x :: back) :
    verify ((body ++ (front ++ x :: back ++ [newline])).set (body ++ front).length newline) = true ↔
      digest? back = some (shown (body ++ front ++ [newline])) := by
  have behind : newline ∉ back := by
    intro mem
    exact oneLine (by simp [mem])
  have ends : (body ++ front ++ [newline]).getLast? = some newline := by simp
  rw [← verifyLine ends behind,setInLine]
  simp

theorem editLine (ends : body.getLast? = some newline) (oneLine : newline ∉ front ++ x :: back)
    (plain : b ≠ newline) :
    verify ((body ++ (front ++ x :: back ++ [newline])).set (body ++ front).length b) = true ↔
      digest? (front ++ b :: back) = some (shown body) := by
  have still : newline ∉ front ++ b :: back := by
    intro mem
    refine oneLine ?_
    rcases List.mem_append.mp mem with before | behind
    · exact List.mem_append_left _ before
    · have : newline ∈ back := (List.mem_cons.mp behind).resolve_left plain.symm
      simp [this]
  rw [← verifyLine ends still,setInLine]

theorem editLast (ends : body.getLast? = some newline) (oneLine : newline ∉ line)
    (found : digest? line = some (shown body)) :
    verify ((body ++ (line ++ [newline])).set (body ++ line).length b) = true := by
  rw [← List.append_assoc,setAt,List.append_assoc,verifyLastLine b ends oneLine]
  exact digestAppend found [b]

/-- The edits of a sealed text after which its seal seems unbroken. The text consists of `body`, a last
line with the digest between `lead` and `trail`, and a line break. -/
inductive Missed (body lead trail : Bytes) : Nat → UInt8 → Prop where
  | collision {i : Nat} {b : UInt8} (inside : i + 1 < body.length)
      (same : sha1 (body.set i b) = sha1 body) : Missed body lead trail i b
  | joined {before tail : Bytes} {b : UInt8} (above : body = before ++ tail ++ [newline])
      (ends : before.getLast? = some newline) (oneLine : newline ∉ tail)
      (found : digest? (tail ++ b :: (lead ++ (shown body ++ trail))) = some (shown before)) :
      Missed body lead trail (before ++ tail).length b
  | parted {front back : Bytes} {x : UInt8} (line : lead ++ (shown body ++ trail) = front ++ x :: back)
      (found : digest? back = some (shown (body ++ front ++ [newline]))) :
      Missed body lead trail (body ++ front).length newline
  | ahead {front back : Bytes} {x b : UInt8} (line : lead = front ++ x :: back) (plain : b ≠ newline)
      (found : digest? (front ++ b :: back ++ shown body) = some (shown body)) :
      Missed body lead trail (body ++ front).length b
  | again {front back : Bytes} {x b : UInt8} (digest : shown body = front ++ x :: back)
      (plain : b ≠ newline) (other : ¬ isHexDigit b) (found : digest? (back ++ trail) = some (shown body)) :
      Missed body lead trail (body ++ lead ++ front).length b
  | behind {i : Nat} {b : UInt8} (past : (body ++ lead ++ shown body).length ≤ i) (plain : b ≠ newline) :
      Missed body lead trail i b

structure Parts (file body lead trail : Bytes) : Prop where
  whole : file = body ++ (lead ++ (shown body ++ trail) ++ [newline])
  ends : body.getLast? = some newline
  oneLine : newline ∉ lead ++ (shown body ++ trail)
  leftmost : Leftmost lead (shown body)

namespace Parts
variable {file : Bytes} {i : Nat}

theorem found (parts : Parts file body lead trail) :
    digest? (lead ++ (shown body ++ trail)) = some (shown body) := parts.leftmost.found trail

theorem digestHit (parts : Parts file body lead trail) (digest : shown body = front ++ x :: back)
    (other : b ≠ x) : digest? (lead ++ (front ++ b :: (back ++ trail))) = some (shown body) ↔
      ¬ isHexDigit b ∧ digest? (back ++ trail) = some (shown body) := by
  have size := shownLength body
  have hex := shownHex body
  rw [digest] at size hex
  rw [List.length_append,List.length_cons] at size
  by_cases digit : isHexDigit b
  · have rewritten : Leftmost lead (front ++ b :: back) := by
      refine ⟨by simpa using size,?_,parts.leftmost.noneBefore,parts.leftmost.apart⟩
      intro c mem
      rcases List.mem_append.mp mem with before | behind
      · exact hex c (List.mem_append_left _ before)
      · rcases List.mem_cons.mp behind with rfl | behind
        · exact digit
        · exact hex c (by simp [behind])
    have shows := rewritten.found trail
    rw [List.append_assoc,List.cons_append] at shows
    rw [shows,digest]
    simp [digit,other]
  · have few : front.length < 40 := by omega
    rw [← List.append_assoc,digestBarrier digit,parts.leftmost.within few,Option.none_or]
    simp [digit]

theorem editInLine (parts : Parts file body lead trail)
    (cut : lead ++ (shown body ++ trail) = front ++ x :: back) (plain : b ≠ newline) :
    verify (file.set (body ++ front).length b) = true ↔
      digest? (front ++ b :: back) = some (shown body) := by
  obtain ⟨rfl,ends,oneLine,_⟩ := parts
  rw [cut] at oneLine ⊢
  exact editLine ends oneLine plain

theorem editLead (parts : Parts file body lead trail) (here : lead = front ++ x :: back)
    (plain : b ≠ newline) : verify (file.set (body ++ front).length b) = true ↔
      digest? (front ++ b :: back ++ shown body) = some (shown body) := by
  have cut : lead ++ (shown body ++ trail) = front ++ x :: (back ++ (shown body ++ trail)) := by
    simp [here]
  rw [parts.editInLine cut plain]
  have regroup : front ++ b :: (back ++ (shown body ++ trail)) =
      front ++ b :: back ++ shown body ++ trail := by simp
  obtain ⟨found,shows⟩ := digestExists (front ++ b :: back) (shownLength body) (shownHex body)
  rw [regroup,digestAppend shows trail,shows]

theorem editDigest (parts : Parts file body lead trail) (here : shown body = front ++ x :: back)
    (plain : b ≠ newline) (other : b ≠ x) :
    verify (file.set (body ++ lead ++ front).length b) = true ↔
      ¬ isHexDigit b ∧ digest? (back ++ trail) = some (shown body) := by
  have cut : lead ++ (shown body ++ trail) = lead ++ front ++ x :: (back ++ trail) := by simp [here]
  rw [← parts.digestHit here other,List.append_assoc body,parts.editInLine cut plain,List.append_assoc]

theorem editTrail (parts : Parts file body lead trail) (here : trail = front ++ x :: back)
    (plain : b ≠ newline) :
    verify (file.set (body ++ lead ++ shown body ++ front).length b) = true := by
  have shows := parts.leftmost.found (front ++ b :: back)
  have regroup : body ++ lead ++ shown body ++ front = body ++ (lead ++ (shown body ++ front)) := by simp
  have cut : lead ++ (shown body ++ trail) = lead ++ (shown body ++ front) ++ x :: back := by
    simp [here]
  rw [regroup,parts.editInLine cut plain]
  simpa using shows

theorem place (parts : Parts file body lead trail) (inside : file[i]? = some x) :
    i + 1 < body.length ∨ (i + 1 = body.length ∧ x = newline) ∨
    (∃ front back, lead ++ (shown body ++ trail) = front ++ x :: back ∧ i = (body ++ front).length) ∨
    i = (body ++ (lead ++ (shown body ++ trail))).length ∧ x = newline := by
  obtain ⟨rfl,ends,-,-⟩ := parts
  obtain ⟨front,back,cut,rfl⟩ := splitHere inside
  rcases cutWithin cut with ⟨w,inBody,_⟩ | ⟨front,rfl,rest⟩
  · rcases List.eq_nil_or_concat w with rfl | ⟨w,c,rfl⟩
    · refine .inr (.inl ⟨by simp [inBody],?_⟩)
      rw [inBody,List.getLast?_concat] at ends
      exact Option.some.inj ends
    · refine .inl ?_
      simp [inBody]
  · rcases cutWithin rest with ⟨w,inLine,_⟩ | ⟨w,rfl,last⟩
    · exact .inr (.inr (.inl ⟨front,w,inLine,rfl⟩))
    · cases w with
      | nil =>
        obtain ⟨same,_⟩ := List.cons_eq_cons.mp last
        exact .inr (.inr (.inr ⟨by simp,same.symm⟩))
      | cons c w =>
        have size := congrArg List.length last
        simp at size

theorem unseen (parts : Parts file body lead trail) (inside : file[i]? = some x) (other : b ≠ x)
    (miss : Missed body lead trail i b) : verify (file.set i b) = true := by
  cases miss with
  | collision within same =>
    rw [parts.whole]
    exact (editBody parts.ends parts.oneLine parts.found within).mpr same
  | @joined before tail b above endsAbove single found =>
    have plain : b ≠ newline := by
      have here : x = newline := by simpa [parts.whole,above] using inside.symm
      exact here ▸ other
    have joins := joinLine parts.oneLine plain single endsAbove
    rw [← above,← parts.whole] at joins
    exact joins.mpr found
  | @parted front back y line found =>
    have single : newline ∉ front ++ y :: back := line ▸ parts.oneLine
    have breaks := breakLine body single
    rw [← line,← parts.whole] at breaks
    exact breaks.mpr found
  | ahead here plain found => exact (parts.editLead here plain).mpr found
  | @again front back y b here plain nohex found =>
    have digit : isHexDigit y := shownHex body y (by simp [here])
    have : b ≠ y := fun same => nohex (same ▸ digit)
    exact (parts.editDigest here plain this).mpr ⟨nohex,found⟩
  | @behind i b past plain =>
    rw [List.append_assoc,List.length_append] at past
    rcases parts.place inside with inBody | ⟨inBody,_⟩ | ⟨front,back,line,rfl⟩ | ⟨rfl,_⟩
    · omega
    · omega
    · rw [List.length_append] at past
      rw [← List.append_assoc] at line
      rcases cutWithin line with ⟨w,digest,_⟩ | ⟨w,rfl,inTrail⟩
      · have := congrArg List.length digest
        simp only [List.length_append,List.length_cons] at this past
        omega
      · rw [← List.append_assoc,← List.append_assoc]
        exact parts.editTrail inTrail plain
    · rw [parts.whole]
      exact editLast parts.ends parts.oneLine parts.found

theorem missed (parts : Parts file body lead trail) (inside : file[i]? = some x) (other : b ≠ x)
    (valid : verify (file.set i b) = true) : Missed body lead trail i b := by
  rcases parts.place inside with within | ⟨atEnd,rfl⟩ | ⟨front,back,line,rfl⟩ | ⟨rfl,rfl⟩
  · rw [parts.whole,editBody parts.ends parts.oneLine parts.found within] at valid
    exact .collision within valid
  · obtain ⟨above,rfl⟩ := List.getLast?_eq_some_iff.mp parts.ends
    obtain rfl : i = above.length := by simpa using atEnd
    rw [parts.whole] at valid
    rcases newlineSplit above with single | ⟨before,tail,rfl,endsAbove,single⟩
    · rw [joinOnlyLine parts.oneLine other single] at valid
      cases valid
    · exact .joined rfl endsAbove single ((joinLine parts.oneLine other single endsAbove).mp valid)
  · by_cases plain : b = newline
    · subst plain
      refine .parted line ((breakLine body (line ▸ parts.oneLine)).mp ?_)
      rwa [← line,← parts.whole]
    · rcases cutWithin line with ⟨w,inLead,_⟩ | ⟨front,rfl,rest⟩
      · exact .ahead inLead plain ((parts.editLead inLead plain).mp valid)
      · rw [← List.append_assoc] at valid ⊢
        rcases cutWithin rest with ⟨w,inDigest,_⟩ | ⟨w,rfl,_⟩
        · obtain ⟨nohex,found⟩ := (parts.editDigest inDigest plain other).mp valid
          exact .again inDigest plain nohex found
        · exact .behind (by simp) plain
  · exact .behind (by simp) other

end Parts

end Edited

theorem lineOneLine {template : List Char} (oneLine : '\n' ∉ template) (body : List Char) :
    newline ∉ Utf8.encode (line body template) := by
  intro mem
  have inLine := newlineInEncode mem
  unfold line replaceFirst at inLine
  split at inLine
  · next before rest cut =>
    have parts := eq_append_of_cutAt? cut
    rcases List.mem_append.mp inLine with inFront | inRest
    · rcases List.mem_append.mp inFront with inBefore | inDigest
      · exact oneLine (by simp [parts,inBefore])
      · exact absurd (memLowerHex.mp (sha1HexLower _ _ inDigest)) (by decide)
    · exact oneLine (by simp [parts,inRest])
  · exact oneLine inLine

theorem partsOfValid {text template : List Char} (oneLine : '\n' ∉ template)
    (valid : verify (Utf8.encode (render text template)) = true) :
    ∃ lead trail,
      Parts (Utf8.encode (render text template)) (Utf8.encode (withNewline text)) lead trail := by
  have ends := bodyEnds text
  have single := lineOneLine oneLine (withNewline text)
  have whole : Utf8.encode (render text template) = Utf8.encode (withNewline text) ++
      (Utf8.encode (line (withNewline text) template) ++ [newline]) := by
    unfold render
    simp only [Utf8.encodeAppend,List.append_assoc]
    rfl
  rw [whole,verifyLine ends single] at valid
  obtain ⟨lead,trail,cut,left⟩ := digestParts valid
  exact ⟨lead,trail,cut ▸ whole,ends,cut ▸ single,left⟩

/-- Which changes of one byte a sealed text does not show. -/
theorem sealAfterEdit {text template : List Char} (oneLine : '\n' ∉ template)
    (valid : verify (Utf8.encode (render text template)) = true) :
    ∃ lead trail,
      Parts (Utf8.encode (render text template)) (Utf8.encode (withNewline text)) lead trail ∧
      ∀ i x b, (Utf8.encode (render text template))[i]? = some x → b ≠ x →
        (verify ((Utf8.encode (render text template)).set i b) = true ↔
          Missed (Utf8.encode (withNewline text)) lead trail i b) := by
  obtain ⟨lead,trail,parts⟩ := partsOfValid oneLine valid
  exact ⟨lead,trail,parts,fun i x b inside other =>
    ⟨parts.missed inside other,parts.unseen inside other⟩⟩

theorem lastByteUnseen :
    let file := Utf8.encode (render "Hello!".toList defaultTemplate)
    '\n' ∉ defaultTemplate ∧ verify file = true ∧ file[49]? = some newline ∧
      verify (file.set 49 33) = true ∧
      ∃ lead trail, Parts file (Utf8.encode (withNewline "Hello!".toList)) lead trail ∧
        ∀ i x b, file[i]? = some x → b ≠ x →
          (verify (file.set i b) = true ↔
            Missed (Utf8.encode (withNewline "Hello!".toList)) lead trail i b) := by
  have valid : verify (Utf8.encode (render "Hello!".toList defaultTemplate)) = true := by
    decide +kernel
  exact ⟨by decide,valid,by decide +kernel,by decide +kernel,sealAfterEdit (by decide) valid⟩

end ConventionLint.Storage.Sealed
