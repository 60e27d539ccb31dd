import ConventionLint.Encoding.Basic
import ConventionLint.Proofs.Text.Cut
import ConventionLint.Proofs.Text.Utf8
import ConventionLint.Tree.Basic

/-! Which encoding a text declares for itself, and what becomes of its bytes. A declaration is looked for in the bytes
of the first two lines; for the bytes of a text it is found just where the characters declare it. A text that declares
UTF-8 or nothing is decoded from its bytes as it was, unless it begins with a byte order mark. -/
namespace ConventionLint.Encoding
open Text (Bytes)
open Text.Utf8 (encode)

namespace Cookie

inductive Declaration : List Char → List Char → Prop where
  | mk {sign : Char} {gap label rest : List Char} (signed : sign = ':' ∨ sign = '=')
      (blank : ∀ c ∈ gap, c = ' ' ∨ c = '\t') (nonempty : label ≠ []) (inside : ∀ c ∈ label, isLabelChar c = true)
      (stops : ∀ c, rest.head? = some c → isLabelChar c = false) :
      Declaration ("coding".toList ++ sign :: (gap ++ (label ++ rest))) label

inductive Comment : List Char → List Char → Prop where
  | mk {indent before here label : List Char} (blank : ∀ c ∈ indent, c = ' ' ∨ c = '\t' ∨ c = '\x0c')
      (declared : Declaration here label)
      (first : ∀ u v l, before = u ++ v → v ≠ [] → ¬Declaration (v ++ here) l) :
      Comment (indent ++ '#' :: (before ++ here)) label

/-- The label in lower case that a text declares: the one in the first of its first two lines that has one. -/
def Declares (text : List Char) (label : String) : Prop := ∃ before line after chars,
  (text.splitOn '\n').take 2 = before ++ line :: after ∧ Comment line chars ∧
    label = String.ofList (chars.map Char.toLower) ∧ ∀ earlier ∈ before, ∀ chars, ¬Comment earlier chars

variable {cs line label : List Char}

theorem headBehind {p : Char → Bool} {c : Char} (first : (cs.dropWhile p).head? = some c) : p c = false := by
  have := List.head?_dropWhile_not p cs
  simpa [first] using this

theorem labelAtIff : labelAt? cs = some label ↔ Declaration cs label := by
  constructor
  · intro found
    obtain ⟨behind,word,found⟩ := Option.bind_eq_some_iff.mp found
    rw [Text.eq_append_of_dropHead? word]
    split at found
    · next sign rest =>
      split at found
      · next signed =>
        dsimp only at found
        split at found
        · cases found
        · next nonempty =>
          have gap := List.takeWhile_append_dropWhile (p := fun c => c == ' ' || c == '\t') (l := rest)
          have whole := List.takeWhile_append_dropWhile (p := isLabelChar)
            (l := rest.dropWhile fun c => c == ' ' || c == '\t')
          rw [← gap,← whole,Option.some.inj found]
          refine .mk signed (fun c mem => by simpa using List.mem_takeWhile_imp mem) ?_ (fun c mem => ?_) ?_
          · simpa [← Option.some.inj found] using nonempty
          · exact List.mem_takeWhile_imp (Option.some.inj found ▸ mem)
          · exact fun c first => headBehind first
      · cases found
    · cases found
  · rintro ⟨signed,blank,nonempty,inside,stops⟩
    rename_i sign gap rest
    have named : ∀ c, (label ++ rest).head? = some c → (c == ' ' || c == '\t') = false := by
      intro c first
      obtain ⟨d,label,rfl⟩ := List.exists_cons_of_ne_nil nonempty
      cases first
      have own := inside _ List.mem_cons_self
      rw [Bool.or_eq_false_iff,beq_eq_false_iff_ne,beq_eq_false_iff_ne]
      constructor <;> rintro rfl <;> exact absurd own (by decide)
    have skipped := (Text.spanned (p := fun c => c == ' ' || c == '\t') (by simpa using blank) named).2
    have taken := (Text.spanned inside stops).1
    simp only [labelAt?,Text.dropHead?_append,Option.bind_eq_bind,Option.bind_some,if_pos signed,skipped,taken]
    simp [nonempty]

theorem firstLabelIff : firstLabel? cs = some label ↔ ∃ before here, cs = before ++ here ∧
    Declaration here label ∧ ∀ u v l, before = u ++ v → v ≠ [] → ¬Declaration (v ++ here) l := by
  induction cs with
  | nil =>
    refine ⟨nofun,?_⟩
    rintro ⟨before,here,whole,declared,_⟩
    obtain ⟨rfl,rfl⟩ := List.append_eq_nil_iff.mp whole.symm
    cases declared
  | cons c cs ih =>
    rw [firstLabel?]
    cases found : labelAt? (c :: cs) with
    | some l =>
      have here := labelAtIff.mp found
      constructor
      · intro same
        cases same
        refine ⟨[],c :: cs,rfl,here,fun u v l parted nonempty => ?_⟩
        exact absurd (List.append_eq_nil_iff.mp parted.symm).2 nonempty
      · rintro ⟨before,rest,whole,declared,first⟩
        cases before with
        | nil =>
          rw [List.nil_append] at whole
          rw [← whole] at declared
          exact found.symm.trans (labelAtIff.mpr declared)
        | cons d before =>
          rw [whole] at here
          exact absurd here (first [] _ l rfl (List.cons_ne_nil d before))
    | none =>
      have nowhere (l : List Char) : ¬Declaration (c :: cs) l := fun declared => by
        cases found.symm.trans (labelAtIff.mpr declared)
      refine ih.trans ⟨?_,?_⟩
      · rintro ⟨before,here,rfl,declared,first⟩
        refine ⟨c :: before,here,rfl,declared,fun u v l parted nonempty => ?_⟩
        cases u with
        | nil => rw [← show c :: before = v from parted]; exact nowhere l
        | cons d u => exact first u v l (List.cons.inj parted).2 nonempty
      · rintro ⟨before,here,whole,declared,first⟩
        cases before with
        | nil => exact absurd (whole ▸ declared) (nowhere label)
        | cons d before =>
          refine ⟨before,here,(List.cons.inj whole).2,declared,fun u v l parted nonempty => ?_⟩
          exact first (d :: u) v l (congrArg (d :: ·) parted) nonempty

theorem ofLineIff {s : String} :
    ofLine? line = some s ↔ ∃ chars, Comment line chars ∧ s = String.ofList (chars.map Char.toLower) := by
  constructor
  · intro found
    unfold ofLine? at found
    split at found
    · next rest behind =>
      obtain ⟨chars,first,rfl⟩ := Option.map_eq_some_iff.mp found
      obtain ⟨before,here,rfl,declared,nowhere⟩ := firstLabelIff.mp first
      have whole := List.takeWhile_append_dropWhile (p := fun c => c == ' ' || c == '\t' || c == '\x0c') (l := line)
      rw [behind] at whole
      refine ⟨chars,?_,rfl⟩
      rw [← whole]
      exact .mk (fun c mem => by simpa [or_assoc] using List.mem_takeWhile_imp mem) declared nowhere
    · cases found
  · rintro ⟨chars,⟨blank,declared,first⟩,rfl⟩
    rename_i indent before here
    have skipped : ∀ c ∈ indent, (c == ' ' || c == '\t' || c == '\x0c') = true := by simpa [or_assoc] using blank
    have sign : ∀ c, ('#' :: (before ++ here)).head? = some c → (c == ' ' || c == '\t' || c == '\x0c') = false :=
      fun c first => by cases first; decide
    simp only [ofLine?,(Text.spanned skipped sign).2]
    rw [firstLabelIff.mpr ⟨before,here,rfl,declared,first⟩]
    rfl

theorem wellFormedReader : Text.Utf8.Reader wellFormed where
  char is := by rw [wellFormed,is]
  opens is := by rw [wellFormed,is]
  fits inside := by rw [wellFormed,if_pos inside]

theorem wellFormedEncode (cs : List Char) : wellFormed none (encode cs) = cs := by
  induction cs with
  | nil => rfl
  | cons c cs ih => rw [Text.Utf8.encodeCons,wellFormedReader.encoded,ih]

theorem bytesUnbroken {u : List Char} (free : '\n' ∉ u) : ∀ b ∈ encode u, b ≠ 10 := by
  rintro b mem rfl
  obtain ⟨c,inside,same⟩ := (Text.Utf8.memEncodeAscii (by decide)).mp mem
  exact free (Char.toNat_inj.mp (same.trans rfl : c.toNat = '\n'.toNat) ▸ inside)

theorem cutLineEncode {u v : List Char} (free : '\n' ∉ u) : cutLine (encode (u ++ '\n' :: v)) = (encode u,encode v) := by
  have all : ∀ b ∈ encode u, decide (b ≠ 10) = true := fun b mem => decide_eq_true (bytesUnbroken free b mem)
  have bytes : encode (u ++ '\n' :: v) = encode u ++ 10 :: encode v := by
    rw [Text.Utf8.encodeAppend,Text.Utf8.encodeCons]
    rfl
  rw [cutLine,bytes,List.takeWhile_append_of_pos all,List.dropWhile_append_of_pos all]
  simp

theorem cutLineLast {u : List Char} (free : '\n' ∉ u) : cutLine (encode u) = (encode u,[]) := by
  have all : ∀ b ∈ encode u, decide (b ≠ 10) = true := fun b mem => decide_eq_true (bytesUnbroken free b mem)
  rw [cutLine,List.takeWhile_eq_self_iff.mpr all,List.dropWhile_eq_nil_iff.mpr all]
  rfl

theorem firstLine (cs : List Char) : ∃ rest, cs.splitOn '\n' = wellFormed none (cutLine (encode cs)).1 :: rest := by
  by_cases broken : '\n' ∈ cs
  · obtain ⟨u,v,rfl,free⟩ := List.eq_append_cons_of_mem broken
    rw [cutLineEncode free,wellFormedEncode,List.splitOn_append_cons_self_of_not_mem free]
    exact ⟨_,rfl⟩
  · rw [cutLineLast broken,wellFormedEncode,List.splitOn_eq_singleton broken]
    exact ⟨[],rfl⟩

theorem declaredOfText (cs : List Char) : declared? (encode cs) = ((cs.splitOn '\n').take 2).findSome? ofLine? := by
  by_cases broken : '\n' ∈ cs
  · obtain ⟨u,v,rfl,free⟩ := List.eq_append_cons_of_mem broken
    obtain ⟨rest,second⟩ := firstLine v
    rw [List.splitOn_append_cons_self_of_not_mem free,second,declared?,cutLineEncode free]
    simp only [wellFormedEncode,List.take_succ_cons,List.take_zero,List.findSome?_cons,List.findSome?_nil]
    cases ofLine? u with
    | some s => rfl
    | none => cases ofLine? (wellFormed none (cutLine (encode v)).1) <;> rfl
  · rw [List.splitOn_eq_singleton broken,declared?,cutLineLast broken]
    simp only [wellFormedEncode]
    cases found : ofLine? cs with
    | some s => simp [found]
    | none => simp [found]; rfl

theorem declaredIff {s : String} : declared? (encode cs) = some s ↔ Declares cs s := by
  rw [declaredOfText,List.findSome?_eq_some_iff]
  constructor
  · rintro ⟨before,line,after,parted,found,undeclared⟩
    obtain ⟨chars,comment,rfl⟩ := ofLineIff.mp found
    refine ⟨before,line,after,chars,parted,comment,rfl,fun earlier mem chars other => ?_⟩
    cases (undeclared earlier mem).symm.trans (ofLineIff.mpr ⟨chars,other,rfl⟩)
  · rintro ⟨before,line,after,chars,parted,comment,rfl,first⟩
    refine ⟨before,line,after,parted,ofLineIff.mpr ⟨chars,comment,rfl⟩,fun earlier mem => ?_⟩
    cases found : ofLine? earlier with
    | none => rfl
    | some s =>
      obtain ⟨chars,other,_⟩ := ofLineIff.mp found
      exact absurd other (first earlier mem chars)

end Cookie

variable {text : List Char}

theorem markFirst {rest : Bytes} (marked : encode text = 0xEF :: 0xBB :: 0xBF :: rest) :
    text = '\uFEFF' :: Text.Utf8.decode rest := by
  have mark : String.utf8EncodeChar '\uFEFF' = [0xEF,0xBB,0xBF] := by decide
  have decoded := Text.Utf8.decodeChar '\uFEFF' rest
  rw [mark] at decoded
  rw [← Text.Utf8.decodeEncode text,marked]
  exact decoded

theorem withoutMarkEncode (unmarked : text.head? ≠ some '\uFEFF') : withoutMark (encode text) = encode text := by
  unfold withoutMark
  split
  · next rest marked =>
    rw [markFirst marked] at unmarked
    exact absurd rfl unmarked
  · rfl

/-- A text without a mark that declares no encoding but UTF-8 or an unknown one is what its bytes are decoded to, so
that bytes and text are parsed alike. -/
theorem decodedAsWritten (unmarked : text.head? ≠ some '\uFEFF')
    (codec : ∀ label, Cookie.Declares text label → (Codec.ofLabel? label).getD .utf8 = .utf8) :
    (decode (encode text)).text = text ∧ Tree.parse (decode (encode text)).text = Tree.parse text := by
  have chosen : (Codec.ofLabel? ((Cookie.declared? (encode text)).getD "utf-8")).getD .utf8 = .utf8 := by
    cases found : Cookie.declared? (encode text) with
    | none => decide +kernel
    | some label => exact codec label (Cookie.declaredIff.mp found)
  have same : (decode (encode text)).text = text := by
    simp only [decode,withoutMarkEncode unmarked,chosen,Codec.decode]
    exact Text.Utf8.decodeEncode text
  exact ⟨same,congrArg Tree.parse same⟩

theorem decodedAsWrittenSpelled :
    let text := "x = 'é' # coding: latin-1\n \t# vim: fileencoding=\tUTF_8 😀\ny = x\n".toList
    Cookie.Declares text "utf_8" ∧ (decode (encode text)).text = text ∧
      Tree.parse (decode (encode text)).text = Tree.parse text := by
  intro text
  have found : Cookie.declared? (encode text) = some "utf_8" := by decide +kernel
  refine ⟨Cookie.declaredIff.mp found,decodedAsWritten (by decide) fun label declares => ?_⟩
  cases found.symm.trans (Cookie.declaredIff.mpr declares)
  decide +kernel

end ConventionLint.Encoding
