import ConventionLint.Proofs.Digest.Sha1
import ConventionLint.Proofs.Text.Cut
import ConventionLint.Storage.Sealed

/-! A sealed text holds its digest in its last line, and the line fits a body just when the body has
that digest. Nothing is assumed of the text, which may itself look like a sealed one. -/
namespace ConventionLint.Storage.Sealed
open ConventionLint.Text ConventionLint.Digest

theorem splitLastLine {body line : Bytes} (last : Bytes) (ends : body.getLast? = some newline)
    (oneLine : newline ∉ line) (single : last.length = 1) :
    split? (body ++ (line ++ last)) = some (body,line ++ last) := by
  obtain ⟨before,rfl⟩ := List.getLast?_eq_some_iff.mp ends
  obtain ⟨x,rfl⟩ := List.length_eq_one_iff.mp single
  have run : ((before ++ [newline] ++ (line ++ [x])).dropLast.reverse.takeWhile (· ≠ newline)) =
      line.reverse := by
    have drop : (before ++ [newline] ++ (line ++ [x])).dropLast = before ++ [newline] ++ line := by
      rw [← List.append_assoc,List.dropLast_concat]
    rw [drop,List.reverse_append,List.reverse_append,List.takeWhile_append_of_pos]
    · simp
    · intro b mem
      have : b ≠ newline := fun same => oneLine (by simpa [same] using mem)
      simpa using this
  unfold split?
  simp only [run,List.length_reverse,List.length_append,List.length_singleton]
  rw [if_pos (by omega)]
  have size : before.length + 1 + (line.length + 1) - 1 - line.length =
      (before ++ [newline]).length := by
    simp only [List.length_append,List.length_singleton]
    omega
  rw [size,List.take_left,List.drop_left]

theorem digestSkip {b : UInt8} {bs : Bytes}
    (short : ¬ (((b :: bs).take 40).length = 40 ∧ ((b :: bs).take 40).all isHexDigit)) :
    digest? (b :: bs) = digest? bs := by
  conv_lhs => unfold digest?
  exact if_neg short

theorem digestHere {digest after : Bytes} (size : digest.length = 40)
    (hex : ∀ b ∈ digest, isHexDigit b) : digest? (digest ++ after) = some digest := by
  have whole : (digest ++ after).take 40 = digest := by rw [← size,List.take_left]
  cases digest with
  | nil => simp at size
  | cons b bs =>
    simp only [List.cons_append] at whole ⊢
    unfold digest?
    rw [whole]
    exact if_pos ⟨size,List.all_eq_true.mpr hex⟩

theorem digestLeftmost {before digest after : Bytes} (size : digest.length = 40)
    (hex : ∀ b ∈ digest, isHexDigit b)
    (noRun : ∀ run, run <:+: before → run.length = 40 → ¬ run.all isHexDigit)
    (noEnd : ∀ b, before.getLast? = some b → ¬ isHexDigit b) :
    digest? (before ++ (digest ++ after)) = some digest := by
  induction before with
  | nil => exact digestHere size hex
  | cons b before ih =>
    rw [List.cons_append,digestSkip]
    · refine ih ?_ ?_
      · intro run inside
        exact noRun run (inside.trans (List.suffix_cons b before).isInfix)
      · intro c last
        exact noEnd c (by rw [List.getLast?_cons,last]; rfl)
    · rintro ⟨_,run⟩
      rw [← List.cons_append] at run
      by_cases long : 40 ≤ (b :: before).length
      · rw [List.take_append_of_le_length long] at run
        exact noRun _ (List.take_prefix 40 _).isInfix (by simpa using long) run
      · rw [List.take_append] at run
        have all : (b :: before).take 40 = b :: before :=
          List.take_of_length_le (by omega)
        rw [all,List.all_append] at run
        obtain ⟨last,found⟩ : ∃ c, (b :: before).getLast? = some c :=
          ⟨_,List.getLast?_eq_some_getLast (by simp)⟩
        refine noEnd last found ?_
        exact List.all_eq_true.mp (Bool.and_eq_true_iff.mp run).1 last (List.mem_of_getLast? found)

theorem hexDigitIff (b : UInt8) : isHexDigit b = true ↔
    48 ≤ b.toNat ∧ b.toNat ≤ 57 ∨ 97 ≤ b.toNat ∧ b.toNat ≤ 102 := by
  simp [isHexDigit,UInt8.le_iff_toNat_le]

theorem hexDigitOfLower {c : Char} {b : UInt8} (same : c.toNat = b.toNat) :
    c ∈ lowerHex ↔ isHexDigit b = true := by
  rw [memLowerHex,hexDigitIff,same]

theorem lowerSmall {cs : List Char} (hex : ∀ c ∈ cs, c ∈ lowerHex) : ∀ c ∈ cs, c.toNat < 128 := by
  intro c mem
  have := memLowerHex.mp (hex c mem)
  omega

theorem encodeHexLength {cs : List Char} (hex : ∀ c ∈ cs, c ∈ lowerHex) :
    (Utf8.encode cs).length = cs.length := by
  simpa using congrArg List.length (Utf8.encodeAsciiValues (lowerSmall hex))

theorem encodeHex {cs : List Char} (hex : ∀ c ∈ cs, c ∈ lowerHex) :
    ∀ b ∈ Utf8.encode cs, isHexDigit b := by
  intro b mem
  have value : b.toNat ∈ (Utf8.encode cs).map UInt8.toNat := List.mem_map_of_mem mem
  rw [Utf8.encodeAsciiValues (lowerSmall hex)] at value
  obtain ⟨c,hc,same⟩ := List.mem_map.mp value
  exact (hexDigitOfLower same).mp (hex c hc)

theorem encodeHexInjective {cs ds : List Char} (left : ∀ c ∈ cs, c ∈ lowerHex)
    (right : ∀ c ∈ ds, c ∈ lowerHex) (same : Utf8.encode cs = Utf8.encode ds) : cs = ds := by
  have values := congrArg (List.map UInt8.toNat) same
  rw [Utf8.encodeAsciiValues (lowerSmall left),Utf8.encodeAsciiValues (lowerSmall right)] at values
  exact List.map_injective_iff.mpr (fun c d => Char.toNat_inj.mp) values

theorem noByteRun {before : List Char}
    (noRun : ∀ run, run <:+: before → run.length = 40 → ∃ c ∈ run, c ∉ lowerHex) :
    ∀ run, run <:+: Utf8.encode before → run.length = 40 → ¬ run.all isHexDigit := by
  intro run inside size all
  have hex := List.all_eq_true.mp all
  have small : ∀ b ∈ run, b.toNat < 128 := by
    intro b mem
    have := (hexDigitIff b).mp (hex b mem)
    omega
  have nonempty : run ≠ [] := by
    rintro rfl
    simp at size
  obtain ⟨w,within,values⟩ := Utf8.runOfAscii inside nonempty small
  have length : w.length = 40 := by simpa [size] using congrArg List.length values
  obtain ⟨c,hc,other⟩ := noRun w within length
  have value : c.toNat ∈ run.map UInt8.toNat := values ▸ List.mem_map_of_mem hc
  obtain ⟨b,hb,same⟩ := List.mem_map.mp value
  exact other ((hexDigitOfLower same.symm).mpr (hex b hb))

theorem noByteEnd {before : List Char}
    (noEnd : ∀ c, before.getLast? = some c → c ∉ lowerHex) :
    ∀ b, (Utf8.encode before).getLast? = some b → ¬ isHexDigit b := by
  intro b last hex
  have range := (hexDigitIff b).mp hex
  obtain ⟨c,found,same⟩ := Utf8.lastOfAscii last (by omega)
  exact noEnd c found ((hexDigitOfLower same).mpr hex)

theorem lineOfParts {body before after : List Char} (first : ¬ mark <:+: before) :
    line body (before ++ mark ++ after) =
      before ++ (sha1Hex (Utf8.encode body) ++ after) := by
  have apart : ¬ mark <:+: before ++ mark.dropLast := by
    rintro ⟨u,v,same⟩
    rcases List.eq_nil_or_concat v with rfl | ⟨w,c,rfl⟩
    · have ends := congrArg List.getLast? same
      simp [mark] at ends
    · have shorter : u ++ mark ++ w = before := by
        have cut := congrArg List.dropLast same
        simpa [mark,← List.append_assoc] using cut
      exact first ⟨u,w,shorter⟩
  unfold line replaceFirst
  rw [cutFirst (by simp [mark]) apart]
  simp

theorem newlineInEncode {cs : List Char} (mem : newline ∈ Utf8.encode cs) : '\n' ∈ cs := by
  obtain ⟨c,hc,same⟩ := (Utf8.memEncodeAscii (by decide)).mp mem
  have : c = '\n' := Char.toNat_inj.mp same
  exact this ▸ hc

theorem bodyEnds (text : List Char) :
    (Utf8.encode (withNewline text)).getLast? = some newline := by
  have last : (withNewline text).getLast? = some '\n' := by
    unfold withNewline
    split
    · assumption
    · simp
  exact Utf8.getLastEncode last (by decide)

theorem verifyIff {body other : Bytes} {before after : Bytes}
    (ends : other.getLast? = some newline)
    (oneLine : newline ∉ before ++ (Utf8.encode (sha1Hex body) ++ after))
    (noRun : ∀ run, run <:+: before → run.length = 40 → ¬ run.all isHexDigit)
    (noEnd : ∀ b, before.getLast? = some b → ¬ isHexDigit b) :
    verify (other ++ (before ++ (Utf8.encode (sha1Hex body) ++ after) ++ [newline])) = true ↔
      sha1 other = sha1 body := by
  have hex := sha1HexLower body
  have size : (Utf8.encode (sha1Hex body)).length = 40 := by
    rw [encodeHexLength hex,sha1Hex_length]
  have found : digest? (before ++ (Utf8.encode (sha1Hex body) ++ after) ++ [newline]) =
      some (Utf8.encode (sha1Hex body)) := by
    rw [List.append_assoc,List.append_assoc]
    exact digestLeftmost size (encodeHex hex) noRun noEnd
  unfold verify
  rw [splitLastLine [newline] ends oneLine rfl]
  simp only [found,beq_iff_eq,Option.some.injEq]
  rw [← sha1HexIff]
  constructor
  · exact fun same => (encodeHexInjective hex (sha1HexLower other) same).symm
  · exact fun same => by rw [same]

theorem renderParts {before after : List Char} (first : ¬ mark <:+: before) (text : List Char) :
    Utf8.encode (render text (before ++ mark ++ after)) =
      Utf8.encode (withNewline text) ++ (Utf8.encode before ++
        (Utf8.encode (sha1Hex (Utf8.encode (withNewline text))) ++ Utf8.encode after) ++ [newline]) := by
  unfold render
  simp only
  rw [lineOfParts first]
  simp only [Utf8.encodeAppend,List.append_assoc]
  rfl

theorem sealOneLine {before after : List Char} (oneLine : '\n' ∉ before ++ after) (body : Bytes) :
    newline ∉ Utf8.encode before ++ (Utf8.encode (sha1Hex body) ++ Utf8.encode after) := by
  rw [← Utf8.encodeAppend,← Utf8.encodeAppend]
  intro mem
  rcases List.mem_append.mp (newlineInEncode mem) with left | right
  · exact oneLine (List.mem_append_left _ left)
  · rcases List.mem_append.mp right with digest | right
    · exact absurd (memLowerHex.mp (sha1HexLower _ _ digest)) (by decide)
    · exact oneLine (List.mem_append_right _ right)

theorem verifyRender {before after : List Char} (first : ¬ mark <:+: before)
    (oneLine : '\n' ∉ before ++ after)
    (noRun : ∀ run, run <:+: before → run.length = 40 → ∃ c ∈ run, c ∉ lowerHex)
    (noEnd : ∀ c, before.getLast? = some c → c ∉ lowerHex) (text : List Char) :
    verify (Utf8.encode (render text (before ++ mark ++ after))) = true := by
  rw [renderParts first]
  exact (verifyIff (bodyEnds text) (sealOneLine oneLine _) (noByteRun noRun) (noByteEnd noEnd)).mpr rfl

/-- A sealed text is valid, and with its last line kept another body is valid just when it has the same
digest. -/
theorem sealGuardsBody {template before after : List Char} (parts : template = before ++ mark ++ after)
    (first : ¬ mark <:+: before) (oneLine : '\n' ∉ template)
    (noRun : ∀ run, run <:+: before → run.length = 40 → ∃ c ∈ run, c ∉ lowerHex)
    (noEnd : ∀ c, before.getLast? = some c → c ∉ lowerHex) (text : List Char) :
    verify (Utf8.encode (render text template)) = true ∧
    ∃ body line : Bytes, Utf8.encode (render text template) = body ++ (line ++ [newline]) ∧
      body.getLast? = some newline ∧ newline ∉ line ∧
      ∀ other : Bytes, other.getLast? = some newline →
        (verify (other ++ (line ++ [newline])) = true ↔ sha1 other = sha1 body) := by
  subst parts
  have around : '\n' ∉ before ++ after := by
    simp only [List.mem_append,not_or] at oneLine ⊢
    exact ⟨oneLine.1.1,oneLine.2⟩
  have single := sealOneLine around (Utf8.encode (withNewline text))
  exact ⟨verifyRender first around noRun noEnd text,_,_,renderParts first text,bodyEnds text,single,
    fun _ ends => verifyIff ends single (noByteRun noRun) (noByteEnd noEnd)⟩

theorem sealOfSealLike :
    let text := "x = 1\n# a8d191538209e335154750d2df575b9ddfb16fc7".toList
    let template := "/* abc: \x7b\x7d */".toList
    verify (Utf8.encode (render text template)) = true ∧
    ∃ body line : Bytes, Utf8.encode (render text template) = body ++ (line ++ [newline]) ∧
      body.getLast? = some newline ∧ newline ∉ line ∧
      ∀ other : Bytes, other.getLast? = some newline →
        (verify (other ++ (line ++ [newline])) = true ↔ sha1 other = sha1 body) := by
  have noRun : ∀ run, run <:+: "/* abc: ".toList → run.length = 40 → ∃ c ∈ run, c ∉ lowerHex := by
    intro run inside size
    have short := inside.length_le
    rw [size] at short
    exact absurd short (by decide)
  exact @sealGuardsBody _ "/* abc: ".toList " */".toList (by decide) (by decide) (by decide) noRun
    (fun c last => by cases last; decide) _

end ConventionLint.Storage.Sealed
