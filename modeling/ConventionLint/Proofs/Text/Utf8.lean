import Mathlib.Tactic.SplitIfs
import ConventionLint.Text.Utf8

/-! The bytes of a text. Between the ends of characters a part of a text does not depend on what follows the
text; and a byte below 128 stands for a character by itself, so ASCII characters are found in a text just where
their bytes are. Encoded texts are decoded to themselves, and a part of a text between two offsets is found in
the bytes of the text at the same offsets. -/
namespace ConventionLint.Text.Utf8

theorem sizeAppend (cs ds : List Char) : size (cs ++ ds) = size cs + size ds := by
  induction cs with
  | nil => simp [size]
  | cons c cs ih => simp [size,ih,Nat.add_assoc]

theorem prefixBySize {before behind before' behind' : List Char}
    (same : before ++ behind = before' ++ behind') (le : size before ≤ size before') :
    before <+: before' := by
  rcases List.append_eq_append_iff.mp same with ⟨more,rfl,_⟩ | ⟨more,rfl,_⟩
  · exact List.prefix_append before more
  · cases more with
    | nil => simp
    | cons c cs =>
      rw [sizeAppend,size] at le
      have := c.utf8Size_pos
      omega

theorem dropBytesSize (cs ds : List Char) : dropBytes (size cs) (cs ++ ds) = ds := by
  induction cs with
  | nil => simp [size,dropBytes]
  | cons c cs ih =>
    have positive := c.utf8Size_pos
    obtain ⟨n,hn⟩ : ∃ n, size (c :: cs) = n + 1 := ⟨c.utf8Size + size cs - 1,by simp [size]; omega⟩
    have left : n + 1 - c.utf8Size = size cs := by
      rw [← hn]
      exact Nat.add_sub_cancel_left _ _
    rw [hn,List.cons_append,dropBytes,left]
    exact ih

theorem takeBytesAppend {cs ds : List Char} {n : Nat} (enough : n ≤ size cs) :
    takeBytes n (cs ++ ds) = takeBytes n cs := by
  induction cs generalizing n with
  | nil =>
    cases Nat.le_zero.mp enough
    cases ds with
    | nil => rfl
    | cons d ds =>
      have positive := d.utf8Size_pos
      simp [takeBytes,show ¬ d.utf8Size ≤ 0 by omega]
  | cons c cs ih =>
    simp only [List.cons_append,takeBytes]
    split
    · rw [ih (by simp only [size] at enough; omega)]
    · rfl

theorem takeBytesSize (cs ds : List Char) : takeBytes (size cs) (cs ++ ds) = cs := by
  induction cs with
  | nil =>
    cases ds with
    | nil => rfl
    | cons d ds =>
      have positive := d.utf8Size_pos
      simp [size,takeBytes,show ¬ d.utf8Size ≤ 0 by omega]
  | cons c cs ih => simp [size,takeBytes,ih]

theorem sliceMiddle (before inside behind : List Char) :
    slice (size before) (size (before ++ inside)) (before ++ inside ++ behind) = inside := by
  rw [slice,List.append_assoc,dropBytesSize,sizeAppend,Nat.add_sub_cancel_left,takeBytesSize]

theorem sliceAppend {before rest more : List Char} {stop : Nat}
    (enough : stop ≤ size (before ++ rest)) :
    slice (size before) stop (before ++ rest ++ more) = slice (size before) stop (before ++ rest) := by
  rw [sizeAppend] at enough
  simp only [slice,List.append_assoc,dropBytesSize]
  exact takeBytesAppend (by omega)

theorem encodeNil : encode [] = [] := rfl

theorem encodeCons (c : Char) (cs : List Char) :
    encode (c :: cs) = String.utf8EncodeChar c ++ encode cs := by
  simp [encode]

theorem encodeAppend (cs ds : List Char) : encode (cs ++ ds) = encode cs ++ encode ds := by
  simp [encode]

theorem encodeAscii {c : Char} (small : c.toNat < 128) :
    String.utf8EncodeChar c = [UInt8.ofNat c.toNat] := by
  have bound : c.val.toNat ≤ 127 := by
    have : c.toNat = c.val.toNat := rfl
    omega
  unfold String.utf8EncodeChar
  exact if_pos bound

theorem toNatOfNat {n : Nat} (small : n < 256) : (UInt8.ofNat n).toNat = n := by
  simpa using small

theorem encodeAsciiValues {cs : List Char} (small : ∀ c ∈ cs, c.toNat < 128) :
    (encode cs).map UInt8.toNat = cs.map Char.toNat := by
  induction cs with
  | nil => rfl
  | cons c cs ih =>
    have head := small c List.mem_cons_self
    have tail := ih fun d mem => small d (List.mem_cons_of_mem c mem)
    rw [encodeCons,encodeAscii head,List.map_append,tail,List.map_singleton,toNatOfNat (by omega)]
    rfl

theorem byteOfAscii {c : Char} {b : UInt8} (mem : b ∈ String.utf8EncodeChar c)
    (small : b.toNat < 128) : c.toNat = b.toNat := by
  have same : c.toNat = c.val.toNat := rfl
  have range : c.val.toNat < 1114112 := by
    have := c.valid
    rcases this with low | high
    · have : c.val.toNat < 55296 := low
      omega
    · exact high.2
  unfold String.utf8EncodeChar at mem
  simp only at mem
  split at mem
  · rename_i h
    rw [List.mem_singleton.mp mem,toNatOfNat (by omega),same]
  · exfalso
    split at mem
    · simp only [List.mem_cons,List.not_mem_nil,or_false] at mem
      rcases mem with rfl | rfl <;> rw [toNatOfNat (by omega)] at small <;> omega
    · split at mem
      · simp only [List.mem_cons,List.not_mem_nil,or_false] at mem
        rcases mem with rfl | rfl | rfl <;> rw [toNatOfNat (by omega)] at small <;> omega
      · simp only [List.mem_cons,List.not_mem_nil,or_false] at mem
        rcases mem with rfl | rfl | rfl | rfl <;> rw [toNatOfNat (by omega)] at small <;> omega

theorem memEncodeAscii {cs : List Char} {b : UInt8} (small : b.toNat < 128) :
    b ∈ encode cs ↔ ∃ c ∈ cs, c.toNat = b.toNat := by
  constructor
  · intro mem
    obtain ⟨c,hc,inside⟩ := List.mem_flatMap.mp mem
    exact ⟨c,hc,byteOfAscii inside small⟩
  · rintro ⟨c,hc,same⟩
    refine List.mem_flatMap.mpr ⟨c,hc,?_⟩
    rw [encodeAscii (by omega),same]
    simp

theorem getLastEncode {cs : List Char} {c : Char} (last : cs.getLast? = some c)
    (small : c.toNat < 128) : (encode cs).getLast? = some (UInt8.ofNat c.toNat) := by
  obtain ⟨before,rfl⟩ := List.getLast?_eq_some_iff.mp last
  rw [encodeAppend,encodeCons,encodeAscii small]
  simp [encodeNil]

theorem splitAtAscii {cs : List Char} {before after : Bytes} {b : UInt8}
    (same : encode cs = before ++ b :: after) (small : b.toNat < 128) :
    ∃ u c v, cs = u ++ c :: v ∧ encode u = before ∧ c.toNat = b.toNat ∧ encode v = after := by
  induction cs generalizing before with
  | nil => simp [encodeNil] at same
  | cons d cs ih =>
    have later : ∀ rest, before = String.utf8EncodeChar d ++ rest →
        encode cs = rest ++ b :: after →
        ∃ u c v, d :: cs = u ++ c :: v ∧ encode u = before ∧ c.toNat = b.toNat ∧
          encode v = after := by
      intro rest whole tail
      obtain ⟨u,c,v,split,hu,hc,hv⟩ := ih tail
      exact ⟨d :: u,c,v,by rw [split]; rfl,by rw [encodeCons,hu,whole],hc,hv⟩
    rw [encodeCons] at same
    rcases List.append_eq_append_iff.mp same with ⟨rest,whole,tail⟩ | ⟨rest,whole,tail⟩
    · exact later rest whole tail
    · cases rest with
      | nil => exact later [] (by simpa using whole.symm) tail.symm
      | cons x rest =>
        have starts : b = x ∧ after = rest ++ encode cs := by simpa using tail
        have inside : b ∈ String.utf8EncodeChar d := by simp [whole,starts.1]
        have value := byteOfAscii inside small
        have single := congrArg List.length ((encodeAscii (c := d) (by omega)).symm.trans whole)
        simp only [List.length_cons,List.length_nil,List.length_append] at single
        have left : before = [] := List.length_eq_zero_iff.mp (by omega)
        have right : rest = [] := List.length_eq_zero_iff.mp (by omega)
        refine ⟨[],d,cs,rfl,?_,value,?_⟩
        · rw [left,encodeNil]
        · rw [starts.2,right,List.nil_append]

theorem splitAfterAscii {cs : List Char} {run after : Bytes} (same : encode cs = run ++ after)
    (small : ∀ b ∈ run, b.toNat < 128) :
    ∃ w v, cs = w ++ v ∧ w.map Char.toNat = run.map UInt8.toNat ∧ encode v = after := by
  induction run generalizing cs with
  | nil => exact ⟨[],cs,rfl,rfl,same⟩
  | cons b run ih =>
    have whole : encode cs = [] ++ b :: (run ++ after) := same
    obtain ⟨u,c,v,split,hu,hc,hv⟩ := splitAtAscii whole (small b List.mem_cons_self)
    have nothing : u = [] := by
      cases u with
      | nil => rfl
      | cons d u => simp [encodeCons] at hu
    subst nothing
    obtain ⟨w,rest,split',hw,hrest⟩ := ih hv fun b mem => small b (List.mem_cons_of_mem _ mem)
    exact ⟨c :: w,rest,by rw [split,split']; rfl,by simp [hc,hw],hrest⟩

theorem runOfAscii {cs : List Char} {run : Bytes} (inside : run <:+: encode cs)
    (nonempty : run ≠ []) (small : ∀ b ∈ run, b.toNat < 128) :
    ∃ w, w <:+: cs ∧ w.map Char.toNat = run.map UInt8.toNat := by
  obtain ⟨before,after,same⟩ := inside
  cases run with
  | nil => exact absurd rfl nonempty
  | cons b run =>
    have whole : encode cs = before ++ b :: (run ++ after) := by simpa using same.symm
    obtain ⟨u,c,v,split,_,hc,hv⟩ := splitAtAscii whole (small b List.mem_cons_self)
    obtain ⟨w,rest,split',hw,_⟩ :=
      splitAfterAscii hv fun b mem => small b (List.mem_cons_of_mem _ mem)
    exact ⟨c :: w,⟨u,rest,by rw [split,split']; simp⟩,by simp [hc,hw]⟩

theorem lastOfAscii {cs : List Char} {b : UInt8} (last : (encode cs).getLast? = some b)
    (small : b.toNat < 128) : ∃ c, cs.getLast? = some c ∧ c.toNat = b.toNat := by
  obtain ⟨before,same⟩ := List.getLast?_eq_some_iff.mp last
  obtain ⟨u,c,v,split,_,hc,hv⟩ := splitAtAscii same small
  have nothing : v = [] := by
    cases v with
    | nil => rfl
    | cons d v => simp [encodeCons] at hv
  exact ⟨c,by simp [split,nothing],hc⟩

theorem leadAscii {n : Nat} (small : n < 0x80) : lead (UInt8.ofNat n) = .char (Char.ofNat n) := by
  rw [lead,toNatOfNat (by omega),if_pos small]

theorem leadOfTwo {n : Nat} (low : 0xC2 ≤ n) (high : n < 0xE0) :
    lead (UInt8.ofNat n) = .opens ⟨1,n - 0xC0,0x80,0xBF⟩ := by
  rw [lead,toNatOfNat (by omega)]
  simp only [show ¬ n < 0x80 by omega,show ¬ n < 0xC2 by omega,high,if_true,if_false]

theorem leadOfThree {n : Nat} (low : 0xE0 ≤ n) (high : n < 0xF0) : lead (UInt8.ofNat n) =
    .opens ⟨2,n - 0xE0,if n = 0xE0 then 0xA0 else 0x80,if n = 0xED then 0x9F else 0xBF⟩ := by
  rw [lead,toNatOfNat (by omega)]
  simp only [show ¬ n < 0x80 by omega,show ¬ n < 0xC2 by omega,show ¬ n < 0xE0 by omega,high,if_true,
    if_false]

theorem leadOfFour {n : Nat} (low : 0xF0 ≤ n) (high : n < 0xF5) : lead (UInt8.ofNat n) =
    .opens ⟨3,n - 0xF0,if n = 0xF0 then 0x90 else 0x80,if n = 0xF4 then 0x8F else 0xBF⟩ := by
  rw [lead,toNatOfNat (by omega)]
  simp only [show ¬ n < 0x80 by omega,show ¬ n < 0xC2 by omega,show ¬ n < 0xE0 by omega,
    show ¬ n < 0xF0 by omega,high,if_true,if_false]

/-- What readers of UTF-8 have in common: the way they take well-formed bytes. -/
structure Reader (read : Option Pending → Bytes → List Char) : Prop where
  char {b : UInt8} {c : Char} {bs : Bytes} (is : lead b = .char c) : read none (b :: bs) = c :: read none bs
  opens {b : UInt8} {p : Pending} {bs : Bytes} (is : lead b = .opens p) : read none (b :: bs) = read (some p) bs
  fits {b : UInt8} {p : Pending} {bs : Bytes} (inside : p.lower ≤ b.toNat ∧ b.toNat ≤ p.upper) :
    read (some p) (b :: bs) =
      if p.needed ≤ 1 then Char.ofNat (p.code * 64 + b.toNat % 64) :: read none bs
      else read (some ⟨p.needed - 1,p.code * 64 + b.toNat % 64,0x80,0xBF⟩) bs

namespace Reader
variable {read : Option Pending → Bytes → List Char} {p : Pending} {n : Nat} {rest : Bytes}

theorem last (reader : Reader read) (small : n < 0x100) (low : p.lower ≤ n) (high : n ≤ p.upper)
    (last : p.needed = 1) :
    read (some p) (UInt8.ofNat n :: rest) = Char.ofNat (p.code * 64 + n % 64) :: read none rest := by
  rw [reader.fits (by rw [toNatOfNat small]; exact ⟨low,high⟩),toNatOfNat small]
  exact if_pos (by omega)

theorem more (reader : Reader read) (small : n < 0x100) (low : p.lower ≤ n) (high : n ≤ p.upper)
    (more : 1 < p.needed) : read (some p) (UInt8.ofNat n :: rest) =
      read (some ⟨p.needed - 1,p.code * 64 + n % 64,0x80,0xBF⟩) rest := by
  rw [reader.fits (by rw [toNatOfNat small]; exact ⟨low,high⟩),toNatOfNat small]
  exact if_neg (by omega)

end Reader

theorem charRange (c : Char) : c.toNat < 0xD800 ∨ 0xDFFF < c.toNat ∧ c.toNat < 0x110000 := c.valid

theorem encodeChar (c : Char) : String.utf8EncodeChar c =
    if c.toNat ≤ 0x7F then [UInt8.ofNat c.toNat]
    else if c.toNat ≤ 0x7FF then
      [UInt8.ofNat (c.toNat / 64 % 32 + 0xC0),UInt8.ofNat (c.toNat % 64 + 0x80)]
    else if c.toNat ≤ 0xFFFF then
      [UInt8.ofNat (c.toNat / 4096 % 16 + 0xE0),UInt8.ofNat (c.toNat / 64 % 64 + 0x80),
        UInt8.ofNat (c.toNat % 64 + 0x80)]
    else
      [UInt8.ofNat (c.toNat / 262144 % 8 + 0xF0),UInt8.ofNat (c.toNat / 4096 % 64 + 0x80),
        UInt8.ofNat (c.toNat / 64 % 64 + 0x80),UInt8.ofNat (c.toNat % 64 + 0x80)] := rfl

theorem Reader.encoded {read : Option Pending → Bytes → List Char} (reader : Reader read) (c : Char) (rest : Bytes) :
    read none (String.utf8EncodeChar c ++ rest) = c :: read none rest := by
  have range := charRange c
  have whole {n : Nat} (same : n = c.toNat) : Char.ofNat n = c := by
    rw [same,Char.ofNat_toNat]
  rw [encodeChar]
  split_ifs with one two three
  · rw [List.singleton_append,reader.char (leadAscii (show c.toNat < 0x80 by omega)),whole rfl]
  · simp only [List.cons_append,List.nil_append]
    rw [reader.opens (leadOfTwo (n := c.toNat / 64 % 32 + 0xC0) (by omega) (by omega)),
      reader.last (by omega) (by simp) (by simp; omega) rfl,whole]
    simp only
    omega
  · simp only [List.cons_append,List.nil_append]
    rw [reader.opens (leadOfThree (n := c.toNat / 4096 % 16 + 0xE0) (by omega) (by omega)),
      reader.more (by omega) ?_ ?_ (by simp),reader.last (by omega) (by simp) (by simp; omega) rfl,whole]
    · simp only
      omega
    · simp only
      split_ifs <;> omega
    · simp only
      split_ifs <;> omega
  · simp only [List.cons_append,List.nil_append]
    rw [reader.opens (leadOfFour (n := c.toNat / 262144 % 8 + 0xF0) (by omega) (by omega)),
      reader.more (by omega) ?_ ?_ (by simp),reader.more (by omega) (by simp) (by simp; omega) (by simp),
      reader.last (by omega) (by simp) (by simp; omega) rfl,whole]
    · simp only
      omega
    · simp only
      split_ifs <;> omega
    · simp only
      split_ifs <;> omega

theorem decodeReader : Reader decodeFrom where
  char is := by rw [decodeFrom,is]
  opens is := by rw [decodeFrom,is]
  fits inside := by rw [decodeFrom,if_pos inside]

theorem decodeChar (c : Char) (rest : Bytes) :
    decodeFrom none (String.utf8EncodeChar c ++ rest) = c :: decodeFrom none rest := decodeReader.encoded c rest

theorem decodeEncode (cs : List Char) : decode (encode cs) = cs := by
  induction cs with
  | nil => rfl
  | cons c cs ih => rw [decode,encodeCons,decodeChar,← decode,ih]

theorem lengthEncode (cs : List Char) : (encode cs).length = size cs := by
  induction cs with
  | nil => rfl
  | cons c cs ih => rw [encodeCons,List.length_append,String.length_utf8EncodeChar,ih,size]

theorem bytesOfSlice {text before behind upTo after : List Char} (start : text = before ++ behind)
    (stop : text = upTo ++ after) :
    ((encode text).drop (size before)).take (size upTo - size before) =
      encode (slice (size before) (size upTo) text) := by
  have tail : (encode text).drop (size before) = encode behind := by
    rw [start,encodeAppend,← lengthEncode,List.drop_left]
  have left : dropBytes (size before) text = behind := by rw [start,dropBytesSize]
  rw [tail,slice,left]
  by_cases le : size before ≤ size upTo
  · obtain ⟨inside,rfl⟩ := prefixBySize (start.symm.trans stop) le
    obtain rfl : behind = inside ++ after := by
      rw [start,List.append_assoc] at stop
      exact List.append_cancel_left stop
    rw [sizeAppend,Nat.add_sub_cancel_left,takeBytesSize,encodeAppend,← lengthEncode inside,
      List.take_left]
  · have nothing : size upTo - size before = size [] := by
      rw [size]
      omega
    rw [nothing,← List.nil_append behind,takeBytesSize]
    rfl

end ConventionLint.Text.Utf8
