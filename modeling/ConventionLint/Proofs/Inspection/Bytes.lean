import ConventionLint.Proofs.Check.Location
import ConventionLint.Proofs.Encoding.Declared
import ConventionLint.Proofs.Inspection.Selection
import ConventionLint.Proofs.Text.Utf8

/-! Where a diagnostic at a node finds its source in the bytes of a file: at its offset in a file without a
byte order mark, and behind the mark otherwise, as offsets count from there. -/
namespace ConventionLint

namespace Encoding
open Text (Bytes Utf8.encode Utf8.decode)

def markSize (source : Bytes) : Nat := if source.take 3 = [0xEF,0xBB,0xBF] then 3 else 0

theorem withoutMarkDrop (source : Bytes) : withoutMark source = source.drop (markSize source) := by
  unfold withoutMark markSize
  split
  · rfl
  · next unmarked =>
    rw [if_neg,List.drop_zero]
    intro marked
    refine unmarked (source.drop 3) ?_
    rw [← List.take_append_drop 3 source,marked]
    rfl

theorem encodeWithoutMark (cs : List Char) : ∃ ds, withoutMark (Utf8.encode cs) = Utf8.encode ds := by
  unfold withoutMark
  split
  · next rest marked =>
    have mark : String.utf8EncodeChar '\uFEFF' = [0xEF,0xBB,0xBF] := by decide
    refine ⟨Utf8.decode rest,?_⟩
    rw [markFirst marked,Text.Utf8.encodeCons,mark] at marked
    simpa using marked.symm
  · exact ⟨cs,rfl⟩

theorem decodeValid {cs : List Char} {source : Bytes} (valid : source = Utf8.encode cs)
    (codec : (Codec.ofLabel? (decode source).label).getD .utf8 = .utf8) :
    Utf8.encode (decode source).text = source.drop (markSize source) := by
  obtain ⟨ds,same⟩ := encodeWithoutMark cs
  rw [← valid] at same
  have text : (decode source).text = Utf8.decode (withoutMark source) := by
    change (((Codec.ofLabel? (decode source).label).getD .utf8).decode (withoutMark source)) = _
    rw [codec]
    rfl
  rw [text,← withoutMarkDrop,same,Text.Utf8.decodeEncode]

end Encoding

namespace Tree

theorem bytesOfSource {text : List Char} {t : Tree} (parsed : Tree.parse text = .ok t) (i : NodeId) :
    ((Text.Utf8.encode text).drop (t.span i).start.offset).take
        ((t.span i).stop.offset - (t.span i).start.offset) = Text.Utf8.encode (t.source i).toList := by
  obtain ⟨⟨_,before,start,same⟩,_,upTo,stop,same'⟩ := spanPlaces parsed i
  have whole : t.text = text := by
    obtain ⟨_,_,rfl⟩ := outlineOfParse parsed
    rfl
  rw [source,String.toList_ofList,whole,same,same',Grammar.offsetOf,Grammar.offsetOf]
  exact Text.Utf8.bytesOfSlice start stop

end Tree

namespace Inspection
open Check (Finding File Note withSeverity)
open Encoding (Codec markSize)

/-- Whatever is found at a node of a source in UTF-8 has the bytes of the node from its offset on, counted
behind the mark if there is one. -/
theorem bytesBehindMark {x : Inspection} {path : Storage.Path} {cs : List Char} {source : Text.Bytes}
    {r : Check.Result} (valid : source = Text.Utf8.encode cs)
    (codec : (Codec.ofLabel? (Encoding.decode source).label).getD .utf8 = .utf8)
    (checked : x.check path source = .ok r) :
    ∃ t, Tree.parse (Encoding.decode source).text = .ok t ∧ ∀ d ∈ r.diagnostics, ∃ c ∈ x.checkers,
      ∃ finding, Note.finding finding ∈ c.notes (.ofTree path x.root t) ∧
        d = withSeverity x.config (finding.diagnostic c.name (.ofTree path x.root t)) ∧
        ∀ i, finding.place = .node i →
          (source.drop (markSize source + d.location.offset)).take d.location.length =
            Text.Utf8.encode (t.source i).toList := by
  obtain ⟨t,parsed,rfl⟩ := checkOk.mp checked
  refine ⟨t,parsed,fun d mem => ?_⟩
  obtain ⟨c,listed,finding,noted,rfl⟩ := Check.diagnosticOfNote mem
  refine ⟨c,listed,finding,noted,rfl,fun i place => ?_⟩
  rw [Check.locationWithSeverity,Finding.diagnostic,Report.Diagnostic.ofMessage,place,
    ← List.drop_drop,← Encoding.decodeValid valid codec]
  exact Tree.bytesOfSource parsed i

theorem callBehindMark :
    let x : Inspection := ⟨⟨true,[]⟩,[Rule.RangeCall.checker],[],[],.default,true⟩
    let source := Text.Utf8.encode "\uFEFFrange(0, 3)\n".toList
    markSize source = 3 ∧ ∃ r, x.check (.ofString "/m.py") source = .ok r ∧
      r.diagnostics.map (·.location) = [⟨"m.py",1,1,0,11⟩] ∧
      source.take 11 ≠ (source.drop 3).take 11 ∧
      ∃ t, Tree.parse (Encoding.decode source).text = .ok t ∧ ∀ d ∈ r.diagnostics, ∃ i,
        (source.drop (3 + d.location.offset)).take d.location.length =
          Text.Utf8.encode (t.source i).toList := by
  intro x source
  have mark : markSize source = 3 := by decide
  have found : (x.check (.ofString "/m.py") source).toOption.map (fun r => r.diagnostics.map (·.location)) =
      some [⟨"m.py",1,1,0,11⟩] := by decide +kernel
  cases checked : x.check (.ofString "/m.py") source with
  | error e => simp [checked,Except.toOption] at found
  | ok r =>
    have place : r.diagnostics.map (·.location) = [⟨"m.py",1,1,0,11⟩] := by
      simpa [checked,Except.toOption] using found
    obtain ⟨t,parsed,bytes⟩ := bytesBehindMark rfl (by decide +kernel) checked
    refine ⟨mark,r,rfl,place,by decide,t,parsed,fun d mem => ?_⟩
    obtain ⟨c,_,finding,_,rfl,own⟩ := bytes d mem
    have long := List.mem_singleton.mp (place ▸ List.mem_map_of_mem mem)
    cases located : finding.place with
    | node i => exact ⟨i,mark ▸ own i located⟩
    | line n =>
      rw [Check.locationWithSeverity,Finding.diagnostic,Report.Diagnostic.ofMessage,located] at long
      cases congrArg Report.Location.length long

end Inspection

end ConventionLint
