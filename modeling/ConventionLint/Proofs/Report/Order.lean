import ConventionLint.Proofs.List
import ConventionLint.Proofs.Storage.Path
import ConventionLint.Report.Diagnostic

/-! Diagnostics in their order. The sort is stable, so it makes no difference whether diagnostics are left
out, changed where nobody compares them, or taken file by file, before or after it. -/
namespace ConventionLint.Report
open ConventionLint.Storage (Path)

namespace Diagnostic

def key (d : Diagnostic) : List (Nat ×ₗ String) ×ₗ Nat ×ₗ Nat ×ₗ String :=
  toLex (d.filePath.key,toLex (d.location.line,toLex (d.location.column,d.code)))

theorem beforeInFileIff (a b : Diagnostic) : a.beforeInFile b = true ↔
    (toLex (a.location.line,toLex (a.location.column,a.code)) : Nat ×ₗ Nat ×ₗ String) <
      toLex (b.location.line,toLex (b.location.column,b.code)) := by
  simp [beforeInFile,Prod.Lex.toLex_lt_toLex]

theorem beforeIff (a b : Diagnostic) : a.before b = true ↔ a.key < b.key := by
  have behind : b.filePath.before a.filePath = false ↔ a.filePath.key ≤ b.filePath.key := by
    rw [← Bool.not_eq_true,Path.beforeIff,not_lt]
  simp only [before,key,Bool.or_eq_true,Bool.and_eq_true,Bool.not_eq_true',Path.beforeIff,
    beforeInFileIff,behind,Prod.Lex.toLex_lt_toLex]
  constructor
  · rintro (first | ⟨upTo,rest⟩)
    · exact .inl first
    · exact upTo.lt_or_eq.imp id fun same => ⟨same,rest⟩
  · rintro (first | ⟨same,rest⟩)
    · exact .inl first
    · exact .inr ⟨same.le,rest⟩

theorem notAfterIff (a b : Diagnostic) : (!b.before a) = true ↔ a.key ≤ b.key := by
  rw [Bool.not_eq_true',← Bool.not_eq_true,beforeIff,not_lt]

theorem notAfterTrans (a b c : Diagnostic) (ab : (!b.before a) = true) (bc : (!c.before b) = true) :
    (!c.before a) = true := by
  rw [notAfterIff] at *
  exact ab.trans bc

theorem notAfterTotal (a b : Diagnostic) : (!b.before a || !a.before b) = true := by
  rw [Bool.or_eq_true,notAfterIff,notAfterIff]
  exact le_total a.key b.key

end Diagnostic

theorem filterInOrder (keep : Diagnostic → Bool) (ds : List Diagnostic) :
    (inOrder ds).filter keep = inOrder (ds.filter keep) :=
  filterMergeSort Diagnostic.notAfterTrans Diagnostic.notAfterTotal keep ds

theorem mapInOrder {change : Diagnostic → Diagnostic} (kept : ∀ d, (change d).key = d.key)
    (ds : List Diagnostic) : (inOrder ds).map change = inOrder (ds.map change) := by
  refine List.map_mergeSort fun a _ b _ => Bool.eq_iff_iff.mpr ?_
  rw [Diagnostic.notAfterIff,Diagnostic.notAfterIff,kept,kept]

theorem inOrderByFile {ds : List Diagnostic} {files : List Path}
    (strict : files.Pairwise fun p q => p.before q = true)
    (covered : ∀ d ∈ ds, ∃ p ∈ files, d.filePath.parts = p.parts) :
    inOrder ds = files.flatMap fun p =>
      (ds.filter fun d => d.filePath.parts = p.parts).mergeSort fun a b => !b.beforeInFile a := by
  have sorted : (inOrder ds).Pairwise fun a b => a.filePath.key ≤ b.filePath.key := by
    refine (List.pairwise_mergeSort Diagnostic.notAfterTrans Diagnostic.notAfterTotal ds).imp ?_
    intro a b upTo
    rw [Diagnostic.notAfterIff] at upTo
    exact (Prod.Lex.toLex_le_toLex'.mp upTo).1
  have keys : (files.map Path.key).Pairwise (· < ·) :=
    List.pairwise_map.mpr (strict.imp fun first => (Path.beforeIff _ _).mp first)
  have all := sortedByKey sorted keys fun d mem => by
    obtain ⟨p,listed,same⟩ := covered d (List.mem_mergeSort.mp mem)
    exact List.mem_map.mpr ⟨p,listed,(Path.keyInj.mpr same).symm⟩
  rw [all,List.flatMap_map]
  refine List.flatMap_congr fun p _ => ?_
  rw [filterInOrder]
  simp only [Path.keyInj]
  refine mergeSortCongr fun a memA b memB => ?_
  have file : a.filePath.key = b.filePath.key := by
    rw [List.mem_filter,decide_eq_true_eq] at memA memB
    exact Path.keyInj.mpr (memA.2.trans memB.2.symm)
  have neither : b.filePath.before a.filePath = false ∧ a.filePath.before b.filePath = false := by
    simp [← Bool.not_eq_true,Path.beforeIff,file]
  simp [Diagnostic.before,neither]

end ConventionLint.Report
