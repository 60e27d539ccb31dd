import ConventionLint.Proofs.Check.Location
import ConventionLint.Proofs.Inspection.Selection
import ConventionLint.Proofs.Rule.Quoted
import ConventionLint.Proofs.Storage.Path
import ConventionLint.Report.Format

/-! The compact form of what an inspection finds. A diagnostic has one line and one more for each line break
in its message, and such a break always comes from what the message quotes. -/
namespace ConventionLint

namespace Report
open Text (Unbroken breaks segments)

structure Diagnostic.Plain (d : Diagnostic) : Prop where
  file : Unbroken d.location.file
  code : Unbroken d.code
  symbol : Unbroken d.symbol

theorem severityUnbroken (s : Severity) : Unbroken s.toName := by
  cases s <;> decide

theorem breaksCompact {d : Diagnostic} (plain : d.Plain) : breaks d.compact = breaks d.message := by
  have place : Unbroken d.place := by
    simp only [Diagnostic.place,Text.unbrokenAppend,plain.file,Text.unbrokenNat,true_and,and_true]
    decide
  have front : Unbroken (d.place ++ ": " ++ d.severity.toName ++ " [" ++ d.code ++ "(" ++ d.symbol ++ ")] ") := by
    simp only [Text.unbrokenAppend,place,severityUnbroken,plain.code,plain.symbol,true_and,and_true]
    decide
  rw [Diagnostic.compact,Text.breaksAppend,Text.breaksZero.mpr front,Nat.zero_add]

theorem compactLinesIff {f : Findings} (plain : ∀ d ∈ f.diagnostics, d.Plain) :
    segments f.compact.toList = f.diagnostics.map (fun d => (d.compact ++ "\n").toList) ↔
      ∀ d ∈ f.diagnostics, Unbroken d.message := by
  have lines := Text.linesIff (f.diagnostics.map Diagnostic.compact)
  rw [List.map_map,List.map_map] at lines
  refine lines.trans (List.forall_mem_map.trans (forall₂_congr fun d mem => ?_))
  rw [← Text.breaksZero,breaksCompact (plain d mem),Text.breaksZero]

theorem lengthCompact {f : Findings} (plain : ∀ d ∈ f.diagnostics, d.Plain) :
    (segments f.compact.toList).length = f.diagnostics.length + (f.diagnostics.map fun d => breaks d.message).sum := by
  have total := Text.lengthJoin (f.diagnostics.map Diagnostic.compact)
  have same : (f.diagnostics.map Diagnostic.compact).map breaks = f.diagnostics.map fun d => breaks d.message := by
    rw [List.map_map]
    refine List.map_congr_left fun d mem => ?_
    rw [Function.comp_apply,breaksCompact (plain d mem)]
  rw [same,List.length_map,List.map_map] at total
  exact total

end Report

namespace Storage.Path
open Text (Unbroken)
variable {p base : Path}

theorem toStringUnbroken : Unbroken p.toString ↔ ∀ piece ∈ p.pieces, Unbroken piece := by
  have front : Unbroken (if p.isAbsolute then "/" else "") := by split <;> decide
  rw [toString,Text.unbrokenAppend,Text.unbrokenIntercalate (by decide)]
  exact and_iff_right front

theorem relativeUnbroken (unbroken : Unbroken p.toString) : Unbroken (p.relativeTo base).toString := by
  unfold relativeTo relativeTo?
  split
  · exact unbroken
  · split
    · refine toStringUnbroken.mpr fun piece mem => toStringUnbroken.mp unbroken piece ?_
      exact (dropPiecesSuffix _ _).subset ((trimEndPrefix _).subset mem)
    · exact unbroken

end Storage.Path

namespace Inspection
open Check (Finding File Note withSeverity)
open Report (Findings)
open Rule (Quotes)
open Text (Unbroken breaks segments)

theorem diagnosticPlain {config : Config} {f : File} {finding : Finding} {checker : String}
    (file : Unbroken f.relative.toString) (plain : finding.message.Plain) :
    (withSeverity config (finding.diagnostic checker f)).Plain := by
  obtain ⟨s,same⟩ := Check.onlySeverity config (finding.diagnostic checker f)
  have place : (finding.place.location f).file = f.relative.toString := by
    cases finding.place <;> rfl
  rw [same]
  exact ⟨place ▸ file,plain.code,plain.symbol⟩

theorem messageWithSeverity (config : Config) (d : Report.Diagnostic) :
    (withSeverity config d).message = d.message := by
  obtain ⟨_,same⟩ := Check.onlySeverity config d
  rw [same]

/-- However many files were looked at, the findings of a file with a path in one line take up one line each,
and one more for each break in their messages. The lines are the diagnostics just if there is no such break;
and a message has a break just if what it quotes of the program or of the configuration has one. -/
theorem compactLines {x : Inspection} {path : Storage.Path} {source : Text.Bytes} {r : Check.Result}
    (builtIn : ∀ c ∈ x.checkers, ∃ settings, c ∈ Rule.all settings) (named : Unbroken path.toString)
    (checked : x.check path source = .ok r) (files : Nat) :
    let shown := segments (Findings.compact ⟨r.diagnostics,files⟩).toList
    shown.length = r.diagnostics.length + (r.diagnostics.map fun d => breaks d.message).sum ∧
    (shown = r.diagnostics.map (fun d => (d.compact ++ "\n").toList) ↔ ∀ d ∈ r.diagnostics, Unbroken d.message) ∧
    ∃ t, Tree.parse (Encoding.decode source).text = .ok t ∧ ∀ d ∈ r.diagnostics,
      ∃ c ∈ x.checkers, ∃ settings finding, c ∈ Rule.all settings ∧
        Note.finding finding ∈ c.notes (.ofTree path x.root t) ∧
        d = withSeverity x.config (finding.diagnostic c.name (.ofTree path x.root t)) ∧
        (¬Unbroken d.message ↔ ∃ s, Quotes settings (.ofTree path x.root t) finding s ∧ ¬Unbroken s ∧
          s.toList <:+: d.message.toList) := by
  intro shown
  obtain ⟨t,parsed,rfl⟩ := checkOk.mp checked
  have whole : t.text = (Encoding.decode source).text := by
    obtain ⟨_,_,rfl⟩ := Tree.outlineOfParse parsed
    rfl
  have origin : ∀ d ∈ (Check.run x.config x.checkers (.ofTree path x.root t)).diagnostics,
      ∃ c ∈ x.checkers, ∃ settings finding, c ∈ Rule.all settings ∧
        Note.finding finding ∈ c.notes (.ofTree path x.root t) ∧
        d = withSeverity x.config (finding.diagnostic c.name (.ofTree path x.root t)) ∧
        Rule.Traced settings (.ofTree path x.root t) finding := by
    intro d mem
    obtain ⟨c,among,finding,noted,same⟩ := Check.diagnosticOfNote mem
    obtain ⟨settings,listed⟩ := builtIn c among
    have own := Rule.builtInNotes settings (.ofTree path x.root t) c listed _ noted
    exact ⟨c,among,settings,finding,listed,noted,same,own.traced parsed (whole ▸ rfl) rfl⟩
  have plain : ∀ d ∈ (Check.run x.config x.checkers (.ofTree path x.root t)).diagnostics, d.Plain := by
    intro d mem
    obtain ⟨c,_,_,finding,_,_,rfl,traced⟩ := origin d mem
    exact diagnosticPlain (Storage.Path.relativeUnbroken named) traced.plain
  refine ⟨Report.lengthCompact plain,Report.compactLinesIff plain,t,parsed,fun d mem => ?_⟩
  obtain ⟨c,among,settings,finding,listed,noted,rfl,traced⟩ := origin d mem
  refine ⟨c,among,settings,finding,listed,noted,rfl,?_⟩
  rw [messageWithSeverity]
  exact traced.broken

theorem comparisonOverLines :
    let x : Inspection := ⟨⟨true,[]⟩,[Rule.PreciseAssert.checker],[],[],.default,true⟩
    let source := Text.Utf8.encode "self.assertTrue(a ==\n                b)\n".toList
    Unbroken (Storage.Path.ofString "/m.py").toString ∧ ∃ r, x.check (.ofString "/m.py") source = .ok r ∧
      r.diagnostics.map (·.message) = ["assertTrue(a ==\n                b) should be assertEqual"] ∧
      (segments (Findings.compact ⟨r.diagnostics,1⟩).toList).length = 2 ∧
      ∃ t, Tree.parse (Encoding.decode source).text = .ok t ∧ ∃ settings finding s,
        Quotes settings (.ofTree (.ofString "/m.py") x.root t) finding s ∧ ¬Unbroken s := by
  intro x source
  have named : Unbroken (Storage.Path.ofString "/m.py").toString := by decide
  have builtIn : ∀ c ∈ x.checkers, ∃ settings, c ∈ Rule.all settings :=
    List.forall_mem_singleton.mpr ⟨.default,by simp [Rule.all,Rule.recommended]⟩
  have found : (x.check (.ofString "/m.py") source).toOption.map (fun r => r.diagnostics.map (·.message)) =
      some ["assertTrue(a ==\n                b) should be assertEqual"] := by decide +kernel
  cases checked : x.check (.ofString "/m.py") source with
  | error e => simp [checked,Except.toOption] at found
  | ok r =>
    have messages : r.diagnostics.map (·.message) = ["assertTrue(a ==\n                b) should be assertEqual"] := by
      simpa [checked,Except.toOption] using found
    obtain ⟨d,single,said⟩ := List.map_eq_singleton_iff.mp messages
    have broken : breaks d.message = 1 := by
      rw [said]
      decide +kernel
    obtain ⟨length,_,t,parsed,origin⟩ := compactLines builtIn named checked 1
    obtain ⟨_,_,settings,finding,_,_,_,quoted⟩ := origin d (single ▸ List.mem_cons_self)
    obtain ⟨s,quotes,own,_⟩ := quoted.mp fun unbroken => absurd (Text.breaksZero.mpr unbroken) (by omega)
    exact ⟨named,r,rfl,messages,by simpa [single,broken] using length,t,parsed,settings,finding,s,quotes,own⟩

end Inspection

end ConventionLint
