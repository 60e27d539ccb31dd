import ConventionLint.Proofs.Grammar.Scan
import ConventionLint.Proofs.Tree.Calls
import ConventionLint.Proofs.Tree.Places

/-! Names are words: whatever the tree of a text calls a node is written in one line of the text. -/
namespace ConventionLint.Tree
open ConventionLint.Grammar (Concrete Kind Role)

namespace Lowering
variable {text : List Char} {program c d e : Concrete}

theorem insideRegular (regular : program.Regular) (inside : Inside program c) : c.Regular :=
  inside.elim (fun whole => whole ▸ regular) (partRegular regular)

theorem roleElsewhere {role role' : Role} (other : role ≠ role') : (e.withRole role).role? ≠ some role' := by
  cases e with
  | token => nofun
  | node => exact fun same => other (Option.some.inj same)

theorem headingNamed (heading : d.Heading) (named : d.role? = some .name) : d.hasKind .identifier := by
  rcases heading.1 with absent | ⟨_,kind⟩
  · rw [absent] at named
    cases named
  · simp [Concrete.hasKind,kind]

theorem definedKind (regular : program.Regular) (defines : IsDefinition program c) :
    c.kind? = some .classDefinition ∨ c.kind? = some .functionDefinition := by
  rcases defines with kind | kind | ⟨d,inside,kind,found⟩
  · exact .inl (eq_of_beq kind)
  · exact .inr (eq_of_beq kind)
  · obtain ⟨ds,e,parts,decorators,defined⟩ := (insideRegular regular inside).fits (eq_of_beq kind)
    cases d with
    | token => cases kind
    | node =>
      obtain rfl := parts
      rw [definitionFound decorators defined] at found
      cases found
      rw [Grammar.kindWithRole]
      exact defined.imp And.left And.left

theorem definedName (regular : program.Regular) (inside : Inside program c) (defines : IsDefinition program c)
    (found : c.child? .name = some d) : d.hasKind .identifier := by
  have named : d.role? = some .name := by simpa using List.find?_some found
  have among : d ∈ c.children := List.mem_of_find?_eq_some found
  rcases definedKind regular defines with kind | kind
  · obtain ⟨front,bases,b,parts,heads,listed,_⟩ := (insideRegular regular inside).fits kind
    rw [parts,List.mem_append,List.mem_append,List.mem_singleton] at among
    rcases among with (head | base) | rfl
    · exact headingNamed (heads d head) named
    · cases listed with
      | none => cases base
      | listed =>
        rw [List.mem_singleton.mp base] at named
        exact absurd named (roleElsewhere nofun)
    · exact absurd named (roleElsewhere nofun)
  · obtain ⟨front,result,ps,b,parts,heads,_,returned,_⟩ := (insideRegular regular inside).fits kind
    rw [parts,List.mem_append,List.mem_append,List.mem_cons,List.mem_singleton] at among
    rcases among with (head | rfl | type) | rfl
    · exact headingNamed (heads d head) named
    · exact absurd named (roleElsewhere nofun)
    · rw [(returned d type).2] at named
      cases named
    · exact absurd named (roleElsewhere nofun)

theorem identifierUnbroken (ok : Grammar.parse text = .ok program) (inside : Inside program c)
    (kind : c.hasKind .identifier) : '\n' ∉ (written text c).toList := by
  have lies : Grammar.Lies (Grammar.sitesOf text fun s =>
      '\n' ∉ Text.Utf8.slice s.start.offset s.stop.offset text) program :=
    Grammar.parsePlaces ok fun t mem w => Grammar.wordUnbroken mem
  have own : Grammar.Lies (Grammar.sitesOf text _) c :=
    inside.elim (fun whole => whole ▸ lies) (liesPart lies)
  cases own with
  | token => cases kind
  | node _ word _ =>
    rw [written,String.toList_ofList]
    exact word (Option.some.inj (eq_of_beq kind))

theorem spelledUnbroken {name : String} (ok : Grammar.parse text = .ok program) (inside : Inside program c)
    (spells : Spells text program c name) : '\n' ∉ name.toList := by
  rcases spells with ⟨kind,rfl⟩ | ⟨defines,rfl⟩
  · exact identifierUnbroken ok inside kind
  · rw [writtenChild]
    cases found : c.child? .name with
    | none => exact List.not_mem_nil
    | some d =>
      exact identifierUnbroken ok (insidePart inside (partChild found))
        (definedName (Grammar.programIsRegular ok) inside defines found)

end Lowering

theorem nameUnbroken {text : List Char} {t : Tree} {i : NodeId} {name : String}
    (parsed : Tree.parse text = .ok t) (found : t.name? i = some name) : '\n' ∉ name.toList := by
  obtain ⟨program,read,rfl⟩ := outlineOfParse parsed
  by_cases inside : i < (ofOutline text (outline text program)).size
  · obtain ⟨c,within,_,named⟩ := constructOf inside
    exact Lowering.spelledUnbroken read within (named name found)
  · rw [Tree.name?,Tree.payload,nodeMissing (Nat.le_of_not_lt inside)] at found
    cases found

end ConventionLint.Tree
