import ConventionLint.Annotation.Family
import ConventionLint.Proofs.Annotation.Blocks
import ConventionLint.Proofs.Annotation.Matcher
import ConventionLint.Proofs.Text.Line

/-! What can be said about the annotations of a group in words of the group: its tokens, its values and what
is known of the families of tokens. None of that has a line break, since a comment is a line and a value that
runs on is joined by spaces. -/
namespace ConventionLint.Annotation
open Text (Unbroken trim trimStart)

inductive Group.Tells (g : Group) : String → Prop where
  | nothing : Tells g ""
  | token {e : Entry} (mem : e ∈ g.entries) : Tells g e.token
  | value {e : Entry} (mem : e ∈ g.entries) : Tells g e.value
  | word {e : Entry} {w : String} (mem : e ∈ g.entries) (part : w ∈ Family.wordsOf e.value) : Tells g w
  | spec {f : Family} {s : TokenSpec} (family : f ∈ families) (listed : s ∈ f.tokens) : Tells g s.token
  | choices {f : Family} {s : TokenSpec} (family : f ∈ families) (listed : s ∈ f.tokens) :
      Tells g (", ".intercalate s.choices)

def Group.Covers (g : Group) (line : Nat) : Prop := line = g.line ∨ ∃ e ∈ g.entries, line = e.line

section Parts
variable {g part : Group} {wanted : String → Bool} {token s : String}

@[simp] theorem coversOwn : g.Covers g.line := .inl rfl

theorem restrictEntries (found : g.restrict? wanted = some part) : ∀ e ∈ part.entries, e ∈ g.entries := by
  unfold Group.restrict? at found
  split at found
  · cases found
  · next e es kept =>
    cases found
    exact fun d mem => (List.mem_filter.mp (kept ▸ mem)).1

theorem restrictCovers (found : g.restrict? wanted = some part) {line : Nat} (covers : part.Covers line) :
    g.Covers line := by
  have entries := restrictEntries found
  rcases covers with rfl | ⟨d,mem,rfl⟩
  · unfold Group.restrict? at found
    split at found
    · cases found
    · next e es _ =>
      cases found
      exact .inr ⟨e,entries e List.mem_cons_self,rfl⟩
  · exact .inr ⟨d,entries d mem,rfl⟩

theorem restrictTells (found : g.restrict? wanted = some part) (told : part.Tells s) : g.Tells s := by
  have entries := restrictEntries found
  cases told with
  | nothing => exact .nothing
  | token mem => exact .token (entries _ mem)
  | value mem => exact .value (entries _ mem)
  | word mem inside => exact .word (entries _ mem) inside
  | spec family listed => exact .spec family listed
  | choices family listed => exact .choices family listed

theorem getTells : g.Tells ((g.get? token).getD "") := by
  unfold Group.get?
  cases found : g.entries.find? fun e => e.token == token with
  | none => exact .nothing
  | some e => exact .value (List.mem_of_find?_eq_some found)

theorem repeatedListed {seen again ts : List String} :
    ∀ t ∈ Group.repeated seen again ts, t ∈ again ∨ t ∈ ts := by
  fun_induction Group.repeated seen again ts with
  | case1 seen again => exact fun t mem => .inl mem
  | case2 seen again t ts known ih =>
    intro u mem
    rcases ih u mem with before | later
    · split at before
      · exact .inl before
      · rcases List.mem_append.mp before with earlier | own
        · exact .inl earlier
        · exact .inr (List.mem_cons.mpr (.inl (List.mem_singleton.mp own)))
    · exact .inr (List.mem_cons_of_mem t later)
  | case3 seen again t ts fresh ih => exact fun u mem => (ih u mem).imp id (List.mem_cons_of_mem t)

def Problem.args : Problem → List String
  | .duplicate token => [token]
  | .missing token => [token]
  | .invalidChoice value token expected => [value,token,expected]

theorem problemTells {f : Family} (family : f ∈ families) {p : Problem} (mem : p ∈ f.problems g) :
    ∀ a ∈ p.args, g.Tells a := by
  rcases List.mem_append.mp mem with twice | rest
  · obtain ⟨t,again,rfl⟩ := List.mem_map.mp twice
    obtain ⟨e,listed,rfl⟩ := List.mem_map.mp ((repeatedListed t again).resolve_left List.not_mem_nil)
    exact List.forall_mem_singleton.mpr (.token listed)
  · obtain ⟨spec,listed,found⟩ := List.mem_flatMap.mp rest
    unfold Family.problemsAt Group.get? at found
    cases entry : g.entries.find? fun e => e.token == spec.token with
    | none =>
      simp only [entry,Option.map_none] at found
      split at found
      · rw [List.mem_singleton.mp found]
        exact List.forall_mem_singleton.mpr (.spec family listed)
      · cases found
    | some e =>
      have own : e ∈ g.entries := List.mem_of_find?_eq_some entry
      simp only [entry,Option.map_some] at found
      split at found
      · cases found
      · obtain ⟨w,kept,rfl⟩ := List.mem_map.mp found
        refine List.forall_mem_cons.mpr ⟨.word own (List.mem_filter.mp kept).1,?_⟩
        exact List.forall_mem_cons.mpr ⟨.spec family listed,
          List.forall_mem_singleton.mpr (.choices family listed)⟩

theorem namedTells {f : Family} {gs : List Group} {name : String} (mem : name ∈ (f.named gs).map Prod.snd) :
    ∃ g ∈ gs, g.Tells name := by
  obtain ⟨_,listed,rfl⟩ := List.mem_map.mp mem
  obtain ⟨part,grouped,rfl⟩ := List.mem_map.mp listed
  obtain ⟨g,there,found⟩ := List.mem_filterMap.mp grouped
  exact ⟨g,there,restrictTells found getTells⟩

end Parts

structure Matcher.Within (m : Matcher) (names : List (Nat × String)) : Prop where
  known : ∀ n ∈ m.known, n ∈ names.map Prod.snd
  left : ∀ e ∈ m.left, e ∈ names

section Names
variable {m : Matcher} {names : List (Nat × String)}

theorem withinOfGroups : (Matcher.ofGroups names).Within names :=
  ⟨Matcher.knownListed names,fun _ mem => List.mem_mergeSort.mp mem⟩

theorem withinNothing : (Matcher.ofGroups []).Within names := by
  constructor <;> simp [Matcher.ofGroups,Matcher.sortByLine]

theorem withinPush (within : m.Within names) (s : Site) : (m.push s).Within names := ⟨within.known,within.left⟩

theorem withinResolve (within : m.Within names) : m.resolve.2.Within names ∧
    ∀ x ∈ m.resolve.1, ∀ found annotated, x.2 = .incorrect found annotated →
      found ∈ names.map Prod.snd ∧ annotated ∈ names.map Prod.snd := by
  have uses := Matcher.serveUses m.known m.left (Matcher.sortSites m.sites)
  refine ⟨⟨within.known,fun e mem => within.left e ?_⟩,fun x mem found annotated incorrect => ?_⟩
  · rw [uses]
    exact List.mem_append_right _ mem
  · change x ∈ (Matcher.matchSites m.known m.left (Matcher.sortSites m.sites)).1 at mem
    rw [← Matcher.serveAnswers] at mem
    obtain ⟨service,served,rfl⟩ := List.mem_map.mp mem
    have sound := Matcher.serveSound within.known m.left _ service served
    obtain ⟨_,listed,line,used⟩ := sound.incorrect found annotated incorrect
    have taken : (line,annotated) ∈ m.left := by
      rw [uses]
      exact List.mem_append_left _ (List.mem_flatMap.mpr ⟨service,served,by simp [used]⟩)
    exact ⟨listed,List.mem_map.mpr ⟨_,within.left _ taken,rfl⟩⟩

end Names

section Unbroken
variable {line cs : List Char} {token value : String} {c : Char} {g : Group}

theorem ofTrim (mem : c ∈ trim cs) : c ∈ cs := by
  have start := List.dropWhile_sublist _ |>.subset (List.mem_reverse.mp mem)
  exact (List.dropWhile_sublist _).subset (List.mem_reverse.mp start)

theorem patternUnbroken (unbroken : '\n' ∉ line) (pattern : TokenPattern line token value) :
    Unbroken token ∧ Unbroken value := by
  obtain ⟨indent,before,after,word,behind,rest,-,-,-,rfl,rfl,rfl⟩ := pattern
  have inWord : '\n' ∉ word := fun mem => unbroken (by simp [mem])
  have inRest : '\n' ∉ rest := fun mem => unbroken (by simp [mem])
  refine ⟨?_,Text.unbrokenList.mpr fun mem => inRest (ofTrim mem)⟩
  simp only [Text.unbrokenAppend,Text.unbrokenList]
  exact ⟨⟨by decide,inWord⟩,by decide⟩

theorem continuationUnbroken (unbroken : '\n' ∉ line) : Unbroken (continuation line) := by
  refine Text.unbrokenList.mpr fun mem => unbroken ?_
  exact (List.dropWhile_sublist _).subset ((List.dropWhile_sublist _).subset (ofTrim mem))

theorem entryUnbroken {block : List (Nat × List Char)} (lines : ∀ l ∈ block, '\n' ∉ l.2) :
    ∀ e ∈ entriesOf block, Unbroken e.token ∧ Unbroken e.value := by
  induction block with
  | nil => exact nofun
  | cons l block ih =>
    have ⟨own,rest⟩ := List.forall_mem_cons.mp lines
    rw [entriesOfCons]
    refine List.forall_mem_append.mpr ⟨fun e first => ?_,ih rest⟩
    obtain ⟨⟨token,value⟩,found,rfl⟩ := Option.map_eq_some_iff.mp (Option.mem_toList.mp first)
    have ⟨name,start⟩ := patternUnbroken own (tokenLineIff.mp found)
    refine ⟨name,(Text.unbrokenIntercalate (by decide)).mpr fun s mem => ?_⟩
    rcases List.mem_cons.mp (List.mem_filter.mp mem).1 with rfl | more
    · exact start
    · obtain ⟨line,runs,rfl⟩ := List.mem_map.mp more
      obtain ⟨l',inside,rfl⟩ := List.mem_map.mp runs
      exact continuationUnbroken (rest l' ((List.takeWhile_sublist _).subset inside))

theorem pieceWithin {p : Char → Bool} {piece : List Char} (mem : piece ∈ Text.splitBy p cs) : piece ⊆ cs := by
  induction cs generalizing piece with
  | nil => simp [List.mem_singleton.mp mem]
  | cons c cs ih =>
    rw [Text.splitBy] at mem
    split at mem
    · rcases List.mem_cons.mp mem with rfl | later
      · exact List.nil_subset _
      · exact List.subset_cons_of_subset c (ih later)
    · split at mem
      · rw [List.mem_singleton.mp mem]
        exact List.cons_subset_cons c (List.nil_subset _)
      · next first rest cut =>
        rcases List.mem_cons.mp mem with rfl | later
        · exact List.cons_subset_cons c (ih (cut ▸ List.mem_cons_self))
        · exact List.subset_cons_of_subset c (ih (cut ▸ List.mem_cons_of_mem first later))

theorem wordUnbroken {w : String} (unbroken : Unbroken value) (part : w ∈ Family.wordsOf value) : Unbroken w := by
  obtain ⟨piece,listed,rfl⟩ := List.mem_map.mp part
  exact Text.unbrokenList.mpr fun mem => unbroken (pieceWithin (List.mem_filter.mp listed).1 mem)

theorem familiesUnbroken : ∀ f ∈ families, ∀ s ∈ f.tokens,
    Unbroken s.token ∧ Unbroken (", ".intercalate s.choices) := by
  decide +kernel

theorem toldUnbroken {text : List Char} {s : String} (there : g ∈ groupsOf text) (told : g.Tells s) :
    Unbroken s := by
  have entries : ∀ e ∈ g.entries, Unbroken e.token ∧ Unbroken e.value := by
    rw [groupsOfBlocks] at there
    obtain ⟨block,listed,made⟩ := List.mem_filterMap.mp there
    obtain ⟨e,_,rfl⟩ := Option.map_eq_some_iff.mp made
    refine entryUnbroken fun l mem => ?_
    have inside : l ∈ (blocks (Text.numberedLines text)).flatten := List.mem_flatten.mpr ⟨block,listed,mem⟩
    rw [blocksFlatten] at inside
    obtain ⟨_,_,unbroken,_⟩ := Text.numberedSplit (List.mem_filter.mp inside).1
    exact unbroken
  cases told with
  | nothing => decide
  | token mem => exact (entries _ mem).1
  | value mem => exact (entries _ mem).2
  | word mem part => exact wordUnbroken (entries _ mem).2 part
  | spec family listed => exact (familiesUnbroken _ family _ listed).1
  | choices family listed => exact (familiesUnbroken _ family _ listed).2

end Unbroken

end ConventionLint.Annotation
