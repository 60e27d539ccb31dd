import ConventionLint.Proofs.Annotation.Order

/-! Which annotation an incorrect call is told about. It is the first one that no call has used, which is
the one before the call only if all others up to there have been used. An annotation of something that
no call makes is left over, and each call after it is judged by the annotation of an earlier one. -/
namespace ConventionLint.Annotation.Matcher

def Precedes (groups : List (Nat × String)) (s : Site) (g : Nat × String) : Prop :=
  g ∈ groups ∧ g.1 ≤ s.lastLine ∧ ∀ h ∈ groups, h.1 ≤ s.lastLine → h.1 ≤ g.1

def FirstLeft (groups used : List (Nat × String)) (g : Nat × String) : Prop :=
  g ∈ groups ∧ g ∉ used ∧ ∀ h ∈ groups, h ∉ used → g.1 ≤ h.1

section Service
variable {m : Matcher} {known : List String} {left : List (Nat × String)} {sites : List Site}
  {actions : List Action} {before after : List Service} {x : Service}

theorem serveFinds (served : serve known left sites = before ++ x :: after) :
    ∃ rest, left = before.flatMap Service.used ++ rest ∧
      x.outcome = (matchSite known rest x.site).1 := by
  induction sites generalizing left before with
  | nil => simp [serve] at served
  | cons s sites ih =>
    cases before with
    | nil =>
      simp only [serve,List.nil_append,List.cons.injEq] at served
      obtain ⟨rfl,_⟩ := served
      exact ⟨left,rfl,rfl⟩
    | cons y before =>
      simp only [serve,List.cons_append,List.cons.injEq] at served
      obtain ⟨rfl,later⟩ := served
      obtain ⟨rest,same,outcome⟩ := ih later
      refine ⟨rest,?_,outcome⟩
      rw [List.flatMap_cons,List.append_assoc,← same]
      rcases matchSiteCases known left s with kept | ⟨line,annotated,rest,rfl,_,taken⟩
      · simp [kept]
      · simp [taken]

theorem servicesFind (served : (services m actions).flatten = before ++ x :: after) :
    ∃ rest, m.left = before.flatMap Service.used ++ rest ∧
      x.outcome = (matchSite m.known rest x.site).1 := by
  induction actions generalizing m before with
  | nil => simp [services] at served
  | cons action actions ih =>
    cases action with
    | push s => exact ih (m := m.push s) served
    | resolve =>
      rw [services,List.flatten_cons] at served
      rcases List.append_eq_append_iff.mp served with ⟨behind,rfl,inside⟩ | ⟨between,first,rest⟩
      · -- the call belongs to a later resolve
        obtain ⟨rest,same,outcome⟩ := ih (m := m.resolve.2) inside
        refine ⟨rest,?_,outcome⟩
        rw [List.flatMap_append,List.append_assoc,← same]
        exact serveUses m.known m.left (sortSites m.sites)
      · cases between with
        | nil =>
          obtain ⟨rest',same,outcome⟩ := @ih m.resolve.2 [] rest.symm
          rw [List.append_nil] at first
          refine ⟨rest',?_,outcome⟩
          rw [← first,← List.nil_append rest']
          exact same ▸ serveUses m.known m.left (sortSites m.sites)
        | cons y between =>
          obtain ⟨rfl,_⟩ := List.cons.inj rest
          exact serveFinds first

end Service

section Left
variable {groups used left : List (Nat × String)} {g : Nat × String} {s : Site}

theorem firstLeftIff (lines : (groups.map Prod.fst).Nodup) (order : sortByLine groups = used ++ left) :
    FirstLeft groups used g ↔ ∃ rest, left = g :: rest := by
  have perm : (used ++ left).Perm groups := order ▸ List.mergeSort_perm groups _
  have sorted := List.pairwise_append.mp (order ▸ sortedByLine groups)
  have apart := List.nodup_append.mp (perm.nodup_iff.mpr (List.Nodup.of_map _ lines))
  have member (h : Nat × String) : h ∈ groups ∧ h ∉ used ↔ h ∈ left := by
    rw [← perm.mem_iff,List.mem_append]
    exact ⟨fun ⟨either,unused⟩ => either.resolve_left unused,
      fun mem => ⟨.inr mem,fun used => apart.2.2 h used h mem rfl⟩⟩
  constructor
  · rintro ⟨mem,unused,first⟩
    have inLeft := (member g).mp ⟨mem,unused⟩
    cases left with
    | nil => cases inLeft
    | cons h rest =>
      have other := (member h).mpr List.mem_cons_self
      have below := first h other.1 other.2
      rcases List.mem_cons.mp inLeft with rfl | later
      · exact ⟨rest,rfl⟩
      · have above := (List.pairwise_cons.mp sorted.2.1).1 g later
        have same := List.inj_on_of_nodup_map lines mem other.1 (Nat.le_antisymm below above)
        exact ⟨rest,by rw [same]⟩
  · rintro ⟨rest,rfl⟩
    have own := (member g).mpr List.mem_cons_self
    refine ⟨own.1,own.2,fun h mem unused => ?_⟩
    rcases List.mem_cons.mp ((member h).mp ⟨mem,unused⟩) with rfl | later
    · exact Nat.le_refl h.1
    · exact (List.pairwise_cons.mp sorted.2.1).1 h later

theorem precedesIffUsed (lines : (groups.map Prod.fst).Nodup) (order : sortByLine groups = used ++ left)
    (first : FirstLeft groups used g) (above : g.1 ≤ s.lastLine) :
    Precedes groups s g ↔ ∀ h ∈ groups, h.1 ≤ s.lastLine → h ∈ used ∨ h = g := by
  constructor
  · intro precedes h mem upTo
    by_cases unused : h ∈ used
    · exact .inl unused
    · have same := Nat.le_antisymm (precedes.2.2 h mem upTo) (first.2.2 h mem unused)
      exact .inr (List.inj_on_of_nodup_map lines mem first.1 same)
  · intro all
    refine ⟨first.1,above,fun h mem upTo => ?_⟩
    rcases all h mem upTo with early | rfl
    · obtain ⟨rest,rfl⟩ := (firstLeftIff lines order).mp first
      have sorted := List.pairwise_append.mp (order ▸ sortedByLine groups)
      exact sorted.2.2 h early g List.mem_cons_self
    · exact Nat.le_refl h.1

theorem judgeIncorrectIff {known : List String} {annotated found other : String} {name : Option String} :
    judge known annotated name = .incorrect found other ↔
      name = some found ∧ other = annotated ∧ found ≠ annotated ∧ found ∈ known := by
  cases name with
  | none => simp [judge]
  | some given =>
    by_cases same : given = annotated
    · grind [judge]
    · by_cases listed : given ∈ known
      · grind [judge]
      · grind [judge]

theorem incorrectIff {known : List String} {found annotated : String} :
    (matchSite known left s).1 = .incorrect found annotated ↔
      ∃ line rest, left = (line,annotated) :: rest ∧ line ≤ s.lastLine ∧ s.name = some found ∧
        found ≠ annotated ∧ found ∈ known := by
  constructor
  · intro incorrect
    rcases matchSiteCases known left s with kept | ⟨line,other,rest,rfl,above,taken⟩
    · rw [kept] at incorrect
      cases incorrect
    · rw [taken] at incorrect
      obtain ⟨named,rfl,different,mem⟩ := judgeIncorrectIff.mp incorrect
      exact ⟨line,rest,rfl,above,named,different,mem⟩
  · rintro ⟨line,rest,rfl,above,named,different,mem⟩
    simp only [matchSite,if_pos above]
    exact judgeIncorrectIff.mpr ⟨named,rfl,different,mem⟩

theorem memKnown {name : String} :
    name ∈ (ofGroups groups).known ↔ name ≠ "" ∧ ∃ line, (line,name) ∈ groups := by
  simp [ofGroups,sortByLine,and_comm]

end Left

/-- An incorrect call is told about the first annotation that is left. That is the one before the call if
and only if all others up to there have been used; and a call with the name of the annotation before it
is incorrect if and only if one with another name is left over from further up. -/
theorem incorrectByLeftOver {groups : List (Nat × String)} {actions : List Action}
    {before after : List Service} {x : Service} (lines : (groups.map Prod.fst).Nodup)
    (served : (services (ofGroups groups) actions).flatten = before ++ x :: after) :
    (services (ofGroups groups) actions).map (List.map Service.answer) =
      (run (ofGroups groups) actions).1 ∧
    (∀ found annotated, x.outcome = .incorrect found annotated →
      ∃ line, FirstLeft groups (before.flatMap Service.used) (line,annotated) ∧
        line ≤ x.site.lastLine ∧
        (Precedes groups x.site (line,annotated) ↔ ∀ g ∈ groups, g.1 ≤ x.site.lastLine →
          g ∈ before.flatMap Service.used ∨ g = (line,annotated))) ∧
    ∀ line name, Precedes groups x.site (line,name) → x.site.name = some name →
      ((∃ found annotated, x.outcome = .incorrect found annotated) ↔
        name ≠ "" ∧ ∃ g, FirstLeft groups (before.flatMap Service.used) g ∧ g.1 < line ∧ g.2 ≠ name) := by
  obtain ⟨left,order,outcome⟩ := servicesFind served
  have order : sortByLine groups = before.flatMap Service.used ++ left := order
  refine ⟨servicesAnswers _ actions,?_,?_⟩
  · intro found annotated incorrect
    obtain ⟨line,rest,rfl,above,_⟩ := incorrectIff.mp (outcome ▸ incorrect)
    have first := (firstLeftIff (g := (line,annotated)) lines order).mpr ⟨rest,rfl⟩
    exact ⟨line,first,above,precedesIffUsed lines order first above⟩
  · intro line name precedes given
    constructor
    · rintro ⟨found,annotated,incorrect⟩
      obtain ⟨line',rest,rfl,above,same,different,known⟩ := incorrectIff.mp (outcome ▸ incorrect)
      cases Option.some.inj (given.symm.trans same)
      have first := (firstLeftIff (g := (line',annotated)) lines order).mpr ⟨rest,rfl⟩
      refine ⟨(memKnown.mp known).1,_,first,?_,different.symm⟩
      refine Nat.lt_of_le_of_ne (precedes.2.2 _ first.1 above) fun level => different ?_
      exact (congrArg Prod.snd (List.inj_on_of_nodup_map lines first.1 precedes.1 level)).symm
    · rintro ⟨named,⟨line',annotated⟩,first,earlier,different⟩
      obtain ⟨rest,rfl⟩ := (firstLeftIff lines order).mp first
      have above : line' ≤ x.site.lastLine := Nat.le_trans (Nat.le_of_lt earlier) precedes.2.1
      have known := memKnown.mpr ⟨named,line,precedes.1⟩
      exact ⟨name,annotated,outcome.trans
        (incorrectIff.mpr ⟨line',rest,rfl,above,given,different.symm,known⟩)⟩

theorem settingLeftOver :
    let groups := [(1,"a"),(3,"b")]
    let x : Service := ⟨sampleSite 4 (some "b"),.incorrect "b" "a",[(1,"a")]⟩
    let actions := [.push x.site,.resolve]
    (groups.map Prod.fst).Nodup ∧ (services (ofGroups groups) actions).flatten = [x] ∧
    Precedes groups x.site (3,"b") ∧ x.site.name = some "b" ∧
    (run (ofGroups groups) actions).1 = [[(x.site,.incorrect "b" "a")]] ∧
    (∃ line, FirstLeft groups [] (line,"a") ∧ ¬ Precedes groups x.site (line,"a")) ∧
    ∃ g, FirstLeft groups [] g ∧ g.1 < 3 ∧ g.2 ≠ "b" := by
  intro groups x actions
  have lines : (groups.map Prod.fst).Nodup := by decide
  have sorted : sortByLine groups = groups := by
    simp [groups,sortByLine,List.mergeSort,List.MergeSort.Internal.splitInTwo]
  have one : services (ofGroups groups) actions = [[x]] := by
    simp [actions,services,ofGroups,sorted,groups,push,sortSites,serve,matchSite,judge,x,sampleSite]
  have served : (services (ofGroups groups) actions).flatten = [] ++ x :: [] := by
    rw [one]
    rfl
  have precedes : Precedes groups x.site (3,"b") := ⟨by decide,by decide,by decide⟩
  obtain ⟨answers,told,judged⟩ := incorrectByLeftOver lines served
  obtain ⟨line,first,_,onlyOne⟩ := told "b" "a" rfl
  refine ⟨lines,served,precedes,rfl,?_,⟨line,first,fun wrong => ?_⟩,?_⟩
  · rw [← answers,one]
    rfl
  · have used := onlyOne.mp wrong (3,"b") precedes.1 precedes.2.1
    simp at used
  · exact ((judged 3 "b" precedes rfl).mp ⟨"b","a",rfl⟩).2

end ConventionLint.Annotation.Matcher
