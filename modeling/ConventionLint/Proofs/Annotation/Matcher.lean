import Mathlib.Data.List.Forall2
import ConventionLint.Annotation.Matcher
import ConventionLint.Proofs.Text.Cut

/-! A whole life of a matcher: calls are pushed and resolved in any order and number. The annotations are
used up from the front, each by one call at most, and every outcome tells what its call has used. -/
namespace ConventionLint.Annotation.Matcher

inductive Action where
  | push (s : Site)
  | resolve
  deriving DecidableEq, Repr

def run : Matcher → List Action → List (List (Site × Outcome)) × Matcher
  | m, [] => ([],m)
  | m, .push s :: actions => run (m.push s) actions
  | m, .resolve :: actions =>
    let (outcomes,next) := m.resolve
    let (more,last) := run next actions
    (outcomes :: more,last)

def pushed (waiting : List Site) : List Action → List (List Site)
  | [] => [waiting]
  | .push s :: actions => pushed (waiting ++ [s]) actions
  | .resolve :: actions => waiting :: pushed [] actions

/-- A call with its outcome and the annotations that are left before it but not after it. -/
structure Service where
  site : Site
  outcome : Outcome
  used : List (Nat × String)
  deriving DecidableEq, Repr

def Service.answer (x : Service) : Site × Outcome := (x.site,x.outcome)

def serve (known : List String) : List (Nat × String) → List Site → List Service
  | _, [] => []
  | left, s :: sites =>
    let (outcome,rest) := matchSite known left s
    ⟨s,outcome,left.take (left.length - rest.length)⟩ :: serve known rest sites

def services : Matcher → List Action → List (List Service)
  | _, [] => []
  | m, .push s :: actions => services (m.push s) actions
  | m, .resolve :: actions =>
    serve m.known m.left (sortSites m.sites) :: services m.resolve.2 actions

def Fits (s : Site) (g : Nat × String) : Prop :=
  g.1 ≤ s.lastLine ∧ (s.name = none ∨ s.name = some g.2)

structure Service.Sound (groups : List (Nat × String)) (x : Service) : Prop where
  atMostOne : x.used = [] ∨ ∃ g, x.used = [g] ∧ g.1 ≤ x.site.lastLine
  matched : ∀ name, x.outcome = .matched → x.site.name = some name →
    ∃ line, x.used = [(line,name)] ∧ line ≤ x.site.lastLine
  incorrect : ∀ found annotated, x.outcome = .incorrect found annotated →
    found ≠ annotated ∧ found ∈ groups.map Prod.snd ∧ ∃ line, x.used = [(line,annotated)]

section Call
variable {known : List String} {left : List (Nat × String)} {s : Site}

theorem matchSiteCases (known : List String) (left : List (Nat × String)) (s : Site) :
    matchSite known left s = (.missing,left) ∨
    ∃ line annotated rest, left = (line,annotated) :: rest ∧ line ≤ s.lastLine ∧
      matchSite known left s = (judge known annotated s.name,rest) := by
  cases left with
  | nil => exact .inl rfl
  | cons g rest =>
    obtain ⟨line,annotated⟩ := g
    by_cases above : line ≤ s.lastLine
    · exact .inr ⟨line,annotated,rest,rfl,above,by simp [matchSite,above]⟩
    · exact .inl (by simp [matchSite,above])

theorem judgeMatched {annotated name : String} (h : judge known annotated (some name) = .matched) :
    name = annotated := by
  unfold judge at h
  split at h
  · rename_i absent
    cases absent
  · rename_i found same
    cases same
    split at h
    · rename_i equal
      exact eq_of_beq equal
    · split at h <;> cases h

theorem judgeIncorrect {annotated found other : String} {name : Option String}
    (h : judge known annotated name = .incorrect found other) :
    other = annotated ∧ found ≠ annotated ∧ found ∈ known := by
  unfold judge at h
  split at h
  · cases h
  · split at h
    · cases h
    · rename_i different
      split at h
      · rename_i listed
        cases h
        exact ⟨rfl,by simpa using different,by simpa using listed⟩
      · cases h

theorem matchSiteFits {g : Nat × String} {rest : List (Nat × String)} (fits : Fits s g) :
    matchSite known (g :: rest) s = (.matched,rest) := by
  obtain ⟨line,annotated⟩ := g
  obtain ⟨above,named⟩ := fits
  simp only [matchSite,if_pos above,judge]
  rcases named with given | given <;> simp [given]

end Call

section Resolve
variable {known : List String} {left : List (Nat × String)} {sites : List Site}

theorem serveAnswers (known : List String) (left : List (Nat × String)) (sites : List Site) :
    (serve known left sites).map Service.answer = (matchSites known left sites).1 := by
  induction sites generalizing left with
  | nil => rfl
  | cons s sites ih => simp only [serve,matchSites,List.map_cons,Service.answer,ih]

theorem matchSitesOrder (known : List String) (left : List (Nat × String)) (sites : List Site) :
    (matchSites known left sites).1.map Prod.fst = sites := by
  induction sites generalizing left with
  | nil => rfl
  | cons s sites ih => simp only [matchSites,List.map_cons,ih]

theorem serveUses (known : List String) (left : List (Nat × String)) (sites : List Site) :
    left = (serve known left sites).flatMap Service.used ++ (matchSites known left sites).2 := by
  induction sites generalizing left with
  | nil => rfl
  | cons s sites ih =>
    simp only [serve,matchSites,List.flatMap_cons,List.append_assoc]
    rcases matchSiteCases known left s with kept | ⟨line,annotated,rest,rfl,_,taken⟩
    · rw [kept,← ih left]
      simp
    · rw [taken,← ih rest]
      simp

theorem serveSound {groups : List (Nat × String)} (listed : ∀ n ∈ known, n ∈ groups.map Prod.snd)
    (left : List (Nat × String)) (sites : List Site) :
    ∀ x ∈ serve known left sites, x.Sound groups := by
  induction sites generalizing left with
  | nil => exact fun x mem => by cases mem
  | cons s sites ih =>
    intro x mem
    simp only [serve,List.mem_cons] at mem
    rcases mem with rfl | mem
    · rcases matchSiteCases known left s with kept | ⟨line,annotated,rest,rfl,above,taken⟩
      · rw [kept]
        exact ⟨.inl (by simp),fun _ h => (by cases h),fun _ _ h => (by cases h)⟩
      · have used : ((line,annotated) :: rest).take (((line,annotated) :: rest).length - rest.length) =
            [(line,annotated)] := by simp
        rw [taken]
        refine ⟨.inr ⟨_,used,above⟩,fun name matched given => ?_,fun found other incorrect => ?_⟩
        · rw [given] at matched
          exact ⟨line,by rw [used,judgeMatched matched],above⟩
        · obtain ⟨rfl,different,mem⟩ := judgeIncorrect incorrect
          exact ⟨different,listed found mem,line,used⟩
    · exact ih _ x mem

theorem matchSitesFit (known : List String) {first : List (Nat × String)}
    (rest : List (Nat × String)) (fit : List.Forall₂ Fits sites first) :
    (∀ x ∈ (matchSites known (first ++ rest) sites).1, x.2 = .matched) ∧
      (matchSites known (first ++ rest) sites).2 = rest := by
  induction fit with
  | nil => exact ⟨fun x mem => (by cases mem),rfl⟩
  | cons fits _ ih =>
    simp only [List.cons_append,matchSites,matchSiteFits fits]
    exact ⟨List.forall_mem_cons.mpr ⟨rfl,ih.1⟩,ih.2⟩

end Resolve

section Order
variable {sites later : List Site}

theorem siteBeforeTrans (a b c : Site) (ab : siteBefore a b = true) (bc : siteBefore b c = true) :
    siteBefore a c = true := by
  simp only [siteBefore,Bool.or_eq_true,Bool.and_eq_true,decide_eq_true_eq,beq_iff_eq] at *
  omega

theorem siteBeforeTotal (a b : Site) : (siteBefore a b || siteBefore b a) = true := by
  simp only [siteBefore,Bool.or_eq_true,Bool.and_eq_true,decide_eq_true_eq,beq_iff_eq]
  omega

theorem sortSitesAppend (apart : ∀ a ∈ sites, ∀ b ∈ later, siteBefore a b = true) :
    sortSites (sites ++ later) = sortSites sites ++ sortSites later := by
  induction sites with
  | nil => simp [sortSites]
  | cons s sites ih =>
    have rest := ih fun a mem => apart a (List.mem_cons_of_mem s mem)
    obtain ⟨u,v,whole,parts,before⟩ :=
      List.mergeSort_cons siteBeforeTrans siteBeforeTotal s (sites ++ later)
    obtain ⟨u',v',whole',parts',before'⟩ :=
      List.mergeSort_cons siteBeforeTrans siteBeforeTotal s sites
    have after (l : List Site) {u v : List Site} (sorted : l.mergeSort siteBefore = u ++ s :: v) :
        ∀ a ∈ v, siteBefore s a = true := by
      have order := List.pairwise_mergeSort siteBeforeTrans siteBeforeTotal l
      rw [sorted] at order
      exact (List.pairwise_cons.mp (List.pairwise_append.mp order).2.1).1
    -- both orders are cut where the elements that come before the call end
    have same : u ++ v = u' ++ (v' ++ sortSites later) := by
      rw [← parts,← List.append_assoc,← parts']
      exact rest
    have cut : u = u' := by
      have left : (u ++ v).takeWhile (fun a => !siteBefore s a) = u :=
        (Text.spanned before fun a first => by simp [after _ whole a (List.mem_of_head? first)]).1
      have right : (u' ++ (v' ++ sortSites later)).takeWhile (fun a => !siteBefore s a) = u' := by
        refine (Text.spanned before' fun a first => ?_).1
        rcases List.mem_append.mp (List.mem_of_head? first) with mem | mem
        · simp [after _ whole' a mem]
        · simp [apart s List.mem_cons_self a (List.mem_mergeSort.mp mem)]
      rw [← left,same,right]
    subst cut
    rw [List.cons_append]
    unfold sortSites at same ⊢
    rw [whole,whole',List.append_cancel_left same]
    simp

theorem sortSitesFlatten {batches : List (List Site)}
    (inTurn : batches.Pairwise fun earlier later => ∀ a ∈ earlier, ∀ b ∈ later, siteBefore a b = true) :
    sortSites batches.flatten = (batches.map sortSites).flatten := by
  induction inTurn with
  | nil => simp [sortSites]
  | cons first _ ih =>
    rw [List.flatten_cons,List.map_cons,List.flatten_cons,← ih]
    refine sortSitesAppend fun a mem b inside => ?_
    obtain ⟨batch,hb,mem'⟩ := List.mem_flatten.mp inside
    exact first batch hb a mem b mem'

end Order

section Run
variable {m : Matcher} {actions : List Action}

theorem servicesAnswers (m : Matcher) (actions : List Action) :
    (services m actions).map (List.map Service.answer) = (run m actions).1 := by
  induction actions generalizing m with
  | nil => rfl
  | cons action actions ih =>
    cases action with
    | push s => exact ih (m.push s)
    | resolve => simp only [services,run,List.map_cons,ih,serveAnswers,resolve]

theorem servicesUse (m : Matcher) (actions : List Action) :
    m.left = (services m actions).flatten.flatMap Service.used ++ (run m actions).2.left := by
  induction actions generalizing m with
  | nil => rfl
  | cons action actions ih =>
    cases action with
    | push s => exact ih (m.push s)
    | resolve =>
      simp only [services,run,List.flatten_cons,List.flatMap_append,List.append_assoc]
      rw [← ih m.resolve.2]
      exact serveUses m.known m.left (sortSites m.sites)

theorem servicesSound {groups : List (Nat × String)} (listed : ∀ n ∈ m.known, n ∈ groups.map Prod.snd) :
    ∀ x ∈ (services m actions).flatten, x.Sound groups := by
  induction actions generalizing m with
  | nil => exact fun x mem => by cases mem
  | cons action actions ih =>
    cases action with
    | push s => exact ih (m := m.push s) listed
    | resolve =>
      intro x mem
      rcases List.mem_append.mp mem with mem | mem
      · exact serveSound listed m.left (sortSites m.sites) x mem
      · exact ih (m := m.resolve.2) listed x mem

theorem answersPushed (m : Matcher) (actions : List Action) :
    List.Forall₂ List.Perm ((run m actions).1.map (List.map Prod.fst) ++ [(run m actions).2.sites])
      (pushed m.sites actions) := by
  induction actions generalizing m with
  | nil => exact .cons (.refl _) .nil
  | cons action actions ih =>
    cases action with
    | push s => exact ih (m.push s)
    | resolve =>
      simp only [run,pushed,List.map_cons,List.cons_append]
      refine .cons ?_ (ih m.resolve.2)
      have order := matchSitesOrder m.known m.left (sortSites m.sites)
      simp only [resolve,order]
      exact List.mergeSort_perm m.sites siteBefore

theorem runFits (fit : List.Forall₂ Fits ((pushed m.sites actions).map sortSites).flatten m.left) :
    ∀ x ∈ (run m actions).1.flatten, x.2 = .matched := by
  induction actions generalizing m with
  | nil => exact fun x mem => by cases mem
  | cons action actions ih =>
    cases action with
    | push s => exact ih (m := m.push s) fit
    | resolve =>
      simp only [pushed,List.map_cons,List.flatten_cons] at fit
      have here := List.forall₂_take (sortSites m.sites).length fit
      have there := List.forall₂_drop (sortSites m.sites).length fit
      rw [List.take_left] at here
      rw [List.drop_left] at there
      have now := matchSitesFit m.known (m.left.drop (sortSites m.sites).length) here
      rw [List.take_append_drop] at now
      have next : m.resolve.2 = ⟨m.left.drop (sortSites m.sites).length,m.known,[]⟩ := by
        simp only [resolve,now.2]
      simp only [run,List.flatten_cons,List.forall_mem_append]
      refine ⟨now.1,?_⟩
      rw [next]
      exact ih (m := ⟨m.left.drop (sortSites m.sites).length,m.known,[]⟩) there

end Run

theorem knownListed (groups : List (Nat × String)) :
    ∀ n ∈ (ofGroups groups).known, n ∈ groups.map Prod.snd := by
  intro n mem
  obtain ⟨g,hg,rfl⟩ := List.mem_map.mp (List.mem_filter.mp mem).1
  exact List.mem_map_of_mem (List.mem_mergeSort.mp hg)

/-- Every call gets one outcome, from the first resolve after it. What has been used up is always a
prefix of the annotations by their lines, and the outcomes tell what their calls have used. If calls and
annotations fit one by one and no call comes before one that has been resolved, all are matched. -/
theorem usedInOrder (groups : List (Nat × String)) (actions : List Action) :
    (services (ofGroups groups) actions).map (List.map Service.answer) =
      (run (ofGroups groups) actions).1 ∧
    List.Forall₂ List.Perm ((run (ofGroups groups) actions).1.map (List.map Prod.fst) ++
      [(run (ofGroups groups) actions).2.sites]) (pushed [] actions) ∧
    sortByLine groups = (services (ofGroups groups) actions).flatten.flatMap Service.used ++
      (run (ofGroups groups) actions).2.left ∧
    (∀ x ∈ (services (ofGroups groups) actions).flatten, x.Sound groups) ∧
    (((pushed [] actions).Pairwise fun earlier later =>
        ∀ a ∈ earlier, ∀ b ∈ later, siteBefore a b = true) →
      List.Forall₂ Fits (sortSites (pushed [] actions).flatten) (sortByLine groups) →
      ∀ x ∈ (run (ofGroups groups) actions).1.flatten, x.2 = .matched) := by
  refine ⟨servicesAnswers _ actions,answersPushed _ actions,servicesUse (ofGroups groups) actions,
    servicesSound (knownListed groups),fun inTurn fit => ?_⟩
  rw [sortSitesFlatten inTurn] at fit
  exact runFits (m := ofGroups groups) fit

def sampleGroups : List (Nat × String) := [(7,"c"),(1,"a"),(4,"b")]

def sampleSite (line : Nat) (name : Option String) : Site := ⟨line,line,line + 1,4,name⟩

theorem usedInTwoTurns :
    let actions := [.push (sampleSite 4 none),.push (sampleSite 2 (some "a")),.resolve,
      .push (sampleSite 8 (some "c")),.resolve]
    ((pushed [] actions).Pairwise fun earlier later =>
      ∀ a ∈ earlier, ∀ b ∈ later, siteBefore a b = true) ∧
    List.Forall₂ Fits (sortSites (pushed [] actions).flatten) (sortByLine sampleGroups) ∧
    (run (ofGroups sampleGroups) actions).1.flatten.length = 3 ∧
    ∀ x ∈ (run (ofGroups sampleGroups) actions).1.flatten, x.2 = .matched := by
  intro actions
  have inTurn : (pushed [] actions).Pairwise fun earlier later =>
      ∀ a ∈ earlier, ∀ b ∈ later, siteBefore a b = true := by decide
  have sites : sortSites (pushed [] actions).flatten =
      [sampleSite 2 (some "a"),sampleSite 4 none,sampleSite 8 (some "c")] := by
    simp [actions,pushed,sortSites,siteBefore,sampleSite,List.mergeSort,List.MergeSort.Internal.splitInTwo]
  have groups : sortByLine sampleGroups = [(1,"a"),(4,"b"),(7,"c")] := by
    simp [sampleGroups,sortByLine,List.mergeSort,List.MergeSort.Internal.splitInTwo]
  have fit : List.Forall₂ Fits (sortSites (pushed [] actions).flatten) (sortByLine sampleGroups) := by
    rw [sites,groups]
    exact .cons ⟨by decide,.inr rfl⟩ (.cons ⟨by decide,.inl rfl⟩ (.cons ⟨by decide,.inr rfl⟩ .nil))
  refine ⟨inTurn,fit,?_,(usedInOrder sampleGroups actions).2.2.2.2 inTurn fit⟩
  simp [actions,run,ofGroups,resolve,push,matchSites,sortSites,siteBefore,sampleSite,List.mergeSort,
    List.MergeSort.Internal.splitInTwo]

theorem laterCallResolvedFirst :
    let groups := [(1,"a"),(4,"b")]
    let actions := [.push (sampleSite 8 (some "b")),.resolve,.push (sampleSite 5 (some "a")),.resolve]
    List.Forall₂ Fits (sortSites (pushed [] actions).flatten) (sortByLine groups) ∧
    ¬ ∀ x ∈ (run (ofGroups groups) actions).1.flatten, x.2 = .matched := by
  intro groups actions
  have sites : sortSites (pushed [] actions).flatten =
      [sampleSite 5 (some "a"),sampleSite 8 (some "b")] := by
    simp [actions,pushed,sortSites,siteBefore,sampleSite,List.mergeSort,List.MergeSort.Internal.splitInTwo]
  have sorted : sortByLine groups = [(1,"a"),(4,"b")] := by
    simp [groups,sortByLine,List.mergeSort,List.MergeSort.Internal.splitInTwo]
  have answers : (run (ofGroups groups) actions).1.flatten =
      [(sampleSite 8 (some "b"),.incorrect "b" "a"),(sampleSite 5 (some "a"),.incorrect "a" "b")] := by
    simp [actions,run,ofGroups,sorted,resolve,push,sortSites,matchSites,matchSite,judge,sampleSite]
  refine ⟨?_,fun all => ?_⟩
  · rw [sites,sorted]
    exact .cons ⟨by decide,.inr rfl⟩ (.cons ⟨by decide,.inr rfl⟩ .nil)
  · rw [answers] at all
    cases all _ List.mem_cons_self

end ConventionLint.Annotation.Matcher
