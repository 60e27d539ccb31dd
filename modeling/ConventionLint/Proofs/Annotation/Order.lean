import ConventionLint.Proofs.Annotation.Matcher
import ConventionLint.Proofs.List

/-! What the outcomes of a matcher do not depend on: the order in which annotations and calls are given,
and how calls are shared out among resolves, as long as none is resolved before an earlier one. -/
namespace ConventionLint.Annotation.Matcher

def place (s : Site) : Nat × Nat := (s.line,s.column)

def turns (batches : List (List Site)) : List Action :=
  batches.flatMap fun batch => batch.map .push ++ [.resolve]

def together (groups : List (Nat × String)) (sites : List Site) : List (Site × Outcome) :=
  (sites.foldl push (ofGroups groups)).resolve.1

section Sorting

theorem lineTrans (a b c : Nat × String) (ab : decide (a.1 ≤ b.1) = true)
    (bc : decide (b.1 ≤ c.1) = true) : decide (a.1 ≤ c.1) = true := by
  simp only [decide_eq_true_eq] at *
  omega

theorem lineTotal (a b : Nat × String) : (decide (a.1 ≤ b.1) || decide (b.1 ≤ a.1)) = true := by
  simp only [Bool.or_eq_true,decide_eq_true_eq]
  omega

theorem sortedByLine (groups : List (Nat × String)) :
    (sortByLine groups).Pairwise fun a b => a.1 ≤ b.1 :=
  (List.pairwise_mergeSort lineTrans lineTotal groups).imp of_decide_eq_true

theorem sortByLinePerm {groups groups' : List (Nat × String)} (lines : (groups.map Prod.fst).Nodup)
    (same : groups'.Perm groups) : sortByLine groups' = sortByLine groups := by
  refine mergeSortPerm lineTrans lineTotal (fun a ha b hb ab ba => ?_) same
  have equal := Nat.le_antisymm (of_decide_eq_true ab) (of_decide_eq_true ba)
  exact List.inj_on_of_nodup_map lines ha hb equal

theorem sortSitesPerm {sites sites' : List Site} (places : (sites.map place).Nodup)
    (same : sites'.Perm sites) : sortSites sites' = sortSites sites := by
  refine mergeSortPerm siteBeforeTrans siteBeforeTotal (fun a ha b hb ab ba => ?_) same
  refine List.inj_on_of_nodup_map places ha hb ?_
  simp only [siteBefore,Bool.or_eq_true,Bool.and_eq_true,decide_eq_true_eq,beq_iff_eq] at ab ba
  simp only [place,Prod.mk.injEq]
  omega

end Sorting

section Batches
variable {m : Matcher} {sites : List Site} {batches : List (List Site)}

theorem matchSitesAppend (known : List String) (left : List (Nat × String)) (sites later : List Site) :
    matchSites known left (sites ++ later) =
      ((matchSites known left sites).1 ++ (matchSites known (matchSites known left sites).2 later).1,
        (matchSites known (matchSites known left sites).2 later).2) := by
  induction sites generalizing left with
  | nil => rfl
  | cons s sites ih => simp only [List.cons_append,matchSites,ih]

theorem foldlPush (m : Matcher) (sites : List Site) :
    sites.foldl push m = ⟨m.left,m.known,m.sites ++ sites⟩ := by
  induction sites generalizing m with
  | nil => simp
  | cons s sites ih => simp [ih,push]

theorem runPushes (m : Matcher) (sites : List Site) (actions : List Action) :
    run m (sites.map .push ++ actions) = run (sites.foldl push m) actions := by
  induction sites generalizing m with
  | nil => rfl
  | cons s sites ih => exact ih (m.push s)

theorem runTurns (idle : m.sites = []) :
    (run m (turns batches)).1.flatten = (matchSites m.known m.left (batches.map sortSites).flatten).1 := by
  induction batches generalizing m with
  | nil => rfl
  | cons batch batches ih =>
    have step : run m (turns (batch :: batches)) =
        run (batch.foldl push m) (.resolve :: turns batches) := by
      simp only [turns,List.flatMap_cons,List.append_assoc,runPushes,List.singleton_append]
    have rest := ih (m := ⟨(matchSites m.known m.left (sortSites batch)).2,m.known,[]⟩) rfl
    rw [step,foldlPush,idle,List.nil_append]
    simp only [run,resolve,List.flatten_cons,List.map_cons,matchSitesAppend,rest]

end Batches

/-- Annotations with lines of their own and calls with places of their own have the same outcomes in
whatever order they are given, and also if the calls are resolved in several turns, none of them before
an earlier one. -/
theorem sameInAnyOrder {groups : List (Nat × String)} {sites : List Site}
    (lines : (groups.map Prod.fst).Nodup) (places : (sites.map place).Nodup) :
    (∀ groups' sites', groups'.Perm groups → sites'.Perm sites →
      together groups' sites' = together groups sites) ∧
    ∀ groups' batches, groups'.Perm groups → batches.flatten.Perm sites →
      (batches.Pairwise fun earlier later => ∀ a ∈ earlier, ∀ b ∈ later, siteBefore a b = true) →
      (run (ofGroups groups') (turns batches)).1.flatten = together groups sites := by
  have matched (sites' : List Site) (same : sites'.Perm sites) (groups' : List (Nat × String))
      (same' : groups'.Perm groups) : (matchSites (ofGroups groups').known (ofGroups groups').left
        (sortSites sites')).1 = together groups sites := by
    simp only [together,foldlPush,resolve,ofGroups,List.nil_append,sortByLinePerm lines same',
      sortSitesPerm places same]
  constructor
  · intro groups' sites' same same'
    rw [← matched sites' same' groups' same]
    simp only [together,foldlPush,resolve,ofGroups,List.nil_append]
  · intro groups' batches same same' inTurn
    rw [runTurns rfl,← sortSitesFlatten inTurn]
    exact matched batches.flatten same' groups' same

theorem sameInTwoTurns :
    let sites := [sampleSite 8 (some "c"),sampleSite 2 (some "a"),sampleSite 4 none]
    let batches := [[sampleSite 4 none,sampleSite 2 (some "a")],[sampleSite 8 (some "c")]]
    (sampleGroups.map Prod.fst).Nodup ∧ (sites.map place).Nodup ∧ sampleGroups.reverse ≠ sampleGroups ∧
    together sampleGroups.reverse sites.reverse = together sampleGroups sites ∧
    batches.flatten.Perm sites ∧
    (batches.Pairwise fun earlier later => ∀ a ∈ earlier, ∀ b ∈ later, siteBefore a b = true) ∧
    (run (ofGroups sampleGroups.reverse) (turns batches)).1.flatten = together sampleGroups sites := by
  intro sites batches
  have lines : (sampleGroups.map Prod.fst).Nodup := by decide
  have places : (sites.map place).Nodup := by decide
  have all : batches.flatten.Perm sites := by decide
  have inTurn : batches.Pairwise fun earlier later =>
      ∀ a ∈ earlier, ∀ b ∈ later, siteBefore a b = true := by decide
  obtain ⟨order,shared⟩ := sameInAnyOrder lines places
  exact ⟨lines,places,by decide,order _ _ (List.reverse_perm _) (List.reverse_perm _),all,inTurn,
    shared _ _ (List.reverse_perm _) all inTurn⟩

end ConventionLint.Annotation.Matcher
