import Mathlib.Algebra.GroupWithZero.Nat
import Mathlib.Algebra.Order.Group.Nat
import Mathlib.Algebra.Order.BigOperators.Group.List
import Mathlib.Data.List.Flatten
import Mathlib.Data.List.Infix
import Mathlib.Data.List.Nodup
import Mathlib.Data.List.Sort

/-! Lists by their first and last elements, by what a filter leaves of them, and in order. A sort is stable, so it
makes no difference whether elements are left out before or after it, and the order of its input shows only where two
elements come before each other. -/
namespace ConventionLint

section Ends
variable {α : Type*}

theorem firstWrong {P : α → Prop} {as : List α} (wrong : ¬ ∀ a ∈ as, P a) :
    ∃ before a after, as = before ++ a :: after ∧ (∀ b ∈ before, P b) ∧ ¬ P a := by
  induction as with
  | nil => exact absurd nofun wrong
  | cons a as ih =>
    by_cases own : P a
    · obtain ⟨before,b,after,rfl,all,bad⟩ := ih fun all => wrong (List.forall_mem_cons.mpr ⟨own,all⟩)
      exact ⟨a :: before,b,after,rfl,List.forall_mem_cons.mpr ⟨own,all⟩,bad⟩
    · exact ⟨[],a,as,rfl,nofun,own⟩

theorem leTakeWhile {keep : α → Bool} {as : List α} {k : Nat} :
    k ≤ (as.takeWhile keep).length ↔ k ≤ as.length ∧ ∀ i < k, ∀ a, as[i]? = some a → keep a = true := by
  induction as generalizing k with
  | nil => simp
  | cons a as ih =>
    cases k with
    | zero => simp
    | succ k =>
      rw [List.takeWhile_cons]
      split
      · next kept =>
        rw [List.length_cons,List.length_cons,Nat.add_le_add_iff_right,Nat.add_le_add_iff_right,ih]
        refine and_congr_right fun _ => ⟨fun all i less b there => ?_,fun all i less b there => ?_⟩
        · cases i with
          | zero =>
            cases there
            exact kept
          | succ i => exact all i (by omega) b there
        · exact all (i + 1) (by omega) b there
      · next dropped =>
        refine ⟨fun le => absurd le (Nat.not_succ_le_zero k),fun all => ?_⟩
        exact absurd (all.2 0 (Nat.succ_pos k) a rfl) dropped

theorem lastUnfollowed {l : List α} {a d : α} (unique : l.Nodup)
    (last : l.getLast? = some a) : ¬ [a,d].Sublist l := by
  intro follows
  obtain ⟨before,rfl⟩ := List.getLast?_eq_some_iff.mp last
  have fresh : a ∉ before := by
    have := List.nodup_append.mp unique
    exact fun mem => this.2.2 a mem a (by simp) rfl
  obtain ⟨l,r,same,left,right⟩ := List.sublist_append_iff.mp follows
  cases l with
  | nil =>
    have := right.length_le
    simp [← show [a,d] = r from same] at this
  | cons b l =>
    have first : a = b := (List.cons.inj same).1
    exact fresh (left.subset (by simp [first]))

theorem sublistBeforeLast {l before : List α} {a : α}
    (inside : l.Sublist (before ++ [a])) (fresh : a ∉ l) : l.Sublist before := by
  obtain ⟨left,right,rfl,kept,rest⟩ := List.sublist_append_iff.mp inside
  cases right with
  | nil => simpa using kept
  | cons b right =>
    have : b = a := by simpa using rest.subset (List.mem_cons_self (a := b) (l := right))
    exact absurd (by simp [this]) fresh

theorem splitOnFree {c : Char} {cs piece : List Char} (mem : piece ∈ cs.splitOn c) : c ∉ piece := by
  induction cs generalizing piece with
  | nil => simp_all
  | cons d cs ih =>
    rw [List.splitOn_cons_eq_if_modifyHead] at mem
    split at mem
    · rcases List.mem_cons.mp mem with rfl | later
      · exact List.not_mem_nil
      · exact ih later
    · next other =>
      cases cut : cs.splitOn c with
      | nil => exact absurd cut (List.splitOn_ne_nil c cs)
      | cons first rest =>
        simp only [cut,List.modifyHead_cons,List.mem_cons] at mem ih
        rcases mem with rfl | later
        · have apart : c ≠ d := fun same => other (by simp [same])
          exact List.not_mem_cons_of_ne_of_not_mem apart (ih (.inl rfl))
        · exact ih (.inr later)

end Ends

section Filters
variable {α β : Type*}

theorem keptAll {p q : α → Bool} {f : α → β} {as : List α} (stronger : ∀ a, p a → q a) :
    (as.filter p).map f = (as.filter q).map f ↔ ∀ a ∈ as, q a → p a := by
  have part : as.filter p = (as.filter q).filter p := by
    rw [List.filter_filter]
    refine List.filter_congr fun a _ => ?_
    cases kept : p a with
    | false => rfl
    | true => rw [stronger a kept,Bool.and_true]
  constructor
  · intro same a mem wide
    have size := congrArg List.length same
    rw [List.length_map,List.length_map,part] at size
    exact List.length_filter_eq_length_iff.mp size a (List.mem_filter.mpr ⟨mem,wide⟩)
  · intro each
    rw [part,List.filter_eq_self.mpr]
    exact fun a mem => each a (List.mem_filter.mp mem).1 (List.mem_filter.mp mem).2

theorem keptByWeight {weight : α → Nat} (positive : ∀ a, 0 < weight a) {keep : α → Bool}
    {as : List α} (same : ((as.filter keep).map weight).sum = (as.map weight).sum) : ∀ a ∈ as, keep a := by
  induction as with
  | nil => exact nofun
  | cons a as ih =>
    by_cases kept : keep a
    · rw [List.filter_cons_of_pos kept,List.map_cons,List.map_cons,List.sum_cons,List.sum_cons] at same
      exact List.forall_mem_cons.mpr ⟨kept,ih (Nat.add_left_cancel same)⟩
    · have fewer : ((as.filter keep).map weight).sum ≤ (as.map weight).sum :=
        (List.filter_sublist.map weight).sum_le_sum fun _ _ => Nat.zero_le _
      have own := positive a
      rw [List.filter_cons_of_neg kept,List.map_cons,List.sum_cons] at same
      omega

theorem filterOwn {κ : Type*} [DecidableEq κ] {part : α → List β} {key : α → κ} {keyOf : β → κ}
    {as : List α} {a : α} (own : ∀ a ∈ as, ∀ b ∈ part a, keyOf b = key a) (apart : (as.map key).Nodup)
    (mem : a ∈ as) : ((as.flatMap part).filter fun b => keyOf b = key a) = part a := by
  induction as with
  | nil => cases mem
  | cons c as ih =>
    rw [List.forall_mem_cons] at own
    obtain ⟨fresh,apart⟩ := List.nodup_cons.mp apart
    rw [List.flatMap_cons,List.filter_append]
    rcases List.mem_cons.mp mem with rfl | later
    · have all : ((part a).filter fun b => keyOf b = key a) = part a :=
        List.filter_eq_self.mpr fun b here => decide_eq_true (own.1 b here)
      have others : ((as.flatMap part).filter fun b => keyOf b = key a) = [] := by
        refine List.filter_eq_nil_iff.mpr fun b here => ?_
        obtain ⟨c,listed,inPart⟩ := List.mem_flatMap.mp here
        rw [own.2 c listed b inPart,decide_eq_true_eq]
        exact fun same => fresh (same ▸ List.mem_map_of_mem listed)
      rw [all,others,List.append_nil]
    · have others : ((part c).filter fun b => keyOf b = key a) = [] := by
        refine List.filter_eq_nil_iff.mpr fun b here => ?_
        rw [own.1 b here,decide_eq_true_eq]
        exact fun same => fresh (same ▸ List.mem_map_of_mem later)
      rw [others,List.nil_append,ih own.2 apart later]

theorem nodupErased [BEq α] [LawfulBEq α] (as : List α) : as.eraseDups.Nodup := by
  induction size : as.length using Nat.strongRecOn generalizing as with
  | ind n ih =>
    cases as with
    | nil => exact List.nodup_nil
    | cons a as =>
      have fewer : (as.filter fun b => !b == a).length < n := by
        rw [← size]
        exact Nat.lt_succ_of_le (List.length_filter_le _ _)
      rw [List.eraseDups_cons,List.nodup_cons]
      exact ⟨by simp,ih _ fewer _ rfl⟩

end Filters

section Numbered
variable {α β : Type*} {l : List α}

theorem countNumbered {j : Nat} {a : α} (found : l[j]? = some a) (q : α × Nat → Bool) (k : Nat) :
    (l.zipIdx k).countP (fun e => q e && e.2 == k + j) = if q (a,k + j) then 1 else 0 := by
  induction l generalizing j k with
  | nil => simp at found
  | cons b l ih =>
    cases j with
    | zero =>
      obtain rfl : b = a := by simpa using found
      have behind : (l.zipIdx (k + 1)).countP (fun e => q e && e.2 == k) = 0 := by
        refine List.countP_eq_zero.mpr fun e mem hit => ?_
        have later := (List.mem_zipIdx mem).1
        simp only [Bool.and_eq_true,beq_iff_eq] at hit
        omega
      rw [Nat.add_zero,List.zipIdx_cons,List.countP_cons,behind]
      simp
    | succ j =>
      have same : k + (j + 1) = k + 1 + j := by omega
      have later : (k == k + 1 + j) = false := by
        rw [beq_eq_false_iff_ne]
        omega
      rw [same,List.zipIdx_cons,List.countP_cons,later,Bool.and_false,if_neg Bool.false_ne_true,
        Nat.add_zero]
      exact ih (by simpa using found) (k + 1)

theorem flatMapSingle [BEq α] [LawfulBEq α] (as : List α) (a : α) (bs : List β) :
    (as.flatMap fun x => if x == a then bs else []) = (List.replicate (as.count a) bs).flatten := by
  induction as with
  | nil => rfl
  | cons x as ih =>
    by_cases same : x == a
    · simp [ih,same,List.count_cons,List.replicate_succ]
    · simp [ih,same,List.count_cons]

theorem flatMapOne {as : List α} {n i : Nat} (inside : i < n) :
    ((List.range n).flatMap fun j => if j = i then as else []) = as := by
  induction n with
  | zero => omega
  | succ n ih =>
    rw [List.range_succ,List.flatMap_append,List.flatMap_singleton]
    by_cases last : n = i
    · have before : ((List.range n).flatMap fun j => if j = i then as else []) = [] := by
        refine List.flatMap_eq_nil_iff.mpr fun j mem => if_neg ?_
        have := List.mem_range.mp mem
        omega
      rw [before,if_pos last,List.nil_append]
    · rw [ih (by omega),if_neg last,List.append_nil]

end Numbered

section Partial
variable {α β : Type}

theorem mapMSource {f : α → Option β} {l : List α} {ys : List β}
    (ok : l.mapM f = some ys) :
    (∀ a ∈ l, ∃ y ∈ ys, f a = some y) ∧ ∀ y ∈ ys, ∃ a ∈ l, f a = some y := by
  induction l generalizing ys with
  | nil =>
    have same : ys = [] := by simpa using ok.symm
    simp [same]
  | cons a l ih =>
    simp only [List.mapM_cons,bind,Option.bind_eq_some_iff] at ok
    obtain ⟨y,hy,rest,hr,last⟩ := ok
    cases Option.some.inj last
    obtain ⟨left,right⟩ := ih hr
    constructor
    · intro b mem
      rcases List.mem_cons.mp mem with rfl | later
      · exact ⟨y,List.mem_cons_self,hy⟩
      · obtain ⟨z,hz,found⟩ := left b later
        exact ⟨z,List.mem_cons_of_mem _ hz,found⟩
    · intro z mem
      rcases List.mem_cons.mp mem with rfl | later
      · exact ⟨a,List.mem_cons_self,hy⟩
      · obtain ⟨b,hb,found⟩ := right z later
        exact ⟨b,List.mem_cons_of_mem _ hb,found⟩

theorem mapMExists {f : α → Option β} {l : List α}
    (each : ∀ a ∈ l, ∃ y, f a = some y) : ∃ ys, l.mapM f = some ys := by
  induction l with
  | nil => exact ⟨[],rfl⟩
  | cons a l ih =>
    obtain ⟨y,hy⟩ := each a List.mem_cons_self
    obtain ⟨ys,hys⟩ := ih fun b mem => each b (List.mem_cons_of_mem a mem)
    exact ⟨y :: ys,by simp [List.mapM_cons,hy,hys]⟩

theorem mapMCongr {f g : α → Option β} {l : List α}
    (same : ∀ a ∈ l, f a = g a) : l.mapM f = l.mapM g := by
  induction l with
  | nil => rfl
  | cons a l ih =>
    have head := same a List.mem_cons_self
    have tail := ih fun b mem => same b (List.mem_cons_of_mem a mem)
    simp only [List.mapM_cons,head,tail]

end Partial

section Sorted
variable {α : Type} {le : α → α → Bool}

theorem mergeSortPerm {as bs : List α}
    (trans : ∀ a b c, le a b = true → le b c = true → le a c = true)
    (total : ∀ a b, (le a b || le b a) = true)
    (apart : ∀ a ∈ as, ∀ b ∈ as, le a b = true → le b a = true → a = b) (same : bs.Perm as) :
    bs.mergeSort le = as.mergeSort le := by
  have perm : (bs.mergeSort le).Perm (as.mergeSort le) :=
    (List.mergeSort_perm bs le).trans (same.trans (List.mergeSort_perm as le).symm)
  refine perm.eq_of_pairwise (fun a b ha hb => ?_) (List.pairwise_mergeSort trans total bs)
    (List.pairwise_mergeSort trans total as)
  exact apart a (same.mem_iff.mp (List.mem_mergeSort.mp ha)) b (List.mem_mergeSort.mp hb)

theorem mergeSortCons (trans : ∀ a b c, le a b = true → le b c = true → le a c = true)
    (total : ∀ a b, (le a b || le b a) = true) (a : α) (as : List α) :
    (a :: as).mergeSort le = (as.mergeSort le).filter (fun b => !le a b) ++
      a :: (as.mergeSort le).filter (le a) := by
  obtain ⟨before,behind,all,rest,first⟩ := List.mergeSort_cons trans total a as
  have sorted := List.pairwise_mergeSort trans total (a :: as)
  rw [all] at sorted
  have later : ∀ b ∈ behind, le a b = true :=
    (List.pairwise_cons.mp (List.pairwise_append.mp sorted).2.1).1
  have earlier : ∀ b ∈ before, le a b = false := fun b mem => by simpa using first b mem
  have firstPart : (before ++ behind).filter (fun b => !le a b) = before := by
    rw [List.filter_append,List.filter_eq_self.mpr (by simpa using earlier),
      List.filter_eq_nil_iff.mpr (by simpa using later),List.append_nil]
  have lastPart : (before ++ behind).filter (le a) = behind := by
    rw [List.filter_append,List.filter_eq_nil_iff.mpr (by simpa using earlier),
      List.filter_eq_self.mpr later,List.nil_append]
  rw [all,rest,firstPart,lastPart]

theorem filterMergeSort (trans : ∀ a b c, le a b = true → le b c = true → le a c = true)
    (total : ∀ a b, (le a b || le b a) = true) (keep : α → Bool) (as : List α) :
    (as.mergeSort le).filter keep = (as.filter keep).mergeSort le := by
  induction as with
  | nil => simp
  | cons a as ih =>
    by_cases kept : keep a = true
    · rw [List.filter_cons_of_pos kept,mergeSortCons trans total,mergeSortCons trans total,← ih,
        List.filter_append,List.filter_cons_of_pos kept,List.filter_comm,List.filter_comm (le a)]
    · obtain ⟨before,behind,all,rest,_⟩ := List.mergeSort_cons trans total a as
      rw [List.filter_cons_of_neg kept,← ih,all,rest,List.filter_append,List.filter_append,
        List.filter_cons_of_neg kept]

theorem mergeSortCongr {le' : α → α → Bool} {as : List α}
    (same : ∀ a ∈ as, ∀ b ∈ as, le a b = le' a b) : as.mergeSort le = as.mergeSort le' := by
  simpa using List.map_mergeSort (f := id) same

theorem filterInFront {first : α → Bool} {as : List α}
    (sorted : as.Pairwise fun a b => first b = true → first a = true) :
    as = as.filter first ++ as.filter fun a => !first a := by
  induction sorted with
  | nil => rfl
  | @cons a as before _ ih =>
    by_cases here : first a = true
    · simpa [here] using ih
    · have others : ∀ b ∈ as, first b = false := fun b mem => by simpa [here] using before b mem
      have empty : as.filter first = [] := by simpa using others
      have whole : (as.filter fun b => !first b) = as := by simpa using others
      simp [here,empty,whole]

theorem sortedByKey {κ : Type} [LinearOrder κ] {key : α → κ} {as : List α} {ks : List κ}
    (sorted : as.Pairwise fun a b => key a ≤ key b) (strict : ks.Pairwise (· < ·))
    (covered : ∀ a ∈ as, key a ∈ ks) : as = ks.flatMap fun k => as.filter fun a => key a = k := by
  -- those of the least key are in front, and the other keys cover the rest
  induction strict generalizing as with
  | nil => exact List.eq_nil_iff_forall_not_mem.mpr fun a mem => List.not_mem_nil (covered a mem)
  | @cons k ks least _ ih =>
    have front : as.Pairwise fun a b => decide (key b = k) = true → decide (key a = k) = true := by
      refine sorted.imp_of_mem fun {a b} memA _ upTo here => ?_
      rw [decide_eq_true_eq] at here ⊢
      rcases List.mem_cons.mp (covered a memA) with same | later
      · exact same
      · exact absurd (least _ later) (by rw [← here]; exact upTo.not_gt)
    have below : ∀ a ∈ as.filter fun a => !decide (key a = k), key a ∈ ks := by
      intro a mem
      obtain ⟨listed,other⟩ := List.mem_filter.mp mem
      exact (List.mem_cons.mp (covered a listed)).resolve_left (by simpa using other)
    have others := ih (sorted.filter _) below
    rw [List.flatMap_cons]
    conv => lhs; rw [filterInFront front,others]
    congr 1
    refine List.flatMap_congr fun later mem => ?_
    rw [List.filter_filter]
    refine List.filter_congr fun a _ => ?_
    by_cases here : key a = later
    · simp [here,(least later mem).ne']
    · simp [here]

end Sorted

end ConventionLint
