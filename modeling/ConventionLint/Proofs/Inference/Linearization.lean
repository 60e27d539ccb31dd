import Mathlib.Data.List.Nodup
import ConventionLint.Inference.Hierarchy

/-! A merge keeps every list as a subsequence and repeats nothing, and it exists as soon as any list
without repetition does so. Greedy selection never spoils what is still to come: taking off heads only
shortens the lists. -/
namespace ConventionLint.Inference.Linearization

variable {α : Type} [DecidableEq α]

def live (lists : List (List α)) : List (List α) := lists.filter fun l => !l.isEmpty

omit [DecidableEq α] in
theorem memLive {lists : List (List α)} {l : List α} : l ∈ live lists ↔ l ∈ lists ∧ l ≠ [] := by
  simp [live]

theorem boundedDone {lists : List (List α)} (n : Nat) (empty : live lists = []) :
    mergeBounded n lists = some [] := by
  unfold mergeBounded
  exact if_pos (List.isEmpty_iff.mpr empty)

theorem boundedOut {lists : List (List α)} (more : live lists ≠ []) :
    mergeBounded 0 lists = none := by
  unfold mergeBounded
  exact if_neg (by simpa [live] using more)

theorem boundedStep {lists : List (List α)} (n : Nat) (more : live lists ≠ []) :
    mergeBounded (n + 1) lists = (nextHead? (live lists)).bind fun a =>
      (mergeBounded n ((live lists).map (dropHead a))).map (a :: ·) := by
  conv_lhs => unfold mergeBounded
  refine (if_neg (by simpa [live] using more)).trans ?_
  change ((nextHead? (live lists)).bind fun a =>
    (mergeBounded n ((live lists).map (dropHead a))).bind fun rest => some (a :: rest)) = _
  simp only [Option.map_eq_bind,Function.comp_def]

inductive Trace : List (List α) → List α → Prop where
  | done {lists} (empty : live lists = []) : Trace lists []
  | step {lists a rest} (next : nextHead? (live lists) = some a)
      (tail : Trace ((live lists).map (dropHead a)) rest) : Trace lists (a :: rest)

theorem traceOfBounded {n : Nat} {lists : List (List α)} {order : List α}
    (ok : mergeBounded n lists = some order) : Trace lists order := by
  induction n generalizing lists order with
  | zero =>
    by_cases empty : live lists = []
    · rw [boundedDone 0 empty] at ok
      cases Option.some.inj ok
      exact .done empty
    · simp [boundedOut empty] at ok
  | succ n ih =>
    by_cases empty : live lists = []
    · rw [boundedDone (n + 1) empty] at ok
      cases Option.some.inj ok
      exact .done empty
    · rw [boundedStep n empty,Option.bind_eq_some_iff] at ok
      obtain ⟨a,next,ok⟩ := ok
      obtain ⟨rest,tail,last⟩ := Option.map_eq_some_iff.mp ok
      subst order
      exact .step next (ih tail)

theorem nextHeadSource {lists : List (List α)} {a : α} (next : nextHead? lists = some a) :
    (∃ l ∈ lists, l.head? = some a) ∧ ∀ l ∈ lists, a ∉ l.tail := by
  have first := List.mem_of_find?_eq_some next
  have free := List.find?_some next
  refine ⟨List.mem_filterMap.mp first,?_⟩
  intro l mem
  have absent := free
  simp only [Bool.not_eq_true',List.any_eq_false] at absent
  simpa using absent l mem

theorem dropHeadCases (a : α) (l : List α) :
    l = a :: dropHead a l ∨ l.head? ≠ some a ∧ dropHead a l = l := by
  cases l with
  | nil => exact .inr ⟨by simp,rfl⟩
  | cons b bs =>
    by_cases same : b = a
    · exact .inl (by simp [dropHead,same])
    · exact .inr ⟨by simpa using same,by simp [dropHead,same]⟩

theorem dropHeadSublist (a : α) (l : List α) : (dropHead a l).Sublist l := by
  rcases dropHeadCases a l with taken | kept
  · conv_rhs => rw [taken]
    exact List.sublist_cons_self a _
  · rw [kept.2]

theorem traceKeeps {lists : List (List α)} {order l : List α} (trace : Trace lists order)
    (mem : l ∈ lists) : l.Sublist order := by
  induction trace generalizing l with
  | @done lists empty =>
    by_cases nothing : l = []
    · simp [nothing]
    · have : l ∈ live lists := memLive.mpr ⟨mem,nothing⟩
      simp [empty] at this
  | @step lists a rest next tail ih =>
    by_cases nothing : l = []
    · simp [nothing]
    · have kept := ih (List.mem_map_of_mem (memLive.mpr ⟨mem,nothing⟩))
      rcases dropHeadCases a l with taken | kept'
      · rw [taken]
        exact kept.cons_cons a
      · rw [kept'.2] at kept
        exact kept.cons a

theorem traceCovers {lists : List (List α)} {order : List α} {a : α} (trace : Trace lists order)
    (mem : a ∈ order) : ∃ l ∈ lists, a ∈ l := by
  induction trace with
  | done empty => simp at mem
  | @step lists b rest next tail ih =>
    rcases List.mem_cons.mp mem with rfl | later
    · obtain ⟨l,hl,head⟩ := (nextHeadSource next).1
      exact ⟨l,(memLive.mp hl).1,List.mem_of_mem_head? (by simp [head])⟩
    · obtain ⟨l,hl,inside⟩ := ih later
      obtain ⟨whole,hw,rfl⟩ := List.mem_map.mp hl
      exact ⟨whole,(memLive.mp hw).1,(dropHeadSublist b whole).subset inside⟩

theorem traceNodup {lists : List (List α)} {order : List α} (trace : Trace lists order) :
    order.Nodup := by
  induction trace with
  | done empty => exact List.nodup_nil
  | @step lists a rest next tail ih =>
    refine List.nodup_cons.mpr ⟨?_,ih⟩
    intro again
    obtain ⟨l,hl,inside⟩ := traceCovers tail again
    obtain ⟨whole,hw,rfl⟩ := List.mem_map.mp hl
    have free := (nextHeadSource next).2 whole hw
    rcases dropHeadCases a whole with taken | kept
    · exact free (by rw [taken]; exact inside)
    · cases whole with
      | nil => simp [dropHead] at inside
      | cons b bs =>
        rw [kept.2] at inside
        rcases List.mem_cons.mp inside with rfl | later
        · exact kept.1 rfl
        · exact free later

theorem nextHeadExists {lists : List (List α)} {s : List α} (present : lists ≠ [])
    (nonempty : ∀ l ∈ lists, l ≠ []) (unique : s.Nodup) (inside : ∀ l ∈ lists, l.Sublist s) :
    ∃ a, nextHead? lists = some a := by
  induction s with
  | nil =>
    obtain ⟨l,mem⟩ := List.exists_mem_of_ne_nil lists present
    exact absurd (List.sublist_nil.mp (inside l mem)) (nonempty l mem)
  | cons x s ih =>
    obtain ⟨fresh,unique⟩ := List.nodup_cons.mp unique
    by_cases starts : ∃ l ∈ lists, l.head? = some x
    · have free : ∀ l ∈ lists, x ∉ l.tail := by
        intro l mem inTail
        have tail : l.tail.Sublist s := by simpa using (inside l mem).tail
        exact fresh (tail.subset inTail)
      have found : (nextHead? lists).isSome := by
        refine List.find?_isSome.mpr ⟨x,List.mem_filterMap.mpr starts,?_⟩
        simpa using free
      exact Option.isSome_iff_exists.mp found
    · refine ih unique ?_
      intro l mem
      cases hl : l with
      | nil => exact absurd hl (nonempty l mem)
      | cons b bs =>
        have different : b ≠ x := by
          rintro rfl
          exact starts ⟨l,mem,by simp [hl]⟩
        have whole := inside l mem
        rw [hl] at whole
        cases whole with
        | cons _ rest => exact rest
        | cons_cons _ _ => exact absurd rfl different

theorem lengthDropHeads (a : α) (lists : List (List α)) :
    ((lists.map (dropHead a)).flatten).length ≤ lists.flatten.length := by
  induction lists with
  | nil => simp
  | cons l lists ih =>
    have := (dropHeadSublist a l).length_le
    simp only [List.map_cons,List.flatten_cons,List.length_append]
    omega

theorem lengthDropHeadsLess {a : α} {lists : List (List α)}
    (starts : ∃ l ∈ lists, l.head? = some a) :
    ((lists.map (dropHead a)).flatten).length < lists.flatten.length := by
  induction lists with
  | nil => simp at starts
  | cons l lists ih =>
    have whole := (dropHeadSublist a l).length_le
    have others := lengthDropHeads a lists
    simp only [List.map_cons,List.flatten_cons,List.length_append]
    by_cases first : l.head? = some a
    · rcases dropHeadCases a l with taken | kept
      · have := congrArg List.length taken
        simp only [List.length_cons] at this
        omega
      · exact absurd first kept.1
    · have : ∃ l ∈ lists, l.head? = some a := by
        obtain ⟨m,hm,head⟩ := starts
        rcases List.mem_cons.mp hm with rfl | later
        · exact absurd head first
        · exact ⟨m,later,head⟩
      have := ih this
      omega

omit [DecidableEq α] in
theorem lengthLive (lists : List (List α)) :
    (live lists).flatten.length ≤ lists.flatten.length := by
  induction lists with
  | nil => simp [live]
  | cons l lists ih =>
    by_cases nothing : l = [] <;> simp_all [live]

theorem boundedComplete {n : Nat} {lists : List (List α)} {s : List α} (unique : s.Nodup)
    (inside : ∀ l ∈ lists, l.Sublist s) (enough : lists.flatten.length ≤ n) :
    ∃ order, mergeBounded n lists = some order := by
  induction n generalizing lists with
  | zero =>
    have all : live lists = [] := by
      refine List.filter_eq_nil_iff.mpr ?_
      intro l mem
      have := List.length_eq_zero_iff.mp (Nat.le_zero.mp enough)
      simpa using List.flatten_eq_nil_iff.mp this l mem
    exact ⟨[],boundedDone 0 all⟩
  | succ n ih =>
    by_cases all : live lists = []
    · exact ⟨[],boundedDone (n + 1) all⟩
    · have within : ∀ l ∈ live lists, l.Sublist s := fun l mem => inside l (memLive.mp mem).1
      obtain ⟨a,next⟩ := nextHeadExists all (fun l mem => (memLive.mp mem).2) unique within
      have left : ∀ l ∈ (live lists).map (dropHead a), l.Sublist s := by
        intro l mem
        obtain ⟨whole,hw,rfl⟩ := List.mem_map.mp mem
        exact (dropHeadSublist a whole).trans (within whole hw)
      have shorter := lengthDropHeadsLess (nextHeadSource next).1
      have total := lengthLive lists
      obtain ⟨rest,tail⟩ := ih left (by omega)
      exact ⟨a :: rest,by simp [boundedStep n all,next,tail]⟩

theorem mergeKeeps {lists : List (List α)} {order l : List α} (ok : merge lists = some order)
    (mem : l ∈ lists) : l.Sublist order := traceKeeps (traceOfBounded ok) mem

theorem mergeCovers {lists : List (List α)} {order : List α} {a : α} (ok : merge lists = some order)
    (mem : a ∈ order) : ∃ l ∈ lists, a ∈ l := traceCovers (traceOfBounded ok) mem

theorem mergeNodup {lists : List (List α)} {order : List α} (ok : merge lists = some order) :
    order.Nodup := traceNodup (traceOfBounded ok)

theorem mergeExistsIff (lists : List (List α)) :
    (∃ order, merge lists = some order) ↔ ∃ s : List α, s.Nodup ∧ ∀ l ∈ lists, l.Sublist s := by
  constructor
  · rintro ⟨order,ok⟩
    exact ⟨order,mergeNodup ok,fun l mem => mergeKeeps ok mem⟩
  · rintro ⟨s,unique,inside⟩
    exact boundedComplete unique inside (Nat.le_refl _)

end ConventionLint.Inference.Linearization
