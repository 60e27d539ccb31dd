/-! Cutting a text at separators and searching it for a part. All functions scan from the left and
take the leftmost place; a text without the separator is one piece. -/

namespace ConventionLint.Text

def splitBy (p : Char → Bool) : List Char → List (List Char)
  | [] => [[]]
  | c :: cs =>
    if p c then [] :: splitBy p cs
    else match splitBy p cs with
      | [] => [[c]]
      | piece :: rest => (c :: piece) :: rest

def dropHead? : List Char → List Char → Option (List Char)
  | [], cs => some cs
  | _ :: _, [] => none
  | p :: ps, c :: cs => if p = c then dropHead? ps cs else none

def cutAt? (part : List Char) : List Char → Option (List Char × List Char)
  | [] => (dropHead? part []).map fun rest => ([], rest)
  | c :: cs =>
    match dropHead? part (c :: cs) with
    | some rest => some ([], rest)
    | none => (cutAt? part cs).map fun (before, rest) => (c :: before, rest)

def contains (part cs : List Char) : Bool := (cutAt? part cs).isSome

def replaceFirst (part substitute cs : List Char) : List Char :=
  match cutAt? part cs with
  | some (before, rest) => before ++ substitute ++ rest
  | none => cs

def joinWith (sep : List Char) : List (List Char) → List Char
  | [] => []
  | [piece] => piece
  | piece :: rest => piece ++ sep ++ joinWith sep rest

/-- Every place of `part`, found from the left without overlap, is dropped. The first argument bounds
the number of places and is at least the length of the text. -/
def eraseAllBounded (part : List Char) : Nat → List Char → List Char
  | 0, cs => cs
  | n + 1, cs =>
    match cutAt? part cs with
    | some (before, rest) => before ++ eraseAllBounded part n rest
    | none => cs

/-- `part` is assumed not to be empty. -/
def eraseAll (part cs : List Char) : List Char := eraseAllBounded part cs.length cs

theorem dropHead?_append (part rest : List Char) : dropHead? part (part ++ rest) = some rest := by
  induction part with
  | nil => rfl
  | cons c part ih => simp [dropHead?, ih]

theorem eq_append_of_dropHead? {part cs rest : List Char} (h : dropHead? part cs = some rest) :
    cs = part ++ rest := by
  induction part generalizing cs with
  | nil => simpa [dropHead?] using h
  | cons p part ih =>
    cases cs with
    | nil => simp [dropHead?] at h
    | cons c cs =>
      simp only [dropHead?] at h
      split at h
      · next e => rw [e, ih h]; rfl
      · contradiction

theorem eq_append_of_cutAt? {part cs before rest : List Char}
    (h : cutAt? part cs = some (before, rest)) : cs = before ++ part ++ rest := by
  induction cs generalizing before with
  | nil =>
    simp only [cutAt?, Option.map_eq_some_iff] at h
    obtain ⟨r, hr, e⟩ := h
    cases e
    simpa using eq_append_of_dropHead? hr
  | cons c cs ih =>
    simp only [cutAt?] at h
    split at h
    · next r hr =>
      cases h
      simpa using eq_append_of_dropHead? hr
    · simp only [Option.map_eq_some_iff] at h
      obtain ⟨⟨b, r⟩, hr, e⟩ := h
      cases e
      simpa using ih hr

theorem length_lt_of_cutAt? {part cs before rest : List Char}
    (h : cutAt? part cs = some (before, rest)) (nonempty : part ≠ []) :
    rest.length < cs.length := by
  have size := congrArg List.length (eq_append_of_cutAt? h)
  have := List.length_pos_iff.mpr nonempty
  simp at size
  omega

end ConventionLint.Text
