namespace Transclude.Text

/-- What follows a piece of text that stands in front. -/
def after? : List Char → List Char → Option (List Char)
  | [], cs => some cs
  | _ :: _, [] => none
  | p :: piece, c :: cs => if p = c then after? piece cs else none

theorem after?_eq_some_iff {piece cs rest : List Char} :
    after? piece cs = some rest ↔ cs = piece ++ rest := by
  fun_induction after? piece cs with
  | case1 cs => simp
  | case2 p piece => simp
  | case3 p piece cs ih => simp [ih]
  | case4 p piece c cs other => simp [Ne.symm other]

/-- What stands before and behind the leftmost occurrence of a piece of text. -/
def cut? (piece : List Char) : List Char → Option (List Char × List Char)
  | [] => (after? piece []).map fun rest => ([], rest)
  | c :: cs =>
    match after? piece (c :: cs) with
    | some rest => some ([], rest)
    | none => (cut? piece cs).map fun (before, rest) => (c :: before, rest)

theorem eq_of_cut? {piece cs before rest : List Char} (found : cut? piece cs = some (before, rest)) :
    cs = before ++ piece ++ rest := by
  fun_induction cut? piece cs generalizing before with
  | case1 =>
    obtain ⟨_, here, same⟩ := Option.map_eq_some_iff.1 found
    simp only [Prod.mk.injEq] at same
    obtain ⟨rfl, rfl⟩ := same
    simpa using after?_eq_some_iff.1 here
  | case2 c cs rest here =>
    simp only [Option.some.injEq, Prod.mk.injEq] at found
    obtain ⟨rfl, rfl⟩ := found
    simpa using after?_eq_some_iff.1 here
  | case3 c cs _ ih =>
    obtain ⟨⟨later, _⟩, there, same⟩ := Option.map_eq_some_iff.1 found
    simp only [Prod.mk.injEq] at same
    obtain ⟨rfl, rfl⟩ := same
    simpa using ih there

/-- What stands before and behind the first occurrence of a separator. -/
def splitOnce? (separator : Char) : List Char → Option (List Char × List Char)
  | [] => none
  | c :: cs =>
    if c = separator then some ([], cs)
    else (splitOnce? separator cs).map fun (before, after) => (c :: before, after)

theorem splitOnce?_eq_some_iff {separator : Char} {cs before after : List Char} :
    splitOnce? separator cs = some (before, after) ↔
      cs = before ++ separator :: after ∧ separator ∉ before := by
  induction cs generalizing before with
  | nil => simp [splitOnce?]
  | cons c cs ih =>
    by_cases here : c = separator
    · subst here
      cases before with
      | nil => simp [splitOnce?]
      | cons b before => simp +contextual [splitOnce?]
    · cases before with
      | nil => simp [splitOnce?, here]
      | cons b before =>
        simp only [splitOnce?, here, if_false, Option.map_eq_some_iff, Prod.exists, Prod.mk.injEq,
          List.cons.injEq, List.cons_append, List.mem_cons, not_or]
        constructor
        · rintro ⟨x, y, found, ⟨rfl, rfl⟩, rfl⟩
          exact ⟨⟨rfl, (ih.1 found).1⟩, Ne.symm here, (ih.1 found).2⟩
        · rintro ⟨⟨rfl, same⟩, _, absent⟩
          exact ⟨before, after, ih.2 ⟨same, absent⟩, ⟨rfl, rfl⟩, rfl⟩

/-- Puts one text in the place of every occurrence of a piece. The search goes on behind each
occurrence, so that occurrences do not overlap and the new text is not searched. -/
def replaceAll (piece text cs : List Char) : List Char :=
  match cut? piece cs with
  | none => cs
  | some (before, rest) =>
    if rest.length < cs.length then before ++ text ++ replaceAll piece text rest else cs
termination_by cs.length

end Transclude.Text
