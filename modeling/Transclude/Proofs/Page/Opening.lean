import Mathlib.Data.List.Induction
import Transclude.Directive.Tag
import Transclude.Proofs.Text.Occurrence

namespace Transclude

open Transclude.Text

/-- No tag with one of the names is opened in a text; an empty name names no tag. -/
def Unopened (names : List String) (text : List Char) : Prop :=
  ∀ name ∈ names, name ≠ "" → ¬ opening name <:+: text

theorem unopened_of_not_mem {text : List Char} (plain : '<' ∉ text) (names : List String) :
    Unopened names text := by
  intro name _ _ inside
  exact plain (inside.subset List.mem_cons_self)

/-- A text in which the first tag is opened behind `before`, and goes on with `rest` behind the
opening. -/
structure Opens (names : List String) (text before : List Char) (name : String)
    (rest : List Char) : Prop where
  whole : text = before ++ opening name ++ rest
  leftmost : ∀ other ∈ names, other ≠ "" →
    ∀ a b, text = a ++ opening other ++ b → before.length ≤ a.length
  listed : ∃ earlier later, names = earlier ++ name :: later ∧ name ≠ "" ∧
    ∀ other ∈ earlier, other ≠ "" → ¬ opening other <+: opening name ++ rest

namespace Opens

variable {names : List String} {text before rest : List Char} {name : String}

theorem mem (opens : Opens names text before name rest) : name ∈ names := by
  obtain ⟨earlier, later, rfl, -⟩ := opens.listed
  simp

theorem ne_empty (opens : Opens names text before name rest) : name ≠ "" := by
  obtain ⟨_, _, _, nonempty, _⟩ := opens.listed
  exact nonempty

/-- A text may start with the opening of the name that is listed first. -/
theorem start {name : String} (nonempty : name ≠ "") (names : List String) (rest : List Char) :
    Opens (name :: names) (opening name ++ rest) [] name rest where
  whole := rfl
  leftmost _ _ _ _ _ _ := Nat.zero_le _
  listed := ⟨[], names, rfl, nonempty, fun _ member => absurd member List.not_mem_nil⟩

theorem behind_of_not_mem {front : List Char} (plain : '<' ∉ front)
    (opens : Opens names text before name rest) :
    Opens names (front ++ text) (front ++ before) name rest where
  whole := by rw [opens.whole]; simp
  leftmost other member nonempty a b whole := by
    rw [List.append_assoc] at whole
    rcases List.append_eq_append_iff.1 whole with ⟨c, rfl, tail⟩ | ⟨c, rfl, tail⟩
    · have bound := opens.leftmost other member nonempty c b (by rw [tail, List.append_assoc])
      simp only [List.length_append]
      omega
    · cases c with
      | nil =>
        have bound := opens.leftmost other member nonempty [] b (by simpa using tail.symm)
        simp only [List.length_append, List.length_nil] at bound ⊢
        omega
      | cons c cs =>
        rw [opening, List.cons_append, List.cons_append] at tail
        obtain rfl := (List.cons.inj tail).1
        exact absurd (by simp) plain
  listed := opens.listed

theorem not_unopened (opens : Opens names text before name rest) : ¬ Unopened names text :=
  fun unopened => unopened name opens.mem opens.ne_empty ⟨before, rest, opens.whole.symm⟩

/-- No tag is opened in front of the first one. -/
theorem unopened_before (opens : Opens names text before name rest) : Unopened names before := by
  rintro other member nonempty ⟨a, b, occurs⟩
  have bound := opens.leftmost other member nonempty a (b ++ opening name ++ rest)
    (by rw [opens.whole, ← occurs]; simp)
  have longer := congrArg List.length occurs
  simp only [opening, List.length_append, List.length_cons] at bound longer
  omega

/-- A name listed in front of another one that opens a tag at the same place is not passed over. -/
private theorem listed_le {other : String} {later : List Char} {earlier behind front back : List String}
    (one : names = earlier ++ name :: behind)
    (first : ∀ n ∈ earlier, n ≠ "" → ¬ opening n <+: opening name ++ rest)
    (two : names = front ++ other :: back) (nonempty : other ≠ "")
    (same : opening name ++ rest = opening other ++ later) : earlier.length ≤ front.length := by
  by_contra less
  have inside : front.length < earlier.length := by omega
  have at_front : names[front.length]? = some other := by rw [two]; simp
  rw [one, List.getElem?_append_left inside] at at_front
  exact first other (List.mem_of_getElem? at_front) nonempty ⟨later, same.symm⟩

theorem unique {before' rest' : List Char} {name' : String}
    (opens : Opens names text before name rest) (opens' : Opens names text before' name' rest') :
    before = before' ∧ name = name' ∧ rest = rest' := by
  have sized : before.length = before'.length :=
    Nat.le_antisymm (opens.leftmost _ opens'.mem opens'.ne_empty _ _ opens'.whole)
      (opens'.leftmost _ opens.mem opens.ne_empty _ _ opens.whole)
  have both : before ++ (opening name ++ rest) = before' ++ (opening name' ++ rest') := by
    rw [← List.append_assoc, ← opens.whole, opens'.whole, List.append_assoc]
  obtain ⟨rfl, behind⟩ := List.append_inj both sized
  obtain ⟨earlier, later, one, nonempty, first⟩ := opens.listed
  obtain ⟨earlier', later', two, nonempty', first'⟩ := opens'.listed
  have level : earlier.length = earlier'.length :=
    Nat.le_antisymm (listed_le one first two nonempty' behind)
      (listed_le two first' one nonempty behind.symm)
  have lists := one.symm.trans two
  obtain ⟨rfl, tails⟩ := List.append_inj lists level
  obtain ⟨rfl, -⟩ := List.cons.inj tails
  exact ⟨rfl, rfl, List.append_cancel_left behind⟩

end Opens

/-- Of two beginnings of one text the one with fewer characters has fewer bytes. -/
theorem Text.size_le_size_iff {a b c d : List Char} (same : a ++ c = b ++ d) :
    size a ≤ size b ↔ a.length ≤ b.length := by
  constructor
  · intro fits
    by_contra longer
    obtain ⟨e, rfl⟩ := List.prefix_of_prefix_length_le ⟨d, same.symm⟩ ⟨c, rfl⟩ (by omega)
    cases e with
    | nil => simp at longer
    | cons e es =>
      have := e.utf8Size_pos
      simp only [size_append, size_cons] at fits
      omega
  · intro fits
    obtain ⟨e, rfl⟩ := List.prefix_of_prefix_length_le ⟨c, rfl⟩ ⟨d, same.symm⟩ fits
    simp

namespace TagMatch

theorem foldl_earlier_eq_none_iff {found : List TagMatch} :
    found.foldl earlier none = none ↔ found = [] := by
  induction found using List.reverseRecOn with
  | nil => simp
  | append_singleton found last ih =>
    rw [List.foldl_append]
    cases found.foldl earlier none with
    | none => simp [earlier]
    | some best =>
      by_cases less : last.position < best.position <;> simp [earlier, less]

/-- Of the tags that were found the one that is kept starts before those in front of it and no later
than those behind it. -/
theorem foldl_earlier_eq_some {found : List TagMatch} {best : TagMatch}
    (kept : found.foldl earlier none = some best) :
    ∃ front back, found = front ++ best :: back ∧
      (∀ other ∈ front, best.position < other.position) ∧
      ∀ other ∈ back, best.position ≤ other.position := by
  induction found using List.reverseRecOn generalizing best with
  | nil => simp at kept
  | append_singleton found last ih =>
    rw [List.foldl_append] at kept
    cases before : found.foldl earlier none with
    | none =>
      rw [foldl_earlier_eq_none_iff.1 before] at kept ⊢
      cases kept
      exact ⟨[], [], by simp⟩
    | some known =>
      obtain ⟨front, back, rfl, first, later⟩ := ih before
      simp only [before, List.foldl_cons, List.foldl_nil, earlier] at kept
      split at kept
      · next less =>
        cases kept
        refine ⟨front ++ known :: back, [], rfl, ?_, by simp⟩
        intro other member
        rcases List.mem_append.1 member with member | member
        · exact Nat.lt_trans less (first other member)
        · rcases List.mem_cons.1 member with rfl | member
          · exact less
          · exact Nat.lt_of_lt_of_le less (later other member)
      · next atLeast =>
        cases kept
        refine ⟨front, back ++ [last], by simp, first, ?_⟩
        intro other member
        rcases List.mem_append.1 member with member | member
        · exact later other member
        · rw [List.mem_singleton.1 member]
          exact Nat.le_of_not_lt atLeast

end TagMatch

/-- What the search knows about one name: where a tag with it is opened first. -/
private def candidate (start : Nat) (rest : List Char) (name : String) : Option TagMatch :=
  if name.isEmpty then none else TagMatch.first? name start rest

private theorem candidate_eq_none_iff {start : Nat} {rest : List Char} {name : String} :
    candidate start rest name = none ↔ (name ≠ "" → ¬ opening name <:+: rest) := by
  by_cases empty : name = ""
  · simp [candidate, empty]
  · simp [candidate, empty, TagMatch.first?, cut?_eq_none_iff]

private theorem candidate_eq_some {start : Nat} {rest : List Char} {name : String} {found : TagMatch}
    (known : candidate start rest name = some found) :
    ∃ before after, name ≠ "" ∧ rest = before ++ opening name ++ after ∧
      (∀ a b, rest = a ++ opening name ++ b → before.length ≤ a.length) ∧
      found = ⟨name, start + size before, start + size before + size (opening name)⟩ := by
  unfold candidate at known
  split at known
  · cases known
  · next nonempty =>
    obtain ⟨⟨before, after⟩, cut, rfl⟩ := Option.map_eq_some_iff.1 known
    obtain ⟨whole, leftmost⟩ := cut?_eq_some_iff.1 cut
    exact ⟨before, after, by simpa using nonempty, whole, leftmost, rfl⟩

private theorem findTag_eq_foldl (names : List String) (done rest : List Char) :
    findTag names (String.ofList (done ++ rest)) (size done) =
      (names.filterMap (candidate (size done) rest)).foldl TagMatch.earlier none := by
  rw [findTag, String.toList_ofList, splitAt?_append]
  rfl

/-- The search finds no tag exactly where none is opened. -/
theorem findTag_eq_none_iff {names : List String} {done rest : List Char} :
    findTag names (String.ofList (done ++ rest)) (size done) = none ↔ Unopened names rest := by
  rw [findTag_eq_foldl, TagMatch.foldl_earlier_eq_none_iff, List.filterMap_eq_nil_iff]
  exact forall_congr' fun name => imp_congr_right fun _ => candidate_eq_none_iff

private theorem opens_of_findTag {names : List String} {done rest : List Char} {found : TagMatch}
    (search : findTag names (String.ofList (done ++ rest)) (size done) = some found) :
    ∃ before after, Opens names rest before found.name after ∧
      found.position = size done + size before ∧
      found.tagStart = found.position + size (opening found.name) := by
  rw [findTag_eq_foldl] at search
  obtain ⟨front, back, all, first, later⟩ := TagMatch.foldl_earlier_eq_some search
  obtain ⟨ahead, behind, named, fronts, backs⟩ := List.filterMap_eq_append_iff.1 all
  obtain ⟨skipped, name, others, rfl, nothing, known, rfl⟩ := List.filterMap_eq_cons_iff.1 backs
  obtain ⟨before, after, nonempty, whole, leftmost, rfl⟩ := candidate_eq_some known
  -- Where another name is opened first, against where this one is.
  have compared : ∀ other, other ≠ "" → ∀ a b, rest = a ++ opening other ++ b →
      ∃ m c d, candidate (size done) rest other = some m ∧ m.position = size done + size c ∧
        c.length ≤ a.length ∧ rest = c ++ d := by
    intro other proper a b occurs
    cases case : candidate (size done) rest other with
    | none => exact absurd ⟨a, b, occurs.symm⟩ (candidate_eq_none_iff.1 case proper)
    | some m =>
      obtain ⟨c, d, _, there, least, rfl⟩ := candidate_eq_some case
      exact ⟨_, c, opening other ++ d, rfl, rfl, least a b occurs, by simpa using there⟩
  refine ⟨before, after, ⟨whole, ?_, ahead ++ skipped, others, by simp [named], nonempty, ?_⟩, rfl, rfl⟩
  · intro other member proper a b occurs
    obtain ⟨m, c, d, case, position, least, split⟩ := compared other proper a b occurs
    have listed : m ∈ names.filterMap (candidate (size done) rest) :=
      List.mem_filterMap.2 ⟨other, member, case⟩
    have atLeast : size done + size before ≤ m.position := by
      rw [all] at listed
      rcases List.mem_append.1 listed with inside | inside
      · exact Nat.le_of_lt (first m inside)
      · rcases List.mem_cons.1 inside with rfl | inside
        · exact Nat.le_refl _
        · exact later m inside
    have ordered : before.length ≤ c.length := by
      refine (size_le_size_iff (c := opening name ++ after) (d := d) ?_).1 (by omega)
      rw [← List.append_assoc, ← whole, split]
    exact Nat.le_trans ordered least
  · rintro other member proper ⟨b, occurs⟩
    have here : rest = before ++ opening other ++ b := by
      rw [whole, List.append_assoc, ← occurs, List.append_assoc]
    obtain ⟨m, c, d, case, position, least, split⟩ := compared other proper before b here
    rcases List.mem_append.1 member with inside | inside
    · have listed : m ∈ front := fronts ▸ List.mem_filterMap.2 ⟨other, inside, case⟩
      have less := first m listed
      have ordered : size c ≤ size before :=
        (size_le_size_iff (c := d) (d := opening name ++ after)
          (by rw [← List.append_assoc, ← whole, split])).2 least
      simp only at less
      omega
    · rw [nothing other inside] at case
      cases case

/-- The search answers with the first tag of what follows the place where it starts. -/
theorem findTag_eq_some_iff {names : List String} {done rest : List Char} {found : TagMatch} :
    findTag names (String.ofList (done ++ rest)) (size done) = some found ↔
      ∃ before after, Opens names rest before found.name after ∧
        found.position = size done + size before ∧
        found.tagStart = found.position + size (opening found.name) := by
  constructor
  · exact opens_of_findTag
  · rintro ⟨before, after, opens, position, tagStart⟩
    cases search : findTag names (String.ofList (done ++ rest)) (size done) with
    | none => exact absurd (findTag_eq_none_iff.1 search) opens.not_unopened
    | some other =>
      obtain ⟨before', after', opens', position', tagStart'⟩ := opens_of_findTag search
      obtain ⟨rfl, named, rfl⟩ := opens'.unique opens
      obtain ⟨name, p, t⟩ := other
      obtain ⟨name', p', t'⟩ := found
      simp only at named position position' tagStart tagStart'
      subst named
      rw [position', ← position] at tagStart' ⊢
      rw [tagStart', ← tagStart]

end Transclude
