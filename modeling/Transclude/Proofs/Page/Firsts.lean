import Mathlib.Data.List.Induction
import Transclude.Page.Dependencies
import Transclude.Page.Inclusions

namespace Transclude

section
variable {α κ : Type} [DecidableEq κ]

/-- The items of a list that no earlier item shares its key with, in order. -/
def firsts (key : α → κ) : List α → List α
  | [] => []
  | a :: as => a :: (firsts key as).filter fun b => key b ≠ key a

variable {key : α → κ}

theorem firsts_eq_nil_iff {as : List α} : firsts key as = [] ↔ as = [] := by
  cases as <;> simp [firsts]

theorem mem_of_mem_firsts {a : α} {as : List α} (member : a ∈ firsts key as) : a ∈ as := by
  induction as with
  | nil => exact member
  | cons b as ih =>
    rcases List.mem_cons.1 member with rfl | later
    · exact List.mem_cons_self
    · exact List.mem_cons_of_mem _ (ih (List.mem_filter.1 later).1)

/-- No key is lost. -/
theorem mem_map_firsts_iff {k : κ} {as : List α} : k ∈ (firsts key as).map key ↔ k ∈ as.map key := by
  induction as with
  | nil => rfl
  | cons a as ih =>
    by_cases same : k = key a
    · simp [firsts, same]
    · rw [firsts, List.map_cons, List.mem_cons, List.map_cons, List.mem_cons, ← ih]
      simp only [same, false_or, List.mem_map, List.mem_filter, decide_eq_true_eq]
      constructor
      · rintro ⟨b, ⟨member, _⟩, rfl⟩
        exact ⟨b, member, rfl⟩
      · rintro ⟨b, member, rfl⟩
        exact ⟨b, ⟨member, same⟩, rfl⟩

theorem nodup_map_firsts (key : α → κ) (as : List α) : ((firsts key as).map key).Nodup := by
  induction as with
  | nil => exact List.nodup_nil
  | cons a as ih =>
    rw [firsts, List.map_cons, List.nodup_cons]
    constructor
    · simp
    · exact ih.sublist (List.filter_sublist.map key)

/-- Items are selected by what is kept of their keys. -/
theorem firsts_map {β : Type} {f : α → β} {key' : β → κ} (same : ∀ a, key' (f a) = key a)
    (as : List α) : firsts key' (as.map f) = (firsts key as).map f := by
  induction as with
  | nil => rfl
  | cons a as ih =>
    rw [List.map_cons, firsts, ih, firsts, List.map_cons, List.filter_map]
    congr 3
    funext b
    simp [same]

theorem firsts_of_nodup {as : List α} (distinct : (as.map key).Nodup) : firsts key as = as := by
  induction as with
  | nil => rfl
  | cons a as ih =>
    obtain ⟨fresh, later⟩ := List.nodup_cons.1 distinct
    rw [firsts, ih later]
    refine congrArg (a :: ·) (List.filter_eq_self.2 fun b member => decide_eq_true fun same => ?_)
    exact fresh (same ▸ List.mem_map_of_mem member)

theorem firsts_append (as bs : List α) :
    firsts key (as ++ bs) =
      firsts key as ++ (firsts key bs).filter fun b => key b ∉ as.map key := by
  induction as with
  | nil => exact (List.filter_eq_self.2 (by simp)).symm
  | cons a as ih =>
    rw [List.cons_append, firsts, ih, firsts, List.filter_append, List.filter_filter,
      List.cons_append]
    congr 3
    funext b
    simp [not_or]

theorem firsts_append_singleton (as : List α) (a : α) :
    firsts key (as ++ [a]) = if key a ∈ as.map key then firsts key as else firsts key as ++ [a] := by
  rw [firsts_append]
  by_cases known : key a ∈ as.map key
  · rw [if_pos known, firsts, List.filter_cons_of_neg (by simpa using known)]
    simp [firsts]
  · rw [if_neg known, firsts, List.filter_cons_of_pos (by simpa using known)]
    simp [firsts]

theorem nodup_map_append_filter {as bs : List α} (first : (as.map key).Nodup)
    (second : (bs.map key).Nodup) :
    ((as ++ bs.filter fun b => key b ∉ as.map key).map key).Nodup := by
  rw [List.map_append]
  refine List.nodup_append.2 ⟨first, second.sublist (List.filter_sublist.map key), ?_⟩
  rintro k member _ later rfl
  obtain ⟨b, kept, rfl⟩ := List.mem_map.1 later
  exact of_decide_eq_true (List.mem_filter.1 kept).2 member

/-- Of the items with a key the first one is kept. -/
theorem find?_firsts (k : κ) (as : List α) :
    ((firsts key as).find? fun a => key a = k) = as.find? fun a => key a = k := by
  induction as with
  | nil => rfl
  | cons a as ih =>
    by_cases same : key a = k
    · simp [firsts, same]
    · rw [firsts, List.find?_cons_of_neg (by simpa using same),
        List.find?_cons_of_neg (by simpa using same), ← ih, List.find?_filter]
      congr 1
      funext b
      by_cases here : key b = k
      · simp [here, Ne.symm same]
      · simp [here]

theorem find?_eq_some_of_mem_firsts {a : α} {as : List α} (member : a ∈ firsts key as) :
    (as.find? fun b => key b = key a) = some a := by
  induction as with
  | nil => cases member
  | cons b as ih =>
    rcases List.mem_cons.1 member with rfl | later
    · simp
    · obtain ⟨inside, other⟩ := List.mem_filter.1 later
      have apart : key b ≠ key a := Ne.symm (by simpa using other)
      rw [List.find?_cons_of_neg (by simpa using apart)]
      exact ih inside

end

namespace Dependencies

theorem items_push (d : Dependencies) (identifier : String) :
    (d.push identifier).1.items =
      if identifier = "" ∨ identifier ∈ d.items then d.items else d.items ++ [identifier] := by
  simp only [push, contains_iff]
  split <;> rfl

theorem ofList_append (as bs : List String) : ofList (as ++ bs) = (ofList as).pushAll bs :=
  List.foldl_append

/-- The dependencies that identifiers make are those that are not empty, where they occur first. -/
theorem items_ofList (identifiers : List String) :
    (ofList identifiers).items = firsts id (identifiers.filter (· ≠ "")) := by
  induction identifiers using List.reverseRecOn with
  | nil => rfl
  | append_singleton identifiers last ih =>
    rw [ofList_append, List.filter_append]
    change ((ofList identifiers).push last).1.items = _
    rw [items_push]
    by_cases empty : last = ""
    · simp [empty, ih]
    · have kept : last ∈ (firsts id (identifiers.filter (· ≠ ""))).map id ↔
          last ∈ (identifiers.filter (· ≠ "")).map id := mem_map_firsts_iff
      have known : last ∈ (ofList identifiers).items ↔
          id last ∈ (identifiers.filter (· ≠ "")).map id := by
        rw [ih, ← List.map_id (firsts _ _)]
        exact kept
      have single : [last].filter (· ≠ "") = [last] := by simp [empty]
      rw [single, firsts_append_singleton]
      by_cases member : last ∈ (ofList identifiers).items
      · rw [if_pos (.inr member), if_pos (known.1 member), ih]
      · rw [if_neg (by simp [empty, member]), if_neg (fun listed => member (known.2 listed)), ih]

theorem items_ofList_of_nodup {identifiers : List String} (distinct : identifiers.Nodup)
    (nonempty : "" ∉ identifiers) : (ofList identifiers).items = identifiers := by
  have kept : identifiers.filter (· ≠ "") = identifiers :=
    List.filter_eq_self.2 fun identifier member =>
      decide_eq_true fun empty : identifier = "" => nonempty (empty ▸ member)
  rw [items_ofList, kept, firsts_of_nodup (by simpa using distinct)]

end Dependencies

namespace Inclusions

theorem ofList_append_toList (as : List Inclusion) (inclusion : Option Inclusion) :
    ofList (as ++ inclusion.toList) = (ofList as).insertAny inclusion := by
  cases inclusion with
  | none => simp [insertAny]
  | some inclusion => simp [ofList, insertAny]

theorem entries_ofList (inclusions : List Inclusion) :
    (ofList inclusions).entries = firsts Inclusion.name inclusions := by
  induction inclusions using List.reverseRecOn with
  | nil => rfl
  | append_singleton inclusions last ih =>
    rw [show inclusions ++ [last] = inclusions ++ (some last).toList from rfl, ofList_append_toList]
    change ((ofList inclusions).insert last).1.entries = _
    have known : last.name ∈ (ofList inclusions).entries.map Inclusion.name ↔
        last.name ∈ inclusions.map Inclusion.name := by
      rw [ih, mem_map_firsts_iff]
    rw [show (some last).toList = [last] from rfl, firsts_append_singleton]
    by_cases member : last.name ∈ (ofList inclusions).entries.map Inclusion.name
    · rw [if_pos (known.1 member), ← ih, insert, dif_pos member]
    · rw [if_neg (fun listed => member (known.2 listed)), ← ih, insert, dif_neg member]
      rfl

theorem get?_ofList (inclusions : List Inclusion) (name : String) :
    (ofList inclusions).get? name = inclusions.find? fun i => i.name = name := by
  rw [get?, entries_ofList, find?_firsts]

end Inclusions

end Transclude
