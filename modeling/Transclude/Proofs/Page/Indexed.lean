import Mathlib.Data.Finset.Insert
import Transclude.Proofs.Page.Firsts

/-!
# Lists with an index

Whether an identifier is on a list can be read off the list, or off a set of its keys that is kept beside
it. `Indexed` keeps both and asks only the set. The set never parts from the list (`agrees_ofList`), so
that the dependencies and the inclusions of a page are the same in either form, and hold what was added
where it came first (`collected_firsts`).
-/

namespace Transclude

/-- A list and, beside it, the set of its keys. -/
structure Indexed (α : Type) where
  entries : List α := []
  keys : Finset String := ∅

namespace Indexed

section
variable {α : Type} (admits : α → Bool) (key : α → String)

/-- Adds an item to the list and its key to the set, and says whether it did: an item that is not
admitted, and one whose key is in the set, is not added. -/
def add (x : Indexed α) (a : α) : Indexed α × Bool :=
  if admits a = true ∧ key a ∉ x.keys then (⟨x.entries ++ [a], insert (key a) x.keys⟩, true)
  else (x, false)

def ofList (as : List α) : Indexed α :=
  as.foldl (fun x a => (x.add admits key a).1) {}

/-- The set holds the keys of the list, and no others. -/
def Agrees (x : Indexed α) : Prop :=
  ∀ k, k ∈ x.keys ↔ k ∈ x.entries.map key

variable {admits key} {x : Indexed α} {a : α}

theorem add_of_new (fresh : admits a = true ∧ key a ∉ x.keys) :
    x.add admits key a = (⟨x.entries ++ [a], insert (key a) x.keys⟩, true) := by
  rw [add, if_pos fresh]

theorem add_of_known (known : ¬ (admits a = true ∧ key a ∉ x.keys)) :
    x.add admits key a = (x, false) := by
  rw [add, if_neg known]

theorem add_snd_iff : (x.add admits key a).2 = true ↔ admits a = true ∧ key a ∉ x.keys := by
  by_cases fresh : admits a = true ∧ key a ∉ x.keys
  · simp [add_of_new fresh, fresh]
  · rw [add_of_known fresh]
    simpa using fresh

/-- What is added goes into both, so that they still agree. -/
theorem agrees_add (agrees : x.Agrees key) (a : α) : (x.add admits key a).1.Agrees key := by
  by_cases fresh : admits a = true ∧ key a ∉ x.keys
  · rw [add_of_new fresh]
    intro k
    rw [Finset.mem_insert, agrees k, List.map_append, List.mem_append, List.map_singleton,
      List.mem_singleton]
    exact or_comm
  · rw [add_of_known fresh]
    exact agrees

theorem ofList_append (as : List α) (a : α) :
    ofList admits key (as ++ [a]) = ((ofList admits key as).add admits key a).1 := by
  rw [ofList, List.foldl_append]
  rfl

theorem agrees_ofList (as : List α) : (ofList admits key as).Agrees key := by
  induction as using List.reverseRecOn with
  | nil => exact fun k => by simp [ofList]
  | append_singleton as a ih =>
    rw [ofList_append]
    exact agrees_add ih a

/-- The list holds the items that were admitted, where their keys came first. -/
theorem entries_ofList (as : List α) :
    (ofList admits key as).entries = firsts key (as.filter admits) := by
  induction as using List.reverseRecOn with
  | nil => rfl
  | append_singleton as a ih =>
    rw [ofList_append, List.filter_append]
    by_cases admitted : admits a = true
    · -- By the agreement the set answers as the list of what was admitted does.
      have known : key a ∈ (ofList admits key as).keys ↔ key a ∈ (as.filter admits).map key := by
        rw [agrees_ofList as (key a), ih, mem_map_firsts_iff]
      rw [List.filter_cons_of_pos admitted, List.filter_nil, firsts_append_singleton]
      by_cases member : key a ∈ (as.filter admits).map key
      · rw [if_pos member, add_of_known (fun fresh => fresh.2 (known.2 member)), ih]
      · rw [if_neg member, add_of_new ⟨admitted, fun listed => member (known.1 listed)⟩, ih]
    · rw [List.filter_cons_of_neg admitted, List.filter_nil, List.append_nil,
        add_of_known (fun fresh => admitted fresh.1), ih]

end

end Indexed

namespace Dependencies

variable {d : Dependencies} {identifier : String}

theorem push_snd_iff : (d.push identifier).2 = true ↔ identifier ≠ "" ∧ identifier ∉ d.items := by
  rw [← contains_iff, ← not_or, push]
  split <;> simp [*]

/-- An identifier that is said to be added makes the list longer, and no other does. -/
theorem push_snd_iff_length :
    (d.push identifier).2 = true ↔ d.items.length < (d.push identifier).1.items.length := by
  unfold push
  split <;> simp [add]

end Dependencies

namespace Inclusions

variable {r : Inclusions} {inclusion : Inclusion}

theorem insert_snd_iff :
    (r.insert inclusion).2 = true ↔ inclusion.name ∉ r.entries.map Inclusion.name := by
  unfold insert
  split <;> simp [*]

/-- An inclusion that is said to be added makes the list longer, and no other does. -/
theorem insert_snd_iff_length :
    (r.insert inclusion).2 = true ↔ r.entries.length < (r.insert inclusion).1.entries.length := by
  unfold insert
  split <;> simp [add]

theorem isSome_get?_iff {name : String} :
    (r.get? name).isSome = true ↔ name ∈ r.entries.map Inclusion.name := by
  simp [get?, List.find?_isSome]

end Inclusions

/-- Dependencies are the identifiers that were added and are not empty, and inclusions those that were
added, each where it came first; what adding answers, and what is found, is read off these lists. A set
of the keys beside either list gives the same answers. -/
theorem collected_firsts (identifiers : List String) (inclusions : List Inclusion) :
    let d := Dependencies.ofList identifiers
    let r := Inclusions.ofList inclusions
    let x := Indexed.ofList (· ≠ "") id identifiers
    let y := Indexed.ofList (fun _ => true) Inclusion.name inclusions
    (d.items = firsts id (identifiers.filter (· ≠ "")) ∧
      (∀ i, (d.push i).2 = true ↔ d.items.length < (d.push i).1.items.length) ∧
      ∀ i, d.contains i = true ↔ i ∈ d.items) ∧
    (r.entries = firsts Inclusion.name inclusions ∧
      (∀ i, (r.insert i).2 = true ↔ r.entries.length < (r.insert i).1.entries.length) ∧
      (∀ name, r.get? name = inclusions.find? fun i => i.name = name) ∧
      ∀ name, r.get? name = none ↔ ∀ i ∈ inclusions, i.name ≠ name) ∧
    (x.entries = d.items ∧ (∀ i, i ∈ x.keys ↔ d.contains i = true) ∧
      ∀ i, (x.add (· ≠ "") id i).2 = (d.push i).2) ∧
    (y.entries = r.entries ∧ (∀ name, name ∈ y.keys ↔ (r.get? name).isSome = true) ∧
      ∀ i, (y.add (fun _ => true) Inclusion.name i).2 = (r.insert i).2) := by
  intro d r x y
  have items : x.entries = d.items := by
    rw [Indexed.entries_ofList, Dependencies.items_ofList]
  have entries : y.entries = r.entries := by
    rw [Indexed.entries_ofList, Inclusions.entries_ofList, List.filter_true]
  have identifierKeys : ∀ i, i ∈ x.keys ↔ i ∈ d.items := fun i => by
    rw [Indexed.agrees_ofList identifiers i, List.map_id, items]
  have nameKeys : ∀ name, name ∈ y.keys ↔ name ∈ r.entries.map Inclusion.name := fun name => by
    rw [Indexed.agrees_ofList inclusions name, entries]
  refine ⟨⟨Dependencies.items_ofList identifiers, fun _ => Dependencies.push_snd_iff_length,
      fun _ => Dependencies.contains_iff⟩,
    ⟨Inclusions.entries_ofList inclusions, fun _ => Inclusions.insert_snd_iff_length,
      Inclusions.get?_ofList inclusions, fun name => ?_⟩,
    ⟨items, fun i => ?_, fun i => ?_⟩, ⟨entries, fun name => ?_, fun i => ?_⟩⟩
  · rw [Inclusions.get?_ofList, List.find?_eq_none]
    simp
  · rw [identifierKeys, Dependencies.contains_iff]
  · rw [Bool.eq_iff_iff, Indexed.add_snd_iff, Dependencies.push_snd_iff, id, identifierKeys]
    simp
  · rw [nameKeys, Inclusions.isSome_get?_iff]
  · rw [Bool.eq_iff_iff, Indexed.add_snd_iff, Inclusions.insert_snd_iff, nameKeys]
    simp

end Transclude
