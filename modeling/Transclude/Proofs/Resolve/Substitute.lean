import Transclude.Loader.Memory
import Transclude.Proofs.Resolve.Outcome

namespace Transclude

namespace Memory

variable {m : Memory}

/-- A batch of registered identifiers loads, and each of them is found among the values. -/
theorem load_of_registered {batch : List String}
    (registered : ∀ identifier ∈ batch, ∃ value, m.values.get? identifier = some value) :
    ∃ loaded, m.load batch = .ok loaded ∧
      ∀ identifier ∈ batch, (batch.zip loaded).lookup identifier = m.values.get? identifier := by
  induction batch with
  | nil => exact ⟨[], rfl, fun _ member => absurd member List.not_mem_nil⟩
  | cons identifier batch ih =>
    obtain ⟨value, held⟩ := registered identifier List.mem_cons_self
    obtain ⟨loaded, run, found⟩ := ih fun other member =>
      registered other (List.mem_cons_of_mem _ member)
    refine ⟨value :: loaded, ?_, fun other member => ?_⟩
    · have first : m.fetch identifier = .ok value := by rw [fetch, held]
      rw [load] at run
      simp [load, List.mapM_cons, first, run, bind, Except.bind, pure, Except.pure]
    · rw [List.zip_cons_cons, List.lookup_cons]
      by_cases same : other = identifier
      · simp [same, held]
      · have apart : (other == identifier) = false := by simpa using same
        rw [apart]
        exact found other ((List.mem_cons.1 member).resolve_left same)

end Memory

namespace Page

variable {p : Page} {m : Memory} {shown : String → String}

/-- A page whose dependencies are registered and whose inclusions render becomes its text with what they
show put in. -/
theorem substitute_of_registered (state : List (List String))
    (registered : ∀ identifier ∈ p.dependencies.items, ∃ value, m.values.get? identifier = some value)
    (loaded : ∀ i ∈ p.entries, i.name ∈ p.dependencies.items)
    (renders : ∀ i ∈ p.entries, ∃ value, m.values.get? i.name = some value ∧
      value.render i.data = .ok (shown i.name)) :
    (p.substitute m.loader state).1 =
      .ok (splice (p.entries.map fun i => (i.name, shown i.name)) p.resource) := by
  by_cases idle : p.dependencies.items = []
  · have none : p.entries = [] := List.eq_nil_iff_forall_not_mem.2 fun i member => by
      have listed := loaded i member
      simp [idle] at listed
    simp [substitute, idle, none, splice]
  · obtain ⟨values, run, found⟩ := Memory.load_of_registered registered
    have complete : (p.dependencies.items.find? fun identifier =>
        ((p.dependencies.items.zip values).lookup identifier).isNone) = none := by
      refine List.find?_eq_none.2 fun identifier member missing => ?_
      obtain ⟨value, held⟩ := registered identifier member
      simp [found identifier member, held] at missing
    have contents : p.entries.mapM (content (p.dependencies.items.zip values)) =
        .ok (p.entries.map fun i => (i.name, shown i.name)) := by
      refine mapM_eq_ok_iff.2 (List.forall₂_map_right_iff.2 (List.forall₂_same.2 fun i member => ?_))
      obtain ⟨value, held, rendered⟩ := renders i member
      simp only [content, found i.name (loaded i member), held, rendered]
    have filled : p.fill values =
        .ok (splice (p.entries.map fun i => (i.name, shown i.name)) p.resource) := by
      rw [fill_of_complete complete, contents]
    rw [substitute, if_neg (by simpa using idle)]
    simp only [Memory.loader, run, filled]

end Page

end Transclude
