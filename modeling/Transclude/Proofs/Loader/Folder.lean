import Transclude.Loader.Folder
import Transclude.Proofs.Files.Path
import Transclude.Proofs.Text.Occurrence

/-!
# A folder is not left

An identifier that is accepted names a file below the root: the path that is read leads along the
components of the root and then along ordinary names only. Any other identifier is refused, and no file
is read for it (`filePath_confined`). The root is a path like any other, and links in the folder are not
looked at.
-/

namespace Transclude.Folder

open Transclude.Text
open Transclude.Files (components isAbsolute join moves segments moves_join moves_eq moves_eq_names
  ofSegment?_eq_some_iff Ordinary)

/-- The path that an identifier names: what follows the name of a loader and `!` if it starts with those,
and otherwise the whole of it. -/
inductive Names : String → String → Prop where
  | loaded {loader path : String} (named : isLoaderName loader.toList = true) :
      Names (loader ++ "!" ++ path) path
  | bare {identifier : String}
      (none : ∀ loader path, identifier = loader ++ "!" ++ path → isLoaderName loader.toList = false) :
      Names identifier identifier

theorem not_mem_of_isLoaderName {loader : List Char} (named : isLoaderName loader = true) :
    '!' ∉ loader := by
  intro member
  have all : ∀ c ∈ loader, isAlphanumeric c = true ∨ c = '_' := by
    simp only [isLoaderName, Bool.and_eq_true, List.all_eq_true, Bool.or_eq_true, beq_iff_eq] at named
    exact named.2
  exact absurd (all '!' member) (by decide)

theorem withoutLoader_of_isLoaderName {loader : String} (named : isLoaderName loader.toList = true)
    (path : String) : withoutLoader (loader ++ "!" ++ path) = path := by
  have split : splitOnce? '!' (loader ++ "!" ++ path).toList = some (loader.toList, path.toList) :=
    splitOnce?_eq_some_iff.2 ⟨by simp, not_mem_of_isLoaderName named⟩
  simp only [withoutLoader, split, named, if_true, String.ofList_toList]

theorem withoutLoader_of_bare {identifier : String}
    (none : ∀ loader path, identifier = loader ++ "!" ++ path → isLoaderName loader.toList = false) :
    withoutLoader identifier = identifier := by
  unfold withoutLoader
  split
  · next loader path split =>
    have whole : identifier = String.ofList loader ++ "!" ++ String.ofList path := by
      rw [← String.toList_inj, (splitOnce?_eq_some_iff.1 split).1]
      simp
    have unnamed := none _ _ whole
    rw [String.toList_ofList] at unnamed
    rw [unnamed]
    rfl
  · rfl

theorem names_withoutLoader (identifier : String) : Names identifier (withoutLoader identifier) := by
  by_cases loaded : ∃ loader path, identifier = loader ++ "!" ++ path ∧
      isLoaderName loader.toList = true
  · obtain ⟨loader, path, rfl, named⟩ := loaded
    rw [withoutLoader_of_isLoaderName named]
    exact .loaded named
  · have none : ∀ loader path, identifier = loader ++ "!" ++ path →
        isLoaderName loader.toList = false := by
      intro loader path whole
      cases named : isLoaderName loader.toList with
      | false => rfl
      | true => exact absurd ⟨loader, path, whole, named⟩ loaded
    rw [withoutLoader_of_bare none]
    exact .bare none

theorem names_iff {identifier path : String} :
    Names identifier path ↔ withoutLoader identifier = path := by
  constructor
  · intro names
    cases names with
    | loaded named => exact withoutLoader_of_isLoaderName named path
    | bare none => exact withoutLoader_of_bare none
  · rintro rfl
    exact names_withoutLoader identifier

/-- A path that leads along the components of a root and then along some names, of which none is `..`. -/
def Below (root path : String) (names : List String) : Prop :=
  (∀ name ∈ names, Ordinary name) ∧ moves path = moves root ++ names.map .name

/-- What is refused with an identifier. -/
def refusal (identifier : String) : LoadError :=
  { kind := .invalidIdentifier, identifier := some identifier, backend := some "Fs" }

/-- The components of a path go further down exactly if it is relative and no segment of it is `..`. -/
theorem all_descends_iff {path : String} :
    (components path).all descends = true ↔ isAbsolute path = false ∧ ".." ∉ segments path := by
  have same : (components path).all descends = true ↔ ∀ c ∈ moves path, descends c = true := by
    rw [List.all_eq_true, moves]
    constructor
    · intro all c member
      exact all c (List.mem_filter.1 member).1
    · intro all c member
      -- A `.` in front is no move, but it does not leave the folder either.
      by_cases here : c = .here
      · rw [here]
        rfl
      · exact all c (List.mem_filter.2 ⟨member, by simpa using here⟩)
  rw [same, moves_eq, List.forall_mem_append]
  apply and_congr
  · cases isAbsolute path <;> simp [descends]
  · constructor
    · intro all member
      have up := all .parent (List.mem_filterMap.2 ⟨"..", member, rfl⟩)
      cases up
    · intro down c member
      obtain ⟨s, segment, found⟩ := List.mem_filterMap.1 member
      cases c with
      | name s => rfl
      | root | here | parent =>
        obtain ⟨rfl, _⟩ := (ofSegment?_eq_some_iff (by simp)).1 found
        exact absurd segment down

/-- A path that may be read: not empty, relative, and without a segment that leads up. -/
def Inside (path : String) : Prop :=
  path ≠ "" ∧ path.toList.head? ≠ some '/' ∧ ".." ∉ segments path

section
variable {f : Folder} {identifier : String}

theorem inside_iff {path : String} :
    Inside path ↔ (path.isEmpty || !(components path).all descends) = false := by
  rw [Bool.or_eq_false_iff, Bool.not_eq_false', all_descends_iff]
  simp [Inside, isAbsolute]

theorem filePath_of_inside (inside : Inside (withoutLoader identifier)) :
    f.filePath identifier = .ok (join f.root (withoutLoader identifier)) := by
  rw [filePath, inside_iff.1 inside]
  rfl

theorem filePath_of_not_inside (outside : ¬ Inside (withoutLoader identifier)) :
    f.filePath identifier = .error (refusal identifier) := by
  rw [inside_iff, Bool.not_eq_false] at outside
  rw [filePath, outside]
  rfl

/-- An identifier is accepted exactly if the path that it names may be read. -/
theorem filePath_eq_ok_iff {path : String} :
    f.filePath identifier = .ok path ↔
      Inside (withoutLoader identifier) ∧ path = join f.root (withoutLoader identifier) := by
  by_cases inside : Inside (withoutLoader identifier)
  · rw [filePath_of_inside inside, Except.ok.injEq, eq_comm]
    exact (and_iff_right inside).symm
  · rw [filePath_of_not_inside inside]
    simp [inside]

theorem below_of_filePath {path : String} (accepted : f.filePath identifier = .ok path) :
    Below f.root path (Files.Tree.names (withoutLoader identifier)) := by
  obtain ⟨⟨_, start, down⟩, rfl⟩ := filePath_eq_ok_iff.1 accepted
  have relative : isAbsolute (withoutLoader identifier) = false := by simpa [isAbsolute] using start
  obtain ⟨along, ordinary⟩ := moves_eq_names relative down
  exact ⟨ordinary, by rw [moves_join relative, along]⟩

end

/-- The paths that are read for a batch, one after the other, until an identifier is refused or a file
cannot be read. -/
def reads (f : Folder) : List String → List String
  | [] => []
  | identifier :: batch =>
    match f.filePath identifier with
    | .error _ => []
    | .ok path =>
      match f.read path with
      | .error _ => [path]
      | .ok _ => path :: f.reads batch

section
variable {f : Folder} {identifier : String} {batch : List String}

theorem load_cons :
    f.load (identifier :: batch) =
      match f.fetch identifier with
      | .error error => .error error
      | .ok value => (f.load batch).map (value :: ·) := by
  rw [load, List.mapM_cons]
  cases f.fetch identifier with
  | error error => rfl
  | ok value =>
    rw [load]
    cases batch.mapM f.fetch <;> rfl

/-- Nothing is read but the paths of accepted identifiers. -/
theorem exists_identifier_of_mem_reads {path : String} (member : path ∈ f.reads batch) :
    ∃ identifier ∈ batch, f.filePath identifier = .ok path := by
  induction batch with
  | nil => cases member
  | cons identifier batch ih =>
    cases accepted : f.filePath identifier with
    | error error => simp [reads, accepted] at member
    | ok first =>
      have either : path = first ∨ path ∈ f.reads batch := by
        cases got : f.read first with
        | error fault => exact .inl (by simpa [reads, accepted, got] using member)
        | ok text => simpa [reads, accepted, got] using member
      rcases either with rfl | later
      · exact ⟨identifier, List.mem_cons_self, accepted⟩
      · obtain ⟨other, listed, named⟩ := ih later
        exact ⟨other, List.mem_cons_of_mem _ listed, named⟩

/-- Loading looks at no file but those that it reads. -/
theorem load_congr {read : String → Except Files.Fault String}
    (same : ∀ path ∈ f.reads batch, read path = f.read path) :
    ({ f with read } : Folder).load batch = f.load batch := by
  induction batch with
  | nil => rfl
  | cons identifier batch ih =>
    have path : ({ f with read } : Folder).filePath identifier = f.filePath identifier := rfl
    rw [load_cons, load_cons, fetch, fetch, path]
    cases accepted : f.filePath identifier with
    | error error => rfl
    | ok first =>
      have here : read first = f.read first := by
        refine same first ?_
        cases got : f.read first <;> simp [reads, accepted, got]
      simp only [here]
      -- A file that cannot be read ends the batch: only behind one that can be read is there more to read.
      cases got : f.read first with
      | error fault => rfl
      | ok text =>
        rw [ih fun path later => same path (by simp [reads, accepted, got, later])]

/-- Where an identifier is refused, loading stops, and nothing is read for it or for those behind it. -/
theorem load_refused (outside : ¬ Inside (withoutLoader identifier)) (before after : List String) :
    f.reads (before ++ identifier :: after) = f.reads before ∧
      f.load (before ++ identifier :: after) =
        (f.load before).bind fun _ => .error (refusal identifier) := by
  have refused : f.filePath identifier = .error (refusal identifier) := filePath_of_not_inside outside
  induction before with
  | nil =>
    constructor
    · simp [reads, refused]
    · rw [List.nil_append, load_cons, fetch, refused]
      rfl
  | cons first before ih =>
    constructor
    · rw [List.cons_append, reads, reads, ih.1]
    · rw [List.cons_append, load_cons, load_cons, ih.2]
      cases f.fetch first with
      | error error => rfl
      | ok value => cases f.load before <;> rfl

end

/-- An identifier names a path: what follows the name of a loader and `!`, or else the whole of it. It is
accepted exactly if that path is not empty, does not start with a slash, and has no segment `..`; the
path that is read for it then leads along the root and on along ordinary names only. Otherwise it is
refused as it stands, in any batch, and no file is read for it. Whatever is loaded, no path is looked at
that does not lead below the root. -/
theorem filePath_confined (f : Folder) (identifier : String) :
    ∃ named, Names identifier named ∧
      ((∃ path, f.filePath identifier = .ok path) ↔
        named ≠ "" ∧ named.toList.head? ≠ some '/' ∧ ".." ∉ segments named) ∧
      (∀ path, f.filePath identifier = .ok path → Below f.root path (Files.Tree.names named)) ∧
      ((¬ ∃ path, f.filePath identifier = .ok path) →
        f.filePath identifier = .error (refusal identifier) ∧
        ∀ before after,
          f.reads (before ++ identifier :: after) = f.reads before ∧
          f.load (before ++ identifier :: after) =
            (f.load before).bind fun _ => .error (refusal identifier)) ∧
      ∀ batch,
        (∀ path ∈ f.reads batch, ∃ names, Below f.root path names) ∧
        ∀ read, (∀ path ∈ f.reads batch, read path = f.read path) →
          ({ f with read } : Folder).load batch = f.load batch := by
  have accepted_iff : (∃ path, f.filePath identifier = .ok path) ↔ Inside (withoutLoader identifier) := by
    simp [filePath_eq_ok_iff]
  refine ⟨withoutLoader identifier, names_withoutLoader identifier, accepted_iff,
    fun path accepted => below_of_filePath accepted, fun refused => ?_, fun batch => ⟨?_, ?_⟩⟩
  · have outside : ¬ Inside (withoutLoader identifier) := fun inside => refused (accepted_iff.2 inside)
    exact ⟨filePath_of_not_inside outside, load_refused outside⟩
  · intro path member
    obtain ⟨other, _, accepted⟩ := exists_identifier_of_mem_reads member
    exact ⟨_, below_of_filePath accepted⟩
  · intro read same
    exact load_congr same

/-- A way up that a loader hides is refused, and so is a slash behind it; a second `!` belongs to the
path, which may be spelled with idle segments. -/
theorem filePath_confined_hidden :
    let f : Folder := ⟨"templates/", fun _ => .ok "text"⟩
    f.filePath "view!../secret" = .error (refusal "view!../secret") ∧
      f.reads ["view!../secret", "a"] = [] ∧
      f.filePath "text!/etc/passwd" = .error (refusal "text!/etc/passwd") ∧
      ∃ path, f.filePath "view!.//a!b/./c" = .ok path ∧
        moves path = [.name "templates", .name "a!b", .name "c"] := by
  intro f
  obtain ⟨named, names, accepted, _, refused, _⟩ := filePath_confined f "view!../secret"
  obtain ⟨named', names', accepted', _, refused', _⟩ := filePath_confined f "text!/etc/passwd"
  obtain ⟨named'', names'', accepted'', below, _, _⟩ := filePath_confined f "view!.//a!b/./c"
  rw [names_iff] at names names' names''
  subst names names' names''
  have up : ".." ∈ segments (withoutLoader "view!../secret") := by decide +kernel
  have start : (withoutLoader "text!/etc/passwd").toList.head? = some '/' := by decide +kernel
  obtain ⟨path, inside⟩ := accepted''.2 (by decide +kernel)
  have none := refused fun inside => (accepted.1 inside).2.2 up
  have none' := refused' fun inside => (accepted'.1 inside).2.1 start
  refine ⟨none.1, (none.2 [] ["a"]).1, none'.1, path, inside, ?_⟩
  rw [(below path inside).2]
  decide +kernel

end Transclude.Folder
