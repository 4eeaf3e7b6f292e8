import Transclude.Proofs.Directive.NormalForm
import Transclude.Proofs.Loader.Folder
import Transclude.Proofs.Text.Letters

/-!
# Two readers of one loader

Directives and folders both look for a loader in front of an identifier, directives for a word and
folders for alphanumeric characters and `_`. They find the same loaders as long as no disputed character
stands in front of the first `!`, and a folder takes off what a directive has put in front if it is the
name of a loader (`readers_agree`). Options and tags may hold other texts for a loader, and those are put
in front as well.
-/

namespace Transclude

open Transclude.Text
open Transclude.Identifier (hasLoader hasLoader_iff withLoader withExtension hasExtension)
open Transclude.Folder (isLoaderName withoutLoader)

variable {identifier href loader : String}

theorem Folder.isLoaderName_iff {name : List Char} :
    isLoaderName name = true ↔ name ≠ [] ∧ ∀ c ∈ name, (isAlphanumeric c || c == '_') = true := by
  simp [isLoaderName]

/-- A folder takes a loader off an identifier exactly if a name of one stands in front of a `!`. -/
theorem Folder.withoutLoader_ne_iff :
    withoutLoader identifier ≠ identifier ↔
      ∃ name path, identifier.toList = name ++ '!' :: path ∧ isLoaderName name = true := by
  constructor
  · intro taken
    have names := names_withoutLoader identifier
    generalize withoutLoader identifier = path at taken names
    cases names with
    | @loaded loader path named => exact ⟨loader.toList, path.toList, by simp, named⟩
    | bare none => exact absurd rfl taken
  · rintro ⟨name, path, whole, named⟩ kept
    have written : identifier = String.ofList name ++ "!" ++ String.ofList path := by
      rw [← String.toList_inj, whole]
      simp
    rw [written, withoutLoader_of_isLoaderName (by simpa using named)] at kept
    have sized := congrArg (fun s => s.toList.length) kept
    simp only [String.toList_append, List.length_append] at sized
    have mark : "!".toList.length = 1 := rfl
    omega

/-- Only the name of a loader is taken off from in front of a path. -/
theorem Folder.isLoaderName_of_withoutLoader {path : String}
    (taken : withoutLoader (loader ++ "!" ++ path) = path) : isLoaderName loader.toList = true := by
  have names := names_withoutLoader (loader ++ "!" ++ path)
  rw [taken] at names
  generalize whole : loader ++ "!" ++ path = identifier at names
  cases names with
  | @loaded other path named =>
    have same : loader = other := by simpa using whole
    rw [same]
    exact named
  | bare none =>
    have sized := congrArg String.length whole
    simp at sized

/-- The extension of an identifier is that of the path behind its loader. -/
theorem Identifier.withExtension_loaded (loader path extension : String) :
    withExtension (loader ++ "!" ++ path) extension = loader ++ "!" ++ withExtension path extension := by
  have same : hasExtension (loader ++ "!" ++ path) = hasExtension path := by
    have whole : (loader ++ "!" ++ path).toList = loader.toList ++ '!' :: path.toList := by simp
    rw [hasExtension, whole, lastSegment_behind (.inr rfl), hasExtension]
  rw [withExtension, same, withExtension]
  split
  · rfl
  · simp only [String.append_assoc]

/-- Directives and folders find the same loaders where no disputed character is looked at. What is put in
front of a path is taken off again exactly if it is the name of a loader, and the file that is read is then
the one that the tag names. -/
theorem readers_agree :
    (∀ identifier,
      (∀ name path, splitOnce? '!' identifier.toList = some (name, path) → ∀ c ∈ name, ¬ Disputed c) →
      (hasLoader identifier = true ↔ withoutLoader identifier ≠ identifier)) ∧
    (∀ href loader, loader ≠ "" → hasLoader href = false →
      (withoutLoader (withLoader href loader) = href ↔ isLoaderName loader.toList = true)) ∧
    ∀ (kind : DirectiveKind) href a o, isLoaderName (kind.loader a o).toList = true →
      hasLoader href = false →
      withoutLoader (kind.identifier href a o) = withExtension href (kind.extension o) ∧
      ∀ (f : Folder) path, f.filePath (kind.identifier href a o) = .ok path →
        path = Files.join f.root (withExtension href (kind.extension o)) := by
  have put : ∀ href loader, loader ≠ "" → hasLoader href = false →
      withLoader href loader = loader ++ "!" ++ href := by
    intro href loader nonempty missing
    simp [withLoader, missing, nonempty]
  refine ⟨?_, ?_, ?_⟩
  · intro identifier undisputed
    have same : ∀ name path, identifier.toList = name ++ '!' :: path → '!' ∉ name →
        ∀ c ∈ name, isWord c = (isAlphanumeric c || c == '_') := by
      intro name path whole absent c member
      by_contra differ
      exact undisputed name path (splitOnce?_eq_some_iff.2 ⟨whole, absent⟩) c member
        (disputed_iff.2 differ)
    rw [hasLoader_iff, Folder.withoutLoader_ne_iff]
    constructor
    · rintro ⟨name, path, whole, nonempty, word⟩
      have absent : '!' ∉ name := fun member => absurd (word '!' member) (by decide)
      refine ⟨name, path, whole, Folder.isLoaderName_iff.2 ⟨nonempty, fun c member => ?_⟩⟩
      rw [← same name path whole absent c member]
      exact word c member
    · rintro ⟨name, path, whole, named⟩
      obtain ⟨nonempty, alphanumeric⟩ := Folder.isLoaderName_iff.1 named
      refine ⟨name, path, whole, nonempty, fun c member => ?_⟩
      rw [same name path whole (Folder.not_mem_of_isLoaderName named) c member]
      exact alphanumeric c member
  · intro href loader nonempty missing
    rw [put href loader nonempty missing]
    exact ⟨Folder.isLoaderName_of_withoutLoader, fun named =>
      Folder.withoutLoader_of_isLoaderName named href⟩
  · intro kind href a o named missing
    have nonempty : kind.loader a o ≠ "" := by simpa using (Folder.isLoaderName_iff.1 named).1
    have read : withoutLoader (kind.identifier href a o) = withExtension href (kind.extension o) := by
      rw [DirectiveKind.identifier_eq, put href _ nonempty missing, Identifier.withExtension_loaded,
        Folder.withoutLoader_of_isLoaderName named]
    refine ⟨read, fun f path accepted => ?_⟩
    rw [← read]
    exact (Folder.filePath_eq_ok_iff.1 accepted).2

/-- A loader with letters beyond ASCII, a path with a `!` that belongs to no loader, and a text that is no
name of a loader. -/
theorem readers_agree_letters :
    withoutLoader "été_2!a!b" ≠ "été_2!a!b" ∧
      withoutLoader (withLoader "a/b!c" "css") = "a/b!c" ∧
      withoutLoader (withLoader "c" "a/b") ≠ "c" ∧
      withoutLoader (DirectiveKind.inclusion.identifier "a/b!c" (Attributes.parse "type=été") .builtin) =
        "a/b!c.html" := by
  obtain ⟨same, off, read⟩ := readers_agree
  refine ⟨?_, (off "a/b!c" "css" (by decide) (by decide +kernel)).2 (by decide +kernel),
    fun taken => ?_, ?_⟩
  · refine (same "été_2!a!b" fun name path split c member => ?_).1 (by decide +kernel)
    rw [show splitOnce? '!' "été_2!a!b".toList = some ("été_2".toList, "a!b".toList) by decide +kernel]
      at split
    cases split
    rw [disputed_iff, not_not]
    exact forall_mem_of_all (p := fun c => isWord c = (isAlphanumeric c || c == '_'))
      (by decide +kernel) c member
  · have named := (off "c" "a/b" (by decide) (by decide +kernel)).1 taken
    exact absurd named (by decide +kernel)
  · have extended : withExtension "a/b!c" (DirectiveKind.inclusion.extension .builtin) = "a/b!c.html" := by
      decide +kernel
    rw [← extended]
    exact (read .inclusion "a/b!c" _ .builtin (by decide +kernel) (by decide +kernel)).1

/-- A text that is no name of a loader is put in front by a tag and left there by a folder. Disputed
characters make a loader for one reader and none for the other. -/
theorem readers_disagree :
    (hasLoader "c" = false ∧
      DirectiveKind.dependency.identifier "c" (Attributes.parse "type=a/b") .builtin =
        withLoader "c" "a/b" ∧
      withoutLoader (withLoader "c" "a/b") ≠ "c") ∧
    (hasLoader "²!c" = false ∧ withoutLoader "²!c" ≠ "²!c") ∧
    hasLoader "e\u0301!c" = true ∧ ¬ withoutLoader "e\u0301!c" ≠ "e\u0301!c" := by
  refine ⟨⟨?_, ?_, ?_⟩, ⟨?_, ?_⟩, ?_, ?_⟩ <;> decide +kernel

end Transclude
