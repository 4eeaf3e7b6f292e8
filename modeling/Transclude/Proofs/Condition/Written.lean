import Transclude.Condition.Scan
import Transclude.Proofs.Decimal.Literal

namespace Transclude.Condition

open Transclude.Text

/-- A name: a letter, `_` or `$`, and behind it letters, numbers, `_`, `$` and `-`. -/
def IsName : List Char → Prop
  | [] => False
  | c :: cs => (isAlphabetic c = true ∨ c = '_' ∨ c = '$') ∧
      ∀ d ∈ cs, isAlphanumeric d = true ∨ d = '_' ∨ d = '$' ∨ d = '-'

/-- A string as it stands between two marks: with a backslash before every backslash and every mark. -/
def escape (mark : Char) (s : List Char) : List Char :=
  s.flatMap fun c => if c = '\\' ∨ c = mark then ['\\', c] else [c]

/-- The ways in which a token is written. -/
inductive Spelling : Token → List Char → Prop where
  | leftParen : Spelling .leftParen ['(']
  | rightParen : Spelling .rightParen [')']
  | leftBracket : Spelling .leftBracket ['[']
  | rightBracket : Spelling .rightBracket [']']
  | dot : Spelling .dot ['.']
  | not : Spelling .not ['!']
  | and : Spelling .and ['&', '&']
  | or : Spelling .or ['|', '|']
  | equal : Spelling .equal ['=', '=']
  | identical : Spelling .equal ['=', '=', '=']
  | unequal : Spelling .unequal ['!', '=']
  | unidentical : Spelling .unequal ['!', '=', '=']
  | name {s : String} (named : IsName s.toList) : Spelling (.name s) s.toList
  | number (d : Decimal.Plain) : Spelling (.number d.float) d.text
  | text {mark : Char} (quote : mark = '"' ∨ mark = '\'') (s : String) :
      Spelling (.text s) (mark :: (escape mark s.toList ++ [mark]))

/-- The texts that tokens are written as: one after the other with a blank at least between neighbours, and
with any blanks at the ends. -/
inductive Written : List Token → List Char → Prop where
  | nil : Written [] []
  | blank {ts : List Token} {c : Char} {text : List Char} (blank : isBlank c = true)
      (later : Written ts text) : Written ts (c :: text)
  | token {t : Token} {ts : List Token} {spelling text : List Char} (spelled : Spelling t spelling)
      (apart : StartsBlank text) (later : Written ts text) : Written (t :: ts) (spelling ++ text)

section
variable {mark : Char} {cs rest s : List Char}

@[simp] theorem readString_mark : readString mark (mark :: rest) = some ([], rest) := by
  cases rest <;> simp [readString]

theorem readString_backslash (unlike : mark ≠ '\\') (c : Char) :
    readString mark ('\\' :: c :: rest) = (readString mark rest).map fun (s, rest) => (c :: s, rest) := by
  rw [readString, if_neg (Ne.symm unlike), if_pos rfl]

theorem readString_plain {c : Char} (plain : c ≠ mark ∧ c ≠ '\\') (more : rest ≠ []) :
    readString mark (c :: rest) = (readString mark rest).map fun (s, rest) => (c :: s, rest) := by
  obtain ⟨e, cs, rfl⟩ := List.exists_cons_of_ne_nil more
  rw [readString, if_neg plain.1, if_neg plain.2]

/-- Any string is read back from between two marks. -/
theorem readString_escape (unlike : mark ≠ '\\') (s rest : List Char) :
    readString mark (escape mark s ++ mark :: rest) = some (s, rest) := by
  induction s with
  | nil => exact readString_mark
  | cons c s ih =>
    rw [escape, List.flatMap_cons, List.append_assoc, ← escape]
    by_cases special : c = '\\' ∨ c = mark
    · rw [if_pos special, List.cons_append, List.cons_append, List.nil_append,
        readString_backslash unlike, ih, Option.map_some]
    · rw [if_neg special, List.cons_append, List.nil_append,
        readString_plain (by tauto) (by simp), ih, Option.map_some]

end

/-- Blanks end names, numbers and signs. -/
theorem isBlank_ends {c : Char} (blank : isBlank c = true) :
    isNameChar c = false ∧ isNumberChar c = false ∧ c ≠ '=' := by
  have all : ∀ n ∈ blanks, isNameChar (Char.ofNat n) = false ∧ isNumberChar (Char.ofNat n) = false ∧
      Char.ofNat n ≠ '=' := by decide +kernel
  have member : c.toNat ∈ blanks := by simpa [isBlank] using blank
  simpa using all c.toNat member

theorem isBlank_of_isNameChar {c : Char} (named : isNameChar c = true) : isBlank c = false := by
  by_contra blank
  have := (isBlank_ends (by simpa using blank)).1
  simp [named] at this

/-- A character that is no sign starts a string, a number or a name. -/
theorem scan_of_not_sign {c : Char} (plain : c ∉ "().[]!=&|".toList) (rest : List Char) :
    scan c rest =
      if c = '"' ∨ c = '\'' then scanString c rest
      else if isDigit c || c == '-' then scanNumber c rest
      else if isNameStart c then .ok (scanName c rest)
      else .error (.unexpectedCharacter c) := by
  unfold scan
  split
  case h_10 => rfl
  all_goals exact absurd (by decide) plain

theorem scan_of_isNameStart {c : Char} (start : isNameStart c = true) (rest : List Char) :
    scan c rest = .ok (scanName c rest) := by
  have others : ∀ d ∈ "().[]!=&|".toList ++ "\"'-0123456789".toList, isNameStart d = false :=
    forall_mem_of_all (by decide +kernel)
  have unlike : ∀ d ∈ "().[]!=&|".toList ++ "\"'-0123456789".toList, c ≠ d := by
    rintro d member rfl
    simp [others c member] at start
  have plain : c ∉ "().[]!=&|".toList := fun member => unlike c (List.mem_append_left _ member) rfl
  have digit : isDigit c = false := by
    by_contra digit
    have member : c ∈ "\"'-".toList ++ "0123456789".toList :=
      List.mem_append_right _ (mem_digits_of_isDigit (by simpa using digit))
    exact unlike c (List.mem_append_right _ member) rfl
  rw [scan_of_not_sign plain, if_neg, digit, if_neg, if_pos start]
  · simpa using unlike '-' (by decide)
  · exact not_or.2 ⟨unlike '"' (by decide), unlike '\'' (by decide)⟩

section
variable {c : Char} {cs rest : List Char} (apart : StartsBlank rest)
include apart

theorem scanName_run (named : ∀ d ∈ cs, isNameChar d = true) :
    scanName c (cs ++ rest) = (.name (String.ofList (c :: cs)), rest) := by
  have ends : ∀ d ∈ rest.head?, isNameChar d = false := fun d member => (isBlank_ends (apart d member)).1
  rw [scanName, takeWhile_run named ends, dropWhile_run named ends]

theorem scanNumber_run (digits : ∀ d ∈ cs, isNumberChar d = true) {x : Float}
    (read : Decimal.read? (c :: cs) = some x) : scanNumber c (cs ++ rest) = .ok (.number x, rest) := by
  have ends : ∀ d ∈ rest.head?, isNumberChar d = false := fun d member =>
    (isBlank_ends (apart d member)).2.1
  rw [scanNumber, takeWhile_run digits ends, dropWhile_run digits ends, read]

end

section
variable {rest : List Char} (unsigned : ∀ after, rest ≠ '=' :: after)
include unsigned

theorem scan_not : scan '!' rest = .ok (.not, rest) := by
  simp only [scan]
  split
  · exact absurd rfl (unsigned _)
  · exact absurd rfl (unsigned _)
  · rfl

theorem scan_unequal : scan '!' ('=' :: rest) = .ok (.unequal, rest) := by
  simp only [scan]

theorem scan_equal : scan '=' ('=' :: rest) = .ok (.equal, rest) := by
  simp only [scan]

end

/-- A spelling of a token starts with something to see, and it is read to its end where a blank or
nothing follows. -/
theorem scan_of_spelling {t : Token} {spelling rest : List Char} (spelled : Spelling t spelling)
    (apart : StartsBlank rest) :
    ∃ c cs, spelling = c :: cs ∧ isBlank c = false ∧ scan c (cs ++ rest) = .ok (t, rest) := by
  have unsigned : ∀ after, rest ≠ '=' :: after := by
    rintro after rfl
    exact (isBlank_ends (startsBlank_cons.1 apart)).2.2 rfl
  cases spelled with
  | leftParen | rightParen | leftBracket | rightBracket | dot | and | or | identical | unidentical =>
    exact ⟨_, _, rfl, by decide, rfl⟩
  -- What follows is no `=`, which would belong to the sign.
  | not => exact ⟨_, _, rfl, by decide, scan_not unsigned⟩
  | equal => exact ⟨_, _, rfl, by decide, scan_equal unsigned⟩
  | unequal => exact ⟨_, _, rfl, by decide, scan_unequal unsigned⟩
  | @name s named =>
    cases same : s.toList with
    | nil => simp [same, IsName] at named
    | cons c cs =>
      rw [same] at named
      have start : isNameStart c = true := by simpa [isNameStart, or_assoc] using named.1
      have goes : ∀ d ∈ cs, isNameChar d = true := by simpa [isNameChar, or_assoc] using named.2
      have within : isNameChar c = true := by
        simp only [isNameStart, isNameChar, isAlphanumeric, Bool.or_eq_true] at start ⊢
        tauto
      refine ⟨c, cs, rfl, isBlank_of_isNameChar within, ?_⟩
      rw [scan_of_isNameStart start, scanName_run apart goes, ← same, String.ofList_toList]
  | number d =>
    obtain ⟨c, cs, split, first, behind⟩ := d.exists_cons_text
    have goes : ∀ x ∈ cs, isNumberChar x = true := by simpa [isNumberChar] using behind
    have starts : ∀ x ∈ '-' :: "0123456789".toList, isBlank x = false ∧ x ∉ "().[]!=&|".toList ∧
        ¬ (x = '"' ∨ x = '\'') := forall_mem_of_all (by decide)
    have member : c ∈ '-' :: "0123456789".toList :=
      List.mem_cons.2 (first.symm.imp_right mem_digits_of_isDigit)
    obtain ⟨solid, plain, unquoted⟩ := starts c member
    refine ⟨c, cs, split, solid, ?_⟩
    rw [scan_of_not_sign plain, if_neg unquoted, if_pos (by simpa using first)]
    exact scanNumber_run apart goes (split ▸ d.read?_text)
  | @text mark quote s =>
    refine ⟨mark, _, rfl, by rcases quote with rfl | rfl <;> decide, ?_⟩
    have plain : mark ∉ "().[]!=&|".toList := by rcases quote with rfl | rfl <;> decide
    have unlike : mark ≠ '\\' := by rcases quote with rfl | rfl <;> decide
    rw [scan_of_not_sign plain, if_pos quote, scanString, List.append_assoc, List.singleton_append,
      readString_escape unlike]
    simp only [String.ofList_toList]

theorem tokens_blank {c : Char} (blank : isBlank c = true) (rest : List Char) :
    tokens (c :: rest) = tokens rest := by
  rw [tokens, if_pos blank]

section
variable {c : Char} {rest after : List Char} {t : Token} {ts : List Token}

theorem tokens_of_scan (solid : isBlank c = false) (scanned : scan c rest = .ok (t, after)) :
    tokens (c :: rest) = (tokens after).map (t :: ·) := by
  rw [tokens, if_neg (by simp [solid])]
  split
  · next error failed =>
    rw [scanned] at failed
    cases failed
  · next u last found =>
    rw [scanned] at found
    cases found
    cases tokens after <;> rfl

theorem tokens_cons (solid : isBlank c = false) (scanned : scan c rest = .ok (t, after))
    (later : tokens after = .ok ts) : tokens (c :: rest) = .ok (t :: ts) := by
  rw [tokens_of_scan solid scanned, later]
  rfl

end

/-- A condition that is written out is read back as its tokens, and any string is read back from between
marks of either kind. -/
theorem tokens_of_written :
    (∀ ts text, Written ts text → tokens text = .ok ts) ∧
      ∀ (s : String) (mark : Char), mark = '"' ∨ mark = '\'' →
        tokens (mark :: (escape mark s.toList ++ [mark])) = .ok [.text s] := by
  have back : ∀ ts text, Written ts text → tokens text = .ok ts := by
    intro ts text written
    induction written with
    | nil => rw [tokens]
    | blank blank later ih => rw [tokens_blank blank, ih]
    | token spelled apart later ih =>
      obtain ⟨c, cs, rfl, solid, scanned⟩ := scan_of_spelling spelled apart
      exact tokens_cons solid scanned ih
  refine ⟨back, fun s mark quote => ?_⟩
  have written := Written.token (.text quote s) startsBlank_nil .nil
  simpa using back _ _ written

theorem tokens_of_written_mixed :
    tokens "! config . été-1\t!== -.5 && config [ \"it's \\\"\\\\\" ] ".toList =
        .ok [.not, .name "config", .dot, .name "été-1", .unequal, .number (.ofBits 0xBFE0000000000000),
          .and, .name "config", .leftBracket, .text "it's \"\\", .rightBracket] ∧
      tokens "'it\\'s \"\\\\'".toList = .ok [.text "it's \"\\"] := by
  let half : Decimal.Plain := ⟨true, [], some ['5'], forall_mem_of_all (by decide), by decide, by decide⟩
  have number : half.float = .ofBits 0xBFE0000000000000 := congrArg Float.ofBits (by decide +kernel)
  have config : Spelling (.name "config") "config".toList :=
    .name ⟨.inl (by decide), forall_mem_of_all (by decide)⟩
  have been : Spelling (.name "été-1") "été-1".toList :=
    .name ⟨.inl (by decide), forall_mem_of_all (by decide)⟩
  have spaced : ∀ {t ts spelling text}, Spelling t spelling → Written ts text →
      Written (t :: ts) (spelling ++ ' ' :: text) := fun spelled later =>
    .token spelled (startsBlank_cons.2 (by decide)) (.blank (by decide) later)
  have behind := spaced .unidentical <| spaced (.number half) <| spaced .and <| spaced config <|
    spaced .leftBracket <| spaced (.text (.inl rfl) "it's \"\\") <| spaced .rightBracket .nil
  have tab := Written.token been (startsBlank_cons.2 (by decide : isBlank '\t' = true))
    (.blank (by decide) behind)
  have written := spaced .not <| spaced config <| spaced .dot tab
  rw [number] at written
  exact ⟨tokens_of_written.1 _ _ written, tokens_of_written.2 "it's \"\\" '\'' (.inr rfl)⟩

end Transclude.Condition
