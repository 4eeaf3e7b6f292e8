import Transclude.Proofs.Condition.Evaluation
import Transclude.Proofs.Condition.Refusal
import Transclude.Proofs.Condition.Written

/-!
# Faults on a right side

A sign does not look at the value in front of it: behind a well-formed left side and `&&` or `||` the
readers do what they would do on the right side alone, up to the values. What is wrong with a right side
is therefore wrong with the whole, also where the left side settles the value (`evaluate_alike`).
-/

namespace Transclude.Condition

open Transclude.Text

/-- What a reading leaves behind it, or why it fails, whatever its value is. -/
def remainder {p : List Token → Prop} :
    Except ConditionError (Operand × { rest // p rest }) → Except ConditionError (List Token)
  | .error cause => .error cause
  | .ok (_, rest) => .ok rest.val

theorem SameCourse.remainder_eq {p : List Token → Prop}
    {x y : Except ConditionError (Operand × { rest // p rest })} (same : SameCourse x y) :
    remainder x = remainder y := by
  cases same with
  | refused error => rfl
  | read v w rest => rfl

theorem SameCourse.refl {ε α : Type} (x : Except ε (Operand × α)) : SameCourse x x := by
  cases x with
  | error error => exact .refused error
  | ok reading => exact .read _ _ _

section
variable {join : Join} {read : Reader} {t : Token} {ts : List Token}

/-- The value that a chain has come to does not matter to what it goes on with. -/
theorem remainder_continueChain (v w : Operand) (ts : List Token) :
    remainder (continueChain join read v ts) = remainder (continueChain join read w ts) :=
  (sameCourse_continueChain (fun ts => .refl (read ts)) v w ts).remainder_eq

/-- A chain goes on behind its first part. -/
theorem remainder_chain (ts : List Token) :
    remainder (chain join read ts) =
      match remainder (read ts) with
      | .error cause => .error cause
      | .ok rest => remainder (continueChain join read .null rest) := by
  unfold chain
  cases read ts with
  | error cause => rfl
  | ok reading =>
    obtain ⟨v, rest, shorter⟩ := reading
    simp only
    refine Eq.trans ?_ (remainder_continueChain v .null rest)
    cases continueChain join read v rest with
    | error cause => rfl
    | ok reading => rfl

/-- Behind one of its signs a chain goes on as one that starts there. -/
theorem remainder_behind_sign {f : Operand → Operand → Operand} (sign : join t = some f) (v : Operand) :
    remainder (continueChain join read v (t :: ts)) = remainder (chain join read ts) := by
  rw [remainder_chain, continueChain]
  simp only [sign]
  cases read ts with
  | error cause => rfl
  | ok reading =>
    obtain ⟨w, rest, shorter⟩ := reading
    simp only [remainder]
    refine Eq.trans ?_ (remainder_continueChain (f v w) .null rest)
    cases continueChain join read (f v w) rest with
    | error cause => rfl
    | ok reading => rfl

end

/-- What the reader of a strength makes of tokens that come behind a part of that strength. -/
def goesOn (o : Options) (group : Reader) (s : Strength) (ts : List Token) :
    Except ConditionError (List Token) :=
  match s with
  | .disjunction => remainder (continueChain joinOr (readerOf o group .conjunction) .null ts)
  | .conjunction => remainder (continueChain joinAnd (readerOf o group .equality) .null ts)
  | .equality => remainder (continueChain joinEqual (readerOf o group .negation) .null ts)
  | .negation => .ok ts
  | .primary => .ok ts

section
variable {join : Join} {read : Reader} {t : Token} {ts rs rest : List Token} {v : Operand}

theorem remainder_of_reads (first : Reads read ts v rest) : remainder (read ts) = .ok rest := by
  obtain ⟨shorter, run⟩ := first
  rw [run, remainder]

theorem remainder_chain_of_reads (first : Reads read ts v rest) :
    remainder (chain join read ts) = remainder (continueChain join read .null rest) := by
  rw [remainder_chain, remainder_of_reads first]

/-- A sign and the part behind it are read, and the chain goes on. -/
theorem remainder_part {f : Operand → Operand → Operand} (sign : join t = some f)
    (part : Reads read (rs ++ rest) v rest) :
    remainder (continueChain join read .null (t :: (rs ++ rest))) =
      remainder (continueChain join read .null rest) := by
  rw [remainder_behind_sign sign, remainder_chain_of_reads part]

end

section
variable {o : Options} {depth : Nat} {ls rs rest : List Token} {l : Expr}

/-- What the grammar derives is read, and the reader goes on with what comes behind it. -/
theorem remainder_of_derives {s : Strength} (derived : Derives s ls l) (deep : l.nesting ≤ depth)
    (follows : Follows s rest) :
    remainder (readerOf o (groupReader o depth) s (ls ++ rest)) =
      goesOn o (groupReader o depth) s rest := by
  -- A part that binds stronger than the chain it stands in is read to its end.
  have part : ∀ {s s' : Strength} {ts rest : List Token} {e : Expr}, s.rank < s'.rank →
      Derives s' ts e → e.nesting ≤ depth → Follows s rest →
      Reads (readerOf o (groupReader o depth) s') (ts ++ rest) (e.value o) rest :=
    fun less derived deep follows => reads_of_derives derived deep (follows.mono (Nat.le_of_lt less))
      (proceeds_of_ends (follows.ends less) _)
  have whole := derived
  induction derived generalizing rest with
  | disjunction only | conjunction only | equality only =>
    exact remainder_chain_of_reads (part (by decide) only deep follows)
  | or left right ihl _ | and left right ihl _ | equal left right ihl _ | unequal left right ihl _ =>
    obtain ⟨inL, inR⟩ := Nat.max_le.1 deep
    rw [List.append_assoc, List.cons_append, ihl inL (follows_cons rfl (by decide) (by decide)) left]
    exact remainder_part rfl (part (by decide) right inR follows)
  | _ => exact remainder_of_reads (reads_of_derives whole deep follows ⟨rfl, rfl⟩)

/-- Behind a well-formed left side of `||` a condition reads as its right side alone. -/
theorem remainder_behind_or (left : Derives .disjunction ls l) (deep : l.nesting ≤ depth)
    (rs : List Token) :
    remainder (readerOf o (groupReader o depth) .disjunction (ls ++ .or :: rs)) =
      remainder (readerOf o (groupReader o depth) .disjunction rs) := by
  rw [remainder_of_derives left deep (follows_cons rfl (by decide) (by decide))]
  exact remainder_behind_sign rfl _

private theorem remainder_behind_conjunction (left : Derives .conjunction ls l)
    (deep : l.nesting ≤ depth) (rs : List Token) :
    remainder (readerOf o (groupReader o depth) .disjunction (ls ++ .and :: rs)) =
      remainder (readerOf o (groupReader o depth) .disjunction rs) := by
  have inner : remainder (readerOf o (groupReader o depth) .conjunction (ls ++ .and :: rs)) =
      remainder (readerOf o (groupReader o depth) .conjunction rs) := by
    rw [remainder_of_derives left deep (follows_cons rfl (by decide) (by decide))]
    exact remainder_behind_sign rfl _
  calc remainder (readerOf o (groupReader o depth) .disjunction (ls ++ .and :: rs))
    _ = _ := remainder_chain _
    _ = _ := by rw [show chain joinAnd (chain joinEqual (negated (operand o (groupReader o depth)))) =
                  readerOf o (groupReader o depth) .conjunction from rfl, inner]
    _ = _ := (remainder_chain rs).symm

/-- Behind a well-formed left side of `&&` a condition reads as its right side alone. -/
theorem remainder_behind_and (left : Derives .disjunction ls l) (deep : l.nesting ≤ depth)
    (rs : List Token) :
    remainder (readerOf o (groupReader o depth) .disjunction (ls ++ .and :: rs)) =
      remainder (readerOf o (groupReader o depth) .disjunction rs) := by
  cases left with
  | disjunction only => exact remainder_behind_conjunction only deep rs
  | or first last =>
    -- The left side of the sign is only what stands behind the last `||`.
    obtain ⟨inFirst, inLast⟩ := Nat.max_le.1 deep
    rw [List.append_assoc, List.cons_append, remainder_behind_or first inFirst]
    exact remainder_behind_conjunction last inLast rs

end

/-- What is left behind by the reader of whole conditions decides whether they are refused. -/
theorem readAll_eq_error_iff_of_remainder {o : Options} {ts rs : List Token} {cause : ConditionError}
    (same : remainder (expression o maxDepth ts) = remainder (expression o maxDepth rs)) :
    readAll o ts = .error cause ↔ readAll o rs = .error cause := by
  unfold readAll
  generalize expression o maxDepth ts = one, expression o maxDepth rs = two at same
  cases one with
  | error one =>
    cases two with
    | error two =>
      cases same
      rfl
    | ok two => cases same
  | ok one =>
    cases two with
    | error two => cases same
    | ok two =>
      obtain ⟨v, rest, shorter⟩ := one
      obtain ⟨w, rest, shorter'⟩ := two
      cases same
      cases rest with
      | nil => simp
      | cons t rest => rfl

/-- A text that carries no token on which ends in front of it. -/
def Apart (cs : List Char) : Prop :=
  ∀ c ∈ cs.head?, isNameChar c = false ∧ isNumberChar c = false ∧ c ≠ '='

theorem readString_append {mark : Char} {cs s rest : List Char}
    (read : readString mark cs = some (s, rest)) (more : List Char) :
    readString mark (cs ++ more) = some (s, rest ++ more) := by
  fun_induction readString mark cs generalizing s with
  | case1 => cases read
  | case2 =>
    cases read
    exact readString_mark
  | case3 c _ => cases read
  | case4 e cs =>
    cases read
    exact readString_mark
  | case5 e cs other ih =>
    obtain ⟨⟨t, later⟩, inner, same⟩ := Option.map_eq_some_iff.1 read
    cases same
    rw [List.cons_append, List.cons_append, readString_backslash (Ne.symm other), ih inner]
    rfl
  | case6 c e cs other plain ih =>
    obtain ⟨⟨t, later⟩, inner, same⟩ := Option.map_eq_some_iff.1 read
    cases same
    rw [List.cons_append, readString_plain ⟨other, plain⟩ (by simp), ih inner]
    rfl

section
variable {c : Char} {rest after more : List Char} {t : Token} (apart : Apart more)
include apart

theorem scanNumber_append (scanned : scanNumber c rest = .ok (t, after)) :
    scanNumber c (rest ++ more) = .ok (t, after ++ more) := by
  have ends : ∀ d ∈ more.head?, isNumberChar d = false := fun d member => (apart d member).2.1
  unfold scanNumber at scanned ⊢
  rw [takeWhile_append_ends ends, dropWhile_append_ends ends]
  split at scanned
  · cases scanned
    rfl
  · cases scanned

theorem scanName_append (c : Char) (rest : List Char) :
    scanName c (rest ++ more) = ((scanName c rest).1, (scanName c rest).2 ++ more) := by
  have ends : ∀ d ∈ more.head?, isNameChar d = false := fun d member => (apart d member).1
  rw [scanName, takeWhile_append_ends ends, dropWhile_append_ends ends, scanName]

private theorem unsigned_append (unsigned : ∀ last, rest ≠ '=' :: last) :
    ∀ last, rest ++ more ≠ '=' :: last := by
  rintro last same
  cases rest with
  | nil => exact (apart '=' (by rw [List.nil_append] at same; rw [same]; rfl)).2.2 rfl
  | cons d rest => exact unsigned rest (by rw [(List.cons.inj same).1])

/-- A token that is read stays the same where something behind it does not carry it on. -/
theorem scan_append (scanned : scan c rest = .ok (t, after)) :
    scan c (rest ++ more) = .ok (t, after ++ more) := by
  by_cases sign : c ∈ "().[]!=&|".toList
  · rcases (by simpa using sign : c = '(' ∨ c = ')' ∨ c = '.' ∨ c = '[' ∨ c = ']' ∨ c = '!' ∨ c = '=' ∨
      c = '&' ∨ c = '|') with rfl | rfl | rfl | rfl | rfl | rfl | rfl | rfl | rfl
    -- Only `!`, `=`, `&` and `|` look at what stands behind them.
    case inr.inr.inr.inr.inr.inl =>
      simp only [scan] at scanned
      split at scanned <;> cases scanned
      · rfl
      · next once => exact scan_unequal (unsigned_append apart once)
      · next plain => exact scan_not (unsigned_append apart plain)
    case inr.inr.inr.inr.inr.inr.inl =>
      simp only [scan] at scanned
      split at scanned <;> cases scanned
      · rfl
      · next once => exact scan_equal (unsigned_append apart once)
    case inr.inr.inr.inr.inr.inr.inr.inl | inr.inr.inr.inr.inr.inr.inr.inr =>
      simp only [scan] at scanned
      split at scanned <;> cases scanned
      rfl
    all_goals
      cases scanned
      rfl
  · rw [scan_of_not_sign sign] at scanned ⊢
    by_cases quote : c = '"' ∨ c = '\''
    · rw [if_pos quote] at scanned ⊢
      unfold scanString at scanned ⊢
      split at scanned
      · next s last read =>
        cases scanned
        rw [readString_append read]
      · cases scanned
    by_cases number : (isDigit c || c == '-') = true
    · rw [if_neg quote, if_pos number] at scanned ⊢
      exact scanNumber_append apart scanned
    · rw [if_neg quote, if_neg number] at scanned ⊢
      split at scanned
      · next start =>
        cases scanned
        rw [if_pos start, scanName_append apart, scanName]
      · cases scanned

end

/-- What is written behind a text that reads as tokens is read on its own. -/
theorem tokens_append {cs more : List Char} {ts : List Token} (apart : Apart more)
    (read : tokens cs = .ok ts) : tokens (cs ++ more) = (tokens more).map (ts ++ ·) := by
  fun_induction tokens cs generalizing ts with
  | case1 =>
    cases read
    rw [List.nil_append]
    cases tokens more <;> rfl
  | case2 c rest blank ih => rw [List.cons_append, tokens_blank blank, ih read]
  | case3 => cases read
  | case4 => cases read
  | case5 c rest solid t after scanned later found ih =>
    cases read
    rw [List.cons_append, tokens_of_scan (by simpa using solid) (scan_append apart scanned), ih found]
    cases tokens more <;> rfl

theorem evaluate_eq_condition_iff {condition : String} {o : Options} {cause : ConditionError} :
    evaluate condition o = .error (.condition condition cause) ↔
      tokens condition.toList = .error cause ∨
        ∃ ts, tokens condition.toList = .ok ts ∧ readAll o ts = .error cause := by
  unfold evaluate
  cases tokens condition.toList with
  | error other => simp
  | ok ts =>
    cases read : readAll o ts with
    | error other => simp [read]
    | ok v => simp [read]

/-- The text of a sign that stands between two conditions, and its token. -/
inductive Connective : String → Token → Prop where
  | and : Connective "&&" .and
  | or : Connective "||" .or

theorem Connective.tokens_append {sign : String} {t : Token} (connective : Connective sign t)
    {left : List Char} {ls : List Token} (read : tokens left = .ok ls) (right : List Char) :
    tokens (left ++ sign.toList ++ right) = (tokens right).map fun rs => ls ++ t :: rs := by
  have behind : tokens (sign.toList ++ right) = (tokens right).map (t :: ·) := by
    cases connective with
    | and => exact tokens_of_scan (by decide) rfl
    | or => exact tokens_of_scan (by decide) rfl
  have apart : Apart (sign.toList ++ right) := by
    cases connective with
    | and => exact fun c member => by cases member; decide
    | or => exact fun c member => by cases member; decide
  rw [List.append_assoc, Condition.tokens_append apart read, behind]
  cases tokens right <;> rfl

theorem Connective.readAll_eq_error_iff {sign : String} {t : Token} (connective : Connective sign t)
    {o : Options} {ls rs : List Token} {l : Expr} (left : Derives .disjunction ls l)
    (deep : l.nesting ≤ maxDepth) {cause : ConditionError} :
    readAll o (ls ++ t :: rs) = .error cause ↔ readAll o rs = .error cause := by
  apply readAll_eq_error_iff_of_remainder
  rw [expression_eq]
  cases connective with
  | and => exact remainder_behind_and left deep rs
  | or => exact remainder_behind_or left deep rs

/-- Whatever the options, a condition is evaluated under all of them or refused under all of them with
one error. What is wrong with a right side behind a well-formed left side and `&&` or `||` is wrong with
the whole, whichever value the left side has. -/
theorem evaluate_alike (condition : String) (o o' : Options) :
    ((∃ b b', evaluate condition o = .ok b ∧ evaluate condition o' = .ok b') ∨
      ∃ cause, evaluate condition o = .error (.condition condition cause) ∧
        evaluate condition o' = .error (.condition condition cause)) ∧
    ∀ left sign right b cause, sign = "&&" ∨ sign = "||" → condition = left ++ sign ++ right →
      evaluate left o = .ok b → evaluate right o = .error (.condition right cause) →
      evaluate condition o' = .error (.condition condition cause) := by
  constructor
  · cases run : evaluate condition o with
    | error error =>
      obtain ⟨cause, rfl⟩ := evaluate_error run
      exact .inr ⟨cause, rfl, (evaluate_eq_error_iff o o').1 run⟩
    | ok b =>
      cases run' : evaluate condition o' with
      | ok b' => exact .inl ⟨b, b', rfl, rfl⟩
      | error error =>
        rw [(evaluate_eq_error_iff o' o).1 run'] at run
        cases run
  · rintro left sign right b cause signs rfl evaluates refused
    obtain ⟨t, connective⟩ : ∃ t, Connective sign t := by
      rcases signs with rfl | rfl
      · exact ⟨_, .and⟩
      · exact ⟨_, .or⟩
    obtain ⟨ls, v, readsL, readL, _⟩ := evaluate_eq_ok_iff_readAll.1 evaluates
    obtain ⟨l, derived, deep, _⟩ := readAll_eq_ok_iff.1 readL
    have whole : tokens (left ++ sign ++ right).toList =
        (tokens right.toList).map fun rs => ls ++ t :: rs := by
      rw [String.toList_append, String.toList_append, connective.tokens_append readsL]
    apply evaluate_eq_condition_iff.2
    rw [whole]
    rcases evaluate_eq_condition_iff.1 refused with failed | ⟨rs, readsR, failed⟩
    · rw [failed]
      exact .inl rfl
    · have failed' : readAll o' rs = .error cause := (readAll_eq_error_iff o o').1 failed
      rw [readsR]
      exact .inr ⟨_, rfl, (connective.readAll_eq_error_iff derived deep).2 failed'⟩

/-- A fault behind a left side that settles the value under one of two options and not under the other. -/
theorem evaluate_alike_settled :
    evaluate "config.strict && (null" .builtin =
        .error (.condition "config.strict && (null" .unclosedParen) ∧
      evaluate "config.strict && (null" { Options.builtin with strict := true } =
        .error (.condition "config.strict && (null" .unclosedParen) := by
  obtain ⟨settles, faulty⟩ : evaluate "config.strict " .builtin = .ok false ∧
      evaluate " (null" .builtin = .error (.condition " (null" .unclosedParen) :=
    ⟨by cbv, by cbv⟩
  constructor
  · exact (evaluate_alike _ .builtin .builtin).2 "config.strict " "&&" " (null" false .unclosedParen
      (.inl rfl) rfl settles faulty
  · exact (evaluate_alike _ .builtin _).2 "config.strict " "&&" " (null" false .unclosedParen
      (.inl rfl) rfl settles faulty

end Transclude.Condition
