import Transclude.Proofs.Condition.Grammar

/-!
# What the readers of conditions read

A reader succeeds exactly on tokens whose front the grammar derives, and its value is that of the
tree. One direction follows the readers, the other the derivations; there a part of a chain is read
together with the signs and right sides that come after it.
-/

namespace Transclude.Condition

/-- A reader takes a value off the front of some tokens and leaves the others. -/
def Reads (read : Reader) (ts : List Token) (v : Operand) (rest : List Token) : Prop :=
  ∃ shorter, read ts = .ok (v, ⟨rest, shorter⟩)

/-- A chain that has come to a value goes on to another one with the signs and right sides at the
front of some tokens. -/
def Continues (join : Join) (read : Reader) (v : Operand) (ts : List Token) (w : Operand)
    (rest : List Token) : Prop :=
  ∃ bound, continueChain join read v ts = .ok (w, ⟨rest, bound⟩)

section
variable {join : Join} {read : Reader} {ts rest : List Token} {v w : Operand}

theorem reads_chain_iff :
    Reads (chain join read) ts w rest ↔
      ∃ v mid, Reads read ts v mid ∧ Continues join read v mid w rest := by
  constructor
  · rintro ⟨shorter, run⟩
    unfold chain at run
    split at run
    · cases run
    · next v mid less first =>
      split at run
      · cases run
      · next u last bound later =>
        cases run
        exact ⟨v, mid, ⟨less, first⟩, ⟨bound, later⟩⟩
  · rintro ⟨v, mid, ⟨less, first⟩, ⟨bound, later⟩⟩
    refine ⟨by omega, ?_⟩
    simp only [chain, first, later]

theorem continues_of_none (stop : ∀ t ∈ ts.head?, join t = none) : Continues join read v ts v ts := by
  cases ts with
  | nil => exact ⟨Nat.le_refl _, by rw [continueChain]⟩
  | cons t ts =>
    refine ⟨Nat.le_refl _, ?_⟩
    rw [continueChain]
    simp only [stop t (by simp)]

theorem continues_cons_iff {t : Token} {f : Operand → Operand → Operand} (sign : join t = some f) :
    Continues join read v (t :: ts) w rest ↔
      ∃ u mid, Reads read ts u mid ∧ Continues join read (f v u) mid w rest := by
  constructor
  · rintro ⟨bound, run⟩
    rw [continueChain] at run
    simp only [sign] at run
    split at run
    · cases run
    · next u mid less first =>
      split at run
      · cases run
      · next x last bound later =>
        cases run
        exact ⟨u, mid, ⟨less, first⟩, ⟨bound, later⟩⟩
  · rintro ⟨u, mid, ⟨less, first⟩, ⟨bound, later⟩⟩
    refine ⟨by simp only [List.length_cons]; omega, ?_⟩
    rw [continueChain]
    simp only [sign, first, later]

end

section
variable {read : Reader} {ts rest : List Token} {v w : Operand}

private theorem reads_negated_iff :
    Reads (negated read) ts w rest ↔
      ∃ v, Reads read (countNot ts).2 v rest ∧
        w = if (countNot ts).1 = 0 then v
          else .boolean (v.truthy == ((countNot ts).1 % 2 == 0)) := by
  constructor
  · rintro ⟨shorter, run⟩
    unfold negated at run
    split at run
    · cases run
    · next v last less first =>
      cases run
      exact ⟨v, ⟨less, first⟩, rfl⟩
  · rintro ⟨v, ⟨less, first⟩, rfl⟩
    refine ⟨Nat.lt_of_lt_of_le less (length_countNot_le ts), ?_⟩
    simp only [negated, first]

theorem reads_negated_of_ne (other : ∀ later, ts ≠ .not :: later) :
    Reads (negated read) ts w rest ↔ Reads read ts w rest := by
  have none : countNot ts = (0, ts) := by
    unfold countNot
    split
    · next later => exact absurd rfl (other later)
    · rfl
  rw [reads_negated_iff, none]
  simp

/-- What one more sign makes of the value behind some signs. -/
private theorem turn_round (v : Operand) (count : Nat) :
    decide (if count = 0 then v else .boolean (v.truthy == (count % 2 == 0))).Falsy =
      (v.truthy == ((count + 1) % 2 == 0)) := by
  rw [Operand.decide_falsy]
  rcases Nat.mod_two_eq_zero_or_one count with even | odd
  · have next : (count + 1) % 2 = 1 := by omega
    by_cases zero : count = 0
    · simp [zero]
    · simp [zero, even, next, Operand.truthy]
  · have next : (count + 1) % 2 = 0 := by omega
    have nonzero : count ≠ 0 := by omega
    simp [nonzero, odd, next, Operand.truthy]

/-- One more sign turns round whether the value counts as true. -/
theorem reads_negated_not_iff :
    Reads (negated read) (.not :: ts) w rest ↔
      ∃ v, Reads (negated read) ts v rest ∧ w = .boolean (decide v.Falsy) := by
  simp only [reads_negated_iff, countNot, Nat.add_one_ne_zero, if_false]
  constructor
  · rintro ⟨v, first, rfl⟩
    exact ⟨_, ⟨v, first, rfl⟩, by rw [turn_round]⟩
  · rintro ⟨_, ⟨v, first, rfl⟩, rfl⟩
    exact ⟨v, first, by rw [turn_round]⟩

end

/-- Tokens that go on with a look-up. -/
def LooksUp : List Token → Prop
  | .dot :: _ => True
  | .leftBracket :: _ => True
  | _ => False

theorem option_eq_value (o : Options) (key : String) : option o key = (Expr.option key).value o := by
  rw [option, Expr.value]
  cases o.get? key <;> rfl

theorem endLookup_eq_ok_iff {v w : Operand} {ts rest : List Token} :
    endLookup v ts = .ok (w, rest) ↔ ¬ LooksUp ts ∧ w = v ∧ rest = ts := by
  unfold endLookup LooksUp
  split
  · simp
  · simp
  · simp [eq_comm]

/-- What may stand behind `config`, and the value that it gives. -/
theorem lookup_eq_ok_iff {o : Options} {ts rest : List Token} {v : Operand} :
    lookup o ts = .ok (v, rest) ↔ ¬ LooksUp rest ∧
      (ts = rest ∧ v = Expr.config.value o ∨
        ∃ key, (ts = .dot :: .name key :: rest ∨
          ts = .leftBracket :: .text key :: .rightBracket :: rest) ∧
            v = (Expr.option key).value o) := by
  constructor
  · intro read
    unfold lookup at read
    split at read
    · next key later =>
      obtain ⟨stop, rfl, rfl⟩ := endLookup_eq_ok_iff.1 read
      exact ⟨stop, .inr ⟨key, .inl rfl, option_eq_value o key⟩⟩
    · cases read
    · next key later =>
      obtain ⟨stop, rfl, rfl⟩ := endLookup_eq_ok_iff.1 read
      exact ⟨stop, .inr ⟨key, .inr rfl, option_eq_value o key⟩⟩
    · cases read
    · cases read
    · next no_name no_dot no_bracket no_text other =>
      cases read
      refine ⟨?_, .inl ⟨rfl, rfl⟩⟩
      intro more
      unfold LooksUp at more
      split at more
      · exact no_dot _ rfl
      · exact other _ rfl
      · exact more
  · rintro ⟨stop, ⟨rfl, rfl⟩ | ⟨key, rfl | rfl, rfl⟩⟩
    · unfold lookup
      split
      · exact absurd trivial stop
      · exact absurd trivial stop
      · exact absurd trivial stop
      · exact absurd trivial stop
      · exact absurd trivial stop
      · rfl
    · exact endLookup_eq_ok_iff.2 ⟨stop, (option_eq_value o key).symm, rfl⟩
    · exact endLookup_eq_ok_iff.2 ⟨stop, (option_eq_value o key).symm, rfl⟩

/-- The reader of conditions of a strength; `group` reads what an opening parenthesis starts. -/
def readerOf (o : Options) (group : Reader) : Strength → Reader
  | .primary => operand o group
  | .negation => negated (operand o group)
  | .equality => chain joinEqual (negated (operand o group))
  | .conjunction => chain joinAnd (chain joinEqual (negated (operand o group)))
  | .disjunction => disjunction o group

/-- The reader of what stands in parentheses, where they may be nested up to a depth. -/
def groupReader (o : Options) : Nat → Reader
  | 0 => fun _ => .error .nestedTooDeeply
  | depth + 1 => expression o depth

theorem expression_eq (o : Options) (depth : Nat) :
    expression o depth = readerOf o (groupReader o depth) .disjunction := by
  cases depth <;> rfl

/-- Tokens spell a tree with a value in which parentheses are nested less deep than a bound. -/
def Spells (o : Options) (bound : Nat) (s : Strength) (ts : List Token) (v : Operand) : Prop :=
  ∃ e, Derives s ts e ∧ e.nesting < bound ∧ e.value o = v

/-- Whatever a reader reads spells a tree with the value. -/
def Sound (o : Options) (bound : Nat) (s : Strength) (read : Reader) : Prop :=
  ∀ ⦃ts v rest⦄, Reads read ts v rest → ∃ taken, ts = taken ++ rest ∧ Spells o bound s taken v

/-- The signs of a join stand in the grammar between sides of two strengths, and do with the values of
the sides what the join does. -/
def Signs (o : Options) (weak strong : Strength) (join : Join) : Prop :=
  ∀ ⦃t f⦄, join t = some f → ∃ node : Expr → Expr → Expr,
    (∀ ls l rs r, Derives weak ls l → Derives strong rs r → Derives weak (ls ++ t :: rs) (node l r)) ∧
    ∀ l r, (node l r).nesting = max l.nesting r.nesting ∧
      (node l r).value o = f (l.value o) (r.value o)

theorem signs_or (o : Options) : Signs o .disjunction .conjunction joinOr := by
  intro t f joined
  cases t with
  | or =>
    cases joined
    exact ⟨.or, fun _ _ _ _ => .or, fun l r => ⟨rfl, Expr.value_or o l r⟩⟩
  | _ => cases joined

theorem signs_and (o : Options) : Signs o .conjunction .equality joinAnd := by
  intro t f joined
  cases t with
  | and =>
    cases joined
    exact ⟨.and, fun _ _ _ _ => .and, fun l r => ⟨rfl, Expr.value_and o l r⟩⟩
  | _ => cases joined

theorem signs_equal (o : Options) : Signs o .equality .negation joinEqual := by
  intro t f joined
  cases t with
  | equal =>
    cases joined
    exact ⟨.equal, fun _ _ _ _ => .equal, fun l r => ⟨rfl, Expr.value_equal o l r⟩⟩
  | unequal =>
    cases joined
    exact ⟨.unequal, fun _ _ _ _ => .unequal, fun l r => ⟨rfl, Expr.value_unequal o l r⟩⟩
  | _ => cases joined

/-! ## What is read is derived -/

section
variable {o : Options} {bound : Nat}

theorem sound_chain {weak strong : Strength} {join : Join} {read : Reader}
    (lift : ∀ ts e, Derives strong ts e → Derives weak ts e) (signs : Signs o weak strong join)
    (sound : Sound o bound strong read) : Sound o bound weak (chain join read) := by
  -- A chain that has read `ls` and goes on has read a longer part of the same strength.
  have onward : ∀ n, ∀ ls v ts w rest, ts.length = n → Spells o bound weak ls v →
      Continues join read v ts w rest → ∃ more, ts = more ++ rest ∧ Spells o bound weak (ls ++ more) w := by
    intro n
    induction n using Nat.strongRecOn with
    | _ n ih =>
      intro ls v ts w rest sized spelled further
      cases ts with
      | nil =>
        obtain ⟨bound, run⟩ := further
        rw [continueChain] at run
        cases run
        exact ⟨[], rfl, by simpa using spelled⟩
      | cons t ts =>
        cases joined : join t with
        | none =>
          obtain ⟨_, run⟩ := further
          rw [continueChain] at run
          simp only [joined] at run
          cases run
          exact ⟨[], rfl, by simpa using spelled⟩
        | some f =>
          obtain ⟨u, mid, first, later⟩ := (continues_cons_iff joined).1 further
          obtain ⟨rs, rfl, r, right, inR, rfl⟩ := sound first
          obtain ⟨l, left, inL, rfl⟩ := spelled
          obtain ⟨node, derive, same⟩ := signs joined
          have both : Spells o bound weak (ls ++ t :: rs) (f (l.value o) (r.value o)) :=
            ⟨node l r, derive ls l rs r left right, by rw [(same l r).1]; omega, (same l r).2⟩
          have shorter : mid.length < n := by
            rw [← sized]
            simp only [List.length_cons, List.length_append]
            omega
          obtain ⟨more, rfl, whole⟩ := ih _ shorter _ _ mid w rest rfl both later
          exact ⟨t :: rs ++ more, by simp, by simpa using whole⟩
  intro ts w rest read
  obtain ⟨v, mid, first, later⟩ := reads_chain_iff.1 read
  obtain ⟨ls, rfl, l, left, inL, value⟩ := sound first
  obtain ⟨more, rfl, whole⟩ := onward _ ls v mid w rest rfl ⟨l, lift ls l left, inL, value⟩ later
  exact ⟨ls ++ more, by simp, whole⟩

theorem sound_negated {read : Reader} (sound : Sound o bound .primary read) :
    Sound o bound .negation (negated read) := by
  intro ts
  induction ts with
  | nil =>
    intro w rest read
    obtain ⟨taken, split, e, derived, inE, value⟩ := sound ((reads_negated_of_ne (by simp)).1 read)
    exact ⟨taken, split, e, .negation derived, inE, value⟩
  | cons t ts ih =>
    intro w rest read
    by_cases sign : t = .not
    · subst sign
      obtain ⟨v, inner, rfl⟩ := reads_negated_not_iff.1 read
      obtain ⟨taken, rfl, e, derived, inE, rfl⟩ := ih inner
      exact ⟨.not :: taken, rfl, .not e, .not derived, inE, rfl⟩
    · have other : ∀ later, t :: ts ≠ .not :: later := fun later same => sign (List.cons.inj same).1
      obtain ⟨taken, split, e, derived, inE, value⟩ := sound ((reads_negated_of_ne other).1 read)
      exact ⟨taken, split, e, .negation derived, inE, value⟩

theorem sound_operand {group : Reader} (sound : Sound o bound .disjunction group) :
    Sound o (bound + 1) .primary (operand o group) := by
  rintro ts w rest ⟨shorter, run⟩
  unfold operand at run
  split at run
  · cases run
  · next x later =>
    cases run
    exact ⟨[.number x], rfl, _, .number x, Nat.zero_lt_succ _, rfl⟩
  · next s later =>
    cases run
    exact ⟨[.text s], rfl, _, .text s, Nat.zero_lt_succ _, rfl⟩
  · next later =>
    split at run
    · cases run
    · next v last less inner =>
      cases run
      obtain ⟨taken, rfl, e, derived, inE, value⟩ := sound ⟨less, inner⟩
      exact ⟨.leftParen :: taken ++ [.rightParen], by simp, .group e, .group derived,
        Nat.succ_lt_succ inE, value⟩
    · cases run
  · next name later =>
    split at run
    · next named =>
      cases run
      subst named
      exact ⟨[.name "true"], rfl, _, .true, Nat.zero_lt_succ _, rfl⟩
    · split at run
      · next named =>
        cases run
        subst named
        exact ⟨[.name "false"], rfl, _, .false, Nat.zero_lt_succ _, rfl⟩
      · split at run
        · next named =>
          cases run
          rcases named with rfl | rfl
          · exact ⟨[.name "null"], rfl, _, .null, Nat.zero_lt_succ _, rfl⟩
          · exact ⟨[.name "undefined"], rfl, _, .undefined, Nat.zero_lt_succ _, rfl⟩
        · split at run
          · next named =>
            subst named
            split at run
            · cases run
            · next v last found =>
              cases run
              obtain ⟨-, ⟨rfl, rfl⟩ | ⟨key, rfl | rfl, rfl⟩⟩ := lookup_eq_ok_iff.1 found
              · exact ⟨[.name "config"], rfl, _, .config, Nat.zero_lt_succ _, rfl⟩
              · exact ⟨[.name "config", .dot, .name key], rfl, _, .dotted key,
                  Nat.zero_lt_succ _, rfl⟩
              · exact ⟨[.name "config", .leftBracket, .text key, .rightBracket], rfl, _,
                  .quoted key, Nat.zero_lt_succ _, rfl⟩
          · cases run
  · cases run

theorem sound_readerOf {group : Reader} (sound : Sound o bound .disjunction group) (s : Strength) :
    Sound o (bound + 1) s (readerOf o group s) := by
  have primary : Sound o (bound + 1) .primary (readerOf o group .primary) := sound_operand sound
  have negation : Sound o (bound + 1) .negation (readerOf o group .negation) := sound_negated primary
  have equality : Sound o (bound + 1) .equality (readerOf o group .equality) :=
    sound_chain (fun _ _ => .equality) (signs_equal o) negation
  have conjunction : Sound o (bound + 1) .conjunction (readerOf o group .conjunction) :=
    sound_chain (fun _ _ => .conjunction) (signs_and o) equality
  cases s with
  | primary => exact primary
  | negation => exact negation
  | equality => exact equality
  | conjunction => exact conjunction
  | disjunction => exact sound_chain (fun _ _ => .disjunction) (signs_or o) conjunction

end

theorem sound_groupReader (o : Options) (depth : Nat) :
    Sound o depth .disjunction (groupReader o depth) := by
  induction depth with
  | zero =>
    rintro ts v rest ⟨shorter, run⟩
    cases run
  | succ depth ih =>
    rw [groupReader, expression_eq]
    exact sound_readerOf ih .disjunction

/-! ## What is derived is read -/

/-- Where a sign stands between conditions, the place of its strength; a look-up binds strongest. -/
def signRank : Token → Option Nat
  | .or => some 0
  | .and => some 1
  | .equal => some 2
  | .unequal => some 2
  | .dot => some 3
  | .leftBracket => some 3
  | _ => none

/-- The place of a strength. -/
def Strength.rank : Strength → Nat
  | .disjunction => 0
  | .conjunction => 1
  | .equality => 2
  | .negation => 3
  | .primary => 3

/-- Tokens that may come behind a part of a condition in a chain of a strength: no sign of a
greater strength, and no look-up, stands in front of them. -/
def Follows (s : Strength) (ts : List Token) : Prop :=
  ∀ t ∈ ts.head?, ∀ k ∈ signRank t, k ≤ s.rank ∧ k < 3

/-- Tokens that a chain of a strength does not go on with. -/
def Ends (s : Strength) (ts : List Token) : Prop :=
  ∀ t ∈ ts.head?, ∀ k ∈ signRank t, k < s.rank

/-- What a reader of a strength makes of what comes behind a value: a chain goes on, and another
reader leaves it. -/
def Proceeds (o : Options) (group : Reader) :
    Strength → Operand → List Token → Operand → List Token → Prop
  | .disjunction => Continues joinOr (readerOf o group .conjunction)
  | .conjunction => Continues joinAnd (readerOf o group .equality)
  | .equality => Continues joinEqual (readerOf o group .negation)
  | .negation => fun v ts w rest => w = v ∧ rest = ts
  | .primary => fun v ts w rest => w = v ∧ rest = ts

theorem Strength.rank_le (s : Strength) : s.rank ≤ 3 := by
  cases s <;> decide

theorem Ends.follows {s : Strength} {ts : List Token} (ends : Ends s ts) : Follows s ts := by
  intro t member k rank
  have := ends t member k rank
  have := s.rank_le
  omega

theorem Follows.mono {s s' : Strength} {ts : List Token} (follows : Follows s ts)
    (le : s.rank ≤ s'.rank) : Follows s' ts := by
  intro t member k rank
  have := follows t member k rank
  omega

theorem Follows.ends {s s' : Strength} {ts : List Token} (follows : Follows s ts)
    (less : s.rank < s'.rank) : Ends s' ts := by
  intro t member k rank
  have := follows t member k rank
  omega

theorem follows_cons {s : Strength} {t : Token} {ts : List Token} {k : Nat}
    (rank : signRank t = some k) (le : k ≤ s.rank) (less : k < 3) : Follows s (t :: ts) := by
  intro u member j rank'
  cases member
  rw [rank] at rank'
  cases rank'
  exact ⟨le, less⟩

theorem ends_cons {s : Strength} {t : Token} {ts : List Token} (rank : signRank t = none) :
    Ends s (t :: ts) := by
  intro u member j rank'
  cases member
  rw [rank] at rank'
  cases rank'

theorem ends_nil (s : Strength) : Ends s [] := by
  intro t member
  cases member

theorem Follows.not_looksUp {s : Strength} {ts : List Token} (follows : Follows s ts) :
    ¬ LooksUp ts := by
  intro more
  unfold LooksUp at more
  split at more
  · exact absurd (follows _ rfl 3 rfl).2 (by decide)
  · exact absurd (follows _ rfl 3 rfl).2 (by decide)
  · exact more

section
variable {o : Options} {group : Reader} {ts rest : List Token} {v w : Operand}

theorem proceeds_of_ends {s : Strength} (ends : Ends s ts) (v : Operand) :
    Proceeds o group s v ts v ts := by
  cases s with
  | disjunction =>
    refine continues_of_none fun t member => ?_
    cases t with
    | or => exact absurd (ends _ member 0 rfl) (by decide)
    | _ => rfl
  | conjunction =>
    refine continues_of_none fun t member => ?_
    cases t with
    | and => exact absurd (ends _ member 1 rfl) (by decide)
    | _ => rfl
  | equality =>
    refine continues_of_none fun t member => ?_
    cases t with
    | equal => exact absurd (ends _ member 2 rfl) (by decide)
    | unequal => exact absurd (ends _ member 2 rfl) (by decide)
    | _ => rfl
  | negation => exact ⟨rfl, rfl⟩
  | primary => exact ⟨rfl, rfl⟩

theorem reads_config (found : lookup o ts = .ok (v, rest)) :
    Reads (operand o group) (.name "config" :: ts) v rest := by
  have shorter := length_lookup_le found
  refine ⟨by simp only [List.length_cons]; omega, ?_⟩
  unfold operand
  simp only [show ("config" = "true") = False by decide, show ("config" = "false") = False by decide,
    show ("config" = "null" ∨ "config" = "undefined") = False by decide, if_false, if_true]
  split
  · next error failed =>
    rw [found] at failed
    cases failed
  · next u last found' =>
    rw [found] at found'
    cases found'
    rfl

theorem reads_group (inner : Reads group ts v (.rightParen :: rest)) :
    Reads (operand o group) (.leftParen :: ts) v rest := by
  obtain ⟨shorter, run⟩ := inner
  have bound : rest.length < (Token.leftParen :: ts).length := by
    have fewer := shorter
    simp only [List.length_cons] at fewer ⊢
    omega
  refine ⟨bound, ?_⟩
  simp only [operand, run]

/-- No operand starts with a sign of negation. -/
theorem Derives.ne_not {e : Expr} (derives : Derives .primary ts e) (rest later : List Token) :
    ts ++ rest ≠ .not :: later := by
  cases derives <;> simp

/-- A condition that the grammar derives is read, up to what the reader's chain makes of the tokens
behind it. -/
theorem reads_of_derives {s : Strength} {e : Expr} (derives : Derives s ts e) {depth : Nat}
    (deep : e.nesting ≤ depth) (follows : Follows s rest) {last : List Token}
    (proceeds : Proceeds o (groupReader o depth) s (e.value o) rest w last) :
    Reads (readerOf o (groupReader o depth) s) (ts ++ rest) w last := by
  induction derives generalizing depth rest w last with
  | @disjunction ts e only ih =>
    exact reads_chain_iff.2 ⟨e.value o, rest, ih deep (follows.mono (by decide))
      (proceeds_of_ends (follows.ends (by decide)) _), proceeds⟩
  | @or ls rs l r left right ihl ihr =>
    have sign : joinOr .or = some fun left right => if left.truthy then left else right := rfl
    rw [Expr.value_or] at proceeds
    obtain ⟨inL, inR⟩ := Nat.max_le.1 deep
    have second := ihr inR (follows.mono (by decide))
      (proceeds_of_ends (follows.ends (by decide)) (r.value o))
    rw [List.append_assoc, List.cons_append]
    exact ihl inL (follows_cons rfl (by decide) (by decide))
      ((continues_cons_iff sign).2 ⟨r.value o, rest, second, proceeds⟩)
  | @conjunction ts e only ih =>
    exact reads_chain_iff.2 ⟨e.value o, rest, ih deep (follows.mono (by decide))
      (proceeds_of_ends (follows.ends (by decide)) _), proceeds⟩
  | @and ls rs l r left right ihl ihr =>
    have sign : joinAnd .and = some fun left right => if left.truthy then right else left := rfl
    rw [Expr.value_and] at proceeds
    obtain ⟨inL, inR⟩ := Nat.max_le.1 deep
    have second := ihr inR (follows.mono (by decide))
      (proceeds_of_ends (follows.ends (by decide)) (r.value o))
    rw [List.append_assoc, List.cons_append]
    exact ihl inL (follows_cons rfl (by decide) (by decide))
      ((continues_cons_iff sign).2 ⟨r.value o, rest, second, proceeds⟩)
  | @equality ts e only ih =>
    exact reads_chain_iff.2 ⟨e.value o, rest, ih deep (follows.mono (by decide)) ⟨rfl, rfl⟩, proceeds⟩
  | @equal ls rs l r left right ihl ihr =>
    have sign : joinEqual .equal = some fun left right => .boolean (left.same right) := rfl
    rw [Expr.value_equal] at proceeds
    obtain ⟨inL, inR⟩ := Nat.max_le.1 deep
    have second := ihr inR (follows.mono (by decide)) ⟨rfl, rfl⟩
    rw [List.append_assoc, List.cons_append]
    exact ihl inL (follows_cons rfl (by decide) (by decide))
      ((continues_cons_iff sign).2 ⟨r.value o, rest, second, proceeds⟩)
  | @unequal ls rs l r left right ihl ihr =>
    have sign : joinEqual .unequal = some fun left right => .boolean !(left.same right) := rfl
    rw [Expr.value_unequal] at proceeds
    obtain ⟨inL, inR⟩ := Nat.max_le.1 deep
    have second := ihr inR (follows.mono (by decide)) ⟨rfl, rfl⟩
    rw [List.append_assoc, List.cons_append]
    exact ihl inL (follows_cons rfl (by decide) (by decide))
      ((continues_cons_iff sign).2 ⟨r.value o, rest, second, proceeds⟩)
  | @negation ts e only ih =>
    exact (reads_negated_of_ne (only.ne_not rest)).2 (ih deep follows proceeds)
  | @not ts e inner ih =>
    obtain ⟨rfl, rfl⟩ := proceeds
    exact reads_negated_not_iff.2 ⟨e.value o, ih deep follows ⟨rfl, rfl⟩, rfl⟩
  | number _ | text _ | true | false | null | undefined =>
    obtain ⟨rfl, rfl⟩ := proceeds
    exact ⟨by simp, rfl⟩
  | config =>
    obtain ⟨rfl, rfl⟩ := proceeds
    exact reads_config (lookup_eq_ok_iff.2 ⟨follows.not_looksUp, .inl ⟨rfl, rfl⟩⟩)
  | dotted key =>
    obtain ⟨rfl, rfl⟩ := proceeds
    exact reads_config (lookup_eq_ok_iff.2 ⟨follows.not_looksUp, .inr ⟨key, .inl rfl, rfl⟩⟩)
  | quoted key =>
    obtain ⟨rfl, rfl⟩ := proceeds
    exact reads_config (lookup_eq_ok_iff.2 ⟨follows.not_looksUp, .inr ⟨key, .inr rfl, rfl⟩⟩)
  | @group ts e inner ih =>
    obtain ⟨same, ends⟩ := proceeds
    subst same ends
    obtain ⟨depth, rfl⟩ : ∃ n, depth = n + 1 := ⟨depth - 1, by rw [Expr.nesting] at deep; omega⟩
    have closed : Ends .disjunction (.rightParen :: last) := ends_cons rfl
    have read := ih (Nat.le_of_succ_le_succ deep) closed.follows (proceeds_of_ends closed _)
    rw [← expression_eq] at read
    rw [List.cons_append, List.cons_append, List.append_assoc]
    exact reads_group read

end

/-- A condition is read to its end exactly if the grammar derives it with parentheses nested up to the
limit, and its value is that of its tree. -/
theorem readAll_eq_ok_iff {o : Options} {ts : List Token} {v : Operand} :
    readAll o ts = .ok v ↔
      ∃ e, Derives .disjunction ts e ∧ e.nesting ≤ maxDepth ∧ e.value o = v := by
  constructor
  · intro read
    unfold readAll at read
    split at read
    · cases read
    · cases read
    · next u shorter run =>
      cases read
      rw [expression_eq] at run
      obtain ⟨taken, split, e, derived, inE, value⟩ :=
        sound_readerOf (sound_groupReader o maxDepth) .disjunction ⟨shorter, run⟩
      rw [List.append_nil] at split
      exact ⟨e, split ▸ derived, Nat.lt_succ_iff.1 inE, value⟩
  · rintro ⟨e, derived, deep, rfl⟩
    have closed := ends_nil .disjunction
    have read : Reads (readerOf o (groupReader o maxDepth) .disjunction) (ts ++ []) (e.value o) [] :=
      reads_of_derives derived deep closed.follows (proceeds_of_ends closed _)
    rw [List.append_nil, ← expression_eq] at read
    obtain ⟨shorter, run⟩ := read
    simp only [readAll, run]

end Transclude.Condition
