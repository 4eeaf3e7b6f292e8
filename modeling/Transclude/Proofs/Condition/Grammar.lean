import Transclude.Condition.Evaluate

namespace Transclude

namespace Operand

/-- The values that do not count as true. -/
inductive Falsy : Operand → Prop where
  | null : Falsy .null
  | false : Falsy (.boolean false)
  | zero {x : Float} (zero : (x == 0.0) = true) : Falsy (.number x)
  | nan {x : Float} (nan : x.isNaN = true) : Falsy (.number x)
  | emptyText : Falsy (.text "")
  | emptyList : Falsy (.list [])

/-- The values that are equal: of one kind, and equal as values of that kind. -/
inductive Alike : Operand → Operand → Prop where
  | null : Alike .null .null
  | boolean (b : Bool) : Alike (.boolean b) (.boolean b)
  | number {x y : Float} (equal : (x == y) = true) : Alike (.number x) (.number y)
  | text (s : String) : Alike (.text s) (.text s)
  | list (items : List String) : Alike (.list items) (.list items)

theorem truthy_eq_false_iff {v : Operand} : v.truthy = false ↔ v.Falsy := by
  constructor
  · intro fails
    cases v with
    | null => exact .null
    | boolean b =>
      obtain rfl : b = Bool.false := fails
      exact .false
    | number x =>
      simp only [truthy, bne, Bool.and_eq_false_iff, Bool.not_eq_false'] at fails
      rcases fails with zero | nan
      · exact .zero zero
      · exact .nan nan
    | text s =>
      obtain rfl : s = "" := by simpa [truthy] using fails
      exact .emptyText
    | list items =>
      obtain rfl : items = [] := by simpa [truthy] using fails
      exact .emptyList
  · intro falsy
    cases falsy with
    | zero zero => simp only [truthy, bne, zero, Bool.not_true, Bool.false_and]
    | nan nan => simp only [truthy, nan, Bool.not_true, Bool.and_false]
    | _ => rfl

theorem same_eq_true_iff {v w : Operand} : v.same w = true ↔ Alike v w := by
  constructor
  · intro equal
    unfold same at equal
    split at equal
    · exact .null
    · obtain rfl := eq_of_beq equal
      exact .boolean _
    · exact .number equal
    · obtain rfl := eq_of_beq equal
      exact .text _
    · obtain rfl := eq_of_beq equal
      exact .list _
    · cases equal
  · intro alike
    cases alike with
    | number equal => exact equal
    | _ => simp [same]

instance (v : Operand) : Decidable v.Falsy :=
  decidable_of_iff _ truthy_eq_false_iff

theorem decide_falsy (v : Operand) : decide v.Falsy = !v.truthy := by
  cases held : v.truthy with
  | false => simp [truthy_eq_false_iff.1 held]
  | true =>
    have counts : ¬ v.Falsy := fun falsy => by simp [truthy_eq_false_iff.2 falsy] at held
    simp [counts]

instance (v w : Operand) : Decidable (Alike v w) :=
  decidable_of_iff _ same_eq_true_iff

theorem decide_alike (v w : Operand) : decide (Alike v w) = v.same w := by
  cases held : v.same w with
  | true => simp [same_eq_true_iff.1 held]
  | false =>
    have apart : ¬ Alike v w := fun alike => by simp [same_eq_true_iff.2 alike] at held
    simp [apart]

theorem ite_falsy {α : Type} (v : Operand) (a b : α) :
    (if v.Falsy then a else b) = if v.truthy then b else a := by
  have turned := decide_falsy v
  cases held : v.truthy with
  | false => simp_all
  | true => simp_all

end Operand

namespace Condition

/-- The syntax tree of a condition. -/
inductive Expr where
  | constant (v : Operand)
  /-- The name `config` alone. -/
  | config
  /-- The option of a name. -/
  | option (name : String)
  /-- A condition in parentheses. -/
  | group (inner : Expr)
  | not (inner : Expr)
  | equal (left right : Expr)
  | unequal (left right : Expr)
  | and (left right : Expr)
  | or (left right : Expr)

namespace Expr

/-- The value of a condition under options. -/
def value (o : Options) : Expr → Operand
  | constant v => v
  | config => .boolean true
  | option name => ((o.get? name).map Operand.ofSetting).getD .null
  | group inner => inner.value o
  | not inner => .boolean (decide (inner.value o).Falsy)
  | equal left right => .boolean (decide ((left.value o).Alike (right.value o)))
  | unequal left right => .boolean (decide ¬ (left.value o).Alike (right.value o))
  | and left right => if (left.value o).Falsy then left.value o else right.value o
  | or left right => if (left.value o).Falsy then right.value o else left.value o

theorem value_equal (o : Options) (left right : Expr) :
    (equal left right).value o = .boolean ((left.value o).same (right.value o)) := by
  rw [value, Operand.decide_alike]

theorem value_unequal (o : Options) (left right : Expr) :
    (unequal left right).value o = .boolean !((left.value o).same (right.value o)) := by
  rw [value, decide_not, Operand.decide_alike]

theorem value_and (o : Options) (left right : Expr) :
    (and left right).value o =
      if (left.value o).truthy then right.value o else left.value o := by
  rw [value, Operand.ite_falsy]

theorem value_or (o : Options) (left right : Expr) :
    (or left right).value o =
      if (left.value o).truthy then left.value o else right.value o := by
  rw [value, Operand.ite_falsy]

/-- How deep parentheses are nested. -/
def nesting : Expr → Nat
  | constant _ => 0
  | config => 0
  | option _ => 0
  | group inner => inner.nesting + 1
  | not inner => inner.nesting
  | equal left right => max left.nesting right.nesting
  | unequal left right => max left.nesting right.nesting
  | and left right => max left.nesting right.nesting
  | or left right => max left.nesting right.nesting

end Expr

/-- How strongly the parts of a condition bind. A sign stands between a left side of its own strength and a
right side of the next one, so that signs of one strength associate to the left. -/
inductive Strength where
  | disjunction
  | conjunction
  | equality
  | negation
  | primary
  deriving DecidableEq

/-- The tokens that spell a tree with a strength. -/
inductive Derives : Strength → List Token → Expr → Prop where
  | disjunction {ts : List Token} {e : Expr} (only : Derives .conjunction ts e) :
      Derives .disjunction ts e
  | or {ls rs : List Token} {l r : Expr} (left : Derives .disjunction ls l)
      (right : Derives .conjunction rs r) : Derives .disjunction (ls ++ .or :: rs) (.or l r)
  | conjunction {ts : List Token} {e : Expr} (only : Derives .equality ts e) :
      Derives .conjunction ts e
  | and {ls rs : List Token} {l r : Expr} (left : Derives .conjunction ls l)
      (right : Derives .equality rs r) : Derives .conjunction (ls ++ .and :: rs) (.and l r)
  | equality {ts : List Token} {e : Expr} (only : Derives .negation ts e) : Derives .equality ts e
  | equal {ls rs : List Token} {l r : Expr} (left : Derives .equality ls l)
      (right : Derives .negation rs r) : Derives .equality (ls ++ .equal :: rs) (.equal l r)
  | unequal {ls rs : List Token} {l r : Expr} (left : Derives .equality ls l)
      (right : Derives .negation rs r) : Derives .equality (ls ++ .unequal :: rs) (.unequal l r)
  | negation {ts : List Token} {e : Expr} (only : Derives .primary ts e) : Derives .negation ts e
  | not {ts : List Token} {e : Expr} (inner : Derives .negation ts e) :
      Derives .negation (.not :: ts) (.not e)
  | number (x : Float) : Derives .primary [.number x] (.constant (.number x))
  | text (s : String) : Derives .primary [.text s] (.constant (.text s))
  | true : Derives .primary [.name "true"] (.constant (.boolean true))
  | false : Derives .primary [.name "false"] (.constant (.boolean false))
  | null : Derives .primary [.name "null"] (.constant .null)
  | undefined : Derives .primary [.name "undefined"] (.constant .null)
  | config : Derives .primary [.name "config"] .config
  | dotted (key : String) :
      Derives .primary [.name "config", .dot, .name key] (.option key)
  | quoted (key : String) :
      Derives .primary [.name "config", .leftBracket, .text key, .rightBracket] (.option key)
  | group {ts : List Token} {e : Expr} (inner : Derives .disjunction ts e) :
      Derives .primary (.leftParen :: ts ++ [.rightParen]) (.group e)

end Condition

end Transclude
