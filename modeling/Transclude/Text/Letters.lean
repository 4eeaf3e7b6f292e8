import Transclude.Text.Age
import Transclude.Text.Alphabetic
import Transclude.Text.Mark
import Transclude.Text.Numeric

/-!
# Classes of characters in names

Two classes of name characters are in use and they differ: an alphanumeric character may be any
number (`²`) but no mark or joiner, a word character may be a mark or a joiner but of the numbers
only a decimal digit. The first class follows version 17.0 of the Unicode standard, the second follows
version 16.0.
-/

namespace Transclude.Text

/-- Alphabetic characters and numbers of every kind. -/
def isAlphanumeric (c : Char) : Bool :=
  isAlphabetic c || isNumeric c

/-- The connector punctuation that a word may hold, of which `_` is one. -/
def isConnector (c : Char) : Bool :=
  c == '_' || c == '\u203F' || c == '\u2040' || c == '\u2054' || c == '\uFE33' || c == '\uFE34' ||
    c == '\uFE4D' || c == '\uFE4E' || c == '\uFE4F' || c == '\uFF3F'

/-- The two invisible characters that join or keep apart their neighbours. -/
def isJoiner (c : Char) : Bool :=
  c == '\u200C' || c == '\u200D'

/-- Word characters: alphabetic characters, marks, decimal digits, connectors and joiners, as far as
version 16.0 knows them. -/
def isWord (c : Char) : Bool :=
  (isAlphabetic c || isMark c || isDecimalDigit c || isConnector c || isJoiner c) && !isLatest c

/-- The decimal digits `0` to `9`. -/
def isDigit (c : Char) : Bool :=
  '0' ≤ c && c ≤ '9'

theorem mem_digits_of_isDigit {c : Char} (digit : isDigit c = true) : c ∈ "0123456789".toList := by
  have small : ∀ n < 58, 48 ≤ n → Char.ofNat n ∈ "0123456789".toList := by decide
  obtain ⟨low, high⟩ : '0' ≤ c ∧ c ≤ '9' := by simpa [isDigit] using digit
  rw [← Char.ofNat_toNat c]
  exact small _ (Nat.lt_succ_of_le high) low

end Transclude.Text
