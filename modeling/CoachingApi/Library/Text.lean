import Mathlib.Data.List.Nodup
import Mathlib.Tactic.TypeStar

/-!
# Texts up to letter case and surrounding white space

Trimming removes white space at both ends. A case folding is idempotent and brings no
white space to the ends of a text. The canonical form of a text is the folding of its
trimmed form; folding a text first changes nothing for a text that is trimmed.
-/

namespace Text

/-- White space and line terminators. -/
def isSpace (char : Char) : Bool :=
  char.toNat ∈ [0x9, 0xA, 0xB, 0xC, 0xD, 0x20, 0xA0, 0x1680, 0x2000, 0x2001, 0x2002, 0x2003,
    0x2004, 0x2005, 0x2006, 0x2007, 0x2008, 0x2009, 0x200A, 0x2028, 0x2029, 0x202F, 0x205F,
    0x3000, 0xFEFF]

/-- Characters without white space at either end. -/
def trimChars (chars : List Char) : List Char :=
  ((chars.dropWhile isSpace).reverse.dropWhile isSpace).reverse

/-- A text without white space at either end. -/
def trim (text : String) : String := String.ofList (trimChars text.toList)

/-- Trimming passes through a character map that keeps white space. -/
theorem trim_chars_map {change : Char → Char} (keeps : ∀ char, isSpace (change char) = isSpace char)
    (chars : List Char) : trimChars (chars.map change) = (trimChars chars).map change := by
  have same : isSpace ∘ change = isSpace := funext keeps
  simp only [trimChars, List.dropWhile_map, ← List.map_reverse, same]

/-- A presentation selector. -/
def isSelector (char : Char) : Bool := char.toNat ∈ [0xFE0E, 0xFE0F]

/-- The characters, one of each with its presentation selector. -/
def presented : List Char → Nat
  | [] => 0
  | [_] => 1
  | char :: next :: rest =>
    if isSelector next && !isSelector char then presented (next :: rest)
    else presented (next :: rest) + 1

/-- The characters of a text as validators count them: a presentation selector after another
character is not counted. -/
def characters (text : String) : Nat := presented text.toList

/-- A conversion of letter case. -/
structure CaseFolding where
  fold : String → String
  idempotent : ∀ text, fold (fold text) = fold text
  trimmed : ∀ text, trim text = text → trim (fold text) = fold text

namespace CaseFolding

variable (folding : CaseFolding)

/-- The trimmed and folded form of a text. -/
def canonical (text : String) : String := folding.fold (trim text)

/-- A folded text without surrounding white space is canonical. -/
theorem canonical_fold {text : String} (trimmed : trim text = text) :
    folding.canonical (folding.fold text) = folding.fold text := by
  rw [canonical, folding.trimmed text trimmed, folding.idempotent]

end CaseFolding

/-- A character that is no capital letter is its own lower case. -/
theorem lower_small {char : Char} (small : ¬ (65 ≤ char.toNat ∧ char.toNat ≤ 90)) :
    char.toLower = char := by
  unfold Char.toLower
  split
  · rename_i capital
    exact False.elim (small ⟨capital.1, capital.2⟩)
  · rfl

/-- What holds of the 26 capital letters and of every character that is its own lower case
holds of every character. -/
theorem lower_cases {holds : Char → Prop} (capital : ∀ n < 26, holds (Char.ofNat (65 + n)))
    (small : ∀ char : Char, char.toLower = char → holds char) (char : Char) : holds char := by
  by_cases letter : 65 ≤ char.toNat ∧ char.toNat ≤ 90
  · have lettered := capital (char.toNat - 65) (by omega)
    rwa [Nat.add_sub_cancel' letter.1, Char.ofNat_toNat] at lettered
  · exact small char (lower_small letter)

/-- The case folding of the basic Latin letters. -/
def latin : CaseFolding where
  fold := fun text => String.ofList (text.toList.map Char.toLower)
  idempotent := by
    intro text
    have twice : Char.toLower ∘ Char.toLower = Char.toLower :=
      funext (lower_cases (by decide) (fun char small => by simp [small]))
    simp [twice]
  trimmed := by
    intro text trimmed
    have keeps : ∀ char, isSpace (Char.toLower char) = isSpace char :=
      lower_cases (by decide) (fun char small => by rw [small])
    have chars : trimChars text.toList = text.toList := by
      simpa [trim] using congrArg String.toList trimmed
    simp [trim, trim_chars_map keeps, chars]

end Text
