import JebaoFlow.Lib.Python

/-!
# Strings of the host

A `str` is a sequence of code points, surrogates included, so text from outside is
modelled by lists of these and not by the strings of the embedding.

`isdigit` accepts more characters than `int` reads: a superscript or a circled digit is a
digit without being a decimal one. Both accept the decimal digits of every script. The
tables are those of Unicode 15.1.
-/

/-- A code point; surrogates are code points. -/
abbrev CodePoint := Fin 0x110000

abbrev PyStr := List CodePoint

namespace PyStr

def ofChar (c : Char) : CodePoint :=
  ⟨c.toNat, by
    have hvalid := c.valid
    unfold Char.toNat
    rcases hvalid with h | ⟨_, h⟩
    · exact Nat.lt_trans h (by decide)
    · exact h⟩

/-- The text as code points. -/
def ofString (text : String) : PyStr := text.toList.map ofChar

/-! ## Digits -/

/-- The zeros of the decimal digits; each is followed by the other nine. -/
def decimalZeros : List ℕ :=
  [0x30, 0x660, 0x6F0, 0x7C0, 0x966, 0x9E6, 0xA66, 0xAE6, 0xB66, 0xBE6, 0xC66, 0xCE6, 0xD66, 0xDE6,
    0xE50, 0xED0, 0xF20, 0x1040, 0x1090, 0x17E0, 0x1810, 0x1946, 0x19D0, 0x1A80, 0x1A90, 0x1B50,
    0x1BB0, 0x1C40, 0x1C50, 0xA620, 0xA8D0, 0xA900, 0xA9D0, 0xA9F0, 0xAA50, 0xABF0, 0xFF10, 0x104A0,
    0x10D30, 0x11066, 0x110F0, 0x11136, 0x111D0, 0x112F0, 0x11450, 0x114D0, 0x11650, 0x116C0,
    0x11730, 0x118E0, 0x11950, 0x11C50, 0x11D50, 0x11DA0, 0x11F50, 0x16A60, 0x16AC0, 0x16B50,
    0x1D7CE, 0x1D7D8, 0x1D7E2, 0x1D7EC, 0x1D7F6, 0x1E140, 0x1E2F0, 0x1E4F0, 0x1E950, 0x1FBF0]

/-- The digits that are not decimal, as ranges: superscripts, circled digits and the like. -/
def otherDigits : List (ℕ × ℕ) :=
  [(0xB2, 0xB3), (0xB9, 0xB9), (0x1369, 0x1371), (0x19DA, 0x19DA), (0x2070, 0x2070),
    (0x2074, 0x2079), (0x2080, 0x2089), (0x2460, 0x2468), (0x2474, 0x247C), (0x2488, 0x2490),
    (0x24EA, 0x24EA), (0x24F5, 0x24FD), (0x24FF, 0x24FF), (0x2776, 0x277E), (0x2780, 0x2788),
    (0x278A, 0x2792), (0x10A40, 0x10A43), (0x10E60, 0x10E68), (0x11052, 0x1105A),
    (0x1F100, 0x1F10A)]

/-- The value of a decimal digit. -/
def decimal? (c : CodePoint) : Option ℕ :=
  (decimalZeros.find? (fun base => base ≤ c.val ∧ c.val < base + 10)).map (c.val - ·)

def isDigit (c : CodePoint) : Bool :=
  (decimal? c).isSome || otherDigits.any (fun range => range.1 ≤ c.val ∧ c.val ≤ range.2)

/-- `str.isdigit`. -/
def isdigit (text : PyStr) : Bool := !text.isEmpty && text.all isDigit

/-- `int(text)`, of text that is all digits. -/
def int (text : PyStr) : Except PyError ℕ :=
  match text.mapM decimal? with
  | some digits => .ok (digits.foldl (fun value digit => value * 10 + digit) 0)
  | none => .error (.valueError "invalid literal for int() with base 10")

/-- The digits of ASCII. -/
theorem decimal?_ascii {c : CodePoint} (h : 0x30 ≤ c.val ∧ c.val ≤ 0x39) :
    decimal? c = some (c.val - 0x30) := by
  have hfind : decimalZeros.find? (fun base => base ≤ c.val ∧ c.val < base + 10) = some 0x30 :=
    List.find?_cons_of_pos (decide_eq_true ⟨h.1, by omega⟩)
  unfold decimal?
  rw [hfind]
  rfl

theorem isDigit_of_decimal? {c : CodePoint} {value : ℕ} (h : decimal? c = some value) :
    isDigit c = true := by
  unfold isDigit
  rw [h]
  rfl

/-- An ASCII character that is a decimal digit is one of the ten. -/
theorem ascii_of_decimal? {c : CodePoint} {value : ℕ} (h : decimal? c = some value)
    (hascii : c.val < 0x80) : 0x30 ≤ c.val ∧ c.val ≤ 0x39 := by
  obtain ⟨base, hbase, _⟩ := Option.map_eq_some_iff.mp h
  have hrange := List.find?_some hbase
  rw [decide_eq_true_eq] at hrange
  have hmem := List.mem_of_find?_eq_some hbase
  have hzeros : ∀ base ∈ decimalZeros, base = 0x30 ∨ 0x80 ≤ base := by decide
  rcases hzeros base hmem with rfl | hbig
  · omega
  · omega

/-! ## Blanks and case -/

/-- The whitespace that `str.strip` removes. -/
def isSpace (c : CodePoint) : Bool :=
  (0x09 ≤ c.val ∧ c.val ≤ 0x0D) ∨ (0x1C ≤ c.val ∧ c.val ≤ 0x20) ∨ c.val = 0x85 ∨ c.val = 0xA0
    ∨ c.val = 0x1680 ∨ (0x2000 ≤ c.val ∧ c.val ≤ 0x200A) ∨ c.val = 0x2028 ∨ c.val = 0x2029
    ∨ c.val = 0x202F ∨ c.val = 0x205F ∨ c.val = 0x3000

/-- `str.strip`. -/
def strip (text : PyStr) : PyStr := ((text.dropWhile isSpace).reverse.dropWhile isSpace).reverse

/--
`str.lower`, of the letters of ASCII. Outside it only the Kelvin sign has an ASCII letter as
its lower case, and the dotted capital I has one in front of a combining dot. So this decides
whether the lower case is a word of ASCII without `k`, and whether it has one without `i` and
`k` in it.
-/
def lower (text : PyStr) : PyStr :=
  text.map (fun c => if 0x41 ≤ c.val ∧ c.val ≤ 0x5A then c + 0x20 else c)

/-- `word in text`. -/
def contains (word text : PyStr) : Bool := text.tails.any (fun tail => word.isPrefixOf tail)

end PyStr
