/-
Canonical composition.

A character with marks can be written in several ways, and one of them is canonical: all is taken
apart, the marks of every base are put in the order of their classes, and what can be composed is
composed again. A mark is blocked if another one stands between it and its base that it may not
change places with. Hangul syllables are taken apart and composed by arithmetic, all others by
tables.
-/
import JsonRpc.Text.Canonical.Table

namespace JsonRpc.Canonical

/-- The class of a mark, or 0. -/
def markClass (c : CodePoint) : Nat :=
  (markClasses.findSome? fun (first, last, k) =>
    if first ≤ c.val ∧ c.val ≤ last then some k else none).getD 0

/-! ## Hangul syllables -/

/-- The first syllable. The syllables are in the order of their leading consonants, vowels and
trailing consonants, of which the first stands for having none. -/
def firstSyllable : Nat := 0xAC00

def firstLeading : Nat := 0x1100
def firstVowel : Nat := 0x1161
def noTrailing : Nat := 0x11A7

def leadingCount : Nat := 19
def vowelCount : Nat := 21
def trailingCount : Nat := 28

def syllableCount : Nat := leadingCount * vowelCount * trailingCount

/-- The letters of a syllable. -/
def letters? (c : CodePoint) : Option Text :=
  let n := c.val - firstSyllable
  if firstSyllable ≤ c.val ∧ n < syllableCount then
    let leading := CodePoint.ofNat (firstLeading + n / (vowelCount * trailingCount))
    let vowel := CodePoint.ofNat (firstVowel + n / trailingCount % vowelCount)
    let trailing :=
      if n % trailingCount = 0 then [] else [CodePoint.ofNat (noTrailing + n % trailingCount)]
    some (leading :: vowel :: trailing)
  else none

/-- The syllable that a letter or syllable makes with a letter behind it. -/
def syllable? (c d : CodePoint) : Option CodePoint :=
  let leading := c.val - firstLeading
  let vowel := d.val - firstVowel
  let n := c.val - firstSyllable
  let trailing := d.val - noTrailing
  if firstLeading ≤ c.val ∧ leading < leadingCount ∧ firstVowel ≤ d.val ∧ vowel < vowelCount then
    some (.ofNat (firstSyllable + (leading * vowelCount + vowel) * trailingCount))
  else if firstSyllable ≤ c.val ∧ n < syllableCount ∧ n % trailingCount = 0 ∧ noTrailing < d.val
      ∧ trailing < trailingCount then
    some (.ofNat (c.val + trailing))
  else none

/-! ## Taking apart -/

/-- The base and the mark of a composed character. -/
def parts? (c : CodePoint) : Option (CodePoint × CodePoint) :=
  (composedBasic ++ composedExtended).findSome? fun (whole, base, mark) =>
    if whole = c.val then some (.ofNat base, .ofNat mark) else none

/-- A character taken apart as often as there may be marks. -/
def apart : (marks : Nat) → CodePoint → Text
  | 0, c => [c]
  | marks + 1, c =>
    match letters? c, parts? c with
    | some letters, _ => letters
    | none, some (base, mark) => apart marks base ++ [mark]
    | none, none => [c]

/-- The most marks that a character is composed with. -/
def mostMarks : Nat := 3

/-- A mark in front of a text with its marks in order, put where it belongs. -/
def insertMark (c : CodePoint) : Text → Text
  | [] => [c]
  | d :: rest =>
    if 0 < markClass d ∧ markClass d < markClass c then d :: insertMark c rest else c :: d :: rest

/-- A text with the marks of every base in the order of their classes. -/
def inOrder : Text → Text
  | [] => []
  | c :: rest => insertMark c (inOrder rest)

/-! ## Composition -/

/-- The character that a base makes with a mark or letter behind it. -/
def composed? (base mark : CodePoint) : Option CodePoint :=
  (syllable? base mark).orElse fun _ =>
    (composedBasic ++ composedExtended ++ composedOnly).findSome? fun (whole, b, m) =>
      if b = base.val ∧ m = mark.val then some (.ofNat whole) else none

/-- A base with all that it is composed with of what follows it, and the rest. The class is that of
the last mark that was left, or 0 if none was. -/
def absorb (base : CodePoint) (left : Nat) : Text → CodePoint × Text
  | [] => (base, [])
  | c :: rest =>
    let k := markClass c
    if 0 < left ∧ k = 0 then (base, c :: rest)
    else if 0 < left ∧ k ≤ left then
      let (b, after) := absorb base left rest
      (b, c :: after)
    else
      match composed? base c with
      | some b => absorb b left rest
      | none =>
        if k = 0 then (base, c :: rest)
        else
          let (b, after) := absorb base k rest
          (b, c :: after)

theorem length_absorb_le (base : CodePoint) (left : Nat) (t : Text) :
    (absorb base left t).2.length ≤ t.length := by
  fun_induction absorb base left t <;> simp_all
  omega

/-- A text with all that can be composed, given that its marks are in order. -/
def compose : Text → Text
  | [] => []
  | c :: rest =>
    (absorb c 0 rest).1 :: compose (absorb c 0 rest).2
termination_by t => t.length
decreasing_by
  have := length_absorb_le c 0 rest
  simp only [List.length_cons]
  omega

/-- The canonical form of a text. -/
def form (t : Text) : Text := compose (inOrder (t.flatMap (apart mostMarks)))

end JsonRpc.Canonical
