/-!
# Code points

A text is a row of code points. Most code points are characters. Half of a surrogate pair is one as
well, but no character, and a text may hold it all the same.

A string holds characters only, so texts are written in strings. A character stands for itself,
half of a pair is written as a character of a reserved area, and a character that is itself
reserved is written behind a mark. Two more marks are reserved for the ends of what is no text.
`ofPoints` writes code points, `points` reads them, and `points_ofPoints` says that reading gives
back what was written. A text of ordinary characters is written as it is.

Whatever counts, cuts, compares or shows single characters of a text goes by its code points.
-/

namespace ModuleGraph.Text

/-- The first half of a surrogate pair. -/
def firstHalf : Nat := 0xD800

/-- The first code point behind all halves of surrogate pairs. -/
def endOfHalves : Nat := 0xE000

/-- The code point is half of a surrogate pair. -/
def isHalf (point : Nat) : Bool :=
  firstHalf ≤ point && point < endOfHalves

/-- The first of the characters that halves are written as. -/
def firstStandIn : Nat := 0x10A800

/-- The half that a character is written for. -/
def half? (c : Char) : Option Nat :=
  if firstStandIn ≤ c.toNat && c.toNat < firstStandIn + (endOfHalves - firstHalf) then
    some (c.toNat - firstStandIn + firstHalf)
  else none

/-- The mark before a reserved character that stands for itself. It directly follows the characters
that halves are written as, so that written texts compare as their code points do. -/
def reserveMark : Char := Char.ofNat 0x10B000

/-- The mark at the start of what is no text. -/
def openingMark : Char := Char.ofNat 0x10B001

/-- The mark at the end of what is no text. -/
def closingMark : Char := Char.ofNat 0x10B002

/-- The character does not stand for itself without a mark. -/
def isReserved (c : Char) : Bool :=
  c == reserveMark || c == openingMark || c == closingMark || (half? c).isSome

/-- The written form of a character. -/
def writeChar (c : Char) : List Char :=
  if isReserved c then [reserveMark, c] else [c]

/-- The written form of a code point. -/
def writePoint (point : Nat) : List Char :=
  if isHalf point then [Char.ofNat (point - firstHalf + firstStandIn)]
  else writeChar (Char.ofNat point)

/-- The code point that a character is written for where no mark stands before it. -/
def pointOf (c : Char) : Nat :=
  (half? c).getD c.toNat

/-- The code points of a written text. -/
def readPoints : List Char → List Nat
  | [] => []
  | [c] => [pointOf c]
  | c :: d :: rest =>
    if c = reserveMark then d.toNat :: readPoints rest else pointOf c :: readPoints (d :: rest)

/-- The code points of a text. -/
def points (text : String) : List Nat :=
  readPoints text.toList

/-- The text of some code points. -/
def ofPoints (points : List Nat) : String :=
  String.ofList (points.flatMap writePoint)

/-- The text of some characters. -/
def ofChars (chars : List Char) : String :=
  String.ofList (chars.flatMap writeChar)

/-- The code points of a text, each as a text of its own. -/
def characters (text : String) : List String :=
  (points text).map fun point => ofPoints [point]

/-- The text holds half of a surrogate pair. -/
def hasHalf (text : String) : Bool :=
  (points text).any isHalf

/-- The code point that stands for what is no character. -/
def replacement : Nat := 0xFFFD

/-- The characters of a text, with replacements for halves of pairs. -/
def toChars (text : String) : List Char :=
  (points text).map fun point => Char.ofNat (if isHalf point then replacement else point)

/-- A character without a mark before it is read by itself. -/
theorem readPoints_cons {c : Char} (h : c ≠ reserveMark) (rest : List Char) :
    readPoints (c :: rest) = pointOf c :: readPoints rest := by
  cases rest with
  | nil => rfl
  | cons d rest => simp [readPoints, h]

/-- The halves of surrogate pairs are the code points of one range. -/
theorem isHalf_iff (point : Nat) : isHalf point = true ↔ 0xD800 ≤ point ∧ point < 0xE000 := by
  rw [isHalf, Bool.and_eq_true, decide_eq_true_iff, decide_eq_true_iff]
  rfl

/-- A number that is the code point of a character is that of the character made from it. -/
theorem toNat_ofNat {point : Nat} (h : point.isValidChar) : (Char.ofNat point).toNat = point := by
  unfold Char.ofNat
  rw [dif_pos h]
  rfl

/-- A half that was written is read first. -/
theorem readPoints_writeHalf {point : Nat} (h : isHalf point = true) (rest : List Char) :
    readPoints (Char.ofNat (point - firstHalf + firstStandIn) :: rest) =
      point :: readPoints rest := by
  obtain ⟨low, high⟩ := (isHalf_iff point).1 h
  have first : firstHalf = 0xD800 := rfl
  have stand : firstStandIn = 0x10A800 := rfl
  have value : (Char.ofNat (point - firstHalf + firstStandIn)).toNat =
      point - firstHalf + firstStandIn :=
    toNat_ofNat (Or.inr ⟨by omega, by omega⟩)
  have differs : Char.ofNat (point - firstHalf + firstStandIn) ≠ reserveMark := by
    intro eq
    have same := congrArg Char.toNat eq
    have mark : reserveMark.toNat = 0x10B000 := rfl
    omega
  have inside : (decide (firstStandIn ≤ point - firstHalf + firstStandIn) &&
      decide (point - firstHalf + firstStandIn < firstStandIn + (endOfHalves - firstHalf))) =
      true := by
    have last : endOfHalves = 0xE000 := rfl
    simp only [Bool.and_eq_true, decide_eq_true_eq]
    omega
  have same : point - firstHalf + firstStandIn - firstStandIn + firstHalf = point := by omega
  rw [readPoints_cons differs, pointOf, half?, value, if_pos inside, Option.getD_some, same]

/-- A character that was written is read first. -/
theorem readPoints_writeChar (c : Char) (rest : List Char) :
    readPoints (writeChar c ++ rest) = c.toNat :: readPoints rest := by
  unfold writeChar
  split
  · simp [readPoints]
  · next free =>
    simp only [isReserved, Bool.or_eq_true, beq_iff_eq, not_or, Bool.not_eq_true,
      Option.isSome_eq_false_iff, Option.isNone_iff_eq_none] at free
    rw [List.singleton_append, readPoints_cons free.1.1.1]
    simp [pointOf, free.2]

/-- A code point that was written is read first. -/
theorem readPoints_writePoint {point : Nat} (h : point < 0x110000) (rest : List Char) :
    readPoints (writePoint point ++ rest) = point :: readPoints rest := by
  unfold writePoint
  split
  · next half => rw [List.singleton_append, readPoints_writeHalf half]
  · next half =>
    rw [isHalf_iff] at half
    rw [readPoints_writeChar, toNat_ofNat (by unfold Nat.isValidChar; omega)]

/-- Reading a written text gives back its code points. -/
theorem points_ofPoints {list : List Nat} (h : ∀ point ∈ list, point < 0x110000) :
    points (ofPoints list) = list := by
  unfold points ofPoints
  rw [String.toList_ofList]
  induction list with
  | nil => rfl
  | cons point rest ih =>
    rw [List.flatMap_cons, readPoints_writePoint (h point (by simp)),
      ih fun other mem => h other (by simp [mem])]

end ModuleGraph.Text
