import FinanceApp.Lib.Flags

/-!
# Constraint attributes

A constraint names the attributes it is about as an option set in a word, one bit for each.
-/

namespace FinanceApp

/-- UIKit's attributes. -/
inductive LayoutAttribute where
  | left | top | right | bottom | leading | trailing | width | height | centerX | centerY
  | lastBaseline | firstBaseline
  | leftMargin | rightMargin | topMargin | bottomMargin | leadingMargin | trailingMargin
  | centerXWithinMargins | centerYWithinMargins
  | notAnAttribute
  deriving DecidableEq, Repr

structure ConstraintAttributes where
  rawValue : BitVec 64
  deriving DecidableEq, Repr

namespace ConstraintAttributes

def none : ConstraintAttributes := ⟨0⟩

def left : ConstraintAttributes := ⟨1⟩
def top : ConstraintAttributes := ⟨2⟩
def right : ConstraintAttributes := ⟨4⟩
def bottom : ConstraintAttributes := ⟨8⟩
def leading : ConstraintAttributes := ⟨16⟩
def trailing : ConstraintAttributes := ⟨32⟩
def width : ConstraintAttributes := ⟨64⟩
def height : ConstraintAttributes := ⟨128⟩
def centerX : ConstraintAttributes := ⟨256⟩
def centerY : ConstraintAttributes := ⟨512⟩
def lastBaseline : ConstraintAttributes := ⟨1024⟩
def firstBaseline : ConstraintAttributes := ⟨2048⟩
def leftMargin : ConstraintAttributes := ⟨4096⟩
def rightMargin : ConstraintAttributes := ⟨8192⟩
def topMargin : ConstraintAttributes := ⟨16384⟩
def bottomMargin : ConstraintAttributes := ⟨32768⟩
def leadingMargin : ConstraintAttributes := ⟨65536⟩
def trailingMargin : ConstraintAttributes := ⟨131072⟩
def centerXWithinMargins : ConstraintAttributes := ⟨262144⟩
def centerYWithinMargins : ConstraintAttributes := ⟨524288⟩

def edges : ConstraintAttributes := ⟨15⟩
def size : ConstraintAttributes := ⟨192⟩
def center : ConstraintAttributes := ⟨768⟩
def margins : ConstraintAttributes := ⟨61440⟩

def contains (attributes member : ConstraintAttributes) : Bool :=
  attributes.rawValue &&& member.rawValue == member.rawValue

def union (left right : ConstraintAttributes) : ConstraintAttributes :=
  ⟨left.rawValue ||| right.rawValue⟩

instance : Add ConstraintAttributes := ⟨union⟩

/-- The tests of `layoutAttributes`, in their order. -/
def tests : List (ConstraintAttributes × LayoutAttribute) :=
  [(left, .left), (top, .top), (right, .right), (bottom, .bottom), (leading, .leading),
    (trailing, .trailing), (width, .width), (height, .height), (centerX, .centerX),
    (centerY, .centerY), (lastBaseline, .lastBaseline), (firstBaseline, .firstBaseline),
    (leftMargin, .leftMargin), (rightMargin, .rightMargin), (topMargin, .topMargin),
    (bottomMargin, .bottomMargin), (leadingMargin, .leadingMargin),
    (trailingMargin, .trailingMargin), (centerXWithinMargins, .centerXWithinMargins),
    (centerYWithinMargins, .centerYWithinMargins)]

def layoutAttributes (attributes : ConstraintAttributes) : List LayoutAttribute :=
  (tests.filter fun test => attributes.contains test.1).map Prod.snd

/-! ## The attributes as flags -/

/-- The bit of an attribute. There is none for `notAnAttribute`. -/
def bit : LayoutAttribute → Nat
  | .left => 0
  | .top => 1
  | .right => 2
  | .bottom => 3
  | .leading => 4
  | .trailing => 5
  | .width => 6
  | .height => 7
  | .centerX => 8
  | .centerY => 9
  | .lastBaseline => 10
  | .firstBaseline => 11
  | .leftMargin => 12
  | .rightMargin => 13
  | .topMargin => 14
  | .bottomMargin => 15
  | .leadingMargin => 16
  | .trailingMargin => 17
  | .centerXWithinMargins => 18
  | .centerYWithinMargins => 19
  | .notAnAttribute => 64

def flags : Flags 64 LayoutAttribute where
  all := tests.map Prod.snd
  bit := bit
  bit_lt := by decide
  bit_nodup := by decide

theorem rawValue_of_mem_tests :
    ∀ test ∈ tests, test.1.rawValue = flags.mask test.2 := by decide

theorem contains_of_mem_tests {test : ConstraintAttributes × LayoutAttribute} (h : test ∈ tests)
    (attributes : ConstraintAttributes) :
    attributes.contains test.1 = flags.has attributes.rawValue test.2 := by
  rw [contains, rawValue_of_mem_tests test h, Bool.eq_iff_iff, beq_iff_eq]
  exact flags.and_mask_eq_mask (List.mem_map_of_mem h) _

theorem layoutAttributes_eq_read (attributes : ConstraintAttributes) :
    attributes.layoutAttributes = flags.read attributes.rawValue := by
  rw [layoutAttributes, Flags.read, flags, List.filter_map]
  congr 1
  exact List.filter_congr fun test h => contains_of_mem_tests h attributes

theorem layoutAttributes_nodup (attributes : ConstraintAttributes) :
    attributes.layoutAttributes.Nodup := by
  rw [layoutAttributes_eq_read]
  exact flags.read_nodup _

theorem notAnAttribute_notMem (attributes : ConstraintAttributes) :
    .notAnAttribute ∉ attributes.layoutAttributes := by
  rw [layoutAttributes_eq_read]
  exact fun h => absurd (flags.mem_read.mp h).1 (by decide)

theorem rawValue_foldl_add (first : ConstraintAttributes) (rest : List ConstraintAttributes) :
    (rest.foldl (· + ·) first).rawValue = (rest.map rawValue).foldl (· ||| ·) first.rawValue := by
  induction rest generalizing first with
  | nil => rfl
  | cons next rest ih =>
    rw [List.foldl_cons, ih]
    rfl

theorem mem_layoutAttributes_foldl_add {first : ConstraintAttributes}
    {rest : List ConstraintAttributes} {attr : LayoutAttribute} :
    attr ∈ (rest.foldl (· + ·) first).layoutAttributes ↔
      ∃ attributes ∈ first :: rest, attr ∈ attributes.layoutAttributes := by
  simp only [layoutAttributes_eq_read, rawValue_foldl_add, Flags.mem_read_foldl_or,
    ← List.map_cons, List.mem_map, exists_exists_and_eq_and]

theorem layoutAttributes_foldl_add (first : ConstraintAttributes)
    (rest : List ConstraintAttributes) :
    (rest.foldl (· + ·) first).layoutAttributes = (tests.map Prod.snd).filter fun attr =>
      (first :: rest).any fun attributes => attributes.layoutAttributes.contains attr := by
  rw [layoutAttributes_eq_read]
  apply flags.read_eq_filter
  intro attr _
  rw [← layoutAttributes_eq_read, mem_layoutAttributes_foldl_add, List.any_eq_true]
  simp only [List.contains_iff_mem]

theorem foldl_add_congr {first first' : ConstraintAttributes}
    {rest rest' : List ConstraintAttributes}
    (h : ∀ attributes, attributes ∈ first :: rest ↔ attributes ∈ first' :: rest') :
    rest.foldl (· + ·) first = rest'.foldl (· + ·) first' := by
  have hraw : ∀ word, word ∈ (first :: rest).map rawValue ↔
      word ∈ (first' :: rest').map rawValue := by
    intro word
    simp only [List.mem_map, h]
  have hword : (rest.map rawValue).foldl (· ||| ·) first.rawValue =
      (rest'.map rawValue).foldl (· ||| ·) first'.rawValue := BitVec.foldl_or_congr hraw
  rw [← rawValue_foldl_add, ← rawValue_foldl_add] at hword
  exact congrArg mk hword

end ConstraintAttributes

end FinanceApp
