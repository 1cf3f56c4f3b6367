namespace SourceModel.Text

abbrev Ranges := List (Nat × Nat)

def Ranges.contains (ranges : Ranges) (point : Nat) : Bool :=
  ranges.any fun range => decide (range.1 ≤ point) && decide (point ≤ range.2)

def blankRanges : Ranges :=
  [(0x09, 0x0D), (0x20, 0x20), (0x85, 0x85), (0xA0, 0xA0), (0x1680, 0x1680), (0x2000, 0x200A),
   (0x2028, 0x2029), (0x202F, 0x202F), (0x205F, 0x205F), (0x3000, 0x3000)]

/-- The character has the Unicode property White_Space. -/
def isBlank (c : Char) : Bool := blankRanges.contains c.toNat

def isSpacing (c : Char) : Bool := c == ' ' || c == '\t' || c == '\r' || c == '\n'

theorem isBlank_of_isSpacing {c : Char} (h : isSpacing c = true) : isBlank c = true := by
  simp only [isSpacing, Bool.or_eq_true, beq_iff_eq] at h
  rcases h with ((rfl | rfl) | rfl) | rfl <;> decide

def trimEndChars (cs : List Char) : List Char := (cs.reverse.dropWhile isBlank).reverse

def trimEnd (text : String) : String := String.ofList (trimEndChars text.toList)

def allBlank (text : String) : Bool := text.toList.all isBlank

def skipSpacing (cs : List Char) : List Char := cs.dropWhile isSpacing

theorem skipSpacing_length_le (cs : List Char) : (skipSpacing cs).length ≤ cs.length :=
  (List.dropWhile_sublist _).length_le

end SourceModel.Text
