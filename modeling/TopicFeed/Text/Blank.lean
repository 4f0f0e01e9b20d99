/-! White space, as Unicode has it. -/
namespace TopicFeed

/-- The first and last code points of each run of white space. -/
def blankRuns : List (Nat × Nat) :=
  [(0x9, 0xD), (0x20, 0x20), (0x85, 0x85), (0xA0, 0xA0), (0x1680, 0x1680), (0x2000, 0x200A),
    (0x2028, 0x2029), (0x202F, 0x202F), (0x205F, 0x205F), (0x3000, 0x3000)]

def isBlank (c : Char) : Bool := blankRuns.any fun run => run.1 ≤ c.toNat && c.toNat ≤ run.2

/-- Whether a text is nothing but white space. -/
def isBlankText (text : String) : Bool := text.toList.all isBlank

end TopicFeed
