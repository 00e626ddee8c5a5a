import SceneCatalog.Text.CaseTable

/-!
Lower-casing by the full Unicode mappings. Two characters are not mapped on their own: a capital
I with a dot becomes two characters, and a capital sigma at the end of a word becomes the final
sigma.
-/
namespace SceneCatalog.Text

def inRanges (ranges : List (Nat × Nat)) (c : Char) : Bool :=
  ranges.any fun (first, last) => first ≤ c.toNat && c.toNat ≤ last

/-- Characters that are skipped over when the end of a word is looked for. -/
def isCaseIgnorable (c : Char) : Bool := inRanges CaseTable.ignorableRanges c

/-- Characters with letter case, those that are skipped over left out. -/
def isCasedLetter (c : Char) : Bool := inRanges CaseTable.casedRanges c

def CaseTable.Run.holds (run : CaseTable.Run) (n : Nat) : Bool :=
  run.first ≤ n && n ≤ run.last && (n - run.first) % run.step == 0

/-- The lower-case form of a character that is mapped on its own. -/
def lowerSimple (c : Char) : Char :=
  if c.val < 0x80 then
    if 'A' ≤ c ∧ c ≤ 'Z' then Char.ofNat (c.toNat + 32) else c
  else
    match CaseTable.lowerRuns.find? (·.holds c.toNat) with
    | some run => Char.ofNat (Int.toNat (c.toNat + run.offset))
    | none => c

/-- Whether the next character that is not skipped over is cased. -/
def meetsCased (cs : List Char) : Bool :=
  match cs.dropWhile isCaseIgnorable with
  | [] => false
  | c :: _ => isCasedLetter c

/-- Lower-cases `cs`, where `before` holds the characters in front of it, the nearest first. -/
def lowerAfter (before : List Char) : List Char → List Char
  | [] => []
  | c :: rest =>
    let here :=
      if c == '\u03A3' then
        if meetsCased before && !meetsCased rest then ['\u03C2'] else ['\u03C3']
      else if c == '\u0130' then ['i', '\u0307']
      else [lowerSimple c]
    here ++ lowerAfter (c :: before) rest

def lower (s : String) : String :=
  String.ofList (lowerAfter [] s.toList)

end SceneCatalog.Text
