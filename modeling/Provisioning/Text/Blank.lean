/-!
Blank characters are those with the White_Space property of Unicode.  A text is blank when
nothing is left of it after blanks are cut from both ends, that is, when all of it is blank.
-/
namespace Provisioning.Text

def isBlank (c : Char) : Bool :=
  (9 ≤ c.toNat && c.toNat ≤ 13) || c.toNat == 0x20 || c.toNat == 0x85 || c.toNat == 0xA0 ||
  c.toNat == 0x1680 || (0x2000 ≤ c.toNat && c.toNat ≤ 0x200A) || c.toNat == 0x2028 ||
  c.toNat == 0x2029 || c.toNat == 0x202F || c.toNat == 0x205F || c.toNat == 0x3000

def blank (s : String) : Bool := s.toList.all isBlank

/-- Drop a longest run of characters that satisfy `p` from the end. -/
def dropEnd (p : Char → Bool) (cs : List Char) : List Char :=
  (cs.reverse.dropWhile p).reverse

def trimEnd (s : String) : String := String.ofList (dropEnd isBlank s.toList)

def trim (s : String) : String :=
  String.ofList (dropEnd isBlank (s.toList.dropWhile isBlank))

/-- The part of `s` after the leading text `front`, if `s` starts with it. -/
def after? (front s : String) : Option String :=
  if front.toList.isPrefixOf s.toList then some (String.ofList (s.toList.drop front.length)) else none

def endsWith (s tail : String) : Bool := tail.toList.isSuffixOf s.toList

def splitLast (c : Char) (cs : List Char) : Option (List Char × List Char) :=
  match cs.reverse.span (· != c) with
  | (_, []) => none
  | (back, _ :: front) => some (front.reverse, back.reverse)

/-- The parts between the occurrences of `c`; a text without it is its own only part. -/
def splitOn (c : Char) : List Char → List (List Char)
  | [] => [[]]
  | x :: xs =>
    if x = c then [] :: splitOn c xs
    else match splitOn c xs with
      | [] => [[x]]
      | part :: parts => (x :: part) :: parts

/-- The text before the first `c`; all of it when `c` does not occur. -/
def before (c : Char) (s : String) : String := String.ofList (s.toList.takeWhile (· != c))

def joinWith (between : String) : List String → String
  | [] => ""
  | [s] => s
  | s :: rest => s ++ between ++ joinWith between rest

end Provisioning.Text
