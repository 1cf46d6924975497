import Mathlib.Data.List.Basic
import Mathlib.Data.List.DropRight

namespace RockYou.Cloud

def containsDoubleSlash : List Char → Bool
  | first :: second :: rest =>
    (first == '/' && second == '/') || containsDoubleSlash (second :: rest)
  | _ => false

/-- `ResourcePath::FromString`: raises on `//`, else the nonempty segments between slashes. -/
def resourcePath (path : String) : Option (List String) :=
  if containsDoubleSlash path.toList then none
  else some (((path.toList.splitOn '/').filter fun segment => !segment.isEmpty).map String.ofList)

/-- `documentWithPath` on a top-level collection: raises on the empty path and where the
    segments, with the collection's own, are odd in number; gives those below the collection. -/
def documentWithPath (documentPath : String) : Option (List String) :=
  if documentPath.length = 0 then none
  else
    match resourcePath documentPath with
    | none => none
    | some segments => if (segments.length + 1) % 2 ≠ 0 then none else some segments

def isWhitespaceOrNewline (character : Char) : Bool :=
  character.toNat == 0x20 || (0x9 ≤ character.toNat && character.toNat ≤ 0xD) ||
    character.toNat == 0x85 || character.toNat == 0xA0 || character.toNat == 0x1680 ||
    (0x2000 ≤ character.toNat && character.toNat ≤ 0x200A) || character.toNat == 0x2028 ||
    character.toNat == 0x2029 || character.toNat == 0x202F || character.toNat == 0x205F ||
    character.toNat == 0x3000

def trimmingCharacters (text : String) : String :=
  String.ofList ((text.toList.dropWhile isWhitespaceOrNewline).rdropWhile isWhitespaceOrNewline)

theorem containsDoubleSlash_of_not_mem {path : List Char} (absent : '/' ∉ path) :
    containsDoubleSlash path = false := by
  fun_induction containsDoubleSlash path with
  | case1 first second rest ih =>
    rw [List.mem_cons, not_or] at absent
    have different : (first == '/') = false := beq_false_of_ne (Ne.symm absent.1)
    rw [different, Bool.false_and, Bool.false_or]
    exact ih absent.2
  | case2 => rfl

theorem documentWithPath_segment {path : String} (nonempty : path ≠ "")
    (absent : '/' ∉ path.toList) : documentWithPath path = some [path] := by
  have separated : ∀ character ∈ path.toList, (character == '/') = false := by
    intro character member
    exact beq_false_of_ne fun same => absent (same ▸ member)
  have filled : (!path.toList.isEmpty) = true := by simpa using nonempty
  have segments : resourcePath path = some [path] := by
    rw [resourcePath, containsDoubleSlash_of_not_mem absent,
      List.splitOn_eq_singleton_of_beq_eq_false separated]
    simp [filled]
  have length : path.length ≠ 0 := by simpa using nonempty
  simp [documentWithPath, length, segments]

end RockYou.Cloud
