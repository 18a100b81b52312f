import MarkupModule.Json.Quote

/-! Values written as JSON over several lines, two spaces deeper on each level. -/

namespace MarkupModule.Json

/-- The values that are written. -/
inductive Value where
  | string (s : String)
  | number (n : Nat)
  | array (items : List Value)
  | object (members : List (String × Value))
  deriving Inhabited

namespace Value

def newLine (depth : Nat) : List Char :=
  '\n' :: List.replicate (2 * depth) ' '

mutual

def write (depth : Nat) : Value → List Char
  | string s => quote s.toList
  | number n => Nat.toDigits 10 n
  | array [] => ['[', ']']
  | array (item :: items) =>
    '[' :: newLine (depth + 1) ++ item.write (depth + 1) ++ writeItems (depth + 1) items ++
      newLine depth ++ [']']
  | object [] => ['\x7b', '\x7d']
  | object ((name, value) :: members) =>
    '\x7b' :: newLine (depth + 1) ++ quote name.toList ++ [':', ' '] ++ value.write (depth + 1) ++
      writeMembers (depth + 1) members ++ newLine depth ++ ['\x7d']

def writeItems (depth : Nat) : List Value → List Char
  | [] => []
  | item :: items => ',' :: newLine depth ++ item.write depth ++ writeItems depth items

def writeMembers (depth : Nat) : List (String × Value) → List Char
  | [] => []
  | (name, value) :: members =>
    ',' :: newLine depth ++ quote name.toList ++ [':', ' '] ++ value.write depth ++
      writeMembers depth members

end

def pretty (value : Value) : String :=
  String.ofList (value.write 0)

end Value

end MarkupModule.Json
