import QuorumRate.Text.Printable
/-! Quoted texts as messages show them: between single quotes, or double quotes when the text holds
a single quote and no double one, with everything unprintable escaped. -/
namespace QuorumRate.Text

def hexadecimal (width n : Nat) : String :=
  let digits := Nat.toDigits 16 n
  String.ofList (List.replicate (width - digits.length) '0' ++ digits)

def numbered (c : CodePoint) : String :=
  if c.val < 0x100 then "\\x" ++ hexadecimal 2 c.val
  else if c.val < 0x10000 then "\\u" ++ hexadecimal 4 c.val
  else "\\U" ++ hexadecimal 8 c.val

def quoteMark (t : Text) : Char :=
  if t.any (·.is '\'') && !t.any (·.is '"') then '"' else '\''

def escaped (mark : Char) (c : CodePoint) : String :=
  if c.is mark || c.is '\\' then String.ofList ['\\', c.toChar]
  else if c.val = 10 then "\\n"
  else if c.val = 13 then "\\r"
  else if c.val = 9 then "\\t"
  else if c.isPrintable then String.ofList [c.toChar]
  else numbered c

def quoted (t : Text) : String :=
  let mark := t.quoteMark
  t.foldl (fun out c => out ++ escaped mark c) (String.ofList [mark]) ++ String.ofList [mark]

end QuorumRate.Text

def QuorumRate.quoted (s : String) : String := (QuorumRate.Text.ofString s).quoted
