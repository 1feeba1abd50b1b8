import QuorumRate.Text.Quoted
/-! Texts that have to be ASCII, and what keeps one from being it. -/
namespace QuorumRate

structure BeyondAscii where
  start : Nat
  length : Nat
  first : CodePoint
  deriving DecidableEq, Repr

namespace BeyondAscii

def of? (t : Text) : Option BeyondAscii :=
  let beyond := t.dropWhile CodePoint.isAscii
  beyond.head?.map fun first =>
    ⟨(t.takeWhile CodePoint.isAscii).length, (beyond.takeWhile (!·.isAscii)).length, first⟩

def message (b : BeyondAscii) : String :=
  let place :=
    if b.length = 1 then
      "character '" ++ Text.numbered b.first ++ "' in position " ++ toString b.start
    else "characters in position " ++ toString b.start ++ "-" ++ toString (b.start + b.length - 1)
  "'ascii' codec can't encode " ++ place ++ ": ordinal not in range(128)"

end BeyondAscii
end QuorumRate
