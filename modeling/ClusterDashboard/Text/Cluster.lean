import ClusterDashboard.Text.Width
/-!
Characters as the reader sees them: a letter with its marks, a pictograph joined from several, a
flag. Such a cluster is drawn as a whole.
-/
namespace ClusterDashboard.Text

structure Cluster where
  chars : List Char
  width : Nat
  deriving DecidableEq, Repr

namespace Cluster

def joiner : Char := '\u200D'

/-- Asks for the picture of the character before it. -/
def pictureSelector : Char := '\uFE0F'

/-- Pictographs and the other symbols; what lies among them otherwise is wide anyhow. -/
def isSymbol (c : Char) : Bool := 0x203C ≤ c.toNat

/-- A cluster drawn as one picture is two cells wide, whatever it is made of. -/
def isPicture (chars : List Char) : Bool :=
  match chars with
  | [] | [_] => false
  | first :: rest =>
    rest.contains pictureSelector ||
      (isSymbol first && (rest.contains joiner || rest.any isEmojiModifier))

def widthOf (chars : List Char) : Nat :=
  if isPicture chars then 2 else (chars.map Text.width).foldr (· + ·) 0

/-- The next character belongs to the cluster so far. -/
def continues (chars : List Char) (next : Char) : Bool :=
  match chars with
  | [] => false
  | first :: rest =>
    if isControl first || formatRanges.has first then false
    else
      isExtending next ||
        (chars.getLast? == some joiner && isSymbol first && wideRanges.has next) ||
        (rest.isEmpty && isRegional first && isRegional next)

def ofChars (chars : List Char) : Cluster := ⟨chars, widthOf chars⟩

def symbol (c : Cluster) : String := String.ofList c.chars

def isControl (c : Cluster) : Bool := c.chars.any Text.isControl

end Cluster

/-- The clusters of a text, control characters among them. -/
def clustersFrom (started : List Char) : List Char → List Cluster
  | [] => if started.isEmpty then [] else [.ofChars started]
  | c :: rest =>
    if Cluster.continues started c then clustersFrom (started ++ [c]) rest
    else if started.isEmpty then clustersFrom [c] rest
    else .ofChars started :: clustersFrom [c] rest

/-- The clusters that are drawn. -/
def clusters (s : String) : List Cluster :=
  (clustersFrom [] s.toList).filter (!·.isControl)

end ClusterDashboard.Text
