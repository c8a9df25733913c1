import DiceNotation.Text.ClusterBreak

/-!
# Clusters

A text is a row of clusters, each of which a reader takes for one character: a letter with its
marks, a syllable, a flag, a picture made of several. These are the extended grapheme clusters of
the Unicode standard. Main statement: no character is lost (`flatten_clusters`).
-/

namespace DiceNotation

def ClusterBreak.isControl : ClusterBreak → Bool
  | .carriageReturn | .lineFeed | .control => true
  | _ => false

/-- The class of characters that go with whatever stands before them. -/
def ClusterBreak.isAttached : ClusterBreak → Bool
  | .extend | .joiner | .spacingMark => true
  | _ => false

/-- The two follow each other within a Hangul syllable. -/
def ClusterBreak.sharesSyllable : ClusterBreak → ClusterBreak → Bool
  | .leading, .leading | .leading, .vowel | .leading, .openSyllable | .leading, .closedSyllable
  | .vowel, .vowel | .vowel, .trailing
  | .openSyllable, .vowel | .openSyllable, .trailing
  | .closedSyllable, .trailing
  | .trailing, .trailing => true
  | _, _ => false

/-- The character may stand between the consonants of a conjunct: all marks but the zero width
non-joiner. -/
def isConjunctMark (c : Char) : Bool :=
  (ClusterBreak.ofChar c = .extend && c.toNat ≠ 0x200c) || ClusterBreak.ofChar c = .joiner

/-- A reversed text ends in a consonant and marks, a linker among them. -/
def endsLinked (before : List Char) : Bool :=
  (before.takeWhile isConjunctMark).any conjunctLinkerRanges.contains &&
    (before.dropWhile isConjunctMark).head?.any (ClusterBreak.ofChar · = .consonant)

/-- A reversed text ends in a pictograph, marks and a joiner. -/
def endsJoined : List Char → Bool
  | [] => false
  | c :: cs =>
    ClusterBreak.ofChar c = .joiner &&
      (cs.dropWhile (ClusterBreak.ofChar · = .extend)).head?.any (ClusterBreak.ofChar · = .pictograph)

/-- A reversed text ends in half a flag. -/
def endsInHalfFlag (before : List Char) : Bool :=
  (before.takeWhile (ClusterBreak.ofChar · = .regional)).length % 2 = 1

/-- A character goes on with the cluster that has been read so far, given in reverse. -/
def extendsCluster (before : List Char) (c : Char) : Bool :=
  match before with
  | [] => false
  | b :: _ =>
    let last := ClusterBreak.ofChar b
    let next := ClusterBreak.ofChar c
    if last.isControl || next.isControl then last = .carriageReturn && next = .lineFeed
    else if next.isAttached || last = .prepended || last.sharesSyllable next then true
    else
      match next with
      | .consonant => endsLinked before
      | .pictograph => endsJoined before
      | .regional => endsInHalfFlag before
      | _ => false

/-- The clusters of a text whose first cluster has been read in part, given in reverse. -/
def clustersFrom (before : List Char) : List Char → List (List Char)
  | [] => [before.reverse]
  | c :: cs =>
    if extendsCluster before c then clustersFrom (c :: before) cs
    else before.reverse :: clustersFrom [c] cs

def clusters : List Char → List (List Char)
  | [] => []
  | c :: cs => clustersFrom [c] cs

theorem flatten_clustersFrom (before cs : List Char) :
    (clustersFrom before cs).flatten = before.reverse ++ cs := by
  induction cs generalizing before with
  | nil => simp [clustersFrom]
  | cons c cs ih =>
    unfold clustersFrom
    split <;> simp [ih]

theorem flatten_clusters (cs : List Char) : (clusters cs).flatten = cs := by
  cases cs with
  | nil => rfl
  | cons c cs => simp [clusters, flatten_clustersFrom]

end DiceNotation
