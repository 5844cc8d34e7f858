import Chip8.Text.Property.Emoji
import Chip8.Text.Property.Invisible
import Chip8.Text.Property.Joining
import Chip8.Text.Property.Syllable

/-! # Clusters

    What a reader takes for one character may be several: a letter with its marks, a syllable, a
    picture put together from others. A text is cut into such clusters, and nothing of it is lost.
    The rules are those of extended grapheme clusters in Unicode 17. -/

namespace Chip8.Text

/-- What a character does next to another. -/
inductive Bond where
  | carriageReturn
  | lineFeed
  /-- Joins nothing. -/
  | separate
  /-- Joins what is before it. -/
  | mark
  /-- Joins what is before it, and pictures on both sides. -/
  | joiner
  /-- Joins what is before it, and ends what marks have kept up. -/
  | spacing
  /-- Joins what is after it. -/
  | leading
  | regional
  | initial
  | vowel
  | final
  /-- A syllable without a final consonant. -/
  | openSyllable
  | closedSyllable
  | plain
  deriving DecidableEq

/-- The bond of a character. Every twenty-eighth syllable of Hangul has no final consonant. -/
def Bond.of (c : Char) : Bond :=
  if c = '\r' then .carriageReturn
  else if c = '\n' then .lineFeed
  else if inRanges standalone c then .separate
  else if c = '\u200d' then .joiner
  else if inRanges joining c || inRanges halfwidthVoicing c || inRanges tones c then .mark
  else if inRanges spacingMarks c then .spacing
  else if inRanges leadingSigns c then .leading
  else if inRanges regionals c then .regional
  else if inRanges initials c then .initial
  else if inRanges vowels c then .vowel
  else if inRanges finals c then .final
  else if inRanges syllables c then
    if (c.toNat - 0xac00) % 28 = 0 then .openSyllable else .closedSyllable
  else .plain

/-- The end of a cluster. -/
structure Edge where
  /-- The bond of the last character. -/
  bond : Bond
  /-- Is there a picture with nothing but marks after it? -/
  picture : Bool
  /-- Is there such a picture and then a joiner? -/
  joined : Bool
  /-- Is there a consonant with nothing but marks after it? -/
  consonant : Bool
  /-- Is one of these marks a tie? -/
  tied : Bool
  /-- Is a regional indicator left without a partner? -/
  single : Bool
  deriving DecidableEq

namespace Edge

/-- The edge of a cluster that begins with `c`. -/
def start (c : Char) : Edge where
  bond := .of c
  picture := inRanges pictures c
  joined := false
  consonant := inRanges consonants c
  tied := false
  single := Bond.of c = .regional

/-- Does a character join a cluster by the bonds of the two alone? -/
def bonds : Bond → Bond → Bool
  | .carriageReturn, next => next = .lineFeed
  | .lineFeed, _ | .separate, _ => false
  | _, .carriageReturn | _, .lineFeed | _, .separate => false
  | _, .mark | _, .joiner | _, .spacing => true
  | .leading, _ => true
  | .initial, next =>
    next = .initial || next = .vowel || next = .openSyllable || next = .closedSyllable
  | .openSyllable, next | .vowel, next => next = .vowel || next = .final
  | .closedSyllable, next | .final, next => next = .final
  | _, _ => false

/-- Does `c` belong to the cluster? -/
def admits (edge : Edge) (c : Char) : Bool :=
  bonds edge.bond (.of c) ||
    (edge.joined && inRanges pictures c) ||
    (edge.tied && inRanges consonants c) ||
    (edge.single && Bond.of c = .regional)

/-- Does a character keep up the tie between consonants? -/
def keepsTie (c : Char) : Bool :=
  (Bond.of c = .mark && c ≠ '\u200c') || Bond.of c = .joiner

/-- The edge after `c` has been taken in. -/
def after (edge : Edge) (c : Char) : Edge where
  bond := .of c
  picture := inRanges pictures c || (edge.picture && Bond.of c = .mark)
  joined := edge.picture && Bond.of c = .joiner
  consonant := inRanges consonants c || (edge.consonant && keepsTie c)
  tied := edge.consonant && keepsTie c && (edge.tied || inRanges ties c)
  single := Bond.of c = .regional && !edge.single

end Edge

/-- A text after an edge: what still belongs to the cluster, and the clusters after it. -/
def clustersAfter (edge : Edge) : List Char → List Char × List (List Char)
  | [] => ([], [])
  | c :: rest =>
    if edge.admits c then
      let (more, later) := clustersAfter (edge.after c) rest
      (c :: more, later)
    else
      let (more, later) := clustersAfter (.start c) rest
      ([], (c :: more) :: later)

/-- The clusters of a text. -/
def clusters : List Char → List (List Char)
  | [] => []
  | c :: rest =>
    let (more, later) := clustersAfter (.start c) rest
    (c :: more) :: later

theorem append_flatten_clustersAfter (edge : Edge) (cs : List Char) :
    (clustersAfter edge cs).1 ++ (clustersAfter edge cs).2.flatten = cs := by
  induction cs generalizing edge with
  | nil => rfl
  | cons c rest ih =>
    simp only [clustersAfter]
    split
    · simp [ih]
    · simp [ih]

/-- Nothing is lost and nothing is moved. -/
theorem flatten_clusters (cs : List Char) : (clusters cs).flatten = cs := by
  cases cs with
  | nil => rfl
  | cons c rest => simp [clusters, append_flatten_clustersAfter]

end Chip8.Text
